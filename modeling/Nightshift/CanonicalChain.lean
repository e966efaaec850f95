import Nightshift.CanonicalLifecycle
import Mathlib.Data.List.Nodup

/-!
# One state in four places

The state of a cycle is written to its row, its slot, its event log and the
projections of the facts it claims. The invariant says that they agree and that
the log is one chain of committed successors; each transaction keeps it. Nothing
is assumed of the digests: the unique index on resulting digests is enough to
tell two snapshots of one cycle apart.
-/

namespace Nightshift.Canonical

open Checked Diagnostic Interleave

/-! ## The log of a cycle -/

/-- An event carries the columns of its snapshot, and the snapshot is a lawful one. -/
structure Bound (w : CanonicalPlatform) (cycleId : String) (event : CycleEvent) : Prop where
  cycleId : event.snapshot.cycleId = cycleId
  sequence : event.snapshot.version = event.sequence
  resulting : event.resultingStateDigest = event.snapshot.stateDigest
  prior : event.priorStateDigest = event.snapshot.priorStateDigest
  valid : event.snapshot.validate w = .ok ()
  lawful : Lawful event.snapshot

structure Log (w : CanonicalPlatform) (cycleId : String) (events : List CycleEvent) : Prop where
  bound : ∀ event ∈ events, Bound w cycleId event
  sequence : events.map (·.sequence) = List.range events.length
  root : ∀ event, events.head? = some event → event.priorStateDigest = none
  follows : events.IsChain fun a b => Follows w a.snapshot b.snapshot
  distinct : (events.map (·.resultingStateDigest)).Nodup

namespace Log

variable {w : CanonicalPlatform} {cycleId : String} {events : List CycleEvent}

theorem singleton {event : CycleEvent} (hbound : Bound w cycleId event)
    (hsequence : event.sequence = 0) (hprior : event.priorStateDigest = none) :
    Log w cycleId [event] where
  bound := by simpa using hbound
  sequence := by simp [hsequence]
  root := by
    intro e he
    cases he
    exact hprior
  follows := .singleton _
  distinct := List.nodup_singleton _

theorem sequence_lt {event : CycleEvent} (h : Log w cycleId events) (hevent : event ∈ events) :
    event.sequence < events.length := by
  have hmem := List.mem_map_of_mem (f := (·.sequence)) hevent
  rw [h.sequence] at hmem
  exact List.mem_range.mp hmem

theorem last_sequence {last : CycleEvent} (h : Log w cycleId events)
    (hlast : events.getLast? = some last) : last.sequence + 1 = events.length := by
  have hne : events.length ≠ 0 := by
    have := List.ne_nil_of_mem (List.mem_of_getLast? hlast)
    simpa using this
  have hget := congrArg List.getLast? h.sequence
  rw [List.getLast?_map, hlast, List.getLast?_range] at hget
  simp only [Option.map_some, hne, if_false, Option.some.injEq] at hget
  omega

/-- The successor of the last snapshot extends the log. -/
theorem append {last event : CycleEvent} (h : Log w cycleId events)
    (hlast : events.getLast? = some last) (hfollows : Follows w last.snapshot event.snapshot)
    (hbound : Bound w cycleId event)
    (hfresh : ∀ other ∈ events, other.resultingStateDigest ≠ event.resultingStateDigest) :
    Log w cycleId (events ++ [event]) where
  bound := by
    intro e he
    rcases List.mem_append.mp he with hold | hnew
    · exact h.bound e hold
    · rw [List.mem_singleton.mp hnew]
      exact hbound
  sequence := by
    have hlen := h.last_sequence hlast
    have hstep : event.sequence = events.length := by
      have := hfollows.version_eq
      rw [hbound.sequence, (h.bound last (List.mem_of_getLast? hlast)).sequence] at this
      omega
    rw [List.map_append, h.sequence, List.length_append, List.length_singleton,
      List.range_succ, List.map_singleton, hstep]
  root := by
    intro e he
    cases events with
    | nil => cases hlast
    | cons first rest => exact h.root e he
  follows := by
    refine List.isChain_append.mpr ⟨h.follows, .singleton _, ?_⟩
    intro x hx y hy
    rw [hlast] at hx
    cases hx
    cases hy
    exact hfollows
  distinct := by
    rw [List.map_append, List.nodup_append]
    refine ⟨h.distinct, List.nodup_singleton _, ?_⟩
    intro digest hdigest other hother
    obtain ⟨e, he, rfl⟩ := List.mem_map.mp hdigest
    rw [List.map_singleton, List.mem_singleton] at hother
    rw [hother]
    exact hfresh e he

/-- Each event names the digest of the one before it. -/
theorem linked (h : Log w cycleId events) :
    events.IsChain fun a b => b.priorStateDigest = some a.resultingStateDigest := by
  refine h.follows.imp_of_mem_imp ?_
  intro a b ha hb hab
  rw [(h.bound b hb).prior, (h.bound a ha).resulting]
  exact hab.prior_eq

/-- Every later snapshot retains what an earlier one carried. -/
theorem retains (h : Log w cycleId events) :
    events.Pairwise fun a b => Retains a.snapshot b.snapshot := by
  have hchain : events.IsChain fun a b => Retains a.snapshot b.snapshot := by
    refine h.follows.imp_of_mem_imp ?_
    intro a b ha _ hab
    have hbound := h.bound a ha
    exact hab.retains (.of_validate hbound.valid) hbound.lawful
  have : IsTrans CycleEvent fun a b => Retains a.snapshot b.snapshot :=
    ⟨fun _ _ _ hab hbc => hab.trans hbc⟩
  exact List.isChain_iff_pairwise.mp hchain

/-- The resulting digest tells an event of the log apart. -/
theorem eq_of_resulting (h : Log w cycleId events) {a b : CycleEvent} (ha : a ∈ events)
    (hb : b ∈ events) (hdigest : a.resultingStateDigest = b.resultingStateDigest) : a = b :=
  List.inj_on_of_nodup_map h.distinct ha hb hdigest

end Log

/-! ## The invariant -/

/-- The slot row of a cycle. -/
def slotRowOf (cycle : ObservationCycleV1) : SlotRow where
  cycleId := cycle.cycleId
  status := cycle.status
  basis := cycle.slot
  stateDigest := cycle.stateDigest
  updatedAt := cycle.updatedAt

/-- Everything the store holds of one cycle agrees with the snapshot of its row. -/
structure Backed (w : CanonicalPlatform) (s : Store) (cycleId : String) (row : CycleRow) :
    Prop where
  key : row.snapshot.cycleId = cycleId
  columns : row = Store.cycleRow row.snapshot
  log : Log w cycleId (s.eventsOf cycleId)
  tail : (s.eventsOf cycleId).getLast?.map (·.snapshot) = some row.snapshot
  slot : s.slots[row.slotId]? = some (slotRowOf row.snapshot)
  claim : claimMatches row.snapshot.preparedAgRequest s.claims[cycleId]? = true
  authoring : s.authoring[cycleId]? = row.snapshot.authoringContextProvenance
  custody : s.custody[cycleId]? = row.snapshot.authoringContextCustody

structure Wf (w : CanonicalPlatform) (s : Store) : Prop where
  backed : ∀ (c : String) (row : CycleRow), s.cycles[c]? = some row → Backed w s c row
  slots : ∀ (k : String) (slotRow : SlotRow), s.slots[k]? = some slotRow →
    ∃ row, s.cycles[slotRow.cycleId]? = some row ∧ row.slotId = k
  events : ∀ event ∈ s.events, event.cycleId ∈ s.cycles
  claims : ∀ c ∈ s.claims, c ∈ s.cycles
  authoring : ∀ c ∈ s.authoring, c ∈ s.cycles
  custody : ∀ c ∈ s.custody, c ∈ s.cycles
  occurrences : ∀ (c c' : String) (claim claim' : ClaimRow), s.claims[c]? = some claim →
    s.claims[c']? = some claim' → claim.campaignId = claim'.campaignId →
    claim.occurrenceId = claim'.occurrenceId → c = c'

theorem Wf.empty (w : CanonicalPlatform) : Wf w Store.empty where
  backed := by simp [Store.empty]
  slots := by simp [Store.empty]
  events := by simp [Store.empty]
  claims := by simp [Store.empty]
  authoring := by simp [Store.empty]
  custody := by simp [Store.empty]
  occurrences := by simp [Store.empty]

/-- The last event of a cycle carries the snapshot of its row. -/
theorem Backed.last {w : CanonicalPlatform} {s : Store} {c : String} {row : CycleRow}
    (h : Backed w s c row) : ∃ event, (s.eventsOf c).getLast? = some event ∧
      event ∈ s.eventsOf c ∧ event.snapshot = row.snapshot := by
  obtain ⟨event, hlast, hsnapshot⟩ := Option.map_eq_some_iff.mp h.tail
  exact ⟨event, hlast, List.mem_of_getLast? hlast, hsnapshot⟩

theorem Backed.valid {w : CanonicalPlatform} {s : Store} {c : String} {row : CycleRow}
    (h : Backed w s c row) : row.snapshot.validate w = .ok () := by
  obtain ⟨event, -, hmem, hsnapshot⟩ := h.last
  rw [← hsnapshot]
  exact (h.log.bound event hmem).valid

theorem Backed.lawful {w : CanonicalPlatform} {s : Store} {c : String} {row : CycleRow}
    (h : Backed w s c row) : Lawful row.snapshot := by
  obtain ⟨event, -, hmem, hsnapshot⟩ := h.last
  rw [← hsnapshot]
  exact (h.log.bound event hmem).lawful

/-- A slot belongs to one cycle. -/
theorem Wf.slot_unique {w : CanonicalPlatform} {s : Store} (h : Wf w s) {c c' : String}
    {row row' : CycleRow} (hrow : s.cycles[c]? = some row) (hrow' : s.cycles[c']? = some row')
    (hslot : row.slotId = row'.slotId) : c = c' := by
  have hb := h.backed c row hrow
  have hb' := h.backed c' row' hrow'
  have heq := hb.slot
  rw [hslot, hb'.slot] at heq
  have hid := congrArg SlotRow.cycleId (Option.some.inj heq)
  rw [← hb.key, ← hb'.key]
  exact hid.symm

/-- A recorded snapshot is the one of the row when the digests are equal. -/
theorem Wf.snapshot_eq {w : CanonicalPlatform} {s : Store} (h : Wf w s) {c : String}
    {row : CycleRow} (hrow : s.cycles[c]? = some row) {event : CycleEvent}
    (hevent : event ∈ s.eventsOf c)
    (hdigest : event.snapshot.stateDigest = row.snapshot.stateDigest) :
    row.snapshot = event.snapshot := by
  have hb := h.backed c row hrow
  obtain ⟨last, -, hmem, hsnapshot⟩ := hb.last
  have heq : event = last := by
    refine hb.log.eq_of_resulting hevent hmem ?_
    rw [(hb.log.bound event hevent).resulting, (hb.log.bound last hmem).resulting, hsnapshot,
      hdigest]
  rw [heq, hsnapshot]

/-! ## What a transaction writes -/

/-- The event that records a snapshot. -/
def eventOf (eventKind : String) (cycle : ObservationCycleV1) : CycleEvent where
  cycleId := cycle.cycleId
  sequence := cycle.version
  eventKind
  priorStateDigest := cycle.priorStateDigest
  resultingStateDigest := cycle.stateDigest
  snapshot := cycle
  recordedAt := cycle.updatedAt

theorem Store.eventsOf_append (s : Store) (events : List CycleEvent) (cycleId : String) :
    ({ s with events := s.events ++ events } : Store).eventsOf cycleId =
      s.eventsOf cycleId ++ events.filter (·.cycleId == cycleId) := by
  simp [Store.eventsOf]

theorem Store.mem_eventsOf {s : Store} {cycleId : String} {event : CycleEvent} :
    event ∈ s.eventsOf cycleId ↔ event ∈ s.events ∧ event.cycleId = cycleId := by
  simp [Store.eventsOf]

/-- A snapshot no operation has touched yet. -/
structure Initial (w : CanonicalPlatform) (cycle : ObservationCycleV1) : Prop where
  valid : cycle.validate w = .ok ()
  version : cycle.version = 0
  prior : cycle.priorStateDigest = none
  status : cycle.status = .observing ∨ cycle.status = .missed
  observation : cycle.observation = none
  attention : cycle.attention = none
  temporalPosture : cycle.temporalPosture = none
  preparedAgRequest : cycle.preparedAgRequest = none
  authoring : cycle.authoringContextProvenance = none
  custody : cycle.authoringContextCustody = none
  ag : cycle.ag = none

theorem Initial.lawful {w : CanonicalPlatform} {cycle : ObservationCycleV1}
    (h : Initial w cycle) : Lawful cycle where
  unobserved := fun _ => ⟨h.attention, h.temporalPosture⟩
  named := by simp [h.ag]

theorem insertEvent_spec {s s' : Store} {event : CycleEvent} (h : s.insertEvent event = .ok s') :
    (∀ other ∈ s.eventsOf event.cycleId, other.sequence ≠ event.sequence ∧
      other.resultingStateDigest ≠ event.resultingStateDigest) ∧
      s' = { s with events := s.events ++ [event] } := by
  simp only [Store.insertEvent, bind_eq_ok, refuseIf_eq_ok, List.any_eq_false, Bool.or_eq_true,
    beq_iff_eq, not_or] at h
  obtain ⟨_, hfresh, _, -, h⟩ := h
  cases h
  exact ⟨fun other hother => (hfresh other hother).1, rfl⟩

/-- A claim inserts a slot, a cycle and its first event, none of which was there. -/
structure ClaimSpec (s s' : Store) (cycle : ObservationCycleV1) (eventKind : String) : Prop where
  slotFree : s.slots[cycle.slot.slotId]? = none
  cycleFree : s.cycles[cycle.cycleId]? = none
  written : s' = { s with
    slots := s.slots.insert cycle.slot.slotId (slotRowOf cycle)
    cycles := s.cycles.insert cycle.cycleId (Store.cycleRow cycle)
    events := s.events ++ [eventOf eventKind cycle] }

theorem claimTransaction_spec {s s' : Store} {cycle : ObservationCycleV1} {eventKind : String}
    {u : Unit} (hversion : cycle.version = 0) (hprior : cycle.priorStateDigest = none)
    (h : claimTransaction cycle eventKind s = .ok (u, s')) : ClaimSpec s s' cycle eventKind := by
  simp only [claimTransaction, Store.insertOrIgnoreSlot, insertInitialCycle, bind_eq_ok,
    refuseIf_eq_ok] at h
  split at h
  · obtain ⟨_, hinserted, -⟩ := h
    simp at hinserted
  · rename_i hslot
    simp only [Bool.or_eq_true, not_or, Bool.not_eq_true] at hslot
    obtain ⟨_, -, s₁, ⟨s₂, hcycle, hevent⟩, h⟩ := h
    cases h
    simp only [Store.insertCycle, bind_eq_ok, refuseIf_eq_ok, Bool.or_eq_false_iff] at hcycle
    obtain ⟨_, ⟨⟨hfree, -⟩, -⟩, hcycle⟩ := hcycle
    cases hcycle
    obtain ⟨-, rfl⟩ := insertEvent_spec hevent
    refine ⟨Std.ExtTreeMap.getElem?_eq_none_of_contains_eq_false hslot.1,
      Std.ExtTreeMap.getElem?_eq_none_of_contains_eq_false hfree, ?_⟩
    simp [eventOf, slotRowOf, hversion, hprior]

/-- The claim a prepared request takes. -/
def claimRowOf (cycle : ObservationCycleV1) : Option ClaimRow :=
  cycle.preparedAgRequest.map fun request =>
    { campaignId := request.campaignId
      occurrenceId := request.occurrenceId
      requestDigest := request.requestDigest
      claimedAt := cycle.updatedAt }

/-- A projection after a transition: a fact that is new in it gets its row. -/
def projected {β : Type} (rows : BTreeMap String β) (cycleId : String) (before after : Option β) :
    BTreeMap String β :=
  match before, after with
  | none, some row => rows.insert cycleId row
  | _, _ => rows

theorem getElem?_projected_ne {β : Type} {rows : BTreeMap String β} {cycleId c : String}
    {before after : Option β} (hne : cycleId ≠ c) :
    (projected rows cycleId before after)[c]? = rows[c]? := by
  unfold projected
  split
  · rw [BTreeMap.getElem?_insert_eq, if_neg hne]
  · rfl

/-- A projection that held the fact before the transition holds it after. -/
theorem getElem?_projected_self {β : Type} {rows : BTreeMap String β} {cycleId : String}
    {before after : Option β} (hrows : rows[cycleId]? = before) (hstays : Stays before after) :
    (projected rows cycleId before after)[cycleId]? = after := by
  unfold projected
  split
  · simp
  · cases before with
    | some b => rw [hrows, hstays b rfl]
    | none =>
      cases after with
      | none => exact hrows
      | some row => rename_i hcontra; exact absurd rfl (hcontra row rfl)

theorem mem_of_mem_projected {β : Type} {rows : BTreeMap String β} {cycleId c : String}
    {before after : Option β} (h : c ∈ projected rows cycleId before after) :
    c = cycleId ∨ c ∈ rows := by
  by_cases hne : cycleId = c
  · exact .inl hne.symm
  · right
    rw [← Std.ExtTreeMap.isSome_getElem?_iff_mem, getElem?_projected_ne hne] at h
    exact Std.ExtTreeMap.isSome_getElem?_iff_mem.mp h

theorem claimOccurrence_spec {s s' : Store} {cycleId : String} {before after : ObservationCycleV1}
    (h : claimOccurrence s cycleId before after = .ok s') :
    (before.preparedAgRequest = none → ∀ request, after.preparedAgRequest = some request →
      ∀ other ∈ BTreeMap.valuesOf s.claims,
        ¬ (other.campaignId = request.campaignId ∧ other.occurrenceId = request.occurrenceId)) ∧
      s' = { s with
        claims := projected s.claims cycleId (claimRowOf before) (claimRowOf after) } := by
  unfold claimOccurrence at h
  cases hbefore : before.preparedAgRequest with
  | some request =>
    rw [hbefore] at h
    cases h
    simp [claimRowOf, projected, hbefore]
  | none =>
    cases hafter : after.preparedAgRequest with
    | none =>
      rw [hbefore, hafter] at h
      cases h
      simp [claimRowOf, projected, hbefore, hafter]
    | some request =>
      rw [hbefore, hafter] at h
      simp only [Store.insertOrIgnoreClaim, bind_eq_ok, refuseIf_eq_ok] at h
      split at h
      · obtain ⟨_, hinserted, -⟩ := h
        simp at hinserted
      · rename_i hfree
        obtain ⟨_, -, h⟩ := h
        cases h
        simp only [Bool.or_eq_true, List.any_eq_true, Bool.and_eq_true, beq_iff_eq, not_or,
          not_exists, not_and] at hfree
        refine ⟨?_, by simp [claimRowOf, projected, hbefore, hafter]⟩
        intro _ request' hrequest other hother hsame
        cases hrequest
        exact hfree.2 other hother hsame.1 hsame.2

theorem claimAuthoring_spec {s s' : Store} {cycleId : String} {before after : ObservationCycleV1}
    (h : claimAuthoring s cycleId before after = .ok s') :
    s' = { s with
      authoring := projected s.authoring cycleId before.authoringContextProvenance
        after.authoringContextProvenance } := by
  unfold claimAuthoring at h
  cases hbefore : before.authoringContextProvenance with
  | some provenance =>
    rw [hbefore] at h
    cases h
    simp [projected]
  | none =>
    cases hafter : after.authoringContextProvenance with
    | none =>
      rw [hbefore, hafter] at h
      cases h
      simp [projected]
    | some provenance =>
      rw [hbefore, hafter] at h
      simp only [Store.insertOrIgnoreAuthoring, bind_eq_ok, refuseIf_eq_ok] at h
      split at h
      · obtain ⟨_, hinserted, -⟩ := h
        simp at hinserted
      · obtain ⟨_, -, h⟩ := h
        cases h
        simp [projected]

theorem claimCustody_spec {s s' : Store} {cycleId : String} {before after : ObservationCycleV1}
    (h : claimCustody s cycleId before after = .ok s') :
    s' = { s with
      custody := projected s.custody cycleId before.authoringContextCustody
        after.authoringContextCustody } := by
  unfold claimCustody at h
  cases hbefore : before.authoringContextCustody with
  | some custody =>
    rw [hbefore] at h
    cases h
    simp [projected]
  | none =>
    cases hafter : after.authoringContextCustody with
    | none =>
      rw [hbefore, hafter] at h
      cases h
      simp [projected]
    | some custody =>
      rw [hbefore, hafter] at h
      simp only [Store.insertOrIgnoreCustody, bind_eq_ok, refuseIf_eq_ok] at h
      obtain ⟨⟨inserted, s₁⟩, hinsert, _, hinserted, h⟩ := h
      cases h
      split at hinsert
      · cases hinsert
        simp at hinserted
      · obtain ⟨_, -, hinsert⟩ := bind_eq_ok.mp hinsert
        cases hinsert
        simp [projected]

/-- A transition moves one cycle and its slot on, appends one event, and gives each fact that is
new its row. -/
structure AdvanceSpec (s s' : Store) (cycleId eventKind : String)
    (before after : ObservationCycleV1) : Prop where
  found : ∃ row, s.cycles[cycleId]? = some row ∧ row.snapshot = before
  fresh : ∀ other ∈ s.eventsOf cycleId, other.resultingStateDigest ≠ after.stateDigest
  unclaimed : before.preparedAgRequest = none → ∀ request,
    after.preparedAgRequest = some request → ∀ other ∈ BTreeMap.valuesOf s.claims,
      ¬ (other.campaignId = request.campaignId ∧ other.occurrenceId = request.occurrenceId)
  written : s' = { s with
    slots := s.slots.insert after.slot.slotId (slotRowOf after)
    cycles := s.cycles.insert cycleId (Store.cycleRow after)
    events := s.events ++ [eventOf eventKind after]
    claims := projected s.claims cycleId (claimRowOf before) (claimRowOf after)
    authoring := projected s.authoring cycleId before.authoringContextProvenance
      after.authoringContextProvenance
    custody := projected s.custody cycleId before.authoringContextCustody
      after.authoringContextCustody }

theorem predecessor_spec {w : CanonicalPlatform} {s : Store} {cycleId expectedDigest : String}
    {before : ObservationCycleV1} (h : predecessor w s cycleId expectedDigest = .ok before) :
    before.stateDigest = expectedDigest ∧
      ∃ row, s.cycles[cycleId]? = some row ∧ row.snapshot = before := by
  simp only [predecessor, bind_eq_ok, okOr_eq_ok, refuseIf_eq_ok, bne_eq_false_iff_eq] at h
  obtain ⟨row, hrow, _, -, _, -, _, -, _, -, _, hdigest, h⟩ := h
  cases h
  exact ⟨hdigest, row, hrow, rfl⟩

theorem writeSuccessor_spec {w : CanonicalPlatform} {s s' : Store} {cycleId eventKind : String}
    {before after : ObservationCycleV1} (hwf : Wf w s)
    (hfound : ∃ row, s.cycles[cycleId]? = some row ∧ row.snapshot = before)
    (hfollows : Follows w before after)
    (h : writeSuccessor s cycleId eventKind before after = .ok s') :
    AdvanceSpec s s' cycleId eventKind before after := by
  obtain ⟨row, hrow, rfl⟩ := hfound
  have hb := hwf.backed cycleId row hrow
  simp only [writeSuccessor, bind_eq_ok] at h
  obtain ⟨s₁, hclaim, s₂, hauthoring, s₃, hcustody, ⟨changed, s₄⟩, hcycle, _, hchanged, h⟩ := h
  obtain ⟨hunclaimed, rfl⟩ := claimOccurrence_spec hclaim
  rw [claimAuthoring_spec hauthoring] at hcustody
  rw [claimCustody_spec hcustody] at hcycle
  simp only [Store.updateCycle, bind_eq_ok, hrow] at hcycle
  obtain ⟨_, -, hcycle⟩ := hcycle
  have hcolumns := hb.columns
  have hdigest : row.stateDigest = row.snapshot.stateDigest := by rw [hcolumns]; rfl
  rw [hdigest, beq_self_eq_true, if_pos rfl] at hcycle
  cases hcycle
  have hslot : s.slots[after.slot.slotId]? = some (slotRowOf row.snapshot) := by
    have := hb.slot
    rw [hcolumns] at this
    rw [hfollows.slot_eq]
    exact this
  have hcycleId : after.cycleId = cycleId := hfollows.cycleId_eq.trans hb.key
  simp only [Store.updateSlot, hslot, slotRowOf, beq_self_eq_true, if_true] at h
  obtain ⟨_, -, h⟩ := h
  obtain ⟨hfresh, rfl⟩ := insertEvent_spec h
  refine ⟨⟨row, hrow, rfl⟩, fun other hother => (hfresh other hother).2, hunclaimed, ?_⟩
  have hslotId : row.slotId = after.slot.slotId := by
    rw [hcolumns, hfollows.slot_eq]
    rfl
  simp [eventOf, slotRowOf, Store.cycleRow, hcycleId, hb.key, hfollows.prior_eq, hslotId,
    hfollows.slot_eq]

/-! ## Every transaction keeps the invariant -/

/-- A cycle whose rows a transaction does not touch stays as it is. -/
theorem Backed.frame {w : CanonicalPlatform} {s s' : Store} {c : String} {row : CycleRow}
    (h : Backed w s c row) (hevents : s'.eventsOf c = s.eventsOf c)
    (hslot : s'.slots[row.slotId]? = s.slots[row.slotId]?)
    (hclaim : s'.claims[c]? = s.claims[c]?) (hauthoring : s'.authoring[c]? = s.authoring[c]?)
    (hcustody : s'.custody[c]? = s.custody[c]?) : Backed w s' c row where
  key := h.key
  columns := h.columns
  log := hevents ▸ h.log
  tail := hevents ▸ h.tail
  slot := hslot.trans h.slot
  claim := hclaim ▸ h.claim
  authoring := hauthoring.trans h.authoring
  custody := hcustody.trans h.custody

theorem bound_eventOf {w : CanonicalPlatform} {cycle : ObservationCycleV1} (eventKind : String)
    (hvalid : cycle.validate w = .ok ()) (hlawful : Lawful cycle) :
    Bound w cycle.cycleId (eventOf eventKind cycle) :=
  ⟨rfl, rfl, rfl, rfl, hvalid, hlawful⟩

theorem not_mem_of_getElem?_eq_none {β : Type} {rows : BTreeMap String β} {c : String}
    (h : rows[c]? = none) : c ∉ rows := by
  rw [← Std.ExtTreeMap.isSome_getElem?_iff_mem, h]
  simp

theorem getElem?_eq_none_of_not_mem {β : Type} {rows : BTreeMap String β} {c : String}
    (h : c ∉ rows) : rows[c]? = none := Std.ExtTreeMap.getElem?_eq_none h

/-- What claims and transitions have in common: one snapshot goes to its row, its slot and the
log. -/
structure Written (s s' : Store) (cycle : ObservationCycleV1) (eventKind : String) : Prop where
  slots : s'.slots = s.slots.insert cycle.slot.slotId (slotRowOf cycle)
  cycles : s'.cycles = s.cycles.insert cycle.cycleId (Store.cycleRow cycle)
  events : s'.events = s.events ++ [eventOf eventKind cycle]

namespace Written

variable {s s' : Store} {cycle : ObservationCycleV1} {eventKind : String}

theorem slots_get (h : Written s s' cycle eventKind) (k : String) : s'.slots[k]? =
    if cycle.slot.slotId = k then some (slotRowOf cycle) else s.slots[k]? := by
  rw [h.slots, BTreeMap.getElem?_insert_eq]

theorem cycles_get (h : Written s s' cycle eventKind) (c : String) : s'.cycles[c]? =
    if cycle.cycleId = c then some (Store.cycleRow cycle) else s.cycles[c]? := by
  rw [h.cycles, BTreeMap.getElem?_insert_eq]

theorem cycles_mem (h : Written s s' cycle eventKind) {c : String} (hc : c ∈ s.cycles) :
    c ∈ s'.cycles := by
  rw [h.cycles]
  exact Std.ExtTreeMap.mem_insert.mpr (.inr hc)

theorem cycleId_mem (h : Written s s' cycle eventKind) : cycle.cycleId ∈ s'.cycles := by
  rw [h.cycles]
  exact Std.ExtTreeMap.mem_insert_self

theorem eventsOf_self (h : Written s s' cycle eventKind) :
    s'.eventsOf cycle.cycleId = s.eventsOf cycle.cycleId ++ [eventOf eventKind cycle] := by
  simp [Store.eventsOf, h.events, eventOf]

theorem eventsOf_other (h : Written s s' cycle eventKind) {c : String}
    (hc : cycle.cycleId ≠ c) : s'.eventsOf c = s.eventsOf c := by
  simp [Store.eventsOf, h.events, eventOf, hc]

theorem mem_events (h : Written s s' cycle eventKind) {event : CycleEvent}
    (hevent : event ∈ s'.events) : event ∈ s.events ∨ event = eventOf eventKind cycle := by
  rw [h.events] at hevent
  rcases List.mem_append.mp hevent with hold | hnew
  · exact .inl hold
  · exact .inr (List.mem_singleton.mp hnew)

/-- The slot table still has one cycle for each slot. -/
theorem slots_owned (h : Written s s' cycle eventKind)
    (hslots : ∀ (k : String) (slotRow : SlotRow), s.slots[k]? = some slotRow →
      ∃ row, s.cycles[slotRow.cycleId]? = some row ∧ row.slotId = k)
    (hsame : ∀ row, s.cycles[cycle.cycleId]? = some row → row.slotId = cycle.slot.slotId)
    (k : String) (slotRow : SlotRow) (hslot : s'.slots[k]? = some slotRow) :
    ∃ row, s'.cycles[slotRow.cycleId]? = some row ∧ row.slotId = k := by
  rw [h.slots_get] at hslot
  split at hslot
  · rename_i hk
    cases hslot
    exact ⟨Store.cycleRow cycle, by rw [h.cycles_get]; exact if_pos rfl, hk⟩
  · obtain ⟨row, hrow, hk⟩ := hslots k slotRow hslot
    rw [h.cycles_get]
    by_cases hc : cycle.cycleId = slotRow.cycleId
    · rw [if_pos hc]
      rw [← hc] at hrow
      exact ⟨_, rfl, (hsame row hrow).symm.trans hk⟩
    · rw [if_neg hc]
      exact ⟨row, hrow, hk⟩

end Written

theorem ClaimSpec.toWritten {s s' : Store} {cycle : ObservationCycleV1} {eventKind : String}
    (h : ClaimSpec s s' cycle eventKind) : Written s s' cycle eventKind := by
  rw [h.written]
  exact ⟨rfl, rfl, rfl⟩

theorem Wf.claim {w : CanonicalPlatform} {s s' : Store} {cycle : ObservationCycleV1}
    {eventKind : String} (h : Wf w s) (hinitial : Initial w cycle)
    (hspec : ClaimSpec s s' cycle eventKind) : Wf w s' := by
  have hwritten := hspec.toWritten
  have hfree := not_mem_of_getElem?_eq_none hspec.cycleFree
  have hnone : s.eventsOf cycle.cycleId = [] := by
    rw [List.eq_nil_iff_forall_not_mem]
    intro event hevent
    obtain ⟨hmem, hid⟩ := Store.mem_eventsOf.mp hevent
    exact hfree (hid ▸ h.events event hmem)
  have hclaims : s'.claims = s.claims := by rw [hspec.written]
  have hauthoring : s'.authoring = s.authoring := by rw [hspec.written]
  have hcustody : s'.custody = s.custody := by rw [hspec.written]
  constructor
  case backed =>
    intro c row hrow
    rw [hwritten.cycles_get] at hrow
    split at hrow
    · rename_i hc
      subst hc
      cases hrow
      refine ⟨rfl, rfl, ?_, ?_, ?_, ?_, ?_, ?_⟩
      · rw [hwritten.eventsOf_self, hnone]
        exact .singleton (bound_eventOf eventKind hinitial.valid hinitial.lawful)
          hinitial.version hinitial.prior
      · rw [hwritten.eventsOf_self, hnone]
        rfl
      · rw [hwritten.slots_get]
        exact if_pos rfl
      · rw [hclaims, getElem?_eq_none_of_not_mem fun hc => hfree (h.claims _ hc)]
        simp [Store.cycleRow, claimMatches, hinitial.preparedAgRequest]
      · rw [hauthoring, getElem?_eq_none_of_not_mem fun hc => hfree (h.authoring _ hc)]
        exact hinitial.authoring.symm
      · rw [hcustody, getElem?_eq_none_of_not_mem fun hc => hfree (h.custody _ hc)]
        exact hinitial.custody.symm
    · rename_i hc
      have hb := h.backed c row hrow
      refine hb.frame (hwritten.eventsOf_other hc) ?_ (by rw [hclaims]) (by rw [hauthoring])
        (by rw [hcustody])
      rw [hwritten.slots_get, if_neg]
      intro hslot
      have := hb.slot
      rw [← hslot, hspec.slotFree] at this
      cases this
  case slots =>
    refine hwritten.slots_owned h.slots ?_
    intro row hrow
    rw [hspec.cycleFree] at hrow
    cases hrow
  case events =>
    intro event hevent
    rcases hwritten.mem_events hevent with hold | rfl
    · exact hwritten.cycles_mem (h.events event hold)
    · exact hwritten.cycleId_mem
  case claims => exact fun c hc => hwritten.cycles_mem (h.claims c (hclaims ▸ hc))
  case authoring => exact fun c hc => hwritten.cycles_mem (h.authoring c (hauthoring ▸ hc))
  case custody => exact fun c hc => hwritten.cycles_mem (h.custody c (hcustody ▸ hc))
  case occurrences =>
    rw [hclaims]
    exact h.occurrences

/-- The claim row of the successor, given that of the predecessor. -/
theorem claimMatches_projected {rows : BTreeMap String ClaimRow} {cycleId : String}
    {before after : ObservationCycleV1}
    (hrows : claimMatches before.preparedAgRequest rows[cycleId]? = true)
    (hstays : Stays before.preparedAgRequest after.preparedAgRequest) :
    claimMatches after.preparedAgRequest
      (projected rows cycleId (claimRowOf before) (claimRowOf after))[cycleId]? = true := by
  cases hbefore : before.preparedAgRequest with
  | some request =>
    rw [hbefore] at hrows
    simpa [claimRowOf, projected, hbefore, hstays request hbefore] using hrows
  | none =>
    cases hafter : after.preparedAgRequest with
    | none =>
      rw [hbefore] at hrows
      simpa [claimRowOf, projected, hbefore, hafter] using hrows
    | some request => simp [claimRowOf, projected, hbefore, hafter, claimMatches]

/-- A claim behind a transition was there, or is that of the request prepared in it. -/
theorem claims_of_projected {rows : BTreeMap String ClaimRow} {cycleId c : String}
    {before after : ObservationCycleV1} {claim : ClaimRow}
    (h : (projected rows cycleId (claimRowOf before) (claimRowOf after))[c]? = some claim) :
    rows[c]? = some claim ∨ (c = cycleId ∧ before.preparedAgRequest = none ∧
      ∃ request, after.preparedAgRequest = some request ∧
        claim.campaignId = request.campaignId ∧ claim.occurrenceId = request.occurrenceId) := by
  cases hbefore : before.preparedAgRequest with
  | some request => simp [claimRowOf, projected, hbefore] at h; exact .inl h
  | none =>
    cases hafter : after.preparedAgRequest with
    | none => simp [claimRowOf, projected, hbefore, hafter] at h; exact .inl h
    | some request =>
      simp only [claimRowOf, hbefore, hafter, Option.map_none, Option.map_some, projected,
        BTreeMap.getElem?_insert_eq] at h
      split at h
      · rename_i hc
        cases h
        exact .inr ⟨hc.symm, rfl, request, rfl, rfl, rfl⟩
      · exact .inl h

theorem AdvanceSpec.toWritten {s s' : Store} {cycleId eventKind : String}
    {before after : ObservationCycleV1} (h : AdvanceSpec s s' cycleId eventKind before after)
    (hid : after.cycleId = cycleId) : Written s s' after eventKind := by
  rw [h.written]
  exact ⟨rfl, by rw [hid], rfl⟩

theorem Wf.advance {w : CanonicalPlatform} {s s' : Store} {cycleId eventKind : String}
    {before after : ObservationCycleV1} (h : Wf w s) (hfollows : Follows w before after)
    (hvalid : after.validate w = .ok ())
    (hspec : AdvanceSpec s s' cycleId eventKind before after) : Wf w s' := by
  obtain ⟨row, hrow, rfl⟩ := hspec.found
  have hb := h.backed cycleId row hrow
  obtain rfl : after.cycleId = cycleId := hfollows.cycleId_eq.trans hb.key
  have hwritten := hspec.toWritten rfl
  have hbefore := Valid.of_validate hb.valid
  have hretains := hfollows.retains hbefore hb.lawful
  have hslotId : row.slotId = after.slot.slotId := by
    rw [hb.columns, hfollows.slot_eq]
    rfl
  have hclaims : s'.claims =
      projected s.claims after.cycleId (claimRowOf row.snapshot) (claimRowOf after) := by
    rw [hspec.written]
  have hauthoring : s'.authoring = projected s.authoring after.cycleId
      row.snapshot.authoringContextProvenance after.authoringContextProvenance := by
    rw [hspec.written]
  have hcustody : s'.custody = projected s.custody after.cycleId
      row.snapshot.authoringContextCustody after.authoringContextCustody := by
    rw [hspec.written]
  have hmem : after.cycleId ∈ s'.cycles := hwritten.cycleId_mem
  constructor
  case backed =>
    intro c row' hrow'
    rw [hwritten.cycles_get] at hrow'
    split at hrow'
    · rename_i hc
      subst hc
      cases hrow'
      obtain ⟨last, hlast, -, hsnapshot⟩ := hb.last
      refine ⟨rfl, rfl, ?_, ?_, ?_, ?_, ?_, ?_⟩
      · rw [hwritten.eventsOf_self]
        refine hb.log.append hlast ?_
          (bound_eventOf eventKind hvalid (hfollows.lawful hbefore hb.lawful)) hspec.fresh
        rw [hsnapshot]
        exact hfollows
      · rw [hwritten.eventsOf_self, List.getLast?_concat]
        rfl
      · rw [hwritten.slots_get]
        exact if_pos rfl
      · rw [hclaims]
        exact claimMatches_projected hb.claim hretains.preparedAgRequest
      · rw [hauthoring]
        exact getElem?_projected_self hb.authoring hretains.authoring
      · rw [hcustody]
        exact getElem?_projected_self hb.custody hretains.custody
    · rename_i hc
      have hb' := h.backed c row' hrow'
      refine hb'.frame (hwritten.eventsOf_other hc) ?_ ?_ ?_ ?_
      · rw [hwritten.slots_get, if_neg]
        intro hslot
        exact hc (h.slot_unique hrow hrow' (hslotId.trans hslot))
      · rw [hclaims, getElem?_projected_ne hc]
      · rw [hauthoring, getElem?_projected_ne hc]
      · rw [hcustody, getElem?_projected_ne hc]
  case slots =>
    refine hwritten.slots_owned h.slots ?_
    intro row' hrow'
    rw [hrow] at hrow'
    cases hrow'
    exact hslotId
  case events =>
    intro event hevent
    rcases hwritten.mem_events hevent with hold | rfl
    · exact hwritten.cycles_mem (h.events event hold)
    · exact hmem
  case claims =>
    intro c hc
    rw [hclaims] at hc
    rcases mem_of_mem_projected hc with rfl | hold
    · exact hmem
    · exact hwritten.cycles_mem (h.claims c hold)
  case authoring =>
    intro c hc
    rw [hauthoring] at hc
    rcases mem_of_mem_projected hc with rfl | hold
    · exact hmem
    · exact hwritten.cycles_mem (h.authoring c hold)
  case custody =>
    intro c hc
    rw [hcustody] at hc
    rcases mem_of_mem_projected hc with rfl | hold
    · exact hmem
    · exact hwritten.cycles_mem (h.custody c hold)
  case occurrences =>
    intro c c' claim claim' hclaim hclaim' hcampaign hoccurrence
    rw [hclaims] at hclaim hclaim'
    rcases claims_of_projected hclaim with hold | ⟨rfl, hnone, request, hrequest, hc, ho⟩
    · rcases claims_of_projected hclaim' with hold' | ⟨rfl, hnone, request, hrequest, hc, ho⟩
      · exact h.occurrences c c' claim claim' hold hold' hcampaign hoccurrence
      · exact absurd ⟨hcampaign.trans hc, hoccurrence.trans ho⟩
          (hspec.unclaimed hnone request hrequest claim (BTreeMap.mem_valuesOf.mpr ⟨c, hold⟩))
    · rcases claims_of_projected hclaim' with hold' | ⟨rfl, -⟩
      · exact absurd ⟨hcampaign.symm.trans hc, hoccurrence.symm.trans ho⟩
          (hspec.unclaimed hnone request hrequest claim' (BTreeMap.mem_valuesOf.mpr ⟨c', hold'⟩))
      · rfl

end Nightshift.Canonical
