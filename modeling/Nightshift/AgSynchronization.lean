import Nightshift.CanonicalBench
import Nightshift.CanonicalRuntime

/-!
# Reading AG status

What `sync_ag` leaves in a cycle. The first reference of AG is attached by one
operation and every later one by another. Both project the program counter, but
only the first clears the reason of a recovery, and the second returns a cycle
that has the reference already without a transition.
-/

namespace Nightshift.Canonical

open Checked Diagnostic Interleave

/-! ## The status of a cycle and its reference -/

/-- A cycle in recovery says why, and any other cycle with a reference is closed or has the status
of the reference. -/
structure Tracks (cycle : ObservationCycleV1) : Prop where
  reason : cycle.status = .recoveryRequired → cycle.recoveryReason.isSome
  status : ∀ ag, cycle.ag = some ag →
    cycle.status = Mutate.statusOf ag.programCounter ∨ cycle.status = .recoveryRequired ∨
      cycle.status = .closed

theorem statusOf_ne_recoveryRequired (programCounter : AgProgramCounterV1) :
    Mutate.statusOf programCounter ≠ .recoveryRequired := by
  cases programCounter <;> decide

theorem Initial.tracks {w : CanonicalPlatform} {cycle : ObservationCycleV1} (h : Initial w cycle) :
    Tracks cycle where
  reason := by
    intro hstatus
    rcases h.status with hs | hs <;> simp [hs] at hstatus
  status := by simp [h.ag]

theorem Mutated.tracks {w : CanonicalPlatform} {cycle mutated : ObservationCycleV1}
    (h : Mutated cycle mutated) (hvalid : Valid w cycle) : Tracks mutated := by
  cases h with
  | observed _ _ _ hs =>
    have hnone := (hvalid.of_observing hs).2.2.2
    exact ⟨by simp, by simp [hnone]⟩
  | prepared _ _ _ _ hs =>
    have hnone := (hvalid.of_postureRecorded hs).2.2
    exact ⟨by simp, by simp [hnone]⟩
  | attached ag request hs _ _ _ _ hearly =>
    refine ⟨by simp [hs], ?_⟩
    intro seen hseen
    cases hseen
    exact .inl (hs.trans hearly.symm)
  | statusSeen ag =>
    refine ⟨fun hs => absurd hs (statusOf_ne_recoveryRequired _), ?_⟩
    intro seen hseen
    cases hseen
    exact .inl rfl
  | recovered ag =>
    refine ⟨fun hs => absurd hs (statusOf_ne_recoveryRequired _), ?_⟩
    intro seen hseen
    cases hseen
    exact .inl rfl
  | refused => exact ⟨by simp, fun _ _ => .inr (.inr rfl)⟩
  | interrupted => exact ⟨fun _ => rfl, fun _ _ => .inr (.inl rfl)⟩
  | closed => exact ⟨by simp, fun _ _ => .inr (.inr rfl)⟩

theorem Follows.tracks {w : CanonicalPlatform} {before after : ObservationCycleV1}
    (h : Follows w before after) (hvalid : Valid w before) : Tracks after := by
  obtain ⟨mutated, now, hmutated, rfl⟩ := h
  have hafter := hmutated.tracks hvalid
  exact ⟨hafter.reason, hafter.status⟩

/-- Every stored cycle tracks its reference. -/
def Tracking (s : Store) : Prop :=
  ∀ (c : String) (row : CycleRow), s.cycles[c]? = some row → Tracks row.snapshot

section Runs

variable {w : CanonicalPlatform}

theorem Tracking.promise {s s' : Store} (h : Tracking s) (hwf : Wf w s) (hp : Promise w s s') :
    Tracking s' := by
  intro c row hrow
  rcases hp with rfl | hcommit
  · exact h c row hrow
  · rcases hcommit.on_cycle hwf c with ⟨-, hcycles⟩ | ⟨cycle, kind, rfl, hwritten, hnext⟩
    · exact h c row (hcycles ▸ hrow)
    · rw [hwritten.cycles_get, if_pos rfl] at hrow
      cases hrow
      rcases hnext with ⟨hinitial, -, -⟩ | ⟨prior, hprior, hfollows⟩
      · exact hinitial.tracks
      · exact hfollows.tracks (.of_validate (hwf.backed _ prior hprior).valid)

theorem Tracking.steps {s s' : Store} (h : Tracking s) (hwf : Wf w s)
    (hsteps : Relation.ReflTransGen (Promise w) s s') : Tracking s' := by
  induction hsteps with
  | refl => exact h
  | tail hsteps hstep ih => exact ih.promise (hwf.steps hsteps) hstep

theorem ClientRun.wf {entries : List (Entry Store)} {pool : Pool Store CanonicalStoreError Unit}
    (h : ClientRun w entries pool) : Wf w pool.store :=
  h.sound.wf _ (List.mem_of_getLast? h.getLast_states)

theorem ClientRun.tracking {entries : List (Entry Store)}
    {pool : Pool Store CanonicalStoreError Unit} (h : ClientRun w entries pool) :
    Tracking pool.store := by
  have hlast := h.getLast_states
  rw [List.getLast?_eq_getElem?] at hlast
  have hsteps := chain_between h.sound.chain (Nat.zero_le _) rfl hlast
  refine Tracking.steps ?_ (Wf.empty w) hsteps
  intro c row hrow
  simp [Store.empty] at hrow

end Runs

/-! ## The two projections -/

section Operations

variable {w : CanonicalPlatform} {s s' : Store} {cycleId digest : String} {now : Instant}
  {status : AgOccurrenceReferenceV1} {after : ObservationCycleV1}

theorem AdvanceSpec.snapshotOf_eq {eventKind : String} {before : ObservationCycleV1}
    (h : AdvanceSpec s s' cycleId eventKind before after) (hid : after.cycleId = cycleId) :
    snapshotOf cycleId s' = some after := by
  rw [snapshotOf, (h.toWritten hid).cycles_get, if_pos hid]
  rfl

/-- The first reference clears the reason with the status. -/
theorem run_recoverAgOccurrence {row : CycleRow} (hwf : Wf w s)
    (hrow : s.cycles[cycleId]? = some row)
    (h : (recoverAgOccurrence w cycleId digest status now).run s = (.ok after, s')) :
    snapshotOf cycleId s' = some after ∧ after.ag = some status ∧
      row.snapshot.status ≠ .closed ∧
      after.status = Mutate.statusOf status.programCounter ∧ after.recoveryReason = none := by
  obtain ⟨_, -, h⟩ := Call.run_check_bind_eq_ok.mp h
  obtain ⟨_, -, h⟩ := Call.run_check_bind_eq_ok.mp h
  obtain ⟨row', mutated, version, hrow', -, hmutated, rfl, hid, -, -, hspec⟩ :=
    transitionTransaction_spec hwf (fun _ _ _ _ => recoverAgOccurrence_mutated)
      (Call.run_commit_eq_ok.mp h)
  rw [hrow] at hrow'
  cases hrow'
  simp only [Mutate.recoverAgOccurrence, bind_eq_ok, refuseIf_eq_ok, Bool.or_eq_false_iff,
    Bool.not_eq_false', List.contains_iff_mem] at hmutated
  obtain ⟨_, ⟨hstatus, -⟩, _, -, _, -, hmutated⟩ := hmutated
  cases hmutated
  refine ⟨hspec.snapshotOf_eq hid, rfl, ?_, rfl, rfl⟩
  intro hclosed
  simp [hclosed] at hstatus

/-- A later reference is there already, or it is written beside whatever reason the cycle has. -/
theorem run_recordAgStatus {row : CycleRow} (hwf : Wf w s) (hrow : s.cycles[cycleId]? = some row)
    (h : (recordAgStatus w cycleId digest status now).run s = (.ok after, s')) :
    snapshotOf cycleId s' = some after ∧ after.ag = some status ∧
      (after = row.snapshot ∨ (row.snapshot.status ≠ .closed ∧
        after.status = Mutate.statusOf status.programCounter ∧
        after.recoveryReason = row.snapshot.recoveryReason)) := by
  obtain ⟨_, -, h⟩ := Call.run_check_bind_eq_ok.mp h
  rw [Call.run_bind_ok (run_getCycle hwf hrow)] at h
  obtain ⟨_, -, h⟩ := Call.run_check_bind_eq_ok.mp h
  by_cases hsame : row.snapshot.ag = some status
  · rw [if_pos hsame] at h
    cases h
    exact ⟨by rw [snapshotOf, hrow]; rfl, hsame, .inl rfl⟩
  · rw [if_neg hsame] at h
    obtain ⟨_, -, h⟩ := Call.run_check_bind_eq_ok.mp h
    obtain ⟨row', mutated, version, hrow', -, hmutated, rfl, hid, -, -, hspec⟩ :=
      transitionTransaction_spec hwf (fun _ _ _ _ => recordAgStatus_mutated)
        (Call.run_commit_eq_ok.mp h)
    rw [hrow] at hrow'
    cases hrow'
    simp only [Mutate.recordAgStatus, bind_eq_ok, refuseIf_eq_ok, Bool.not_eq_false',
      List.contains_iff_mem] at hmutated
    obtain ⟨_, hstatus, _, -, _, -, _, -, hmutated⟩ := hmutated
    cases hmutated
    refine ⟨hspec.snapshotOf_eq hid, rfl, .inr ⟨?_, rfl, rfl⟩⟩
    intro hclosed
    simp [hclosed] at hstatus

end Operations

/-! ## Synchronization -/

/-- The cycle holds exactly the status AG returned, projected, and is in recovery no longer. -/
structure Synced (status : AgOccurrenceReferenceV1) (before after : ObservationCycleV1) : Prop where
  ag : after.ag = some status
  status : after.status =
    if before.status = .closed then .closed else Mutate.statusOf status.programCounter
  live : after.status ≠ .recoveryRequired
  reason : after.recoveryReason = none

/-- What a successful `sync_ag` did: the first reference, the same reference, or a later one. -/
theorem run_syncAg {w : RuntimePlatform} {t t' : World} (hwf : Wf w.toCanonicalPlatform t.store)
    {cycleId : String} {row : CycleRow} (hrow : t.store.cycles[cycleId]? = some row)
    {request : PreparedAgRequestV1} (hrequest : row.snapshot.preparedAgRequest = some request)
    {ag : AgOccurrencePortV1} {status : AgOccurrenceReferenceV1}
    (hstatus : ag.status request.campaignId request.occurrenceId = .ok status) {now : Instant}
    {after : ObservationCycleV1} (h : (syncAg w ag cycleId now).run t = (.ok after, t')) :
    (row.snapshot.ag = none ∧ (recoverAgOccurrence w.toCanonicalPlatform cycleId
        row.snapshot.stateDigest status now).run t.store = (.ok after, t'.store)) ∨
      (row.snapshot.ag.isSome ∧ (recordAgStatus w.toCanonicalPlatform cycleId
        row.snapshot.stateDigest status now).run t.store = (.ok after, t'.store)) := by
  have hread : (onStore (getCycle w.toCanonicalPlatform cycleId)).run t = (.ok row.snapshot, t) := by
    rw [run_onStore, run_getCycle hwf hrow]
    rfl
  have hok : ∀ {call : Call Store CanonicalStoreError ObservationCycleV1},
      (onStore call).run t = (.ok after, t') → call.run t.store = (.ok after, t'.store) := by
    intro call hcall
    rw [run_onStore, Prod.mk.injEq, mapErr_eq_ok] at hcall
    obtain ⟨hresult, rfl⟩ := hcall
    exact Prod.ext hresult rfl
  rw [syncAg, Call.run_bind_ok hread] at h
  obtain ⟨request', hrequest', h⟩ := Call.run_check_bind_eq_ok.mp h
  rw [okOr_eq_ok, hrequest] at hrequest'
  cases hrequest'
  rw [hstatus, reconcile] at h
  cases hag : row.snapshot.ag with
  | none =>
    simp only [hag, Option.isSome_none, Bool.false_eq_true, if_false] at h
    exact .inl ⟨rfl, hok h⟩
  | some prior =>
    simp only [hag, Option.isSome_some, if_true] at h
    exact .inr ⟨rfl, hok h⟩

/-- Whatever any number of clients did before, a synchronization that succeeds leaves its cycle
with the status AG returned, and this is the projected status without any trace of a recovery just
when the reference is the first one or there was no reason to clear. -/
theorem syncAg_synced_iff {w : RuntimePlatform} {entries : List (Entry Store)}
    {pool : Pool Store CanonicalStoreError Unit} (hrun : ClientRun w.toCanonicalPlatform entries pool)
    {t t' : World} (hstore : t.store = pool.store) {cycleId : String} {row : CycleRow}
    (hrow : t.store.cycles[cycleId]? = some row) {request : PreparedAgRequestV1}
    (hrequest : row.snapshot.preparedAgRequest = some request) {ag : AgOccurrencePortV1}
    {status : AgOccurrenceReferenceV1}
    (hstatus : ag.status request.campaignId request.occurrenceId = .ok status) {now : Instant}
    {after : ObservationCycleV1} (h : (syncAg w ag cycleId now).run t = (.ok after, t')) :
    snapshotOf cycleId t'.store = some after ∧ after.ag = some status ∧
      (Synced status row.snapshot after ↔
        row.snapshot.ag = none ∨ row.snapshot.recoveryReason = none) := by
  have hwf : Wf w.toCanonicalPlatform t.store := hstore ▸ hrun.wf
  have htracks : Tracks row.snapshot := hrun.tracking cycleId row (hstore ▸ hrow)
  rcases run_syncAg hwf hrow hrequest hstatus h with ⟨hnone, hcall⟩ | ⟨hsome, hcall⟩
  · obtain ⟨hstored, hag, hopen, hprojected, hreason⟩ := run_recoverAgOccurrence hwf hrow hcall
    refine ⟨hstored, hag, iff_of_true ⟨hag, ?_, ?_, hreason⟩ (.inl hnone)⟩
    · rw [if_neg hopen, hprojected]
    · rw [hprojected]
      exact statusOf_ne_recoveryRequired _
  · obtain ⟨hstored, hag, hcase⟩ := run_recordAgStatus hwf hrow hcall
    have hne : row.snapshot.ag ≠ none := by
      intro hnone
      simp [hnone] at hsome
    refine ⟨hstored, hag, ?_⟩
    rcases hcase with rfl | ⟨hopen, hprojected, hkept⟩
    · constructor
      · exact fun hsynced => .inr hsynced.reason
      · intro hclear
        have hreason := hclear.resolve_left hne
        have hlive : row.snapshot.status ≠ .recoveryRequired := by
          intro hrecovery
          have := htracks.reason hrecovery
          simp [hreason] at this
        refine ⟨hag, ?_, hlive, hreason⟩
        rcases htracks.status status hag with hs | hs | hs
        · by_cases hclosed : row.snapshot.status = .closed
          · rw [if_pos hclosed, hclosed]
          · rw [if_neg hclosed, hs]
        · exact absurd hs hlive
        · rw [if_pos hs, hs]
    · constructor
      · exact fun hsynced => .inr (hkept ▸ hsynced.reason)
      · intro hclear
        refine ⟨hag, by rw [if_neg hopen, hprojected], ?_, hkept.trans (hclear.resolve_left hne)⟩
        rw [hprojected]
        exact statusOf_ne_recoveryRequired _

end Nightshift.Canonical

namespace Nightshift.RuntimeBench

open Nightshift.Canonical Nightshift.Diagnostic CanonicalBench Checked Interleave

def platform : RuntimePlatform where
  toCanonicalPlatform := CanonicalBench.platform
  sqlMessage := fun _ => "constraint violation"
  hmacText := fun _ _ _ => ""
  agRequestValue := fun _ => ⟨[]⟩
  agRequestCanonical := fun _ => []
  cycleRequestCanonical := fun _ => []
  targetRequestCanonical := fun _ => []
  sessionCanonical := fun _ => []
  handoffCanonical := fun _ => []
  sessionPreimage := fun _ => []
  handoffPreimage := fun _ => []
  validateDecisionProfile := fun _ => .ok ()

/-- The reference AG answers the prepared request with. -/
def occurrence (programCounter : AgProgramCounterV1) : AgOccurrenceReferenceV1 where
  schema := agReferenceSchemaV1
  campaignId := prepared.campaignId
  occurrenceId := prepared.occurrenceId
  stateDigest := placeholderDigest
  snapshotDigest := digest []
  programCounter
  docketAttemptId := none
  settlementId := none
  externalDecisionRequestId := none
  exactSnapshot := ⟨[]⟩

/-- AG answers every question with the reference at one program counter. -/
def answering (programCounter : AgProgramCounterV1) : AgOccurrencePortV1 where
  openOccurrence := fun _ => .ok (occurrence programCounter)
  status := fun _ _ => .ok (occurrence programCounter)

/-- The prepared request is answered, and the reference attached. -/
def attachedRun : List (Choice Store CanonicalStoreError Unit) :=
  citedRun ++ [.start ((Operation.attachAgOccurrence lease (digest [7])
    (occurrence .standingRequired) now).call CanonicalBench.platform), .act 3]

theorem clientRun_attachedRun : ClientRun CanonicalBench.platform
    (play Store.empty attachedRun).1 (play Store.empty attachedRun).2 := by
  refine reached_play attachedRun ?_
  intro p call hcall
  simp only [attachedRun, citedRun, List.mem_append, List.mem_cons, Choice.start.injEq,
    reduceCtorEq, List.not_mem_nil] at hcall
  grind

/-- Then AG is not reachable, and the reading of its status marks the cycle. -/
def outageRun : List (Choice Store CanonicalStoreError Unit) :=
  attachedRun ++ [.start ((Operation.markRecoveryRequired "cycle:1" (digest [9])
    "ag_status_unavailable_no_resubmit" now).call CanonicalBench.platform), .act 4]

theorem clientRun_outageRun : ClientRun CanonicalBench.platform
    (play Store.empty outageRun).1 (play Store.empty outageRun).2 := by
  refine reached_play outageRun ?_
  intro p call hcall
  simp only [outageRun, attachedRun, citedRun, List.mem_append, List.mem_cons, Choice.start.injEq,
    reduceCtorEq, List.not_mem_nil] at hcall
  grind

def outage : World := ⟨(play Store.empty outageRun).2.store, []⟩

def attached : World := ⟨(play Store.empty attachedRun).2.store, []⟩

theorem paired {α β : Type} {pair : α × β} {a : α} (h : pair.1 = a) : pair = (a, pair.2) := by
  rw [← h]

/-- The cycle behind its two runs, and what the two readings answer. -/
theorem readings_evaluated :
    (snapshotOf "cycle:1" attached.store).map (·.status) = some .awaitingAg ∧
      (attached.store.cycles["cycle:1"]?).any (fun row =>
        row.snapshot.preparedAgRequest == some prepared && row.snapshot.recoveryReason == none) =
          true ∧
      (·.status) <$> ((syncAg platform (answering .settledObservationRequired) "cycle:1"
        now).run attached).1 = .ok .observationRequired ∧
      ((play Store.empty outageRun).2.store.cycles["cycle:1"]?).any (fun row =>
        row.snapshot.preparedAgRequest == some prepared) = true ∧
      (·.status) <$> ((syncAg platform (answering .standingRequired) "cycle:1"
        now).run ⟨(play Store.empty outageRun).2.store, []⟩).1 = .ok .recoveryRequired := by
  decide +kernel

/-- A later answer of AG, without an outage before it, is projected. -/
theorem syncAg_synced_attached : ∃ row after t',
    attached.store.cycles["cycle:1"]? = some row ∧
      (syncAg platform (answering .settledObservationRequired) "cycle:1" now).run attached =
        (.ok after, t') ∧ Synced (occurrence .settledObservationRequired) row.snapshot after := by
  obtain ⟨-, hrow, hrun, -⟩ := readings_evaluated
  obtain ⟨row, hrow, hfacts⟩ := (Option.any_eq_true _ _).mp hrow
  simp only [Bool.and_eq_true, beq_iff_eq] at hfacts
  obtain ⟨after, hafter, -⟩ := map_eq_ok.mp hrun
  have hstatus : (answering .settledObservationRequired).status prepared.campaignId
      prepared.occurrenceId = .ok (occurrence .settledObservationRequired) := rfl
  have hclients : ClientRun platform.toCanonicalPlatform (play Store.empty attachedRun).1
      (play Store.empty attachedRun).2 := clientRun_attachedRun
  have hstored : ∀ store, attached = ⟨store, []⟩ → attached.store = store := by
    intro store h
    rw [h]
  have hstore : attached.store = (play Store.empty attachedRun).2.store := hstored _ rfl
  have hsynced := syncAg_synced_iff hclients hstore hrow hfacts.1 hstatus (paired hafter)
  exact ⟨row, after, _, hrow, paired hafter, hsynced.2.2.mpr (.inr hfacts.2)⟩

/-- Before the outage the cycle was awaiting AG; AG answers as it had answered before, and the
reading succeeds and leaves the cycle in recovery. -/
theorem outage_then_unchanged_answer_stays_in_recovery :
    (snapshotOf "cycle:1" attached.store).map (·.status) = some .awaitingAg ∧
      ∃ entries pool row request status after t',
        ClientRun platform.toCanonicalPlatform entries pool ∧
          pool.store.cycles["cycle:1"]? = some row ∧
          row.snapshot.preparedAgRequest = some request ∧
          (answering .standingRequired).status request.campaignId request.occurrenceId =
            .ok status ∧
          (syncAg platform (answering .standingRequired) "cycle:1" now).run ⟨pool.store, []⟩ =
            (.ok after, t') ∧
          after.status = .recoveryRequired ∧ ¬ Synced status row.snapshot after := by
  obtain ⟨hawaiting, -, -, hrow, hrun⟩ := readings_evaluated
  refine ⟨hawaiting, ?_⟩
  obtain ⟨row, hrow, hrequest⟩ := (Option.any_eq_true _ _).mp hrow
  obtain ⟨after, hafter, hrecovery⟩ := map_eq_ok.mp hrun
  have hstatus : (answering .standingRequired).status prepared.campaignId prepared.occurrenceId =
      .ok (occurrence .standingRequired) := rfl
  refine ⟨_, (play Store.empty outageRun).2, row, prepared, occurrence .standingRequired, after, _,
    clientRun_outageRun, hrow, beq_iff_eq.mp hrequest, hstatus, paired hafter, hrecovery, ?_⟩
  exact fun hsynced => hsynced.live hrecovery

end Nightshift.RuntimeBench
