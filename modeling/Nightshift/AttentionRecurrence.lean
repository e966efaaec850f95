import Nightshift.ProjectPredicateAttention

/-!
# Recurrence of an attention policy

What an accepted evaluation computes, as a function of the policy, the events
in any order and the instant, and when its count is a count of distinct
governed evidence occurrences.
-/

namespace Nightshift.Attention

open Checked

variable (w : PulsePlatform)

/-! ## Instants of valid events -/

def instantOf (text : String) : Option Instant := (w.parseFromRfc3339 text).toOption

namespace AttentionEventV1

def occurred (event : AttentionEventV1) : Instant := (instantOf w event.occurrenceAt).getD 0

def qualified (event : AttentionEventV1) : Instant :=
  (instantOf w event.pulseReceipt.qualificationAt).getD 0

/-- What the evaluation uses of an event that passed its validation. -/
structure Valid (event : AttentionEventV1) : Prop where
  occurs : parseTime w event.occurrenceAt = .ok (event.occurred w)
  qualifies : parseTime w event.pulseReceipt.qualificationAt = .ok (event.qualified w)
  bounded : event.pulseReceipt.disposition = .supportedCurrent →
    ∃ deadline, event.pulseReceipt.currentUntilUnixMs = some deadline

variable {w} in
theorem parseTime_eq_ok {text : String} {at_ : Instant} :
    parseTime w text = .ok at_ ↔ instantOf w text = some at_ := by
  rw [parseTime, mapErr_eq_ok, instantOf, toOption_eq_some]

variable {w} in
theorem valid_of_validate {event : AttentionEventV1} {policy : AttentionPolicyV1}
    (h : event.validate w policy = .ok ()) : event.Valid w := by
  simp only [validate, PulseQualifiedSupportReceiptV1.validateFor,
    PulseQualifiedSupportReceiptV1.validate, bind_eq_ok] at h
  obtain ⟨_, -, _, ⟨_, ⟨_, -, _, -, _, -, q, hq, _, -, _, -, _, hcurrent, -⟩, -⟩, _, -, _, -, o, ho,
    -⟩ := h
  refine ⟨?_, ?_, fun hsupported => ?_⟩
  · rw [ho, occurred, parseTime_eq_ok.mp ho, Option.getD_some]
  · rw [hq, qualified, parseTime_eq_ok.mp hq, Option.getD_some]
  · simp only [PulseQualifiedSupportReceiptV1.validateCurrentness, hsupported, beq_self_eq_true,
      ↓reduceIte, bind_eq_ok, okOr_eq_ok] at hcurrent
    obtain ⟨deadline, hdeadline, -⟩ := hcurrent
    exact ⟨deadline, hdeadline⟩

/-- A constructed event is a valid event of its receipt. -/
theorem fromVerified_eq_ok {policy : AttentionPolicyV1} {receipt : PulseQualifiedSupportReceiptV1}
    {event : AttentionEventV1} (h : fromVerified w policy receipt = .ok event) :
    policy.validate w = .ok () ∧ event.validate w policy = .ok () ∧
      event.pulseReceipt = receipt ∧ event.recurrenceId = Attention.recurrenceId w receipt := by
  simp only [fromVerified, bind_eq_ok, Except.ok.injEq] at h
  obtain ⟨_, hpolicy, _, -, _, hvalid, rfl⟩ := h
  exact ⟨hpolicy, hvalid, rfl, rfl⟩

end AttentionEventV1

/-! ## The evaluation as predicates on its inputs -/

/-- Supported receipts reset an assurance policy that says so. -/
def AttentionPolicyV1.resets (policy : AttentionPolicyV1) (event : AttentionEventV1) : Bool :=
  policy.trigger != .propositionAttention && policy.reset == .supportedCurrent &&
    event.pulseReceipt.disposition == .supportedCurrent

def AttentionPolicyV1.opens (policy : AttentionPolicyV1) (evaluatedAt : Instant) : Instant :=
  evaluatedAt - policy.recurrence.withinSeconds * 1000000000

/-- The trigger selects the event, inside the inclusive window and after every
reset. -/
def InScope (policy : AttentionPolicyV1) (history : List AttentionEventV1) (evaluatedAt : Instant)
    (event : AttentionEventV1) : Bool :=
  policy.trigger.selects event.pulseReceipt.disposition &&
    decide (policy.opens evaluatedAt ≤ event.occurred w) &&
    decide (event.occurred w ≤ evaluatedAt) &&
    !history.any fun later => policy.resets later && decide (later.qualified w ≤ evaluatedAt) &&
      decide (event.occurred w ≤ later.qualified w)

/-- A proposition counts strictly before its own deadline. -/
def Live (policy : AttentionPolicyV1) (evaluatedAt : Instant) (event : AttentionEventV1) : Bool :=
  policy.trigger != .propositionAttention ||
    event.pulseReceipt.currentUntilUnixMs.any fun deadline => decide (unixMs evaluatedAt < deadline)

def Qualifies (policy : AttentionPolicyV1) (history : List AttentionEventV1) (evaluatedAt : Instant)
    (event : AttentionEventV1) : Bool :=
  InScope w policy history evaluatedAt event && Live policy evaluatedAt event

def qualifying (policy : AttentionPolicyV1) (history : List AttentionEventV1)
    (evaluatedAt : Instant) : List AttentionEventV1 :=
  history.filter (Qualifies w policy history evaluatedAt)

/-- What a whole scan leaves in its locals. -/
def scanned (policy : AttentionPolicyV1) (history : List AttentionEventV1)
    (evaluatedAt : Instant) : Scan where
  matchingBeforeCurrentness := history.countP (InScope w policy history evaluatedAt) % 2 ^ 32
  expiredSupported := history.any fun event =>
    InScope w policy history evaluatedAt event && !Live policy evaluatedAt event
  qualifying := qualifying w policy history evaluatedAt

/-! ## Canonical order -/

variable {w}

/-- The events of an accepted fold are indexed by distinct identities. -/
theorem byRecurrence_eq_ok {policy : AttentionPolicyV1} {history : List AttentionEventV1}
    {map : BTreeMap String AttentionEventV1} :
    byRecurrence w policy history = .ok map ↔
      (∀ event ∈ history, event.validate w policy = .ok ()) ∧
        (history.map (·.recurrenceId)).Nodup ∧
          map = BTreeMap.indexBy (·.recurrenceId) ∅ history := by
  have hfold : ∀ start : BTreeMap String AttentionEventV1,
      history.foldlM (fun map event => do
          event.validate w policy
          refuseIf (map[event.recurrenceId]?).isSome
            "attention history repeats an evidence recurrence identity"
          .ok (map.insert event.recurrenceId event)) start = .ok map ↔
        (∀ event ∈ history, event.validate w policy = .ok ()) ∧
          ((history.map (·.recurrenceId)).Nodup ∧
            ∀ event ∈ history, start[event.recurrenceId]? = none) ∧
          map = BTreeMap.indexBy (·.recurrenceId) start history := by
    induction history with
    | nil =>
      intro start
      rw [foldlM_nil_eq_ok]
      simp [eq_comm]
    | cons event history ih =>
      intro start
      simp only [foldlM_cons_eq_ok, bind_eq_ok, refuseIf_eq_ok, Except.ok.injEq, ih,
        List.forall_mem_cons, List.map_cons, List.nodup_cons, BTreeMap.indexBy_cons,
        Option.isSome_eq_false_iff, Option.isNone_iff_eq_none]
      constructor
      · rintro ⟨_, ⟨_, hvalid, _, hfree, rfl⟩, hrest, ⟨hnodup, hfresh⟩, hmap⟩
        have hother : ∀ e ∈ history, e.recurrenceId ≠ event.recurrenceId := by
          intro e he hsame
          have := hfresh e he
          simp [hsame] at this
        refine ⟨⟨hvalid, hrest⟩, ⟨⟨fun hmem => ?_, hnodup⟩, hfree, fun e he => ?_⟩, hmap⟩
        · obtain ⟨e, he, hsame⟩ := List.mem_map.mp hmem
          exact hother e he hsame
        · have := hfresh e he
          rwa [BTreeMap.getElem?_insert_eq, if_neg (hother e he).symm] at this
      · rintro ⟨⟨hvalid, hrest⟩, ⟨⟨hout, hnodup⟩, hfree, hfresh⟩, hmap⟩
        refine ⟨_, ⟨(), hvalid, (), hfree, rfl⟩, hrest, ⟨hnodup, fun e he => ?_⟩, hmap⟩
        have hne : event.recurrenceId ≠ e.recurrenceId := fun hsame =>
          hout (List.mem_map.mpr ⟨e, he, hsame.symm⟩)
        rw [BTreeMap.getElem?_insert_eq, if_neg hne]
        exact hfresh e he
  have hempty : ∀ event ∈ history,
      (∅ : BTreeMap String AttentionEventV1)[event.recurrenceId]? = none := by
    intro event _
    simp
  rw [byRecurrence, hfold ∅, and_iff_left hempty]

theorem canonicalOrder_perm (events : List AttentionEventV1) :
    (canonicalOrder events).Perm events :=
  List.perm_insertionSort _ events

theorem canonicalOrder_pairwise (events : List AttentionEventV1) :
    (canonicalOrder events).Pairwise fun left right => left.sortKey ≤ right.sortKey := by
  have : Std.Total fun left right : AttentionEventV1 => left.sortKey ≤ right.sortKey :=
    ⟨fun left right => le_total left.sortKey right.sortKey⟩
  have : IsTrans AttentionEventV1 fun left right => left.sortKey ≤ right.sortKey :=
    ⟨fun _ _ _ => le_trans⟩
  exact List.pairwise_insertionSort _ events

/-- The order does not depend on how the events were listed. -/
theorem canonicalOrder_eq {events others : List AttentionEventV1}
    (hnodup : (events.map (·.recurrenceId)).Nodup) (h : events.Perm others) :
    canonicalOrder events = canonicalOrder others := by
  have hboth : (canonicalOrder events).Perm (canonicalOrder others) :=
    (canonicalOrder_perm events).trans (h.trans (canonicalOrder_perm others).symm)
  refine List.Perm.eq_of_pairwise ?_ (canonicalOrder_pairwise events)
    (canonicalOrder_pairwise others) hboth
  intro a b ha hb hab hba
  have hkey : a.sortKey = b.sortKey := le_antisymm hab hba
  have hid : a.recurrenceId = b.recurrenceId := congrArg (fun key => (ofLex key).2) hkey
  have ha' := (canonicalOrder_perm events).mem_iff.mp ha
  have hb' := h.mem_iff.mpr ((canonicalOrder_perm others).mem_iff.mp hb)
  exact List.inj_on_of_nodup_map hnodup ha' hb' hid

/-! ## The scan -/

theorem windowStart_eq_ok {policy : AttentionPolicyV1} {evaluatedAt start : Instant} :
    windowStart policy evaluatedAt = .ok start ↔
      policy.recurrence.withinSeconds ≤ maximumI64 / 1000 ∧
        (minimumInstant ≤ policy.opens evaluatedAt ∧ policy.opens evaluatedAt ≤ maximumInstant) ∧
          start = policy.opens evaluatedAt := by
  have hopens : evaluatedAt + -(policy.recurrence.withinSeconds : Int) * 1000000000 =
      policy.opens evaluatedAt := by
    rw [AttentionPolicyV1.opens, Int.neg_mul, Int.sub_eq_add_neg]
  simp only [windowStart, checkedAddSeconds, bind_eq_ok, refuseIf_eq_ok, decide_eq_false_iff_not,
    not_lt, okOr_eq_ok, hopens]
  constructor
  · rintro ⟨_, -, _, hwithin, hstart⟩
    split at hstart
    next hrange => exact ⟨hwithin, hrange, (Option.some.inj hstart).symm⟩
    next => cases hstart
  · rintro ⟨hwithin, hrange, rfl⟩
    have hbelow : policy.recurrence.withinSeconds ≤ maximumI64 :=
      hwithin.trans (Nat.div_le_self _ _)
    exact ⟨(), hbelow, (), hwithin, if_pos hrange⟩

theorem max?_any (instants : List Instant) (at_ : Instant) :
    (instants.max?.any fun last => decide (at_ ≤ last)) =
      instants.any fun instant => decide (at_ ≤ instant) := by
  cases hmax : instants.max? with
  | none =>
    rw [List.max?_eq_none_iff] at hmax
    simp [hmax]
  | some last =>
    obtain ⟨hmem, hle⟩ := List.max?_eq_some_iff.mp hmax
    rw [Option.any_some, Bool.eq_iff_iff, decide_eq_true_eq, List.any_eq_true]
    constructor
    · intro hlast
      exact ⟨last, hmem, decide_eq_true hlast⟩
    · rintro ⟨instant, hinstant, hbelow⟩
      exact (of_decide_eq_true hbelow).trans (hle instant hinstant)

/-- The last reset covers an instant exactly when some reset does. -/
theorem resetAt_ok {policy : AttentionPolicyV1} {history : List AttentionEventV1}
    {evaluatedAt : Instant} (hvalid : ∀ event ∈ history, event.Valid w) :
    ∃ reset, resetAt w policy history evaluatedAt = .ok reset ∧
      ∀ at_ : Instant, (reset.any fun last => decide (at_ ≤ last)) =
        history.any fun later => policy.resets later &&
          decide (later.qualified w ≤ evaluatedAt) && decide (at_ ≤ later.qualified w) := by
  have hno : (policy.trigger = .propositionAttention ∨ policy.reset = .horizonExpiry) →
      ∀ at_ : Instant, ((none : Option Instant).any fun last => decide (at_ ≤ last)) =
        history.any fun later => policy.resets later &&
          decide (later.qualified w ≤ evaluatedAt) && decide (at_ ≤ later.qualified w) := by
    intro hpolicy at_
    have hresets : ∀ later, policy.resets later = false := by
      intro later
      rcases hpolicy with h | h <;> simp [AttentionPolicyV1.resets, h]
    simp [hresets]
  rw [resetAt]
  cases htrigger : policy.trigger with
  | propositionAttention => exact ⟨none, rfl, hno (.inl htrigger)⟩
  | assuranceAttention dispositions =>
    cases hreset : policy.reset with
    | horizonExpiry => exact ⟨none, rfl, hno (.inr hreset)⟩
    | supportedCurrent =>
      have hinstants : (history.filter fun event =>
            event.pulseReceipt.disposition == .supportedCurrent).mapM
          (fun event => parseTime w event.pulseReceipt.qualificationAt) =
            .ok ((history.filter fun event =>
              event.pulseReceipt.disposition == .supportedCurrent).map (·.qualified w)) :=
        mapM_eq_ok_map fun event hevent => (hvalid event (List.mem_filter.mp hevent).1).qualifies
      simp only [hinstants, ok_bind]
      refine ⟨_, rfl, fun at_ => ?_⟩
      rw [max?_any]
      simp only [List.any_filter, List.any_map, Function.comp_def, AttentionPolicyV1.resets,
        htrigger, hreset, beq_self_eq_true, Bool.and_assoc]
      rfl

/-- One event seen by the scan. -/
def Scan.see (inScope live : AttentionEventV1 → Bool) (scan : Scan) (event : AttentionEventV1) :
    Scan :=
  if inScope event then
    { matchingBeforeCurrentness := (scan.matchingBeforeCurrentness + 1) % 2 ^ 32
      expiredSupported := scan.expiredSupported || !live event
      qualifying := scan.qualifying ++ if live event then [event] else [] }
  else scan

theorem foldl_see (inScope live : AttentionEventV1 → Bool) (events : List AttentionEventV1)
    (matched : Nat) (expired : Bool) (kept : List AttentionEventV1) :
    events.foldl (Scan.see inScope live) ⟨matched % 2 ^ 32, expired, kept⟩ =
      ⟨(matched + events.countP inScope) % 2 ^ 32,
        expired || events.any fun event => inScope event && !live event,
        kept ++ events.filter fun event => inScope event && live event⟩ := by
  induction events generalizing matched expired kept with
  | nil => simp
  | cons event events ih =>
    rw [List.foldl_cons]
    by_cases hscope : inScope event
    · have hmod : (matched % 2 ^ 32 + 1) % 2 ^ 32 = (matched + 1) % 2 ^ 32 := Nat.mod_add_mod _ _ _
      simp only [Scan.see, hscope, ↓reduceIte, hmod]
      rw [ih]
      cases hlive : live event <;> simp [hscope, hlive, Nat.add_assoc, Nat.add_comm 1]
    · simp only [Scan.see, hscope, Bool.false_eq_true, ↓reduceIte]
      rw [ih]
      simp [hscope]

theorem scanEvent_ok {policy : AttentionPolicyV1} {history : List AttentionEventV1}
    {evaluatedAt : Instant} {reset : Option Instant}
    (hreset : ∀ at_ : Instant, (reset.any fun last => decide (at_ ≤ last)) =
      history.any fun later => policy.resets later &&
        decide (later.qualified w ≤ evaluatedAt) && decide (at_ ≤ later.qualified w))
    (scan : Scan) {event : AttentionEventV1} (hvalid : event.Valid w) :
    scanEvent w policy (policy.opens evaluatedAt) evaluatedAt reset scan event =
      .ok (scan.see (InScope w policy history evaluatedAt) (Live policy evaluatedAt) event) := by
  have hscope : InScope w policy history evaluatedAt event =
      (!(decide (event.occurred w < policy.opens evaluatedAt) ||
          decide (event.occurred w > evaluatedAt) ||
          reset.any fun last => decide (event.occurred w ≤ last)) &&
        policy.trigger.selects event.pulseReceipt.disposition) := by
    rw [hreset, InScope, Bool.eq_iff_iff]
    simp only [Bool.and_eq_true, decide_eq_true_eq, Bool.not_eq_true', Bool.or_eq_false_iff,
      decide_eq_false_iff_not, not_lt]
    tauto
  simp only [scanEvent, hvalid.occurs, ok_bind]
  rw [Scan.see, hscope]
  cases hout : decide (event.occurred w < policy.opens evaluatedAt) ||
      decide (event.occurred w > evaluatedAt) ||
      reset.any fun last => decide (event.occurred w ≤ last) with
  | true => simp
  | false =>
    cases hselects : policy.trigger.selects event.pulseReceipt.disposition with
    | false => simp
    | true =>
      cases htrigger : policy.trigger with
      | assuranceAttention dispositions =>
        simp [Live, bne, htrigger]
      | propositionAttention =>
        rw [htrigger] at hselects
        obtain ⟨deadline, hdeadline⟩ := hvalid.bounded (beq_iff_eq.mp hselects)
        have hlive : Live policy evaluatedAt event = decide (unixMs evaluatedAt < deadline) := by
          simp [Live, htrigger, hdeadline]
        rw [hlive]
        by_cases hpast : unixMs evaluatedAt < deadline
        · simp [hdeadline, okOr, hpast, Int.not_le.mpr hpast]
        · simp [hdeadline, okOr, hpast, Int.not_lt.mp hpast]

/-! ## What an accepted evaluation says -/

/-- The inputs an evaluation accepts. -/
structure Ready (w : PulsePlatform) (policy : AttentionPolicyV1) (history : List AttentionEventV1)
    (evaluatedAt : Instant) : Prop where
  policyValid : policy.validate w = .ok ()
  eventsValid : ∀ event ∈ history, event.validate w policy = .ok ()
  distinct : (history.map (·.recurrenceId)).Nodup
  settled : ∀ event ∈ history, event.occurred w ≤ evaluatedAt
  horizon : policy.recurrence.withinSeconds ≤ maximumI64 / 1000
  start : minimumInstant ≤ policy.opens evaluatedAt ∧ policy.opens evaluatedAt ≤ maximumInstant
  counted : (qualifying w policy history evaluatedAt).length < 2 ^ 32

/-- The bundle of an accepted evaluation. -/
def bundleOf (w : PulsePlatform) (policy : AttentionPolicyV1) (history : List AttentionEventV1)
    (evaluatedAt : Instant) : AttentionReplayBundleV1 :=
  closedBundle w policy (canonicalOrder history) (policy.opens evaluatedAt) evaluatedAt
    (scanned w policy (canonicalOrder history) evaluatedAt)

theorem InScope_perm {policy : AttentionPolicyV1} {history others : List AttentionEventV1}
    (h : history.Perm others) (evaluatedAt : Instant) :
    InScope w policy history evaluatedAt = InScope w policy others evaluatedAt := by
  funext event
  rw [InScope, InScope, h.any_eq]

theorem qualifying_perm {policy : AttentionPolicyV1} {history others : List AttentionEventV1}
    (h : history.Perm others) (evaluatedAt : Instant) :
    (qualifying w policy history evaluatedAt).Perm (qualifying w policy others evaluatedAt) := by
  have hsame : Qualifies w policy history evaluatedAt = Qualifies w policy others evaluatedAt := by
    funext event
    rw [Qualifies, Qualifies, InScope_perm h]
  rw [qualifying, qualifying, hsame]
  exact h.filter _

/-- The reset and the scan of validated events leave what the predicates say. -/
theorem scan_canonical {policy : AttentionPolicyV1} {history : List AttentionEventV1}
    {evaluatedAt : Instant} (hevents : ∀ event ∈ history, event.validate w policy = .ok ()) :
    ∃ reset, resetAt w policy (canonicalOrder history) evaluatedAt = .ok reset ∧
      (canonicalOrder history).foldlM
          (scanEvent w policy (policy.opens evaluatedAt) evaluatedAt reset) Scan.empty =
        .ok (scanned w policy (canonicalOrder history) evaluatedAt) := by
  have hvalid : ∀ event ∈ canonicalOrder history, event.Valid w := fun event hevent =>
    AttentionEventV1.valid_of_validate
      (hevents event ((canonicalOrder_perm history).mem_iff.mp hevent))
  obtain ⟨reset, hreset, hcovers⟩ :=
    @resetAt_ok w policy (canonicalOrder history) evaluatedAt hvalid
  refine ⟨reset, hreset, ?_⟩
  rw [foldlM_eq_ok_foldl fun scan event hevent => scanEvent_ok hcovers scan (hvalid event hevent)]
  have hsee := foldl_see (InScope w policy (canonicalOrder history) evaluatedAt)
    (Live policy evaluatedAt) (canonicalOrder history) 0 false []
  rw [Nat.zero_mod, Nat.zero_add, Bool.false_or, List.nil_append] at hsee
  rw [Scan.empty, hsee]
  rfl

/-- The spec of the evaluation: it accepts the ready inputs, and its answer is a
function of them. -/
theorem evaluate_eq_ok {policy : AttentionPolicyV1} {history : List AttentionEventV1}
    {evaluatedAt : Instant} {bundle : AttentionReplayBundleV1} :
    evaluate w policy history evaluatedAt = .ok bundle ↔
      Ready w policy history evaluatedAt ∧ bundle = bundleOf w policy history evaluatedAt := by
  have hsorted : (history.map (·.recurrenceId)).Nodup →
      canonicalOrder (BTreeMap.valuesOf (BTreeMap.indexBy (·.recurrenceId) ∅ history)) =
        canonicalOrder history := fun hdistinct =>
    (canonicalOrder_eq hdistinct (BTreeMap.valuesOf_indexBy_perm hdistinct).symm).symm
  have hmembers : ∀ {event}, event ∈ canonicalOrder history ↔ event ∈ history :=
    (canonicalOrder_perm history).mem_iff
  have hcount : (qualifying w policy (canonicalOrder history) evaluatedAt).length =
      (qualifying w policy history evaluatedAt).length :=
    (qualifying_perm (canonicalOrder_perm history) evaluatedAt).length_eq
  simp only [evaluate, bind_eq_ok, refuseIf_eq_ok, decide_eq_false_iff_not, not_le, forEach_eq_ok,
    byRecurrence_eq_ok, windowStart_eq_ok, Except.ok.injEq]
  constructor
  · rintro ⟨_, hpolicy, map, ⟨hevents, hdistinct, rfl⟩, _, hpast, start, ⟨hhorizon, hstart, rfl⟩,
      reset, hreset, scan, hscan, _, hfew, rfl⟩
    rw [hsorted hdistinct] at hpast hreset hscan ⊢
    obtain ⟨reset', hreset', hscan'⟩ := @scan_canonical w policy history evaluatedAt hevents
    obtain rfl : reset' = reset := Except.ok.inj (hreset'.symm.trans hreset)
    obtain rfl := Except.ok.inj (hscan'.symm.trans hscan)
    refine ⟨⟨hpolicy, hevents, hdistinct, fun event hevent => ?_, hhorizon, hstart, ?_⟩, rfl⟩
    · obtain ⟨at_, hat, hle⟩ := hpast event (hmembers.mpr hevent)
      rw [(AttentionEventV1.valid_of_validate (hevents event hevent)).occurs] at hat
      obtain rfl := Except.ok.inj hat
      simpa using hle
    · rwa [scanned, hcount] at hfew
  · rintro ⟨hready, rfl⟩
    obtain ⟨reset, hreset, hscan⟩ :=
      @scan_canonical w policy history evaluatedAt hready.eventsValid
    refine ⟨(), hready.policyValid, _, ⟨hready.eventsValid, hready.distinct, rfl⟩, (), ?_, _,
      ⟨hready.horizon, hready.start, rfl⟩, reset, ?_,
      scanned w policy (canonicalOrder history) evaluatedAt, ?_, (), ?_, ?_⟩
    · rw [hsorted hready.distinct]
      intro event hevent
      have hevent' := hmembers.mp hevent
      refine ⟨_, (AttentionEventV1.valid_of_validate (hready.eventsValid event hevent')).occurs, ?_⟩
      simpa using hready.settled event hevent'
    · rw [hsorted hready.distinct]
      exact hreset
    · rw [hsorted hready.distinct]
      exact hscan
    · rw [scanned, hcount]
      exact hready.counted
    · rw [hsorted hready.distinct]
      rfl

/-! ## Distinct governed occurrences -/

/-- The coordinates of the evidence, by instants and not by their spelling. -/
structure Occurrence where
  nqReceiptDigest : String
  subjectId : String
  primaryObservedAt : Option Instant
  supportObservedAt : Option Instant
  supportProducerId : Option String
  supportSourceId : Option String
  supportVantageId : Option String
  noEvidenceQualificationAt : Option Instant
  deriving DecidableEq, Repr

def governed (w : PulsePlatform) (event : AttentionEventV1) : Occurrence where
  nqReceiptDigest := event.pulseReceipt.nqReceiptDigest
  subjectId := event.pulseReceipt.subjectId
  primaryObservedAt := event.pulseReceipt.primaryObservedAt.bind (instantOf w)
  supportObservedAt := event.pulseReceipt.supportObservedAt.bind (instantOf w)
  supportProducerId := event.pulseReceipt.supportProducerId
  supportSourceId := event.pulseReceipt.supportSourceId
  supportVantageId := event.pulseReceipt.supportVantageId
  noEvidenceQualificationAt :=
    if event.pulseReceipt.supportObservedAt.isNone then
      instantOf w event.pulseReceipt.qualificationAt
    else none

def occurrences (w : PulsePlatform) (events : List AttentionEventV1) : List Occurrence :=
  (events.map (governed w)).dedup

/-- Events of an occurrence that an event before them has. -/
def requalified (w : PulsePlatform) (events : List AttentionEventV1) : Nat :=
  events.length - (occurrences w events).length

/-- Occurrences of the history that no counted event has. -/
def unqualified (w : PulsePlatform) (history counted : List AttentionEventV1) : Nat :=
  ((occurrences w history).filter fun occurrence => occurrence ∉ occurrences w counted).length

theorem length_occurrences_le (events : List AttentionEventV1) :
    (occurrences w events).length ≤ events.length := by
  have := (List.dedup_sublist (events.map (governed w))).length_le
  rwa [List.length_map] at this

theorem mem_occurrences {events : List AttentionEventV1} {occurrence : Occurrence} :
    occurrence ∈ occurrences w events ↔ ∃ event ∈ events, governed w event = occurrence := by
  rw [occurrences, List.mem_dedup, List.mem_map]

/-- An occurrence of the history has a counted event or none. -/
theorem length_occurrences_eq {history counted : List AttentionEventV1} (h : counted ⊆ history) :
    (occurrences w history).length =
      (occurrences w counted).length + unqualified w history counted := by
  have hperm : ((occurrences w history).filter fun occurrence =>
      occurrence ∈ occurrences w counted).Perm (occurrences w counted) := by
    refine (List.perm_ext_iff_of_nodup ((List.nodup_dedup _).filter _) (List.nodup_dedup _)).mpr ?_
    intro occurrence
    rw [List.mem_filter, decide_eq_true_eq]
    constructor
    · rintro ⟨-, hcounted⟩
      exact hcounted
    · intro hcounted
      obtain ⟨event, hevent, hsame⟩ := mem_occurrences.mp hcounted
      exact ⟨mem_occurrences.mpr ⟨event, h hevent, hsame⟩, hcounted⟩
  have hsplit := List.length_eq_length_filter_add
    (fun occurrence => decide (occurrence ∈ occurrences w counted)) (l := occurrences w history)
  rw [hsplit, hperm.length_eq, unqualified]
  simp only [decide_not]

theorem judge_attentionRequired {policy : AttentionPolicyV1} {scan : Scan} :
    (judge policy scan).1 = .attentionRequired ↔
      policy.recurrence.requiredDistinctOccurrences ≤ scan.qualifying.length := by
  simp only [judge]
  constructor
  · intro h
    split at h
    next hreached => exact hreached
    next =>
      split at h
      next => cases h
      next => split at h <;> cases h
  · intro h
    rw [if_pos h]

/-- Requalification never advances the recurrence: the count is bounded by the
distinct occurrences, attention stands on distinct qualifying ones, and the
history is ordered by their instants. -/
structure CountsOccurrences (w : PulsePlatform) (policy : AttentionPolicyV1)
    (history : List AttentionEventV1) (evaluatedAt : Instant) (bundle : AttentionReplayBundleV1) :
    Prop where
  counted : bundle.receipt.qualifyingDistinctOccurrences ≤ (occurrences w history).length
  required : bundle.receipt.disposition = .attentionRequired ↔
    policy.recurrence.requiredDistinctOccurrences ≤
      (occurrences w (qualifying w policy history evaluatedAt)).length
  ordered : bundle.history.Pairwise fun earlier later => earlier.occurred w ≤ later.occurred w

/-- Repeats of an occurrence stay below the occurrences that do not qualify and
do not reach the threshold, and no text order turns two instants around. -/
structure Unrepeated (w : PulsePlatform) (policy : AttentionPolicyV1)
    (history : List AttentionEventV1) (evaluatedAt : Instant) : Prop where
  hidden : requalified w (qualifying w policy history evaluatedAt) ≤
    unqualified w history (qualifying w policy history evaluatedAt)
  threshold : policy.recurrence.requiredDistinctOccurrences ≤
      (qualifying w policy history evaluatedAt).length →
    policy.recurrence.requiredDistinctOccurrences +
        requalified w (qualifying w policy history evaluatedAt) ≤
      (qualifying w policy history evaluatedAt).length
  spelled : ∀ earlier ∈ history, ∀ later ∈ history,
    earlier.occurrenceAt < later.occurrenceAt → earlier.occurred w ≤ later.occurred w

theorem ordered_iff {history : List AttentionEventV1} :
    (canonicalOrder history).Pairwise (fun earlier later =>
        earlier.occurred w ≤ later.occurred w) ↔
      ∀ earlier ∈ history, ∀ later ∈ history,
        earlier.occurrenceAt < later.occurrenceAt → earlier.occurred w ≤ later.occurred w := by
  have hmembers : ∀ {event}, event ∈ canonicalOrder history ↔ event ∈ history :=
    (canonicalOrder_perm history).mem_iff
  have hkeys : ∀ {earlier later : AttentionEventV1}, earlier.sortKey ≤ later.sortKey ↔
      earlier.occurrenceAt < later.occurrenceAt ∨
        earlier.occurrenceAt = later.occurrenceAt ∧ earlier.recurrenceId ≤ later.recurrenceId :=
    Prod.Lex.toLex_le_toLex
  constructor
  · intro hordered earlier hearlier later hlater
    refine List.Pairwise.forall_of_forall_of_flip (l := canonicalOrder history)
      (R := fun x y => x.occurrenceAt < y.occurrenceAt → x.occurred w ≤ y.occurred w) ?_ ?_ ?_
      (hmembers.mpr hearlier) (hmembers.mpr hlater)
    · intro event _ htext
      exact absurd htext (lt_irrefl _)
    · exact hordered.imp fun {x y} hle (_ : x.occurrenceAt < y.occurrenceAt) => hle
    · refine (canonicalOrder_pairwise history).imp fun {x y} hkey htext => ?_
      rcases hkeys.mp hkey with hlt | ⟨heq, -⟩
      · exact absurd htext (lt_asymm hlt)
      · exact absurd htext heq.not_gt
  · intro hspelled
    refine (canonicalOrder_pairwise history).imp_of_mem fun {x y} hx hy hkey => ?_
    rcases hkeys.mp hkey with hlt | ⟨heq, -⟩
    · exact hspelled x (hmembers.mp hx) y (hmembers.mp hy) hlt
    · rw [AttentionEventV1.occurred, AttentionEventV1.occurred, heq]

end Nightshift.Attention

/-! ## Two spellings of one observation -/

namespace Nightshift.AttentionBench

open Attention

/-- A toy digest that tells the bench's texts apart. -/
def digestOf (bytes : Bytes) : String :=
  "sha256:" ++ String.ofList ((bytes.map (fun byte => Nat.digitChar (byte.toNat % 10)) ++
    List.replicate 64 '0').take 64)

def textBytes (text : String) : Bytes := text.toList.map fun c => UInt8.ofNat c.toNat

/-- Noon and the hour before it, as the receipts spell them. -/
def noon : Instant := 1784808000000000000

def instants : List (Int × String) :=
  [(noon, "2026-07-23T12:00:00.000Z"), (noon - 3600000000000, "2026-07-23T11:00:00.000Z")]

/-- Further texts of producers, and their instants. -/
def spellings : List (String × Int) :=
  [("2026-07-23T12:00:00Z", noon), ("2026-07-23T12:00:00+00:00", noon),
    ("2026-07-23T12:00:00.0002Z", noon + 200000), ("2026-07-23T11:59:00Z", noon - 60000000000)]

def platform : PulsePlatform where
  sha256 := digestOf
  parseFromRfc3339 text :=
    match spellings.find? fun entry => entry.1 == text with
    | some entry => .ok entry.2
    | none => Rfc3339.readBy instants text
  toRfc3339Millis := Rfc3339.writeBy instants 1000000
  debugText text := text
  basisCanonical basis := textBytes (basis.supportObservedAt.getD "")
  historyCanonical history := history.flatMap fun event => textBytes event.occurrenceAt
  policyCanonical policy := [UInt8.ofNat policy.recurrence.requiredDistinctOccurrences]
  pulseCanonical receipt := 1 :: textBytes receipt.qualificationAt
  eventCanonical event := 2 :: textBytes event.occurrenceAt
  receiptCanonical receipt := 3 :: textBytes receipt.detail

def target : AttentionTargetV1 where
  project := "project-1"
  concern := "concern-1"
  question := "question-1"
  declarationProfile := "declaration/v1"
  predicateProfile := "predicate/v1"
  nqCatalogDigest := digestOf []
  nqProfileDigest := digestOf []
  nqInputSchemaDigest := digestOf []
  pulseSupportPolicyId := "pulse-1"
  pulseSupportPolicyDigest := digestOf []
  subjectId := "subject-1"

/-- Attention to a supported proposition seen so many times within an hour. -/
def policy (required : Nat) : AttentionPolicyV1 where
  schema := policySchemaV1
  policyId := "policy-1"
  policyDigest := digestOf [UInt8.ofNat required]
  target
  pulseVerifierExecutableDigest := digestOf []
  trigger := .propositionAttention
  recurrence := { requiredDistinctOccurrences := required, withinSeconds := 3600 }
  reset := .horizonExpiry

/-- Supported evidence observed at the spelled instant, current for a day. -/
def pulse (observed : String) : PulseQualifiedSupportReceiptV1 where
  schema := pulseReceiptSchemaV1
  receiptDigest := digestOf (1 :: textBytes "2026-07-23T11:59:00Z")
  policyId := target.pulseSupportPolicyId
  policyDigest := target.pulseSupportPolicyDigest
  project := target.project
  concern := target.concern
  question := target.question
  declarationProfile := target.declarationProfile
  predicateProfile := target.predicateProfile
  nqCatalogDigest := target.nqCatalogDigest
  nqProfileDigest := target.nqProfileDigest
  nqInputSchemaDigest := target.nqInputSchemaDigest
  nqReceiptDigest := digestOf [7]
  nqVerifierExecutableDigest := digestOf []
  primaryObservedAt := some "2026-07-23T11:59:00Z"
  supportEvidenceId := some (digestOf [8])
  supportEvidenceDigest := some (digestOf [9])
  supportObservedAt := some observed
  supportProducerId := some "producer-1"
  supportSourceId := some "source-1"
  supportVantageId := some "vantage-1"
  subjectId := target.subjectId
  qualificationAt := "2026-07-23T11:59:00Z"
  currentUntilUnixMs := some 1784894400000
  primarySupportSkewMs := some 60000
  independenceBasis := "distinct-producers/v1"
  disposition := .supportedCurrent
  detail := "supported"
  validated := []
  notValidated := []

def event (required : Nat) (observed : String) : AttentionEventV1 where
  schema := eventSchemaV1
  eventId := digestOf (2 :: textBytes observed)
  policyDigest := (policy required).policyDigest
  recurrenceId := digestOf (textBytes observed)
  occurrenceAt := observed
  pulseReceipt := pulse observed

/-- One observation, spelled by two producers of RFC 3339 texts. -/
def respelled : List AttentionEventV1 :=
  [event 2 "2026-07-23T12:00:00Z", event 2 "2026-07-23T12:00:00+00:00"]

theorem respelled_ready : Ready platform (policy 2) respelled noon := by
  constructor <;> decide +kernel

end Nightshift.AttentionBench
