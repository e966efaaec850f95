import Nightshift.PresentEvidence

/-!
# A clean headline

A posture is `Clean` only over established evidence. Each early return of the
evaluator leaves with a standing other than `Current`, so a current assessment
has passed every check, and a current recurrence assessment rests on the one
record of the one slot due. A clean headline puts both together for every
mandatory entry.
-/

namespace Nightshift.Diagnostic

open Checked

variable {w : DiagnosticPlatform}

/-- The interval, widened by its clock error, lies inside the maximum age. -/
def FreshAt (w : DiagnosticPlatform) (evaluatedAt : Instant) (maxAgeSeconds : Nat)
    (interval : AcquisitionInterval) : Prop :=
  ∃ start end_ error, w.parseFromRfc3339 interval.startedAt = .ok start ∧
    w.parseFromRfc3339 interval.endedAt = .ok end_ ∧ interval.maximumErrorMs = some error ∧
    end_ + error * 1000000 ≤ evaluatedAt ∧
    evaluatedAt ≤ start - error * 1000000 + maxAgeSeconds * 1000000000

/-- Present evidence: an authority's word, or qualified clocks and fresh intervals. -/
def CurrentAt (w : DiagnosticPlatform) (entry : InventoryEntry) (evaluatedAt : Instant)
    (artifact : DiagnosticExecution) (intervals : List AcquisitionInterval) :
    Option QualifiedSupportV1 → Prop
  | some support => support.standing = .current
  | none =>
    (∃ value, artifact = .v1 value) ∧ artifact.v1HasUnqualifiedClockLimitation = false ∧
      (∀ interval ∈ artifact.attemptInterval :: intervals, interval.unqualifiedReason = none) ∧
      ∀ interval ∈ freshnessIntervals artifact intervals,
        FreshAt w evaluatedAt entry.maxAgeSeconds interval

/-- The one delivered artifact of an entry, exactly bound, clean and current. -/
structure Established (w : DiagnosticPlatform) (inputs : DiagnosticInputs)
    (evaluatedAt : Instant) (support : Option QualifiedSupportV1) (entry : InventoryEntry)
    (artifact : DiagnosticExecution) : Prop where
  delivered : inputs.inputs.filter (·.key = entry.binding.key) =
    [⟨entry.binding.key, .delivered artifact⟩]
  bound : entry.binding.matches_ artifact = true
  claim : ∃ claim intervals states, artifact.primaryClaimId = some entry.binding.claimId ∧
    artifact.primaryClaim = some claim ∧ artifact.claimStateBindings claim = some states ∧
    (∀ pair, pair ∈ states ↔ pair ∈ entry.expectedStateBindings) ∧
    artifact.claimAcquisitions claim = .ok intervals ∧
    CurrentAt w entry evaluatedAt artifact intervals support
  derivation : artifact.outcomeDerivation = .completed
  coverage : artifact.outcomeCoverage = .complete
  condition : artifact.outcomeCondition = .clean ∨ artifact.outcomeCondition = .explicitlyAbsent

/-- The one record of the one slot due, completed for the artifact in time. -/
structure CompletedSlot (w : DiagnosticPlatform) (evaluatedAt : Instant) (record : RecurrenceRecord)
    (artifact : DiagnosticExecution) : Prop where
  completion : ∃ attempt completedAt reference due started completed,
    record.evidence = .completed attempt completedAt reference ∧
    w.parseFromRfc3339 record.slot.dueAt = .ok due ∧
    w.parseFromRfc3339 attempt.startedAt = .ok started ∧
    w.parseFromRfc3339 completedAt = .ok completed ∧
    attempt.slotId = record.slot.slotId ∧ attempt.requestId = reference.requestId ∧
    artifactRefsMatch artifact.ref reference = true ∧ reference.artifactId = artifact.artifactId ∧
    due ≤ started ∧ started ≤ completed ∧
    completed ≤ started + record.slot.budgetSeconds * 1000000000 ∧
    completed ≤ evaluatedAt ∧
    evaluatedAt ≤ completed + record.policy.standingWindowSeconds * 1000000000

/-- The one obligation of an entry and the one record of the slot it makes due. -/
structure Recurring (w : DiagnosticPlatform) (recurrence : RecurrenceEvidence)
    (evaluatedAt : Instant) (entry : InventoryEntry) (artifact : DiagnosticExecution) : Prop where
  due : ∃ obligation occurrence slot dueAt record,
    recurrence.obligations.filter (·.key = entry.binding.key) = [obligation] ∧
    expectedOccurrenceAt w obligation.policy entry.binding.key evaluatedAt =
      .ok (some occurrence) ∧
    makeRunSlot w obligation.policy entry.binding.key occurrence = .ok slot ∧
    slotDueAt w obligation.policy entry.binding.key occurrence = .ok dueAt ∧
    dueAt ≤ evaluatedAt ∧ evaluatedAt < dueAt + obligation.policy.cadenceSeconds * 1000000000 ∧
    (recurrence.records.filter (·.key = entry.binding.key)).filter (·.slot = slot) = [record] ∧
    record.policy = obligation.policy ∧ CompletedSlot w evaluatedAt record artifact

/-! ## Early returns are not current -/

theorem status_established {artifact : DiagnosticExecution}
    (h : artifact.status = .clean ∨ artifact.status = .explicitlyAbsent) :
    artifact.outcomeDerivation = .completed ∧ artifact.outcomeCoverage = .complete ∧
      (artifact.outcomeCondition = .clean ∨ artifact.outcomeCondition = .explicitlyAbsent) := by
  unfold DiagnosticExecution.status at h
  cases hderivation : artifact.outcomeDerivation <;> simp only [hderivation] at h
  case completed =>
    cases hcoherence : artifact.outcomeCoherence <;> simp only [hcoherence] at h
    case jointlyEstablished =>
      cases hcoverage : artifact.outcomeCoverage <;> simp only [hcoverage] at h
      case complete => cases hcondition : artifact.outcomeCondition <;> simp_all
      all_goals simp at h
    all_goals simp at h
  all_goals simp at h

theorem checkStates_error {entry : InventoryEntry} {artifact : DiagnosticExecution}
    {claim : DiagnosticClaim} {verdict : Verdict}
    (h : checkStates entry artifact claim = .error verdict) : verdict.standing ≠ .current := by
  simp only [checkStates, bind_eq_error, okOr_eq_error, refuseIf_eq_error] at h
  rcases h with ⟨-, rfl⟩ | ⟨_, -, -, rfl⟩ <;> simp [Verdict.bindingMismatch]

theorem checkFreshness_error {evaluatedAt : Instant} {maxAge : Duration}
    {interval : AcquisitionInterval} {verdict : Verdict}
    (h : checkFreshness w evaluatedAt maxAge interval = .error verdict) :
    verdict.standing ≠ .current := by
  simp only [checkFreshness, bind_eq_error, okOr_eq_error, mapErr_eq_error,
    refuseIf_eq_error] at h
  obtain ⟨_, -, rfl⟩ | ⟨_, -, ⟨_, -, rfl⟩ | ⟨_, -, ⟨-, rfl⟩ | ⟨_, -, ⟨_, -, rfl⟩ | ⟨_, -, ⟨-, rfl⟩ |
    ⟨_, -, ⟨-, rfl⟩ | ⟨_, -, ⟨-, rfl⟩ | ⟨_, -, ⟨-, rfl⟩ | ⟨_, -, -, rfl⟩⟩⟩⟩⟩⟩⟩⟩ := h
  all_goals simp [Verdict.bindingMismatch]

theorem checkClock_error {artifact : DiagnosticExecution} {interval : AcquisitionInterval}
    {verdict : Verdict} (h : checkClock artifact interval = .error verdict) :
    verdict.standing ≠ .current := by
  unfold checkClock at h
  split at h
  · cases h
  · obtain rfl := Except.error.inj h
    simp

theorem checkUnsupported_error {entry : InventoryEntry} {evaluatedAt : Instant}
    {artifact : DiagnosticExecution} {intervals : List AcquisitionInterval} {verdict : Verdict}
    (h : checkUnsupported w entry evaluatedAt artifact intervals = .error verdict) :
    verdict.standing ≠ .current := by
  simp only [checkUnsupported, bind_eq_error, mapErr_eq_error, refuseIf_eq_error] at h
  obtain ⟨_, -, rfl⟩ | ⟨_, -, ⟨-, rfl⟩ | ⟨_, -, hclock | ⟨_, -, ⟨-, rfl⟩ | ⟨_, -, hfresh⟩⟩⟩⟩ := h
  · simp [Verdict.bindingMismatch]
  · simp
  · obtain ⟨_, -, hclock⟩ := exists_of_forEach_eq_error hclock
    exact checkClock_error hclock
  · simp
  · obtain ⟨_, -, hfresh⟩ := exists_of_forEach_eq_error hfresh
    exact checkFreshness_error hfresh

/-- An assessment that leaves at a failing check is never current. -/
theorem deliveredVerdict_error {entry : InventoryEntry} {evaluatedAt : Instant}
    {artifact : DiagnosticExecution} {support : Option QualifiedSupportV1} {verdict : Verdict}
    (h : deliveredVerdict w entry evaluatedAt artifact support = .error verdict) :
    verdict.standing ≠ .current := by
  simp only [deliveredVerdict, bind_eq_error, mapErr_eq_error, refuseIf_eq_error] at h
  obtain ⟨_, -, rfl⟩ | ⟨_, -, ⟨_, -, rfl⟩ | ⟨_, -, ⟨-, rfl⟩ | ⟨_, -, hstates | ⟨_, -, h⟩⟩⟩⟩ := h
  · simp [Verdict.bindingMismatch]
  · simp [Verdict.bindingMismatch]
  · simp [Verdict.bindingMismatch]
  · obtain ⟨_, -, hstates⟩ := exists_of_forEach_eq_error hstates
    exact checkStates_error hstates
  · cases support with
    | some support => cases h
    | none =>
      rcases bind_eq_error.mp h with h | ⟨_, -, h⟩
      · exact checkUnsupported_error h
      · cases h

/-! ## A current assessment passed every check -/

theorem checkFreshness_ok {evaluatedAt : Instant} {maxAge : Duration} {maxAgeSeconds : Nat}
    {interval : AcquisitionInterval} {field : String} {u : Unit}
    (hage : checkedSeconds maxAgeSeconds field = .ok maxAge)
    (h : checkFreshness w evaluatedAt maxAge interval = .ok u) :
    FreshAt w evaluatedAt maxAgeSeconds interval := by
  simp only [checkFreshness, bind_eq_ok, mapErr_eq_ok, okOr_eq_ok, refuseIf_eq_ok,
    decide_eq_false_iff_not] at h
  obtain ⟨start, hstart, end_, hend, error, herror, uncertainty, huncertainty, latest, hlatest,
    _, hfuture, earliest, hearliest, boundary, hboundary, hstale⟩ := h
  refine ⟨start, end_, error, parseNqTime_eq_ok w hstart, parseNqTime_eq_ok w hend, herror, ?_, ?_⟩
  · rw [← checkedMilliseconds_eq_ok huncertainty, ← checkedAddSigned_eq_some hlatest]
    exact Int.not_lt.mp hfuture
  · rw [← checkedMilliseconds_eq_ok huncertainty, ← checkedSubSigned_eq_some hearliest,
      ← checkedSeconds_eq_ok hage, ← checkedAddSigned_eq_some hboundary]
    exact Int.not_lt.mp hstale

theorem checkUnsupported_ok {entry : InventoryEntry} {evaluatedAt : Instant}
    {artifact : DiagnosticExecution} {intervals : List AcquisitionInterval} {u : Unit}
    (h : checkUnsupported w entry evaluatedAt artifact intervals = .ok u) :
    CurrentAt w entry evaluatedAt artifact intervals none := by
  simp only [checkUnsupported, bind_eq_ok, mapErr_eq_ok, refuseIf_eq_ok] at h
  obtain ⟨maxAge, hage, _, hlimited, _, hclocks, _, hschema, hfresh⟩ := h
  refine ⟨DiagnosticExecution.schemaName_ne_v2 hschema, hlimited, ?_, ?_⟩
  · intro interval hinterval
    have hclock := forEach_eq_ok.mp hclocks interval hinterval
    unfold checkClock at hclock
    split at hclock
    · assumption
    · cases hclock
  · intro interval hinterval
    exact checkFreshness_ok hage (forEach_eq_ok.mp hfresh interval hinterval)

theorem checkStates_ok {entry : InventoryEntry} {artifact : DiagnosticExecution}
    {claim : DiagnosticClaim} {u : Unit} (h : checkStates entry artifact claim = .ok u) :
    ∃ states, artifact.claimStateBindings claim = some states ∧
      ∀ pair, pair ∈ states ↔ pair ∈ entry.expectedStateBindings := by
  simp only [checkStates, bind_eq_ok, okOr_eq_ok, refuseIf_eq_ok, Bool.not_eq_false'] at h
  obtain ⟨states, hstates, hsame⟩ := h
  exact ⟨states, hstates, sameSet_eq_true.mp hsame⟩

/-- Without a primary claim the derivation was refused or unsupported. -/
theorem primaryClaimFor_ok {entry : InventoryEntry} {artifact : DiagnosticExecution}
    {claim : Option DiagnosticClaim} (h : entry.primaryClaimFor artifact = .ok claim)
    (hderivation : artifact.outcomeDerivation = .completed) :
    ∃ primary, claim = some primary ∧ artifact.primaryClaimId = some entry.binding.claimId ∧
      artifact.primaryClaim = some primary := by
  unfold InventoryEntry.primaryClaimFor at h
  cases hid : artifact.primaryClaimId with
  | none => simp [hid, hderivation] at h
  | some primaryClaimId =>
    simp only [hid, bind_eq_ok, okOr_eq_ok, refuseIf_eq_ok, bne_eq_false_iff_eq,
      Except.ok.injEq] at h
    obtain ⟨_, rfl, primary, hprimary, _, -, rfl⟩ := h
    exact ⟨primary, rfl, rfl, by simp [DiagnosticExecution.primaryClaim, hid, hprimary]⟩

theorem deliveredVerdict_ok {entry : InventoryEntry} {evaluatedAt : Instant}
    {artifact : DiagnosticExecution} {support : Option QualifiedSupportV1} {verdict : Verdict}
    (h : deliveredVerdict w entry evaluatedAt artifact support = .ok verdict)
    (hcurrent : verdict.standing = .current)
    (hstatus : verdict.status = .clean ∨ verdict.status = .explicitlyAbsent) :
    entry.binding.matches_ artifact = true ∧
      (artifact.status = .clean ∨ artifact.status = .explicitlyAbsent) ∧
      ∃ claim intervals states, artifact.primaryClaimId = some entry.binding.claimId ∧
        artifact.primaryClaim = some claim ∧ artifact.claimStateBindings claim = some states ∧
        (∀ pair, pair ∈ states ↔ pair ∈ entry.expectedStateBindings) ∧
        artifact.claimAcquisitions claim = .ok intervals ∧
        CurrentAt w entry evaluatedAt artifact intervals support := by
  simp only [deliveredVerdict, bind_eq_ok, mapErr_eq_ok, refuseIf_eq_ok, Bool.not_eq_false'] at h
  obtain ⟨claim, hclaim, intervals, hintervals, _, hbound, _, hstates, h⟩ := h
  have hpresent : artifact.status = verdict.status ∧
      CurrentAt w entry evaluatedAt artifact intervals support := by
    cases support with
    | none =>
      simp only [bind_eq_ok, Except.ok.injEq] at h
      obtain ⟨_, hfresh, rfl⟩ := h
      exact ⟨rfl, checkUnsupported_ok hfresh⟩
    | some support =>
      obtain rfl := Except.ok.inj h
      unfold supportVerdict at hcurrent ⊢
      cases hstanding : support.standing <;> simp only [hstanding] at hcurrent <;>
        first | exact ⟨rfl, hstanding⟩ | cases hcurrent
  rw [← hpresent.1] at hstatus
  have hderivation := (status_established hstatus).1
  obtain ⟨primary, rfl, hid, hprimary⟩ := primaryClaimFor_ok hclaim hderivation
  obtain ⟨states, hfound, hsame⟩ :=
    checkStates_ok (forEach_eq_ok.mp hstates primary (by simp))
  exact ⟨hbound, hstatus, primary, intervals, states, hid, hprimary, hfound, hsame, hintervals,
    hpresent.2⟩

theorem assessEntry_established {entry : InventoryEntry} {evaluatedAt : Instant}
    {inputs : DiagnosticInputs} {support : Option QualifiedSupportV1}
    (hcurrent : (assessEntry w entry evaluatedAt inputs.inputs support).standing = .current)
    (hstatus : (assessEntry w entry evaluatedAt inputs.inputs support).status = .clean ∨
      (assessEntry w entry evaluatedAt inputs.inputs support).status = .explicitlyAbsent) :
    ∃ artifact, Established w inputs evaluatedAt support entry artifact ∧
      (assessEntry w entry evaluatedAt inputs.inputs support).artifact = some artifact.ref := by
  unfold assessEntry at hcurrent hstatus ⊢
  split at hcurrent
  · cases hcurrent
  · rename_i hincluded
    rw [if_neg hincluded] at hstatus ⊢
    split at hcurrent
    · cases hcurrent
    · rename_i input hinput
      simp only [hinput] at hstatus ⊢
      have hkey : input.key = entry.binding.key := by
        have hmem : input ∈ inputs.inputs.filter (·.key = entry.binding.key) := by simp [hinput]
        simpa using (List.mem_filter.mp hmem).2
      cases hdelivery : input.status <;> simp only [hdelivery] at hcurrent hstatus ⊢
      case delivered artifact =>
        unfold assessDelivered at hcurrent hstatus ⊢
        cases hverdict : deliveredVerdict w entry evaluatedAt artifact support with
        | error verdict =>
          rw [hverdict] at hcurrent
          exact absurd hcurrent (deliveredVerdict_error hverdict)
        | ok verdict =>
          simp only [hverdict] at hcurrent hstatus
          obtain ⟨hbound, hclean, hclaim⟩ := deliveredVerdict_ok hverdict hcurrent hstatus
          obtain ⟨hderivation, hcoverage, hcondition⟩ := status_established hclean
          refine ⟨artifact, ⟨?_, hbound, hclaim, hderivation, hcoverage, hcondition⟩, rfl⟩
          rw [hinput, ← hkey, ← hdelivery]
      all_goals cases hcurrent
    · cases hcurrent

/-! ## A current recurrence assessment rests on one completed record -/

/-- Matching references differ at most in an omitted schema name. -/
theorem artifactId_of_artifactRefsMatch {expected actual : ArtifactRef}
    (h : artifactRefsMatch expected actual = true) : actual.artifactId = expected.artifactId := by
  unfold artifactRefsMatch at h
  rcases Bool.or_eq_true_iff.mp h with h | h
  · rw [beq_iff_eq.mp h]
  · split at h
    · simp only [Bool.and_eq_true, beq_iff_eq, ArtifactRef.mk.injEq] at h
      exact h.2.2.2.1.symm
    · cases h

theorem recordStanding_current {evaluatedAt : Instant} {obligation : ScheduleObligation}
    {record : RecurrenceRecord} {artifact : DiagnosticExecution} {reason : String}
    (h : recordStanding w evaluatedAt obligation record (some artifact.ref) =
      .ok (.current, reason)) :
    record.policy = obligation.policy ∧ CompletedSlot w evaluatedAt record artifact := by
  simp only [recordStanding, bind_eq_ok, refuseIf_eq_ok, okOr_eq_ok, Bool.or_eq_false_iff,
    bne_eq_false_iff_eq] at h
  obtain ⟨_, ⟨-, hpolicy⟩, _, -, _, -, _, -, _, -, due, hdue, budget, hbudget, h⟩ := h
  refine ⟨hpolicy, ?_⟩
  cases hevidence : record.evidence <;> simp only [hevidence, bind_eq_ok] at h
  case completed attempt completedAt reference =>
    obtain ⟨standingEnd, hcompletion, h⟩ := h
    split at h
    · rename_i hwithin
      simp only [checkCompletion, bind_eq_ok, okOr_eq_ok, refuseIf_eq_ok, Bool.or_eq_false_iff,
        bne_eq_false_iff_eq, decide_eq_false_iff_not, Bool.not_eq_false', Option.any_some]
        at hcompletion
      obtain ⟨started, hstarted, completed, hcompleted, budgetEnd, hbudgetEnd, _,
        ⟨⟨⟨⟨⟨⟨⟨hslot, hrequest⟩, hearly⟩, horder⟩, hlate⟩, hover⟩, -⟩, hmatch⟩, window, hwindow,
        hend⟩ := hcompletion
      refine ⟨attempt, completedAt, reference, due, started, completed, hevidence,
        (parseTime_eq_ok w).mp hdue, (parseTime_eq_ok w).mp hstarted,
        (parseTime_eq_ok w).mp hcompleted, hslot, hrequest, hmatch,
        artifactId_of_artifactRefsMatch hmatch, Int.not_lt.mp hearly, Int.not_lt.mp horder, ?_,
        Int.not_lt.mp hlate, ?_⟩
      · rw [← checkedSeconds_eq_ok hbudget, ← checkedAddSigned_eq_some hbudgetEnd]
        exact Int.not_lt.mp hover
      · rw [← checkedSeconds_eq_ok hwindow, ← checkedAddSigned_eq_some hend]
        exact hwithin
    · cases h
  all_goals simp at h

theorem assessRecurrenceEntry_current {evaluatedAt : Instant} {entry : InventoryEntry}
    {recurrence : RecurrenceEvidence} {artifact : DiagnosticExecution}
    (hincluded : entry.requirement ≠ .excluded)
    (h : (assessRecurrenceEntry w evaluatedAt entry recurrence.obligations recurrence.records
      (some artifact.ref)).standing = .current) :
    Recurring w recurrence evaluatedAt entry artifact := by
  unfold assessRecurrenceEntry at h
  rw [if_neg hincluded] at h
  split at h
  · cases h
  · rename_i obligation hobligation
    split at h
    · cases h
    · rename_i slot hslot
      simp only [expectedSlotAt, bind_eq_ok, okOr_eq_ok] at hslot
      obtain ⟨_, hoccurrence, occurrence, rfl, hslot⟩ := hslot
      split at h
      · cases h
      · rename_i record hrecord
        unfold assessRecurrenceRecord at h
        cases hstanding : recordStanding w evaluatedAt obligation record (some artifact.ref) with
        | error reason => simp [hstanding] at h
        | ok assessed =>
          obtain ⟨standing, reason⟩ := assessed
          simp only [hstanding] at h
          subst h
          obtain ⟨hpolicy, hcompleted⟩ := recordStanding_current hstanding
          have hmade := hslot
          simp only [makeRunSlot, bind_eq_ok] at hmade
          obtain ⟨dueAt, hdue, -⟩ := hmade
          obtain ⟨hby, hbefore⟩ := expectedOccurrenceAt_due hoccurrence hdue
          exact ⟨obligation, occurrence, slot, dueAt, record, hobligation, hoccurrence, hslot,
            hdue, hby, hbefore, hrecord, hpolicy, hcompleted⟩
      · cases h
  · cases h

/-! ## The headline -/

@[simp] theorem assessEntry_key (entry : InventoryEntry) (evaluatedAt : Instant)
    (inputs : List DiagnosticInput) (support : Option QualifiedSupportV1) :
    (assessEntry w entry evaluatedAt inputs support).key = entry.binding.key := by
  unfold assessEntry
  repeat' split
  all_goals rfl

@[simp] theorem assessEntry_requirement (entry : InventoryEntry) (evaluatedAt : Instant)
    (inputs : List DiagnosticInput) (support : Option QualifiedSupportV1) :
    (assessEntry w entry evaluatedAt inputs support).requirement = entry.requirement := by
  unfold assessEntry
  repeat' split
  all_goals rfl

@[simp] theorem assessRecurrenceEntry_key (evaluatedAt : Instant) (entry : InventoryEntry)
    (obligations : List ScheduleObligation) (records : List RecurrenceRecord)
    (artifact : Option ArtifactRef) :
    (assessRecurrenceEntry w evaluatedAt entry obligations records artifact).key =
      entry.binding.key := by
  unfold assessRecurrenceEntry
  repeat' split
  all_goals rfl

theorem headlineOf_eq_clean {current deliveryAccepted : Bool} {condition : ConditionAxis}
    (h : headlineOf current condition deliveryAccepted = .clean) :
    current = true ∧ condition = .clean := by
  unfold headlineOf at h
  split at h
  · rename_i hall
    exact ⟨hall.1, hall.2.1⟩
  · split at h <;> cases h

/-- With a clean condition every mandatory assessment is current and clean. -/
theorem conditionOf_eq_clean {assessments : List EntryAssessment}
    (h : conditionOf assessments = .clean) {assessment : EntryAssessment}
    (hmem : assessment ∈ assessments) (hmandatory : assessment.requirement = .mandatory) :
    assessment.standing = .current ∧
      (assessment.status = .clean ∨ assessment.status = .explicitlyAbsent) := by
  have hin : assessment ∈ mandatoryOf assessments := by
    simp [mandatoryOf, hmem, hmandatory]
  unfold conditionOf at h
  split at h
  · cases h
  · split at h
    · rename_i hclean
      obtain ⟨hcomplete, hstatus⟩ := hclean
      have hstanding : assessment.standing = .current := by
        unfold completenessOf at hcomplete
        split at hcomplete
        · rename_i hestablished
          have := List.all_eq_true.mp hestablished assessment hin
          simp only [artifactEstablished, Bool.and_eq_true, beq_iff_eq] at this
          exact this.1
        · cases hcomplete
      refine ⟨hstanding, ?_⟩
      simpa using List.all_eq_true.mp hstatus assessment hin
    · cases h

/-- Among distinct keys, the assessment of an entry is the one found by its key. -/
theorem retainedArtifact_eq {policy : PosturePolicy} {inputs : DiagnosticInputs}
    {evaluatedAt : Instant} {support : Option QualifiedSupportV1} {u : Unit}
    (hpolicy : policy.validate w = .ok u) {entry : InventoryEntry}
    (hentry : entry ∈ policy.inventory) :
    retainedArtifact (assessmentsOf w policy inputs evaluatedAt support) entry =
      (assessEntry w entry evaluatedAt inputs.inputs support).artifact := by
  have hfind : (assessmentsOf w policy inputs evaluatedAt support).find?
      (·.key == entry.binding.key) = some (assessEntry w entry evaluatedAt inputs.inputs support) := by
    cases h : (assessmentsOf w policy inputs evaluatedAt support).find?
        (·.key == entry.binding.key) with
    | none =>
      have hnone := List.find?_eq_none.mp h (assessEntry w entry evaluatedAt inputs.inputs support)
        (List.mem_map_of_mem hentry)
      simp at hnone
    | some found =>
      have hmem := List.mem_of_find?_eq_some h
      obtain ⟨other, hother, rfl⟩ := List.mem_map.mp hmem
      have hkey := List.find?_some h
      simp only [assessEntry_key, beq_iff_eq] at hkey
      rw [PosturePolicy.entry_unique hpolicy hother hentry hkey]
  simp [retainedArtifact, hfind]

/-- The current recurrence assessment of a mandatory entry's key is its own. -/
theorem recurrenceAxisOf_eq_current {policy : PosturePolicy} {recurrence : RecurrenceEvidence}
    {evaluatedAt : Instant} {assessments : List EntryAssessment} {u : Unit}
    (hpolicy : policy.validate w = .ok u)
    (h : recurrenceAxisOf policy.inventory
      (recurrenceOf w policy recurrence evaluatedAt assessments) = .current)
    {entry : InventoryEntry} (hentry : entry ∈ policy.inventory)
    (hmandatory : entry.requirement = .mandatory) :
    (assessRecurrenceEntry w evaluatedAt entry recurrence.obligations recurrence.records
      (retainedArtifact assessments entry)).standing = .current := by
  unfold recurrenceAxisOf at h
  split at h
  · rename_i hall
    have hany := List.all_eq_true.mp hall entry hentry
    simp only [hmandatory, bne_self_eq_false, Bool.false_or, List.any_eq_true, Bool.and_eq_true,
      beq_iff_eq] at hany
    obtain ⟨assessment, hmem, hkey, hstanding⟩ := hany
    obtain ⟨other, hother, rfl⟩ := List.mem_map.mp hmem
    rw [assessRecurrenceEntry_key] at hkey
    rw [PosturePolicy.entry_unique hpolicy hother hentry hkey] at hstanding
    exact hstanding
  · cases h

/-- Every mandatory entry of a clean posture has its evidence and its record. -/
theorem evaluatePostureInternal_clean {policy : PosturePolicy} {inputs : DiagnosticInputs}
    {recurrence : RecurrenceEvidence} {evaluatedAt : Instant}
    {support : Option QualifiedSupportV1} {posture : OperationalPosture}
    (h : evaluatePostureInternal w policy inputs recurrence evaluatedAt support = .ok posture)
    (hclean : posture.headline = .clean) {entry : InventoryEntry}
    (hentry : entry ∈ policy.inventory) (hmandatory : entry.requirement = .mandatory) :
    ∃ artifact, Established w inputs evaluatedAt support entry artifact ∧
      Recurring w recurrence evaluatedAt entry artifact := by
  simp only [evaluatePostureInternal, bind_eq_ok, Except.ok.injEq] at h
  obtain ⟨_, hpolicy, _, -, _, -, rfl⟩ := h
  obtain ⟨hcurrent, hcondition⟩ := headlineOf_eq_clean hclean
  simp only [Bool.and_eq_true, beq_iff_eq] at hcurrent
  have hassessed : assessEntry w entry evaluatedAt inputs.inputs support ∈
      assessmentsOf w policy inputs evaluatedAt support := List.mem_map_of_mem hentry
  obtain ⟨hstanding, hstatus⟩ := conditionOf_eq_clean hcondition hassessed (by simpa)
  obtain ⟨artifact, hestablished, href⟩ := assessEntry_established hstanding hstatus
  have hrecurrence := recurrenceAxisOf_eq_current hpolicy hcurrent.2 hentry hmandatory
  rw [retainedArtifact_eq hpolicy hentry, href] at hrecurrence
  exact ⟨artifact, hestablished,
    assessRecurrenceEntry_current (by simp [hmandatory]) hrecurrence⟩

/-- The two evaluators: with the support of an authority, or without one. -/
def evaluate (w : DiagnosticPlatform) (policy : PosturePolicy) (inputs : DiagnosticInputs)
    (recurrence : RecurrenceEvidence) (evaluatedAt : Instant) :
    Option QualifiedSupportV1 → Except String OperationalPosture
  | none => evaluatePosture w policy inputs recurrence evaluatedAt
  | some support => evaluatePostureWithSupport w policy inputs recurrence evaluatedAt support

theorem clean_headline_is_all_clear {policy : PosturePolicy} {inputs : DiagnosticInputs}
    {recurrence : RecurrenceEvidence} {evaluatedAt : Instant}
    {support : Option QualifiedSupportV1} {posture : OperationalPosture}
    (h : evaluate w policy inputs recurrence evaluatedAt support = .ok posture)
    (hclean : posture.headline = .clean) :
    ∀ entry ∈ policy.inventory, entry.requirement = .mandatory →
      ∃ artifact, Established w inputs evaluatedAt support entry artifact ∧
        Recurring w recurrence evaluatedAt entry artifact := by
  intro entry hentry hmandatory
  cases support with
  | none => exact evaluatePostureInternal_clean h hclean hentry hmandatory
  | some support =>
    simp only [evaluate, evaluatePostureWithSupport, bind_eq_ok] at h
    obtain ⟨_, -, _, -, h⟩ := h
    exact evaluatePostureInternal_clean h hclean hentry hmandatory

end Nightshift.Diagnostic
