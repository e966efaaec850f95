import Nightshift.PostureValidation

/-!
# Operational posture

The posture evaluator. An entry assessment leaves its function at the first
failing check, so it is a computation that stops with the verdict of that
check; the axes and the headline are folds over the finished assessments.
-/

namespace Nightshift.Diagnostic

open Checked

/-- What one early return says about an entry. -/
structure Verdict where
  standing : Standing
  status : OperatorStatus
  reason : String
  deriving DecidableEq, Repr

def Verdict.bindingMismatch (reason : String) : Verdict :=
  ⟨.bindingMismatch, .bindingMismatch, reason⟩

variable (w : DiagnosticPlatform)

namespace DiagnosticExecution

def primaryClaim (artifact : DiagnosticExecution) : Option DiagnosticClaim :=
  artifact.primaryClaimId.bind artifact.claim

/-- `status_from_artifact` -/
def status (artifact : DiagnosticExecution) : OperatorStatus :=
  match artifact.outcomeDerivation with
  | .partial_ => .partialEvidence
  | .refused => .refused
  | .unsupported => .unsupported
  | .completed =>
    match artifact.outcomeCoherence with
    | .contradictory => .contradictory
    | .pairwiseOnly => .pairwiseOnly
    | .stateIncompatible => .stateIncompatible
    | .insufficient | .notEvaluated => .insufficientCoherence
    | .jointlyEstablished =>
      match artifact.outcomeCoverage with
      | .partial_ => .coverageNarrowed
      | .missing => .coverageMissing
      | .complete =>
        match artifact.outcomeCondition with
        | .present => .conditionPresent
        | .clean => .clean
        | .explicitlyAbsent => .explicitlyAbsent
        | .unresolved => .unknown
        | .notApplicable => .notApplicable

def clockUnqualifiedStatus (artifact : DiagnosticExecution) : OperatorStatus :=
  match artifact.status with
  | .refused => .refused
  | .unsupported => .unsupported
  | .partialEvidence => .partialEvidence
  | .contradictory => .contradictory
  | .stateIncompatible => .stateIncompatible
  | .insufficientCoherence => .insufficientCoherence
  | _ => .clockUnqualified

/-- `dependency_acquisitions` of one claim: its received inputs, its refusals,
and those of its failures that had an acquisition. -/
def claimAcquisitions (artifact : DiagnosticExecution) (claim : DiagnosticClaim) :
    Except String (List AcquisitionInterval) := do
  let received ← claim.dependencyInputIds.mapM fun inputId =>
    okOr (artifact.receivedAcquisition inputId)
      ("primary claim dependency " ++ inputId ++ " has no received input")
  let refused ← claim.dependencyRefusalIds.mapM fun refusalId =>
    okOr (artifact.refusalAcquisition refusalId)
      ("primary claim dependency " ++ refusalId ++ " has no refused-input acquisition")
  let failed ← claim.dependencyFailureIds.mapM fun failureId =>
    match artifact.failureAcquisition failureId with
    | some interval => .ok [interval]
    | none => do
      refuseIf (!artifact.hasFailureId failureId)
        ("primary claim dependency " ++ failureId ++ " has no failed input")
      .ok []
  .ok (received ++ refused ++ failed.flatten)

def dependencyAcquisitions (artifact : DiagnosticExecution) (claim : Option DiagnosticClaim) :
    Except String (List AcquisitionInterval) :=
  match claim with
  | none => .ok []
  | some claim => artifact.claimAcquisitions claim

/-- `artifact_ref` -/
def ref (artifact : DiagnosticExecution) : ArtifactRef :=
  let claim := artifact.primaryClaim
  { contractSchema := some artifact.schemaName
    profileSemanticId := artifact.profileSemanticId
    artifactId := artifact.artifactId
    requestId := artifact.requestId
    runId := artifact.runId
    attemptInterval := artifact.attemptInterval
    key := artifact.key
    claimId := claim.map (·.claimId)
    claim
    dependencyAcquisitions :=
      match artifact.dependencyAcquisitions claim with
      | .ok intervals => intervals
      | .error _ => [] }

/-- `nq_claim_trace` -/
def trace (artifact : DiagnosticExecution) : NqClaimTrace :=
  { artifactId := artifact.artifactId
    evaluator := artifact.evaluator
    thresholdPolicy := artifact.thresholdPolicy
    projection := artifact.projection
    primaryClaim := artifact.primaryClaim
    primaryStateBindings := artifact.primaryClaim.elim [] fun claim =>
      claim.stateBindingIds.filterMap fun bindingId =>
        artifact.stateBindings.find? (·.bindingId == bindingId)
    outcome := artifact.outcome
    inputFailures := artifact.inputFailureTraces
    limitations := artifact.limitations
    nonclaims := artifact.nonclaims }

/-- `claim_state_bindings`; of two bindings with one name the later counts. -/
def claimStateBindings (artifact : DiagnosticExecution) (claim : DiagnosticClaim) :
    Option (List (String × String)) :=
  claim.stateBindingIds.mapM fun id =>
    (artifact.stateBindings.reverse.find? (·.bindingId == id)).map fun binding =>
      (binding.kind, binding.value)

end DiagnosticExecution

namespace InventoryEntry

def primaryClaimFor (entry : InventoryEntry) (artifact : DiagnosticExecution) :
    Except String (Option DiagnosticClaim) :=
  match artifact.primaryClaimId with
  | none =>
    if artifact.outcomeDerivation = .refused ∨ artifact.outcomeDerivation = .unsupported then
      .ok none
    else .error "non-refused diagnostic has no primary_claim_id"
  | some primaryClaimId => do
    refuseIf (primaryClaimId != entry.binding.claimId)
      ("primary claim " ++ primaryClaimId ++ " does not match required claim " ++
        entry.binding.claimId)
    let claim ← okOr (artifact.claim primaryClaimId)
      "primary claim is absent from the exported claim surface"
    refuseIf (artifact.claimCount primaryClaimId > 1) "primary claim is duplicated"
    .ok (some claim)

def expectedStateBindings (entry : InventoryEntry) : List (String × String) :=
  entry.requiredStateBindings.map fun binding => (binding.kind, binding.value)

end InventoryEntry

/-- Equality of the two lists as sets. -/
def sameSet (a b : List (String × String)) : Bool := a.all b.contains && b.all a.contains

theorem sameSet_eq_true {a b : List (String × String)} :
    sameSet a b = true ↔ ∀ pair, pair ∈ a ↔ pair ∈ b := by
  simp only [sameSet, Bool.and_eq_true, List.all_eq_true, List.contains_iff_mem]
  constructor
  · rintro ⟨hab, hba⟩ pair
    exact ⟨hab pair, hba pair⟩
  · intro h
    exact ⟨fun pair => (h pair).mp, fun pair => (h pair).mpr⟩

def checkStates (entry : InventoryEntry) (artifact : DiagnosticExecution)
    (claim : DiagnosticClaim) : Except Verdict Unit := do
  let actualStates ← okOr (artifact.claimStateBindings claim)
    (.bindingMismatch "claim references an unknown or duplicate state binding")
  refuseIf (!sameSet actualStates entry.expectedStateBindings)
    ⟨.stateMismatch, .stateMismatch,
      "claim state bindings do not exactly match the inventory obligation"⟩

def supportVerdict (artifact : DiagnosticExecution) (support : QualifiedSupportV1) : Verdict :=
  let (standing, status, reason) := match support.standing with
    | .current => (Standing.current, artifact.status,
      "the exact diagnostic basis has authority-owned present support")
    | .expired => (.supportExpired, .stale, "the evidence authority reports support expired")
    | .unknown => (.supportUnknown, .unknown, "present support is unknown")
    | .unsupported => (.supportUnsupported, .unsupported,
      "the evidence authority reports the basis unsupported")
    | .contradictory => (.supportContradictory, .contradictory,
      "the evidence authority retains unresolved contradiction custody")
    | .blind => (.supportBlind, .unknown, "the evidence authority reports receiver blindness")
  ⟨standing, status, reason ++ " (support " ++ support.supportId ++ ")"⟩

/-- One turn of the freshness loop. -/
def checkFreshness (evaluatedAt : Instant) (maxAge : Duration) (interval : AcquisitionInterval) :
    Except Verdict Unit := do
  let start ← mapErr .bindingMismatch
    (parseNqTime w interval.startedAt "dependency.acquisition.started_at")
  let end_ ← mapErr .bindingMismatch
    (parseNqTime w interval.endedAt "dependency.acquisition.ended_at")
  -- an `expect` in the source: the unqualified clocks have left before the loop
  let maximumErrorMs ← okOr interval.maximumErrorMs
    (.bindingMismatch "unqualified verdict-relevant intervals were rejected above")
  let uncertainty ← mapErr .bindingMismatch
    (checkedMilliseconds maximumErrorMs "clock maximum error")
  let latest ← okOr (checkedAddSigned end_ uncertainty)
    (.bindingMismatch "clock-uncertainty addition overflow")
  refuseIf (latest > evaluatedAt) ⟨.futureDated, .futureDated,
    "at least one exact dependency interval (including its own clock uncertainty) extends " ++
      "beyond evaluation time"⟩
  let earliest ← okOr (checkedSubSigned start uncertainty)
    (.bindingMismatch "clock-uncertainty subtraction overflow")
  let freshnessBoundary ← okOr (checkedAddSigned earliest maxAge)
    (.bindingMismatch "freshness-boundary arithmetic overflow")
  refuseIf (freshnessBoundary < evaluatedAt) ⟨.stale, .stale,
    "at least one exact dependency interval exceeds the declared maximum age"⟩

def checkClock (artifact : DiagnosticExecution) (interval : AcquisitionInterval) :
    Except Verdict Unit :=
  match interval.unqualifiedReason with
  | none => .ok ()
  | some (code, detail) => .error ⟨.clockUnqualified, artifact.clockUnqualifiedStatus,
    "a verdict-relevant NQ or dependency clock is unqualified (" ++ code ++ "): " ++ detail⟩

/-- An artifact without dependency intervals ages by its own attempt. -/
def freshnessIntervals (artifact : DiagnosticExecution) (intervals : List AcquisitionInterval) :
    List AcquisitionInterval :=
  if intervals.isEmpty then [artifact.attemptInterval] else intervals

/-- What is checked when no authority answers for the evidence. -/
def checkUnsupported (entry : InventoryEntry) (evaluatedAt : Instant)
    (artifact : DiagnosticExecution) (intervals : List AcquisitionInterval) :
    Except Verdict Unit := do
  let maxAge ← mapErr .bindingMismatch
    (checkedSeconds entry.maxAgeSeconds "inventory max_age_seconds")
  refuseIf artifact.v1HasUnqualifiedClockLimitation
    ⟨.clockUnqualified, artifact.clockUnqualifiedStatus,
      "NQ v1 explicitly reports absolute clock quality as unqualified"⟩
  forEach (artifact.attemptInterval :: intervals) (checkClock artifact)
  refuseIf (artifact.schemaName == nqDiagnosticExecutionV2Schema)
    ⟨.clockUnqualified, artifact.clockUnqualifiedStatus,
      "the Nightshift evaluation instant has no identified, qualified clock or admitted " ++
        "comparison relation; v2 source freshness is not established"⟩
  forEach (freshnessIntervals artifact intervals) (checkFreshness w evaluatedAt maxAge)

def deliveredVerdict (entry : InventoryEntry) (evaluatedAt : Instant)
    (artifact : DiagnosticExecution) (qualifiedSupport : Option QualifiedSupportV1) :
    Except Verdict Verdict := do
  let claim ← mapErr .bindingMismatch (entry.primaryClaimFor artifact)
  let intervals ← mapErr .bindingMismatch (artifact.dependencyAcquisitions claim)
  refuseIf (!entry.binding.matches_ artifact) (.bindingMismatch
    "delivered artifact does not match the exact declared producer/semantic binding")
  forEach claim.toList (checkStates entry artifact)
  match qualifiedSupport with
  | some support => .ok (supportVerdict artifact support)
  | none => do
    checkUnsupported w entry evaluatedAt artifact intervals
    .ok ⟨.current, artifact.status, "exact binding and current-applicability checks passed"⟩

def assessDelivered (entry : InventoryEntry) (evaluatedAt : Instant)
    (artifact : DiagnosticExecution) (qualifiedSupport : Option QualifiedSupportV1) :
    EntryAssessment :=
  let verdict := match deliveredVerdict w entry evaluatedAt artifact qualifiedSupport with
    | .ok verdict | .error verdict => verdict
  { key := entry.binding.key
    requirement := entry.requirement
    standing := verdict.standing
    status := verdict.status
    artifact := some artifact.ref
    nqTrace := some artifact.trace
    reason := verdict.reason }

/-- An assessment that no artifact supports. -/
def withoutArtifact (entry : InventoryEntry) (standing : Standing) (status : OperatorStatus)
    (reason : String) : EntryAssessment :=
  { key := entry.binding.key
    requirement := entry.requirement
    standing
    status
    artifact := none
    nqTrace := none
    reason }

def assessEntry (entry : InventoryEntry) (evaluatedAt : Instant) (inputs : List DiagnosticInput)
    (qualifiedSupport : Option QualifiedSupportV1) : EntryAssessment :=
  if entry.requirement = .excluded then
    withoutArtifact entry .excluded .excluded
      "inventory policy explicitly excludes this diagnostic"
  else
    match inputs.filter (·.key = entry.binding.key) with
    | [] => withoutArtifact entry .missing .missing
      "no receiver-side input record exists for the required diagnostic"
    | [input] =>
      match input.status with
      | .delivered artifact => assessDelivered w entry evaluatedAt artifact qualifiedSupport
      | .noResponse => withoutArtifact entry .noResponse .noResponse
        "Nightshift received no response; this is not an NQ refusal"
      | .acquisitionFailed reason => withoutArtifact entry .acquisitionFailed .acquisitionFailed
        ("receiver-side acquisition failed: " ++ reason)
      | .notConfigured => withoutArtifact entry .notConfigured .notConfigured
        "the diagnostic input is not configured"
    | _ => withoutArtifact entry .duplicateInput .duplicateInput
      "more than one input record matched one closed-inventory key"

def artifactRefsMatch (expected actual : ArtifactRef) : Bool :=
  expected == actual ||
    match expected.effectiveContractSchema, actual.effectiveContractSchema with
    | .ok expectedSchema, .ok actualSchema =>
      expectedSchema == actualSchema &&
        { expected with contractSchema := some expectedSchema } ==
          { actual with contractSchema := some actualSchema }
    | _, _ => false

/-- The checks of a completed slot, up to its standing window. -/
def checkCompletion (evaluatedAt dueAt : Instant) (budget : Duration) (record : RecurrenceRecord)
    (attempt : InvocationAttempt) (completedAt : String) (artifact : ArtifactRef)
    (expectedArtifact : Option ArtifactRef) : Except String Instant := do
  let started ← parseTime w attempt.startedAt "attempt.started_at"
  let completed ← parseTime w completedAt "completed_at"
  let budgetEnd ← okOr (checkedAddSigned started budget) "recurrence budget arithmetic overflow"
  refuseIf (attempt.slotId != record.slot.slotId || attempt.requestId != artifact.requestId ||
      started < dueAt || completed < started || completed > evaluatedAt ||
      completed > budgetEnd || artifact.key != record.key ||
      !expectedArtifact.any (artifactRefsMatch · artifact))
    ("completion, Nightshift attempt, NQ request/run/artifact/attempt reference, or budget " ++
      "binding is invalid")
  let standing ← checkedSeconds record.policy.standingWindowSeconds "standing window"
  okOr (checkedAddSigned completed standing) "recurrence standing-window arithmetic overflow"

/-- An error is the reason of an `Invalid` standing. -/
def recordStanding (evaluatedAt : Instant) (obligation : ScheduleObligation)
    (record : RecurrenceRecord) (expectedArtifact : Option ArtifactRef) :
    Except String (RecurrenceStanding × String) := do
  refuseIf (record.key != obligation.key || record.policy != obligation.policy)
    "record key or policy does not match the exact schedule obligation"
  let due ← expectedOccurrenceAt w obligation.policy obligation.key evaluatedAt
  let expectedOccurrence ← okOr due "no schedule occurrence is due at the evaluation time"
  let expectedSlot ← makeRunSlot w obligation.policy obligation.key expectedOccurrence
  refuseIf (record.slot != expectedSlot)
    "record does not bind the exact deterministic current run slot"
  let dueAt ← parseTime w record.slot.dueAt "slot.due_at"
  let budget ← checkedSeconds record.slot.budgetSeconds "slot budget"
  match record.evidence with
  | .completed attempt completedAt artifact =>
    let standingEnd ← checkCompletion w evaluatedAt dueAt budget record attempt completedAt
      artifact expectedArtifact
    if evaluatedAt ≤ standingEnd then
      .ok (.current, "the exact completed current slot remains within its standing window")
    else .ok (.overdue, "the completed slot's standing window has expired")
  | .active attempt =>
    let started ← parseTime w attempt.startedAt "attempt.started_at"
    let budgetEnd ← okOr (checkedAddSigned started budget) "recurrence budget arithmetic overflow"
    refuseIf (attempt.slotId != record.slot.slotId || started < dueAt || started > evaluatedAt ||
        evaluatedAt > budgetEnd)
      "active attempt is not exactly bound to the current slot or budget"
    .ok (.active, "current run slot has one active in-budget attempt")
  | .blocked reason => .ok (.blocked, "current run slot was blocked: " ++ reason)
  | .missed reason => .ok (.missed, "current run slot was missed: " ++ reason)

def assessRecurrenceRecord (evaluatedAt : Instant) (obligation : ScheduleObligation)
    (record : RecurrenceRecord) (expectedArtifact : Option ArtifactRef) :
    RecurrenceStanding × String :=
  match recordStanding w evaluatedAt obligation record expectedArtifact with
  | .ok assessed => assessed
  | .error reason => (.invalid, reason)

/-- The deterministic slot due under an obligation, for the key of an entry. -/
def expectedSlotAt (policy : SchedulePolicy) (key : DiagnosticKey) (evaluatedAt : Instant) :
    Except String RunSlot := do
  let due ← expectedOccurrenceAt w policy key evaluatedAt
  let occurrence ← okOr due "no schedule occurrence is due at the evaluation time"
  makeRunSlot w policy key occurrence

/-- An assessment that rests on no record. -/
def withoutRecord (entry : InventoryEntry) (standing : RecurrenceStanding) (reason : String) :
    RecurrenceAssessment :=
  { key := entry.binding.key
    requirement := entry.requirement
    standing
    slotId := none
    records := []
    reason }

def assessRecurrenceEntry (evaluatedAt : Instant) (entry : InventoryEntry)
    (obligations : List ScheduleObligation) (records : List RecurrenceRecord)
    (artifact : Option ArtifactRef) : RecurrenceAssessment :=
  if entry.requirement = .excluded then
    withoutRecord entry .current "excluded inventory entry has no recurrence obligation"
  else
    match obligations.filter (·.key = entry.binding.key) with
    | [] => withoutRecord entry .obligationMissing "no exact schedule obligation exists"
    | [obligation] =>
      match expectedSlotAt w obligation.policy entry.binding.key evaluatedAt with
      | .error reason => withoutRecord entry .invalid reason
      | .ok expectedSlot =>
        match (records.filter (·.key = entry.binding.key)).filter (·.slot = expectedSlot) with
        | [] => withoutRecord entry .recordMissing
          "no recurrence record exists for the current obligation"
        | [record] =>
          let assessed := assessRecurrenceRecord w evaluatedAt obligation record artifact
          { key := entry.binding.key
            requirement := entry.requirement
            standing := assessed.1
            slotId := some record.slot.slotId
            records := [record]
            reason := assessed.2 }
        | matchingRecords =>
          { key := entry.binding.key
            requirement := entry.requirement
            standing := .recordDuplicate
            slotId := some expectedSlot.slotId
            records := matchingRecords
            reason := "more than one recurrence record binds the exact current run slot" }
    | _ => withoutRecord entry .obligationDuplicate
      "more than one schedule obligation matches the diagnostic key"

def inputTrace (input : DiagnosticInput) : InputTrace :=
  match input.status with
  | .delivered artifact => ⟨input.key, "delivered", some artifact.artifactId⟩
  | .noResponse => ⟨input.key, "no_response", none⟩
  | .acquisitionFailed _ => ⟨input.key, "acquisition_failed", none⟩
  | .notConfigured => ⟨input.key, "not_configured", none⟩

def artifactEstablished (assessment : EntryAssessment) : Bool :=
  assessment.standing == .current &&
    (assessment.status == .conditionPresent || assessment.status == .clean ||
      assessment.status == .explicitlyAbsent)

def postureEvaluatorIdentity : SemanticIdentityV1 where
  id := "nightshift.operational_posture_evaluator"
  version := "2"
  digest := "sha256:493c4bd1e728e139f3e6a34732dc1728e6c868947cc55d7277aedefe23e99e4c"

def mandatoryOf (assessments : List EntryAssessment) : List EntryAssessment :=
  assessments.filter (·.requirement == .mandatory)

def completenessOf (assessments : List EntryAssessment) : CompletenessAxis :=
  if (mandatoryOf assessments).all artifactEstablished then .complete else .incomplete

/-- A current artifact whose completed derivation finds the condition present. -/
def conditionFound (assessment : EntryAssessment) : Bool :=
  assessment.standing == .current && assessment.nqTrace.any fun trace =>
    trace.outcome.derivation == .completed && trace.outcome.condition == .present

def conditionOf (assessments : List EntryAssessment) : ConditionAxis :=
  if assessments.any conditionFound then .conditionPresent
  else if completenessOf assessments = .complete ∧
      (mandatoryOf assessments).all fun assessment =>
        assessment.status == .clean || assessment.status == .explicitlyAbsent then .clean
  else .unresolved

def currentMandatoryCoverage (assessments : List EntryAssessment) : List CoverageV1 :=
  ((mandatoryOf assessments).filter (·.standing == .current)).filterMap fun assessment =>
    assessment.nqTrace.map (·.outcome.coverage)

def coverageOf (assessments : List EntryAssessment) : CoverageAxis :=
  let covered := currentMandatoryCoverage assessments
  if covered.length = (mandatoryOf assessments).length ∧ covered.all (· == .complete) then .complete
  else if covered.any fun coverage => coverage == .complete || coverage == .partial_ then .narrowed
  else .absent

def recurrenceAxisOf (inventory : List InventoryEntry) (recurrence : List RecurrenceAssessment) :
    RecurrenceAxis :=
  if inventory.all fun entry => entry.requirement != .mandatory ||
      recurrence.any fun assessment =>
        assessment.key == entry.binding.key && assessment.standing == .current then .current
  else .incomplete

def headlineOf (current : Bool) (condition : ConditionAxis) (deliveryAccepted : Bool) : Headline :=
  if current ∧ condition = .clean ∧ deliveryAccepted then .clean
  else if current ∧ condition = .conditionPresent then .conditionPresent
  else .incomplete

def assessmentsOf (policy : PosturePolicy) (inputs : DiagnosticInputs) (evaluatedAt : Instant)
    (qualifiedSupport : Option QualifiedSupportV1) : List EntryAssessment :=
  policy.inventory.map fun entry => assessEntry w entry evaluatedAt inputs.inputs qualifiedSupport

/-- The reference retained by the first assessment of the entry's key. -/
def retainedArtifact (assessments : List EntryAssessment) (entry : InventoryEntry) :
    Option ArtifactRef :=
  (assessments.find? (·.key == entry.binding.key)).bind (·.artifact)

def recurrenceOf (policy : PosturePolicy) (recurrence : RecurrenceEvidence) (evaluatedAt : Instant)
    (assessments : List EntryAssessment) : List RecurrenceAssessment :=
  policy.inventory.map fun entry =>
    assessRecurrenceEntry w evaluatedAt entry recurrence.obligations recurrence.records
      (retainedArtifact assessments entry)

def OperationalPosture.sealIdentity (posture : OperationalPosture) : OperationalPosture :=
  { posture with postureId := w.sha256 (w.postureCanonical { posture with postureId := "" }) }

def evaluatePostureInternal (policy : PosturePolicy) (inputs : DiagnosticInputs)
    (recurrence : RecurrenceEvidence) (evaluatedAt : Instant)
    (qualifiedSupport : Option QualifiedSupportV1) : Except String OperationalPosture := do
  policy.validate w
  inputs.validate w
  recurrence.validate w
  let inventoryKeys := (policy.inventory.filter (·.requirement != .excluded)).map (·.binding.key)
  let unexpectedInputs := (inputs.inputs.filter (!inventoryKeys.contains ·.key)).map inputTrace
  let assessments := assessmentsOf w policy inputs evaluatedAt qualifiedSupport
  let recurrenceAssessments := recurrenceOf w policy recurrence evaluatedAt assessments
  let completeness := completenessOf assessments
  let condition := conditionOf assessments
  let coverage := coverageOf assessments
  let recurrenceAxis := recurrenceAxisOf policy.inventory recurrenceAssessments
  let current := completeness == .complete && coverage == .complete && recurrenceAxis == .current
  let deliveryAccepted := !policy.deliveryRequired || recurrence.delivery == .qualified
  let posture : OperationalPosture :=
    { schema := postureSchema
      postureId := ""
      evaluator := postureEvaluatorIdentity
      policy
      scheduleObligations := recurrence.obligations
      inputEvidence := inputs
      presentSupport := qualifiedSupport
      recurrenceEvidence := recurrence
      evaluatedAt := w.toRfc3339 evaluatedAt
      inventoryValid := true
      allInputs := inputs.inputs.map inputTrace
      unexpectedInputs
      assessments
      recurrence := recurrenceAssessments
      completeness
      condition
      coverage
      recurrenceAxis
      delivery := recurrence.delivery
      current
      headline := headlineOf current condition deliveryAccepted }
  .ok (posture.sealIdentity w)

def evaluatePosture (policy : PosturePolicy) (inputs : DiagnosticInputs)
    (recurrence : RecurrenceEvidence) (evaluatedAt : Instant) : Except String OperationalPosture :=
  evaluatePostureInternal w policy inputs recurrence evaluatedAt none

end Nightshift.Diagnostic
