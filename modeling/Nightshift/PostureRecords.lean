import Nightshift.DiagnosticRecords

/-!
The posture policy, its closed inventory, the receiver inputs, the recurrence
evidence and the posture they are assessed to.
-/

namespace Nightshift.Diagnostic

inductive Requirement where
  | mandatory | optional | excluded
  deriving DecidableEq, Repr

structure RequiredStateBinding where
  kind : String
  value : String
  deriving DecidableEq, Repr

structure ContractBinding where
  producerNodeId : String
  producerBuild : SemanticIdentityV1
  producerCohort : SemanticIdentityV1
  question : SemanticIdentityV1
  profile : SemanticIdentityV1
  profileSemanticId : Option String
  vantage : SemanticIdentityV1
  stateModel : SemanticIdentityV1
  evaluator : SemanticIdentityV1
  thresholdPolicy : SemanticIdentityV1
  projection : ProjectionV1
  subject : SubjectV1
  claimId : String
  deriving DecidableEq, Repr

structure InventoryEntry where
  binding : ContractBinding
  requirement : Requirement
  requiredStateBindings : List RequiredStateBinding
  maxAgeSeconds : Nat
  deriving DecidableEq, Repr

inductive DeliveryStanding where
  | qualified | partialDelivery | failed | notConfigured | notRequired
  deriving DecidableEq, Repr

structure PosturePolicy where
  schema : String
  policyId : String
  generation : String
  subject : SubjectV1
  role : SemanticIdentityV1
  deliveryRequired : Bool
  inventory : List InventoryEntry
  deriving DecidableEq, Repr

inductive DiagnosticInputStatus where
  | delivered (artifact : DiagnosticExecution)
  | noResponse
  | acquisitionFailed (reason : String)
  | notConfigured
  deriving DecidableEq, Repr

structure DiagnosticInput where
  key : DiagnosticKey
  status : DiagnosticInputStatus
  deriving DecidableEq, Repr

structure DiagnosticInputs where
  schema : String
  inputsId : String
  inputs : List DiagnosticInput
  deriving DecidableEq, Repr

inductive Standing where
  | current | supportExpired | supportUnknown | supportUnsupported | supportContradictory
  | supportBlind | clockUnqualified | futureDated | stale | stateMismatch | bindingMismatch
  | noResponse | acquisitionFailed | notConfigured | missing | duplicateInput | excluded
  deriving DecidableEq, Repr

inductive OperatorStatus where
  | clean | conditionPresent | explicitlyAbsent | partialEvidence | refused | unsupported
  | contradictory | pairwiseOnly | stateIncompatible | insufficientCoherence | coverageNarrowed
  | coverageMissing | unknown | notApplicable | clockUnqualified | stale | futureDated
  | stateMismatch | bindingMismatch | noResponse | acquisitionFailed | notConfigured | missing
  | duplicateInput | excluded
  deriving DecidableEq, Repr

structure ArtifactRef where
  contractSchema : Option String
  profileSemanticId : Option String
  artifactId : String
  requestId : String
  runId : String
  attemptInterval : AcquisitionInterval
  key : DiagnosticKey
  claimId : Option String
  claim : Option DiagnosticClaim
  dependencyAcquisitions : List AcquisitionInterval
  deriving DecidableEq, Repr

structure NqClaimTrace where
  artifactId : String
  evaluator : SemanticIdentityV1
  thresholdPolicy : SemanticIdentityV1
  projection : ProjectionV1
  primaryClaim : Option DiagnosticClaim
  primaryStateBindings : List StateBindingV1
  outcome : DiagnosticOutcome
  inputFailures : List DiagnosticInputFailureTrace
  limitations : List LimitationV1
  nonclaims : List String
  deriving DecidableEq, Repr

structure EntryAssessment where
  key : DiagnosticKey
  requirement : Requirement
  standing : Standing
  status : OperatorStatus
  artifact : Option ArtifactRef
  nqTrace : Option NqClaimTrace
  reason : String
  deriving DecidableEq, Repr

structure SchedulePolicy where
  scheduleId : String
  firstDueAt : String
  cadenceSeconds : Nat
  jitterBoundSeconds : Nat
  maxExecutionBudgetSeconds : Nat
  standingWindowSeconds : Nat
  deriving DecidableEq, Repr

structure ScheduleObligation where
  key : DiagnosticKey
  policy : SchedulePolicy
  deriving DecidableEq, Repr

structure RunSlot where
  slotId : String
  scheduleId : String
  occurrence : Nat
  key : DiagnosticKey
  dueAt : String
  budgetSeconds : Nat
  deriving DecidableEq, Repr

structure InvocationAttempt where
  attemptId : String
  slotId : String
  requestId : String
  startedAt : String
  deriving DecidableEq, Repr

inductive RunSlotEvidence where
  | completed (attempt : InvocationAttempt) (completedAt : String) (artifact : ArtifactRef)
  | active (attempt : InvocationAttempt)
  | blocked (reason : String)
  | missed (reason : String)
  deriving DecidableEq, Repr

structure RecurrenceRecord where
  key : DiagnosticKey
  policy : SchedulePolicy
  slot : RunSlot
  evidence : RunSlotEvidence
  deriving DecidableEq, Repr

structure RecurrenceEvidence where
  schema : String
  recurrenceId : String
  obligations : List ScheduleObligation
  records : List RecurrenceRecord
  delivery : DeliveryStanding
  deriving DecidableEq, Repr

inductive RecurrenceStanding where
  | current | active | overdue | blocked | missed | invalid | obligationMissing
  | obligationDuplicate | recordMissing | recordDuplicate
  deriving DecidableEq, Repr

structure RecurrenceAssessment where
  key : DiagnosticKey
  requirement : Requirement
  standing : RecurrenceStanding
  slotId : Option String
  records : List RecurrenceRecord
  reason : String
  deriving DecidableEq, Repr

inductive CompletenessAxis where
  | complete | incomplete
  deriving DecidableEq, Repr

inductive ConditionAxis where
  | clean | conditionPresent | unresolved
  deriving DecidableEq, Repr

inductive CoverageAxis where
  | complete | narrowed | absent
  deriving DecidableEq, Repr

inductive RecurrenceAxis where
  | current | incomplete
  deriving DecidableEq, Repr

inductive Headline where
  | clean | conditionPresent | incomplete
  deriving DecidableEq, Repr

structure InputTrace where
  key : DiagnosticKey
  receiverStatus : String
  artifactId : Option String
  deriving DecidableEq, Repr

structure SupportReceiverInstantV1 where
  clockId : String
  tick : Nat
  deriving DecidableEq, Repr

structure SupportExpiryV1 where
  clockId : String
  tick : Nat
  deriving DecidableEq, Repr

inductive SupportStandingV1 where
  | current | expired | unknown | unsupported | contradictory | blind
  deriving DecidableEq, Repr

/-- An exact request to a present-evidence authority. -/
structure PresentEvidenceQueryV1 where
  schema : String
  queryId : String
  observationCycleId : String
  requestNonce : String
  observationId : String
  diagnosticInputsId : String
  subjectId : String
  scopeId : String
  artifactIds : List String
  deriving DecidableEq, Repr

/-- The result a present-evidence authority returned for one exact query. -/
structure QualifiedSupportV1 where
  schema : String
  supportId : String
  authorityId : String
  queryId : String
  observationCycleId : String
  requestNonce : String
  observationId : String
  diagnosticInputsId : String
  subjectId : String
  scopeId : String
  artifactIds : List String
  evaluatedAt : SupportReceiverInstantV1
  expiry : Option SupportExpiryV1
  standing : SupportStandingV1
  evidenceRefs : List String
  contradictionRefs : List String
  deriving DecidableEq, Repr

structure OperationalPosture where
  schema : String
  postureId : String
  evaluator : SemanticIdentityV1
  policy : PosturePolicy
  scheduleObligations : List ScheduleObligation
  inputEvidence : DiagnosticInputs
  presentSupport : Option QualifiedSupportV1
  recurrenceEvidence : RecurrenceEvidence
  evaluatedAt : String
  inventoryValid : Bool
  allInputs : List InputTrace
  unexpectedInputs : List InputTrace
  assessments : List EntryAssessment
  recurrence : List RecurrenceAssessment
  completeness : CompletenessAxis
  condition : ConditionAxis
  coverage : CoverageAxis
  recurrenceAxis : RecurrenceAxis
  delivery : DeliveryStanding
  current : Bool
  headline : Headline
  deriving DecidableEq, Repr

end Nightshift.Diagnostic
