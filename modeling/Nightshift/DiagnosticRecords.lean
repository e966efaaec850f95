import Nightshift.Text

/-!
NQ diagnostic artifacts of both contract versions, as the receiver reads them.
The origin of a governed refusal and the failure of an acquisition are only
carried, so they stay the JSON texts they were delivered as.
-/

namespace Nightshift.Diagnostic

structure SemanticIdentityV1 where
  id : String
  version : String
  digest : String
  deriving DecidableEq, Repr

structure ProducerV1 where
  nodeId : String
  build : SemanticIdentityV1
  cohort : SemanticIdentityV1
  deriving DecidableEq, Repr

structure SubjectV1 where
  id : String
  scope : SemanticIdentityV1
  deriving DecidableEq, Repr

structure ExpectedInputV1 where
  expectationId : String
  role : String
  required : Bool
  deriving DecidableEq, Repr

inductive RawCaptureModeV1 where
  | exactSource | earliestBoundaryRedacted
  deriving DecidableEq, Repr

inductive EvidenceAvailabilityV1 where
  | online | archivedRetrievable | committedUnavailable
  deriving DecidableEq, Repr

structure AcquisitionIntervalV1 where
  startedAt : String
  endedAt : String
  clock : SemanticIdentityV1
  clockUncertaintyMs : Nat
  deriving DecidableEq, Repr

inductive ClockQualificationV2 where
  | bounded (maximumErrorMs : Nat) (basis : SemanticIdentityV1)
  | unqualified (code detail : String)
  deriving DecidableEq, Repr

structure AcquisitionIntervalV2 where
  startedAt : String
  endedAt : String
  clock : SemanticIdentityV1
  qualification : ClockQualificationV2
  deriving DecidableEq, Repr

structure ReceivedInputV1 where
  inputId : String
  expectationId : String
  rawArtifactId : String
  captureMode : RawCaptureModeV1
  capturePolicy : SemanticIdentityV1
  availabilityAtDerivation : EvidenceAvailabilityV1
  acquisition : AcquisitionIntervalV1
  receivedAt : String
  deriving DecidableEq, Repr

structure ReceivedInputV2 where
  inputId : String
  expectationId : String
  providerIntakeId : String
  rawArtifactId : String
  captureMode : RawCaptureModeV1
  capturePolicy : SemanticIdentityV1
  availabilityAtDerivation : EvidenceAvailabilityV1
  acquisition : AcquisitionIntervalV2
  receivedAt : String
  deriving DecidableEq, Repr

structure AdmittedInputV1 where
  inputId : String
  admissionRule : SemanticIdentityV1
  normalizedArtifactId : String
  normalizationRule : SemanticIdentityV1
  projectedArtifactId : String
  projectionRule : SemanticIdentityV1
  deriving DecidableEq, Repr

structure RefusedInputV1 where
  inputId : String
  refusalId : String
  code : String
  reason : String
  deriving DecidableEq, Repr

/-- A governed refusal with its origin as a JSON text. -/
structure GovernedRefusalV1 where
  refusalId : String
  origin : Bytes
  deriving DecidableEq, Repr

inductive ProfileRefusalBindingV2 where
  | artifactProfile
  | foreignInputRole (role : String)
  deriving DecidableEq, Repr

structure RefusedInputV2 where
  inputId : String
  refusal : GovernedRefusalV1
  profileBinding : Option ProfileRefusalBindingV2
  deriving DecidableEq, Repr

inductive FailedInputKindV1 where
  | missing | noResponse | acquisitionFailed | unsupported
  deriving DecidableEq, Repr

structure FailedInputV1 where
  expectationId : String
  failureId : String
  kind : FailedInputKindV1
  reason : String
  deriving DecidableEq, Repr

inductive UnsupportedCodeV2 where
  | questionUnsupported | providerCapabilityUnavailable | platformCapabilityUnavailable
  | contractVersionUnsupported
  deriving DecidableEq, Repr

inductive UnsupportedOriginV2 where
  | diagnosticProfile
  | expectedInput (failureId : String)
  deriving DecidableEq, Repr

structure UnsupportedCauseV2 where
  unsupportedId : String
  origin : UnsupportedOriginV2
  code : UnsupportedCodeV2
  capability : SemanticIdentityV1
  detail : String
  deriving DecidableEq, Repr

/-- The two provider failures keep `to_string(failure)`. -/
inductive FailedInputCauseV2 where
  | missing (reason : String)
  | providerNoResponse (providerIntakeId : String) (attempt : AcquisitionIntervalV2)
      (failure : String)
  | acquisitionFailed (providerIntakeId : String) (attempt : AcquisitionIntervalV2)
      (failure : String)
  | unsupported (unsupported : UnsupportedCauseV2)
  deriving DecidableEq, Repr

structure FailedInputV2 where
  expectationId : String
  failureId : String
  cause : FailedInputCauseV2
  deriving DecidableEq, Repr

structure ExcludedInputV1 where
  inputId : String
  projectedArtifactId : String
  code : String
  reason : String
  deriving DecidableEq, Repr

structure SelectedInputV1 where
  inputId : String
  projectedArtifactId : String
  role : String
  deriving DecidableEq, Repr

structure InputAccountingV1 where
  selectionRule : SemanticIdentityV1
  expected : List ExpectedInputV1
  received : List ReceivedInputV1
  admitted : List AdmittedInputV1
  refused : List RefusedInputV1
  failed : List FailedInputV1
  excluded : List ExcludedInputV1
  selected : List SelectedInputV1
  deriving DecidableEq, Repr

structure InputAccountingV2 where
  selectionRule : SemanticIdentityV1
  expected : List ExpectedInputV1
  received : List ReceivedInputV2
  admitted : List AdmittedInputV1
  refused : List RefusedInputV2
  failed : List FailedInputV2
  excluded : List ExcludedInputV1
  selected : List SelectedInputV1
  deriving DecidableEq, Repr

structure StateBindingV1 where
  bindingId : String
  kind : String
  value : String
  supportingInputIds : List String
  deriving DecidableEq, Repr

inductive ClaimStatusV1 where
  | established | refuted | unknown | contradictory
  deriving DecidableEq, Repr

inductive DerivationV1 where
  | completed | partial_ | refused | unsupported
  deriving DecidableEq, Repr

inductive ConditionV1 where
  | present | clean | explicitlyAbsent | unresolved | notApplicable
  deriving DecidableEq, Repr

inductive CoherenceV1 where
  | jointlyEstablished | pairwiseOnly | contradictory | stateIncompatible | insufficient
  | notEvaluated
  deriving DecidableEq, Repr

inductive CoverageV1 where
  | complete | partial_ | missing
  deriving DecidableEq, Repr

structure ClaimV1 where
  claimId : String
  proposition : String
  status : ClaimStatusV1
  conditionEffect : Option ConditionV1
  dependencyInputIds : List String
  stateBindingIds : List String
  requiredDistinctions : List String
  limitations : List String
  nonclaims : List String
  deriving DecidableEq, Repr

structure ClaimV2 where
  claimId : String
  proposition : String
  status : ClaimStatusV1
  conditionEffect : Option ConditionV1
  dependencyInputIds : List String
  dependencyRefusalIds : List String
  dependencyFailureIds : List String
  stateBindingIds : List String
  requiredDistinctions : List String
  limitations : List String
  nonclaims : List String
  deriving DecidableEq, Repr

structure RefusalV1 where
  code : String
  reason : String
  deriving DecidableEq, Repr

structure OutcomeV1 where
  derivation : DerivationV1
  condition : ConditionV1
  coherence : CoherenceV1
  coverage : CoverageV1
  summary : String
  refusal : Option RefusalV1
  deriving DecidableEq, Repr

structure OutcomeV2 where
  derivation : DerivationV1
  condition : ConditionV1
  coherence : CoherenceV1
  coverage : CoverageV1
  summary : String
  refusals : List GovernedRefusalV1
  unsupported : List UnsupportedCauseV2
  deriving DecidableEq, Repr

inductive LimitationKindV1 where
  | projectionLoss | missingEvidence | staleEvidence | stateMismatch | contradiction
  | coverageGap | unverifiedSeparation | unavailableEvidence | other
  deriving DecidableEq, Repr

structure LimitationV1 where
  kind : LimitationKindV1
  code : String
  detail : String
  deriving DecidableEq, Repr

structure OmittedDistinctionV1 where
  code : String
  detail : String
  deriving DecidableEq, Repr

structure ProjectionV1 where
  identity : SemanticIdentityV1
  omittedDistinctions : List OmittedDistinctionV1
  deriving DecidableEq, Repr

structure DiagnosticExecutionV1 where
  artifactId : String
  canonicalization : SemanticIdentityV1
  producer : ProducerV1
  requestId : String
  runId : String
  question : SemanticIdentityV1
  subject : SubjectV1
  profile : SemanticIdentityV1
  vantage : SemanticIdentityV1
  stateModel : SemanticIdentityV1
  evaluator : SemanticIdentityV1
  thresholdPolicy : SemanticIdentityV1
  projection : ProjectionV1
  executionClock : SemanticIdentityV1
  startedAt : String
  completedAt : String
  attemptInterval : AcquisitionIntervalV1
  inputs : InputAccountingV1
  stateBindings : List StateBindingV1
  claims : List ClaimV1
  primaryClaimId : Option String
  outcome : OutcomeV1
  limitations : List LimitationV1
  nonclaims : List String
  deriving DecidableEq, Repr

structure DiagnosticExecutionV2 where
  artifactId : String
  canonicalization : SemanticIdentityV1
  producer : ProducerV1
  requestId : String
  runId : String
  question : SemanticIdentityV1
  subject : SubjectV1
  profile : SemanticIdentityV1
  profileSemanticId : String
  vantage : SemanticIdentityV1
  stateModel : SemanticIdentityV1
  evaluator : SemanticIdentityV1
  thresholdPolicy : SemanticIdentityV1
  projection : ProjectionV1
  executionClock : SemanticIdentityV1
  startedAt : String
  completedAt : String
  attemptInterval : AcquisitionIntervalV2
  inputs : InputAccountingV2
  stateBindings : List StateBindingV1
  claims : List ClaimV2
  primaryClaimId : Option String
  outcome : OutcomeV2
  limitations : List LimitationV1
  nonclaims : List String
  deriving DecidableEq, Repr

inductive DiagnosticExecution where
  | v1 (value : DiagnosticExecutionV1)
  | v2 (value : DiagnosticExecutionV2)
  deriving DecidableEq, Repr

inductive DiagnosticInputFailureKind where
  | missing | providerNoResponse | acquisitionFailed | unsupported
  deriving DecidableEq, Repr

structure DiagnosticInputFailureTrace where
  expectationId : String
  failureId : String
  kind : DiagnosticInputFailureKind
  detail : String
  deriving DecidableEq, Repr

inductive AcquisitionInterval where
  | v1 (value : AcquisitionIntervalV1)
  | v2 (value : AcquisitionIntervalV2)
  deriving DecidableEq, Repr

inductive DiagnosticOutcome where
  | v1 (value : OutcomeV1)
  | v2 (value : OutcomeV2)
  deriving DecidableEq, Repr

inductive DiagnosticClaim where
  | v1 (value : ClaimV1)
  | v2 (value : ClaimV2)
  deriving DecidableEq, Repr

structure DiagnosticKey where
  questionId : String
  subjectId : String
  profileId : String
  vantageId : String
  deriving DecidableEq, Repr

end Nightshift.Diagnostic
