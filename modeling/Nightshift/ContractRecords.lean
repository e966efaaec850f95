import Nightshift.PacketRecords

/-!
Foreman contract records: the admission, the execution profile, the capacity
records, the V2 start request, adapter events and the two terminal receipts. An
extension value is kept as its canonical JSON text.
-/

namespace Nightshift

inductive ContractError where
  | json (message : String)
  | foreignSchema (schema : String)
  | invalidField (field : String)
  | digestMismatch (field : String)
  deriving DecidableEq, Repr

structure ForemanAdmissionV1 where
  schema : String
  admissionDigest : String
  runId : String
  packetDigest : String
  operatorBasisDigest : String
  admittedAt : Instant
  expiresAt : Instant
  localRuntimeIdentity : String
  maximumConcurrentWorkers : Nat
  allowedAdapterIds : List String
  allowedProviderModelClasses : List String
  maximumNewAttemptsPerWorkItem : Nat
  authorityEffect : String
  targetEffectsAuthorized : Bool
  deriving DecidableEq, Repr

inductive CapacityCostClassV1 where
  | cheap
  | expensive
  deriving DecidableEq, Repr

structure ForemanCapacityRequirementV1 where
  schema : String
  capacityRequirementDigest : String
  packetDigest : String
  admissionDigest : String
  profileDigest : String
  runId : String
  policyId : String
  providerId : String
  modelCostClasses : BTreeMap String CapacityCostClassV1
  authorityEffect : String
  deriving DecidableEq

structure ForemanCapacityAdmissionV1 where
  schema : String
  capacityAdmissionDigest : String
  packetDigest : String
  admissionDigest : String
  profileDigest : String
  capacityRequirementDigest : String
  runId : String
  workItemId : String
  adapterId : String
  providerId : String
  packetModelClass : String
  profileModelClass : String
  costClass : CapacityCostClassV1
  policyId : String
  observationDigest : String
  policyDigest : String
  decisionDigest : String
  evaluatedAt : Instant
  speculativeRequested : Bool
  authorityEffect : String
  deriving DecidableEq, Repr

structure AdapterRegistrationV2 where
  adapterId : String
  protocol : String
  adapterVersion : String
  executableIdentity : String
  boundedArguments : List String
  deriving DecidableEq, Repr

structure WorkItemExecutionV1 where
  adapterId : String
  workspaceIdentity : String
  resourceLockKeys : List String
  providerModelClass : String
  deriving DecidableEq, Repr

structure ExecutionProfileV2 where
  schema : String
  profileDigest : String
  packetDigest : String
  admissionDigest : String
  adapters : BTreeMap String AdapterRegistrationV2
  workItems : BTreeMap String WorkItemExecutionV1
  budgetPolicyRef : String
  logCustodyRoot : String
  receiptCustodyRoot : String
  maximumEventBytes : Nat
  maximumWorkerOutputBytes : Option Nat
  maximumReceiptBytes : Nat
  adapterTimeoutSeconds : Nat
  closeoutPolicy : String
  deriving DecidableEq

inductive SchedulerStateV1 where
  | waitingDependencies
  | readyEntryEvaluation
  | waitingResource
  | dispatching
  | running
  | waitingProvider
  | waitingApproval
  | waitingHuman
  | checkpointed
  | terminalReceiptAccepted
  | terminalReceiptRefused
  | notStarted
  | indeterminateMechanismState
  deriving DecidableEq, Repr

namespace SchedulerStateV1

def isExplicitTerminal : SchedulerStateV1 → Bool
  | terminalReceiptAccepted | notStarted => true
  | _ => false

end SchedulerStateV1

structure WorkerStartRequestV2 where
  schema : String
  requestDigest : String
  adapterId : String
  adapterVersion : String
  adapterProtocol : String
  packetDigest : String
  runId : String
  workItemId : String
  attemptId : String
  workerBriefDigest : String
  workspaceIdentity : String
  providerModelClass : String
  timeoutSeconds : Nat
  maximumOutputBytes : Nat
  recursiveWorkerSwarmsForbidden : Bool
  approvalPolicy : String
  expectedReceiptSchema : String
  deriving DecidableEq, Repr

inductive AdapterEventKindV1 where
  | adapterAccepted
  | providerIdentity
  | workerStarted
  | checkpoint
  | waitingApproval
  | humanQuestion
  | providerCompletionObservation
  | adapterDiagnostic
  | mechanismIndeterminate
  deriving DecidableEq, Repr

structure HumanQuestionV1 where
  questionId : String
  question : String
  exhaustedEvidence : String
  safeDefault : String
  consequences : String
  resumePoint : String
  deriving DecidableEq, Repr

structure AdapterEventV1 where
  schema : String
  eventDigest : String
  eventId : String
  packetDigest : String
  runId : String
  workItemId : String
  attemptId : String
  adapterId : String
  adapterVersion : String
  occurredAt : Instant
  kind : AdapterEventKindV1
  providerIdentity : Option String
  modelIdentity : Option String
  sessionIdentity : Option String
  threadIdentity : Option String
  turnIdentity : Option String
  queueIdentity : Option String
  message : Option String
  humanQuestion : Option HumanQuestionV1
  extensions : BTreeMap String String
  deriving DecidableEq

structure ReceiptRepositoryV1 where
  repository : String
  branch : String
  head : String
  pushStatus : String
  deriving DecidableEq, Repr

structure TeardownDeclarationV1 where
  liveRuntime : String
  secrets : String
  teardown : String
  deriving DecidableEq, Repr

structure TerminalReceiptV1 where
  schema : String
  receiptDigest : String
  packetDigest : String
  runId : String
  workItemId : String
  attemptId : String
  adapterId : String
  adapterVersion : String
  providerIdentity : String
  modelIdentity : String
  sessionIdentity : Option String
  threadIdentity : Option String
  turnIdentity : Option String
  queueIdentity : Option String
  startedAt : Instant
  endedAt : Instant
  state : String
  resultClassification : String
  repositories : List ReceiptRepositoryV1
  tests : List String
  evidence : List String
  liveOrProductionMutations : List String
  remainingTrigger : String
  nextLawfulAction : String
  humanQuestions : List HumanQuestionV1
  teardown : TeardownDeclarationV1
  extensions : BTreeMap String String
  deriving DecidableEq

structure NotStartedReceiptV1 where
  schema : String
  receiptDigest : String
  packetDigest : String
  runId : String
  workItemId : String
  recordedAt : Instant
  state : String
  resultClassification : String
  evidence : List String
  remainingTrigger : String
  nextLawfulAction : String
  humanQuestions : List HumanQuestionV1
  extensions : BTreeMap String String
  deriving DecidableEq

/-! The capacity owner's records. A JSON number is a finite float, which is kept
as the rational it denotes. -/

inductive SourceClass where
  | authoritative
  | observed
  | inferred
  | unknown
  deriving DecidableEq, Repr

inductive Confidence where
  | unknown
  | low
  | medium
  | high
  deriving DecidableEq, Repr

inductive ObservationDisposition where
  | usable
  | unknown
  deriving DecidableEq, Repr

inductive WindowType where
  | fiveHour
  | weekly
  | providerDefined
  deriving DecidableEq, Repr

structure RemainingUnits where
  remaining : Nat
  maximum : Nat
  unit : String
  deriving DecidableEq, Repr

structure CapacityWindow where
  windowId : String
  windowType : WindowType
  remainingFraction : Option Rat
  remainingUnits : Option RemainingUnits
  resetsAt : Option Instant
  deriving DecidableEq, Repr

structure ObservationEvidence where
  probeId : String
  protocolMethod : String
  protocolVersion : Option String
  executablePath : Option String
  executableDigest : Option String
  rawSourceDigest : String
  deriving DecidableEq, Repr

structure CapacityObservationV1 where
  schema : String
  providerId : String
  accountProfileLocator : String
  modelFamily : Option String
  observedAt : Instant
  expiresAt : Instant
  sourceClass : SourceClass
  confidence : Confidence
  disposition : ObservationDisposition
  unknownReasons : List String
  windows : List CapacityWindow
  evidence : ObservationEvidence
  observationDigest : String
  deriving DecidableEq, Repr

structure CapacityPolicyV1 where
  schema : String
  policyId : String
  abundantMinRemaining : Rat
  normalMinRemaining : Rat
  conserveMinRemaining : Rat
  minimumConfidence : Confidence
  requiredWindowTypes : List WindowType
  unknownAllowsNewCheapWork : Bool
  policyDigest : String
  deriving DecidableEq, Repr

inductive CapacityState where
  | abundant
  | normal
  | conserve
  | critical
  | unknown
  deriving DecidableEq, Repr

/-- `AdmissionDisposition` of the capacity owner -/
inductive CapacityAdmissionDisposition where
  | ordinaryBounded
  | cheapBoundedOnly
  | noNewWork
  deriving DecidableEq, Repr

structure CapacityDecisionV1 where
  schema : String
  providerId : String
  decisionAt : Instant
  state : CapacityState
  admission : CapacityAdmissionDisposition
  allowNewExpensiveWork : Bool
  allowNewSpeculativeWork : Bool
  allowActiveWorkToReachCustody : Bool
  reasonCodes : List String
  observationDigest : String
  policyDigest : String
  decisionDigest : String
  deriving DecidableEq, Repr

end Nightshift
