import Nightshift.ContractRecords

/-!
Provider-execution availability records: the run requirement and policy, the
dispatch occurrence and its V3 start request, the observation and disposition
of a dispatch, and the deferral a parked disposition binds. A lower-case hex
member is kept as the bytes it spells.
-/

namespace Nightshift

structure ExactAvailabilityEvidenceV1 where
  representation : String
  byteLength : Nat
  sha256 : String
  encoding : String
  bytesHex : Bytes
  deriving DecidableEq

inductive DeterministicProviderAdmissionOutcomeV1 where
  | rateLimited
  | providerUnavailable
  | authenticationRefused
  | transportError
  | protocolError
  deriving DecidableEq, Repr

structure DeterministicProviderAdmissionEvidenceV1 where
  schema : String
  evidenceDigest : String
  producerId : String
  producerVersion : String
  executableId : String
  executableSha256 : String
  workAttemptId : String
  dispatchOccurrenceId : String
  providerRequestOccurrenceId : String
  providerId : String
  modelId : String
  outcome : DeterministicProviderAdmissionOutcomeV1
  responseCreated : Bool
  nonAdmissionProven : Bool
  retryAfter : Option Instant
  observedAt : Instant
  receivedAt : Instant
  rawEvidence : ExactAvailabilityEvidenceV1
  authorityEffect : String
  deriving DecidableEq

structure ProviderExecutionIdentityV1 where
  providerId : String
  modelId : String
  appServerSessionIdentity : String
  threadId : String
  turnId : String
  firstResponseId : String
  deriving DecidableEq, Repr

inductive DeterministicProviderAdmissionOutcomeV2 where
  | providerUnavailable
  | executionCompleted
  deriving DecidableEq, Repr

structure DeterministicProviderAdmissionEvidenceV2 where
  schema : String
  evidenceDigest : String
  producerId : String
  producerVersion : String
  executableId : String
  executableSha256 : String
  workAttemptId : String
  dispatchOccurrenceId : String
  providerRequestOccurrenceId : String
  providerId : String
  modelId : String
  outcome : DeterministicProviderAdmissionOutcomeV2
  responseCreated : Bool
  nonAdmissionProven : Bool
  retryAfter : Option Instant
  observedAt : Instant
  receivedAt : Instant
  providerExecution : Option ProviderExecutionIdentityV1
  rawEvidence : ExactAvailabilityEvidenceV1
  authorityEffect : String
  deriving DecidableEq

structure ExactMapperSnapshotV1 where
  representation : String
  byteLength : Nat
  sha256 : String
  encoding : String
  bytesHex : Bytes
  deriving DecidableEq

inductive ExecutionAvailabilityStateV1 where
  | available
  | modelAtCapacity
  | providerUnavailable
  | rateLimited
  | authenticationRefused
  | transportError
  | protocolError
  | unknown
  deriving DecidableEq, Repr

structure ExecutionAvailabilityObservationV1 where
  schema : String
  observationDigest : String
  providerId : String
  modelId : String
  modelClass : String
  observedAt : Instant
  receivedAt : Instant
  expiresAt : Instant
  state : ExecutionAvailabilityStateV1
  sourceIdentity : String
  sourceVersion : String
  providerRetryAfter : Option Instant
  exactEvidence : Option ExactAvailabilityEvidenceV1
  authorityEffect : String
  deriving DecidableEq

inductive ParkedResourceLockPolicyV1 where
  | releaseAndReacquire
  | retainWhileParked
  deriving DecidableEq, Repr

structure ExecutionAvailabilityPolicyV1 where
  schema : String
  policyDigest : String
  policyId : String
  maximumDispatchOccurrencesPerAttempt : Nat
  backoffSeconds : List Nat
  maximumTotalDeferralSeconds : Nat
  parkedResourceLockPolicy : ParkedResourceLockPolicyV1
  providerCapacityReleasedWhileParked : Bool
  reconcileIndeterminate : Bool
  allowOrderedModelFallback : Bool
  automaticSemanticRetry : Bool
  approvalResponseAuthorized : Bool
  authorityEffect : String
  deriving DecidableEq, Repr

structure ProviderAdmissionOwnerPinsV1 where
  codexOwnerHead : String
  switchyardOwnerHead : String
  switchyardSchemaSha256 : String
  deterministicFixtureSha256 : String
  deriving DecidableEq, Repr

structure ProviderModelSelectionV1 where
  providerId : String
  modelId : String
  modelClass : String
  deriving DecidableEq, Repr

structure ForemanExecutionAvailabilityRequirementV1 where
  schema : String
  requirementDigest : String
  packetDigest : String
  admissionDigest : String
  profileDigest : String
  runId : String
  adapterId : String
  adapterProtocol : String
  adapterVersion : String
  adapterExecutableIdentity : String
  ownerPins : ProviderAdmissionOwnerPinsV1
  policyId : String
  policyDigest : String
  workItemModelSelections : BTreeMap String (List ProviderModelSelectionV1)
  admittedAt : Instant
  authorityEffect : String
  deriving DecidableEq

structure WorkerStartRequestV3 where
  schema : String
  requestDigest : String
  predecessorSchema : String
  predecessorRequestDigest : String
  predecessorSha256 : String
  predecessorEncoding : String
  predecessorBytesHex : Bytes
  packetDigest : String
  profileDigest : String
  runId : String
  workItemId : String
  attemptId : String
  workAttemptId : String
  dispatchOccurrenceId : String
  adapterId : String
  adapterVersion : String
  adapterProtocol : String
  workerBriefDigest : String
  workspaceIdentity : String
  providerModelClass : String
  timeoutSeconds : Nat
  maximumOutputBytes : Nat
  recursiveWorkerSwarmsForbidden : Bool
  approvalPolicy : String
  expectedReceiptSchema : String
  providerId : String
  modelId : String
  modelClass : String
  selectedModelOrdinal : Nat
  providerAdmissionAdapterProtocol : String
  providerAdmissionBindingSchema : String
  providerAdmissionEvidenceSchema : String
  providerAdmissionSnapshotSchema : String
  codexOwnerHead : String
  switchyardOwnerHead : String
  switchyardSchemaSha256 : String
  switchyardDeterministicFixtureSha256 : String
  providerExecutionId : Option String
  internalProviderRetryCount : Nat
  semanticRetry : Bool
  approvalResponseAuthorized : Bool
  authorityEffect : String
  deriving DecidableEq

structure ProviderDispatchOccurrenceV1 where
  schema : String
  dispatchDigest : String
  requirementDigest : String
  policyDigest : String
  packetDigest : String
  runId : String
  workItemId : String
  workAttemptId : String
  dispatchOccurrenceId : String
  dispatchOrdinal : Nat
  selectedModelOrdinal : Nat
  selection : ProviderModelSelectionV1
  adapterId : String
  adapterVersion : String
  adapterProtocol : String
  adapterProcessOccurrenceId : String
  appServerSessionIdentity : String
  workerStartRequestSchema : String
  workerStartRequestDigest : String
  workerBriefDigest : String
  openedAt : Instant
  internalProviderRetryCount : Nat
  providerExecutionId : Option String
  authorityEffect : String
  deriving DecidableEq, Repr

inductive ProviderAdmissionDispositionKindV1 where
  | notAdmittedModelAtCapacity
  | notAdmittedProviderUnavailable
  | notAdmittedRateLimited
  | authenticationRefused
  | quotaExhaustedFuelOwned
  | admissionIndeterminate
  | executionAdmitted
  deriving DecidableEq, Repr

inductive ProviderMechanismStateV1 where
  | parkedNotAdmitted
  | admissionIndeterminate
  | executionAdmitted
  | postAdmissionInterrupted
  | waitingApproval
  | providerCompleted
  deriving DecidableEq, Repr

structure ProviderAdmissionDispositionV1 where
  schema : String
  dispositionDigest : String
  dispatchDigest : String
  requirementDigest : String
  policyDigest : String
  packetDigest : String
  runId : String
  workItemId : String
  workAttemptId : String
  dispatchOccurrenceId : String
  providerId : String
  modelId : String
  providerRequestOccurrenceId : String
  adapterProcessOccurrenceId : String
  appServerSessionIdentity : String
  threadId : String
  turnId : String
  disposition : ProviderAdmissionDispositionKindV1
  mechanismState : ProviderMechanismStateV1
  receivedAt : Instant
  responseCreated : Bool
  willRetry : Bool
  acquisitionComplete : Bool
  providerRetryAfter : Option Instant
  providerExecution : Option ProviderExecutionIdentityV1
  mapperSnapshotSchema : String
  mapperSnapshotDigest : String
  mapperSnapshot : ExactMapperSnapshotV1
  approvalResponseSent : Bool
  protectedEffectAbsent : Bool
  authorityEffect : String
  deriving DecidableEq

inductive DeferredWakeBasisV1 where
  | providerRetryAfter
  | policyBackoff
  deriving DecidableEq, Repr

structure DeferredProviderDispatchV1 where
  schema : String
  deferredDispatchDigest : String
  requirementDigest : String
  policyDigest : String
  dispositionDigest : String
  packetDigest : String
  runId : String
  workItemId : String
  workAttemptId : String
  lastDispatchOccurrenceId : String
  providerId : String
  modelId : String
  selectedModelOrdinal : Nat
  remainingModelOrdinals : List Nat
  refusalReceivedAt : Instant
  wakeBasis : DeferredWakeBasisV1
  backoffOrdinal : Nat
  backoffSeconds : Nat
  providerRetryAfter : Option Instant
  wakeAt : Instant
  parkedResourceLockPolicy : ParkedResourceLockPolicyV1
  providerCapacityReleased : Bool
  semanticRetry : Bool
  authorityEffect : String
  deriving DecidableEq, Repr

/-- The three owner receipts that admit a later dispatch occurrence. -/
structure ProviderDeferralHistoryEntryV1 where
  dispatch : ProviderDispatchOccurrenceV1
  disposition : ProviderAdmissionDispositionV1
  deferred : DeferredProviderDispatchV1
  deriving DecidableEq

/-- What the source of a disposition says about the observation it came from. -/
structure DispositionSourceObservation where
  evidence : Option ExactAvailabilityEvidenceV1
  observedAt : Instant
  identity : String
  version : String
  deriving DecidableEq

structure PrelaunchBindingV1 where
  packetDigest : String
  runId : String
  workItemId : String
  workAttemptId : String
  dispatchOccurrenceId : String
  adapterProcessOccurrenceId : String
  requestDigest : String
  requestSha256 : String
  workerBriefDigest : String
  briefSha256 : String
  backendSha256 : String
  dispatchDigest : String
  dispatchSha256 : String
  switchyardOwnerHead : String
  codexOwnerHead : String
  deriving DecidableEq, Repr

structure PrelaunchSupervisorAttestationV1 where
  schema : String
  binding : PrelaunchBindingV1
  supervisorIdentity : String
  host : String
  unit : String
  invocationId : String
  activeState : String
  result : String
  exitCode : Nat
  observedAt : Instant
  originalRunnerSha256 : String
  unitEvidenceSha256 : String
  failureEvidenceSha256 : String
  boundary : String
  originalProducerTerminated : Bool
  alternateWritersExcluded : Bool
  trustBasis : String
  deriving DecidableEq, Repr

structure PrelaunchClosureV1 where
  schema : String
  closureDigest : String
  binding : PrelaunchBindingV1
  closedAt : Instant
  evidenceMode : String
  failureCode : String
  supervisorAttestation : Option PrelaunchSupervisorAttestationV1
  observerSourceHead : String
  observerRunnerSha256 : String
  state : String
  providerClaimAbsent : Bool
  backendStarted : Bool
  authorityEffect : String
  deriving DecidableEq, Repr

end Nightshift
