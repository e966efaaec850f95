import Nightshift.AvailabilityRecords

/-!
Journal payloads, scheduler projections, self-hosted custody records and the
documents the foreman serialises. The journal keeps an internal event as the
typed record its canonical bytes spell.
-/

namespace Nightshift

structure AcceptedOutcomeV1 where
  state : String
  resultClassification : String
  receiptDigest : String
  deriving DecidableEq, Repr

inductive InternalPayload where
  | runAdmitted
  | capacityRequirementAdmitted (requirement : ForemanCapacityRequirementV1)
      (requirementBytes : Bytes)
  | attemptCreated (resourceLockKeys : List String) (startRequest : WorkerStartRequestV2)
  | dispatchRequested
  | resumeRequested
  | capacityAdmissionAccepted (capacityAdmission : ForemanCapacityAdmissionV1)
      (admissionBytes observationBytes policyBytes decisionBytes : Bytes)
  | executionAvailabilityConfigured (requirement : ForemanExecutionAvailabilityRequirementV1)
      (requirementBytes : Bytes) (policy : ExecutionAvailabilityPolicyV1) (policyBytes : Bytes)
  | providerDispatchOpened (startRequest : WorkerStartRequestV3) (startRequestBytes : Bytes)
      (dispatch : ProviderDispatchOccurrenceV1) (dispatchBytes : Bytes)
  | providerDispositionRecorded (observation : ExecutionAvailabilityObservationV1)
      (observationBytes : Bytes) (disposition : ProviderAdmissionDispositionV1)
      (dispositionBytes : Bytes) (deferred : Option DeferredProviderDispatchV1)
      (deferredBytes : Option Bytes) (reconcilesDispositionDigest : Option String)
  | providerWakeOpened (wakeOccurrenceId deferredDispatchDigest nextDispatchDigest : String)
  | providerExecutionResumeRequested (resumeOccurrenceId dispositionDigest : String)
      (adapterProcessOccurrenceId : String) (executionIdentity : ProviderExecutionIdentityV1)
  | providerResourcesReleased (dispositionDigest dispatchDigest policyDigest : String)
      (resourceLockKeys : List String)
  | providerResourcesReacquired
      (wakeOccurrenceId deferredDispatchDigest nextDispatchDigest policyDigest : String)
      (resourceLockKeys : List String)
  | terminalAccepted (outcome : AcceptedOutcomeV1)
  | terminalRefused (reason : String)
  | notStartedAccepted (outcome : AcceptedOutcomeV1)
  | prelaunchClosureAccepted (closure : PrelaunchClosureV1) (receipt : NotStartedReceiptV1)
  | resourcesReleased
  | runClosed (finalReceiptsDigest : String)
  deriving DecidableEq

structure InternalEvent where
  schema : String
  eventId : String
  runId : String
  workItemId : Option String
  attemptId : Option String
  recordedAt : Instant
  payload : InternalPayload
  deriving DecidableEq

structure LiveWorkItemV1 where
  workItemId : String
  dependencies : List String
  schedulerState : SchedulerStateV1
  dependencyTerminality : BTreeMap String Bool
  resourceLockKeys : List String
  activeAttemptId : Option String
  adapterId : String
  adapterVersion : String
  providerModelClass : String
  providerIdentity : Option String
  modelIdentity : Option String
  sessionIdentity : Option String
  threadIdentity : Option String
  turnIdentity : Option String
  queueIdentity : Option String
  lastEventSequence : Option Nat
  lastEventDigest : Option String
  humanQuestions : List HumanQuestionV1
  acceptedTerminalOutcome : Option AcceptedOutcomeV1
  resultAbsentUntilTerminalReceiptAcceptance : Bool
  deriving DecidableEq

structure ResourceClaimV1 where
  resourceLockKey : String
  workItemId : String
  attemptId : String
  deriving DecidableEq, Repr

structure LiveRunProjectionV1 where
  schema : String
  runId : String
  packetId : String
  packetDigest : String
  admissionDigest : String
  profileDigest : String
  maximumConcurrentWorkers : Nat
  workItems : List LiveWorkItemV1
  resourceClaims : List ResourceClaimV1
  closedFinalReceiptsDigest : Option String
  authorityEffect : String
  deriving DecidableEq

structure SelfHostedForemanBootstrapV1 where
  schema : String
  bootstrapDigest : String
  digestPreimage : String
  campaignCodename : String
  canonicalSlug : String
  track : String
  holdingResultHead : String
  holdingQualifiedSubject : String
  durableRoadmapHead : String
  midnightResultHead : String
  siliconResultHead : String
  codexOwnerHead : String
  switchyardOwnerHead : String
  bootstrapOccurrenceId : String
  runId : String
  packetId : String
  packetDigest : String
  predecessorV2PacketDigest : String
  admissionDigest : String
  profileDigest : String
  capacityRequirementDigest : String
  capacityPolicyDigest : String
  executionAvailabilityRequirementDigest : String
  executionAvailabilityPolicyDigest : String
  localRuntimeIdentity : String
  evaluatedAt : Instant
  expectedWorkItemCount : Nat
  initiallyRunnableLaneCount : Nat
  presentationOnlyQuestionWorkItemId : String
  maximumDriverSteps : Nat
  maximumWallSeconds : Nat
  bootstrapDepth : Nat
  parentBootstrapOccurrenceId : Option String
  schedulerOwner : String
  workerAdapterMode : String
  wakeSourcePolicy : String
  closeoutPolicy : String
  authorityEffect : String
  targetEffectsAuthorized : Bool
  approvalResponseAuthorized : Bool
  protectedEffectAuthorized : Bool
  semanticRetryAuthorized : Bool
  bootstrapMayNest : Bool
  workerMayInvokeBootstrap : Bool
  outerConversationScheduler : Bool
  timerOrServiceActivationAuthorized : Bool
  productionActivationAuthorized : Bool
  aggregateResultCreated : Bool
  deriving DecidableEq

inductive SelfHostedDriverDispositionV1 where
  | readyWorkPresent
  | waitingForExactOwnerEvidence
  | allItemsExplicitTerminal
  | boundReached
  deriving DecidableEq, Repr

structure SelfHostedForemanDriverStepV1 where
  schema : String
  stepDigest : String
  bootstrapDigest : String
  bootstrapOccurrenceId : String
  runId : String
  stepOrdinal : Nat
  schedulerProcessOccurrenceId : String
  observedProjectionDigest : String
  disposition : SelfHostedDriverDispositionV1
  recordedAt : Instant
  workerDispatchAuthorized : Bool
  approvalResponseAuthorized : Bool
  protectedEffectAuthorized : Bool
  semanticRetryAuthorized : Bool
  aggregateResultCreated : Bool
  deriving DecidableEq, Repr

/-- Raw bytes retained under their own digest inside a worker brief. -/
structure RetainedRawBytesV1 where
  retainedRawDigest : String
  bytesHex : Bytes
  deriving DecidableEq

inductive ReceiptKind where
  | terminal
  | notStarted
  deriving DecidableEq, Repr

structure RetainedPredecessorReceiptV1 where
  receiptKind : ReceiptKind
  retainedRawDigest : String
  bytesHex : Bytes
  deriving DecidableEq

/-- The worker brief; the three recognised contracts keep the record their
canonical JSON text spells. -/
structure WorkerBriefV2 where
  packetDigest : String
  packetSource : RetainedRawBytesV1
  workItem : WorkItemV1
  predecessorReceipts : BTreeMap String RetainedPredecessorReceiptV1
  globalConstraints : GlobalConstraintsV1
  execution : WorkItemExecutionV1
  deriving DecidableEq

structure FinalWorkItem where
  id : String
  state : String
  resultClassification : String
  repositories : List ReceiptRepositoryV1
  tests : List String
  evidence : List String
  liveOrProductionMutations : List String
  remainingTrigger : String
  nextLawfulAction : String
  deriving DecidableEq, Repr

structure FinalQuestion where
  workItem : String
  exactQuestion : String
  evidenceExhausted : String
  safeDefault : String
  consequences : String
  resumePoint : String
  deriving DecidableEq, Repr

structure FinalCustody where
  repository : String
  branchHead : String
  pushCustody : String
  dirty : String
  liveRuntime : String
  secrets : String
  teardown : String
  deriving DecidableEq, Repr

structure FinalReceiptDocument where
  schema : String
  packetDigest : String
  updatedAt : String
  workItems : List FinalWorkItem
  humanQuestions : List FinalQuestion
  repositoryCustody : List FinalCustody
  deriving DecidableEq, Repr

/-- The members a deterministic qualification adapter writes as its raw bytes. -/
structure QualificationRawV1 where
  outcome : DeterministicProviderAdmissionOutcomeV1
  responseCreated : Bool
  nonAdmissionProven : Bool
  retryAfter : Option Instant
  observedAt : Instant
  deriving DecidableEq, Repr

structure QualificationRawV2 where
  outcome : DeterministicProviderAdmissionOutcomeV2
  responseCreated : Bool
  nonAdmissionProven : Bool
  retryAfter : Option Instant
  observedAt : Instant
  providerExecution : Option ProviderExecutionIdentityV1
  deriving DecidableEq, Repr

/-- Every record the foreman hands to the canonical serialiser. -/
inductive Document where
  | packet (record : NightshiftPacketV1)
  | admission (record : ForemanAdmissionV1)
  | profile (record : ExecutionProfileV2)
  | capacityRequirement (record : ForemanCapacityRequirementV1)
  | capacityAdmission (record : ForemanCapacityAdmissionV1)
  | capacityObservation (record : CapacityObservationV1)
  | capacityPolicy (record : CapacityPolicyV1)
  | capacityDecision (record : CapacityDecisionV1)
  | startRequestV2 (record : WorkerStartRequestV2)
  | adapterEvent (record : AdapterEventV1)
  | terminalReceipt (record : TerminalReceiptV1)
  | notStartedReceipt (record : NotStartedReceiptV1)
  | observation (record : ExecutionAvailabilityObservationV1)
  | policy (record : ExecutionAvailabilityPolicyV1)
  | requirement (record : ForemanExecutionAvailabilityRequirementV1)
  | startRequestV3 (record : WorkerStartRequestV3)
  | dispatch (record : ProviderDispatchOccurrenceV1)
  | disposition (record : ProviderAdmissionDispositionV1)
  | deferred (record : DeferredProviderDispatchV1)
  | qualificationV1 (record : DeterministicProviderAdmissionEvidenceV1)
  | qualificationV2 (record : DeterministicProviderAdmissionEvidenceV2)
  | qualificationRawV1 (record : QualificationRawV1)
  | qualificationRawV2 (record : QualificationRawV2)
  | prelaunchClosure (record : PrelaunchClosureV1)
  | bootstrap (record : SelfHostedForemanBootstrapV1)
  | driverStep (record : SelfHostedForemanDriverStepV1)
  | projection (record : LiveRunProjectionV1)
  | event (record : InternalEvent)
  | workerBrief (record : WorkerBriefV2)
  | finalReceipts (record : FinalReceiptDocument)
  | text (value : String)

inductive ForemanError where
  | sql (message : String)
  | contract (error : ContractError)
  | packet (error : PacketError)
  | duplicateRun (runId : String)
  | unknownRun (runId : String)
  | unknownWorkItem (workItemId : String)
  | identityMismatch (field : String)
  | transition (message : String)
  | resourceUnavailable (key : String)
  | duplicateEvent (eventId : String)
  | inputTooLarge (field : String)
  | incompleteCloseout (workItems : String)
  | readOnlyStore (message : String)
  | serialization (message : String)
  deriving DecidableEq, Repr

end Nightshift
