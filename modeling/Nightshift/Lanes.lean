import Nightshift.Validator

/-!
# Attempts and provider lanes

The calls that create an attempt and carry its provider dispatches: prepare,
open, record a disposition, wake and resume. Each is one transaction over the
run and checks the whole history again before it commits.
-/

namespace Nightshift

open Checked

def findItem (projection : LiveRunProjectionV1) (workItemId : String) :
    Except ForemanError LiveWorkItemV1 :=
  okOr (projection.workItems.find? fun item => item.workItemId == workItemId)
    (.unknownWorkItem workItemId)

def isEntryEligible (state : SchedulerStateV1) : Bool :=
  state == .readyEntryEvaluation || state == .waitingResource

namespace RunTables

def priorAttemptExists (t : RunTables) (workItemId : String) : Except ForemanError Bool := do
  let events ← (t.events.filter fun row =>
    row.workItemId == some workItemId && row.kind == .internal).mapM (·.internalEvent)
  .ok (events.any fun event =>
    match event.payload with
    | .attemptCreated _ _ => true
    | _ => false)

def exactActiveAttempt (w : Platform) (t : RunTables) (runId workItemId attemptId : String) :
    Except ForemanError Unit := do
  let projection ← loadProjection w t runId
  let item ← findItem projection workItemId
  refuseIf item.schedulerState.isExplicitTerminal
    (.transition "terminal attempt cannot be resumed or reused")
  refuseIf (item.activeAttemptId != some attemptId) (.identityMismatch "attempt_id")

def loadAttemptStartRequest (t : RunTables) (workItemId attemptId : String) :
    Except ForemanError WorkerStartRequestV2 := do
  let found ← (t.events.filter fun row => row.workItemId == some workItemId &&
      row.attemptId == some attemptId && row.kind == .internal).foldlM
    (fun found row => do
      let event ← row.internalEvent
      match event.payload with
      | .attemptCreated _ startRequest => do
        refuseIf (Option.isSome found)
          (.readOnlyStore "duplicate exact work-attempt start request")
        .ok (some startRequest)
      | _ => .ok found) none
  okOr found (.transition "work attempt lacks exact V2 start predecessor")

def requireAttemptResourceClaims (t : RunTables) (profile : ExecutionProfileV2)
    (workItemId attemptId : String) : Except ForemanError Unit := do
  let execution ← okOr (profile.workItems[workItemId]?) (.unknownWorkItem workItemId)
  forEach execution.resourceLockKeys fun lock =>
    refuseIf (t.resourceClaims[lock]? != some (workItemId, attemptId)) (.resourceUnavailable
      ("required lock " ++ lock ++ " is not held by exact work attempt"))

end RunTables

/-- The availability history a provider call requires. -/
def requireHistory (w : Platform) (t : RunTables) (c : Contracts) (message : String) :
    Except ForemanError History := do
  let history ← loadExecutionAvailabilityHistory w t c
  okOr history (.transition message)

def noRequirement : String := "run has no immutable execution-availability requirement"

/-- The attempts whose last resource transition is a release. -/
def releasedAttempts (transitions : List ResourceTransitionRecord) : BTreeSet String :=
  transitions.foldl (fun released record =>
    match record.transition with
    | .released => released.insert record.workAttemptId
    | .reacquired => released.erase record.workAttemptId) ∅

/-- An active attempt that occupies a worker slot. -/
def occupiesSlot (released : BTreeSet String) (item : LiveWorkItemV1) : Bool :=
  item.activeAttemptId.any fun attemptId =>
    !item.schedulerState.isExplicitTerminal && !released.contains attemptId

def activeWorkers (released : BTreeSet String) (projection : LiveRunProjectionV1) : Nat :=
  (projection.workItems.filter (occupiesSlot released)).length

namespace Tx

/-- Take one lock again, unless the attempt already has it. -/
def reacquireLock (workItemId attemptId : String) (tx : Tx) (lock : String) :
    Except ForemanError Tx :=
  match tx.tables.resourceClaims[lock]? with
  | some owner =>
    if owner.1 == workItemId && owner.2 == attemptId then .ok tx
    else .error (.resourceUnavailable (lock ++ " held by " ++ owner.1))
  | none => .ok { tx with tables := { tx.tables with
      resourceClaims := tx.tables.resourceClaims.insert lock (workItemId, attemptId) } }

/-- `reacquire_attempt_resource_claims` -/
def reacquireAttemptResourceClaims (tx : Tx) (profile : ExecutionProfileV2)
    (workItemId attemptId : String) : Except ForemanError Tx := do
  let execution ← okOr (profile.workItems[workItemId]?) (.unknownWorkItem workItemId)
  execution.resourceLockKeys.foldlM (reacquireLock workItemId attemptId) tx

def appendProviderDispatch (w : Platform) (tx : Tx) (runId workItemId attemptId : String)
    (opened : OpenedDispatch) (maximumEventBytes : Nat) : Except ForemanError Tx :=
  tx.appendExecutionAvailabilityBounded w
    { schema := internalEventSchema
      eventId := "provider-dispatch-" ++ opened.dispatch.dispatchOccurrenceId
      runId := runId
      workItemId := some workItemId
      attemptId := some attemptId
      recordedAt := opened.dispatch.openedAt
      payload := .providerDispatchOpened opened.workerStartRequest
        (w.canonical (.startRequestV3 opened.workerStartRequest)) opened.dispatch
        (w.canonical (.dispatch opened.dispatch)) } maximumEventBytes

def appendProviderDisposition (w : Platform) (tx : Tx) (runId workItemId attemptId : String)
    (evidence : AcceptedDisposition) (predecessorDispositionDigest : Option String)
    (maximumEventBytes : Nat) : Except ForemanError Tx :=
  tx.appendExecutionAvailabilityBounded w
    { schema := internalEventSchema
      eventId := "provider-disposition-" ++ evidence.disposition.dispositionDigest
      runId := runId
      workItemId := some workItemId
      attemptId := some attemptId
      recordedAt := evidence.disposition.receivedAt
      payload := .providerDispositionRecorded evidence.observation evidence.observationBytes
        evidence.disposition evidence.dispositionBytes evidence.deferred evidence.deferredBytes
        predecessorDispositionDigest } maximumEventBytes

end Tx

/-- `ProviderDispatchPreparation` -/
structure DispatchPreparation where
  dispatchOccurrenceId : String
  adapterProcessOccurrenceId : String
  appServerSessionIdentity : String
  selectedModelOrdinal : Nat
  deriving DecidableEq, Repr

namespace Tx

variable (w : Platform)

/-- The locks of a candidate are free in the claim table. -/
def checkLocksFree (tx : Tx) (locks : List String) : Except ForemanError Unit :=
  forEach locks fun lock =>
    match tx.tables.resourceClaims[lock]? with
    | some holder => .error (.resourceUnavailable (lock ++ " held by " ++ holder.1))
    | none => .ok ()

/-- A run uses exactly the start path and the evidence its requirements name. -/
def checkStartPath (history : Option History) (preparation : Option DispatchPreparation) :
    Except ForemanError Unit := do
  refuseIf (history.isSome && preparation.isNone)
    (.transition "availability-required run refuses legacy V2 start path")
  refuseIf (history.isNone && preparation.isSome)
    (.transition "legacy run has no execution-availability requirement")

def checkCapacityPath (requirement : Option ForemanCapacityRequirementV1)
    (capacity : Option CapacityBundle) : Except ForemanError Unit := do
  refuseIf (requirement.isSome && capacity.isNone)
    (.transition "capacity-required run refuses legacy attempt preparation")
  refuseIf (requirement.isNone && capacity.isSome)
    (.transition "legacy run has no immutable capacity requirement")

/-- The sealed V2 start request of a fresh attempt. -/
def startRequest (tx : Tx) (c : Contracts) (runId workItemId attemptId : String)
    (execution : WorkItemExecutionV1) (adapter : AdapterRegistrationV2) :
    Except ForemanError WorkerStartRequestV2 := do
  let brief ← workerBrief w tx.tables c.packet c.profile workItemId
  let request ← mapErr .contract (WorkerStartRequestV2.sealed w
    { schema := workerStartRequestSchemaV2
      requestDigest := placeholderDigest
      adapterId := adapter.adapterId
      adapterVersion := adapter.adapterVersion
      adapterProtocol := adapter.protocol
      packetDigest := c.packet.packetDigest
      runId := runId
      workItemId := workItemId
      attemptId := attemptId
      workerBriefDigest := workerBriefDigest w brief
      workspaceIdentity := execution.workspaceIdentity
      providerModelClass := execution.providerModelClass
      timeoutSeconds := c.profile.adapterTimeoutSeconds
      maximumOutputBytes := c.profile.workerOutputBound
      recursiveWorkerSwarmsForbidden := true
      approvalPolicy := "SURFACE_ONLY_NO_RESPONSE"
      expectedReceiptSchema := workerTerminalReceiptSchemaV1 })
  mapErr .contract (brief.validateForStart w request)
  .ok request

def appendCapacityAdmission (tx : Tx) (c : Contracts) (runId workItemId attemptId : String)
    (requirement : Option ForemanCapacityRequirementV1) (recordedAt : Instant) :
    Option CapacityBundle → Except ForemanError Tx
  | none => .ok tx
  | some capacity => do
    let requirement ← okOr requirement (.transition "capacity requirement missing")
    validateCapacityBindings capacity c.packet c.admission c.profile requirement workItemId
      recordedAt
    tx.drawn.appendInternalBounded w
      { schema := internalEventSchema
        eventId := "capacity-admitted-" ++ tx.uuid w
        runId := runId
        workItemId := some workItemId
        attemptId := some attemptId
        recordedAt := recordedAt
        payload := .capacityAdmissionAccepted capacity.admission capacity.admissionBytes
          capacity.observationBytes capacity.policyBytes capacity.decisionBytes }
      c.profile.maximumEventBytes c.maximumCapacityRows

/-- The first dispatch of a fresh attempt, in the transaction that creates it. -/
def openFirstDispatch (tx : Tx) (c : Contracts) (runId workItemId attemptId : String)
    (request : WorkerStartRequestV2) (history : Option History) (recordedAt : Instant) :
    Option DispatchPreparation → Except ForemanError (Option OpenedDispatch × Tx)
  | none => .ok (none, tx)
  | some preparation => do
    let history ← okOr history (.transition "execution-availability requirement disappeared")
    let opened ← buildProviderDispatch w request c.profile history.requirement
      preparation.dispatchOccurrenceId preparation.adapterProcessOccurrenceId
      preparation.appServerSessionIdentity preparation.selectedModelOrdinal 1 recordedAt
    let tx ← tx.appendProviderDispatch w runId workItemId attemptId opened
      c.profile.maximumEventBytes
    .ok (some opened, tx)

/-- `prepare_attempt_internal` -/
def prepareAttemptInternal (tx : Tx) (runId workItemId : String) (recordedAt : Instant)
    (capacity : Option CapacityBundle) (preparation : Option DispatchPreparation) :
    Except ForemanError ((WorkerStartRequestV2 × Option OpenedDispatch) × Tx) := do
  let projection ← loadProjection w tx.tables runId
  let item ← findItem projection workItemId
  refuseIf (!isEntryEligible item.schedulerState)
    (.transition (workItemId ++ " is " ++ item.schedulerState.debugName ++
      ", not entry-evaluation eligible"))
  let prior ← tx.tables.priorAttemptExists workItemId
  refuseIf prior (.transition "V1 admits no automatic or implicit second attempt")
  tx.checkLocksFree item.resourceLockKeys
  let c ← loadContracts w tx.tables runId
  let requirement ← loadCapacityRequirement w tx.tables
  let history ← loadExecutionAvailabilityHistory w tx.tables c
  checkStartPath history preparation
  let released := releasedAttempts ((history.map (·.resourceTransitions)).getD [])
  refuseIf (activeWorkers released projection ≥ projection.maximumConcurrentWorkers)
    (.resourceUnavailable "maximum concurrent workers reached")
  checkCapacityPath requirement capacity
  let attemptId := "attempt-" ++ tx.uuid w
  let tx := tx.drawn
  let execution ← okOr (c.profile.workItems[workItemId]?) (.unknownWorkItem workItemId)
  let adapter ← okOr (c.profile.adapters[execution.adapterId]?) (.unknownWorkItem workItemId)
  let request ← tx.startRequest w c runId workItemId attemptId execution adapter
  let tx ← tx.appendCapacityAdmission w c runId workItemId attemptId requirement recordedAt
    capacity
  let tx ← tx.insertClaims execution.resourceLockKeys workItemId attemptId
  let tx ← tx.drawn.appendInternal w
    { schema := internalEventSchema
      eventId := "attempt-created-" ++ tx.uuid w
      runId := runId
      workItemId := some workItemId
      attemptId := some attemptId
      recordedAt := recordedAt
      payload := .attemptCreated execution.resourceLockKeys request }
  let opened ← tx.openFirstDispatch w c runId workItemId attemptId request history recordedAt
    preparation
  let _ ← loadExecutionAvailabilityHistory w opened.2.tables c
  .ok ((request, opened.1), opened.2)

/-- `open_provider_dispatch` -/
def openProviderDispatch (tx : Tx) (runId workItemId attemptId : String)
    (preparation : DispatchPreparation) (openedAt : Instant) :
    Except ForemanError (OpenedDispatch × Tx) := do
  tx.tables.exactActiveAttempt w runId workItemId attemptId
  let c ← loadContracts w tx.tables runId
  let history ← requireHistory w tx.tables c noRequirement
  refuseIf (history.dispatches.any fun dispatch => dispatch.workAttemptId == attemptId)
    (.transition "initial provider dispatch already exists for work attempt")
  tx.tables.requireAttemptResourceClaims c.profile workItemId attemptId
  let predecessor ← tx.tables.loadAttemptStartRequest workItemId attemptId
  let opened ← buildProviderDispatch w predecessor c.profile history.requirement
    preparation.dispatchOccurrenceId preparation.adapterProcessOccurrenceId
    preparation.appServerSessionIdentity preparation.selectedModelOrdinal 1 openedAt
  let tx ← tx.appendProviderDispatch w runId workItemId attemptId opened
    c.profile.maximumEventBytes
  let _ ← loadExecutionAvailabilityHistory w tx.tables c
  .ok (opened, tx)

/-- The predecessor a disposition names is the last one of its dispatch. -/
def checkDispositionPredecessor (last : Option ProviderAdmissionDispositionV1)
    (expected : Option String) (next : ProviderAdmissionDispositionV1) :
    Except ForemanError Unit :=
  match last, expected with
  | none, none => .ok ()
  | some previous, some digest =>
    if previous.dispositionDigest == digest then
      validateProviderDispositionTransition previous next
    else .error (.transition "provider disposition predecessor mismatch")
  | _, _ => .error (.transition "provider disposition predecessor mismatch")

/-- Park an attempt: journal the release and delete its claims. -/
def releaseParked (tx : Tx) (c : Contracts) (runId workItemId attemptId : String)
    (policy : ExecutionAvailabilityPolicyV1) (disposition : ProviderAdmissionDispositionV1) :
    Except ForemanError Tx := do
  let execution ← okOr (c.profile.workItems[workItemId]?) (.unknownWorkItem workItemId)
  let tx ← tx.appendExecutionAvailabilityBounded w
    { schema := internalEventSchema
      eventId := "provider-resources-released-" ++ disposition.dispositionDigest
      runId := runId
      workItemId := some workItemId
      attemptId := some attemptId
      recordedAt := disposition.receivedAt
      payload := .providerResourcesReleased disposition.dispositionDigest
        disposition.dispatchDigest policy.policyDigest execution.resourceLockKeys }
    c.profile.maximumEventBytes
  .ok (tx.deleteClaims workItemId attemptId)

/-- Under this policy a disposition that parks the attempt gives back its locks. -/
def parks (policy : ExecutionAvailabilityPolicyV1)
    (disposition : ProviderAdmissionDispositionV1) : Bool :=
  disposition.permitsAutomaticPark && policy.parkedResourceLockPolicy == .releaseAndReacquire

def parkIfDue (tx : Tx) (c : Contracts) (runId workItemId attemptId : String)
    (policy : ExecutionAvailabilityPolicyV1) (disposition : ProviderAdmissionDispositionV1) :
    Except ForemanError Tx :=
  if parks policy disposition then
    tx.releaseParked w c runId workItemId attemptId policy disposition
  else .ok tx

/-- `record_provider_disposition`, after the evidence was validated. -/
def recordProviderDisposition (tx : Tx) (runId workItemId attemptId : String)
    (accepted : AcceptedDisposition) (predecessorDispositionDigest : Option String) :
    Except ForemanError (ProviderAdmissionDispositionV1 × Tx) := do
  tx.tables.exactActiveAttempt w runId workItemId attemptId
  let c ← loadContracts w tx.tables runId
  let history ← requireHistory w tx.tables c noRequirement
  let dispatch ← okOr (history.dispatches.find? fun dispatch =>
      dispatch.workAttemptId == attemptId &&
        dispatch.dispatchDigest == accepted.disposition.dispatchDigest)
    (.identityMismatch "dispatch_digest")
  checkDispositionPredecessor
    (history.dispositions.filter fun disposition =>
      disposition.dispatchDigest == dispatch.dispatchDigest).getLast?
    predecessorDispositionDigest accepted.disposition
  let prior ← history.providerDeferralHistory attemptId dispatch.dispatchOrdinal
  mapErr .contract (AvailabilityGraph.validate w history.requirement history.policy dispatch
    accepted.observation accepted.disposition prior accepted.deferred)
  let tx ← tx.appendProviderDisposition w runId workItemId attemptId accepted
    predecessorDispositionDigest c.profile.maximumEventBytes
  let tx ← tx.parkIfDue w c runId workItemId attemptId history.policy accepted.disposition
  let _ ← loadExecutionAvailabilityHistory w tx.tables c
  .ok (accepted.disposition, tx)

/-- A retained wake returns the dispatch it opened, and only for its own arguments. -/
def retainedWake (history : History) (position : Nat) (attemptId wakeOccurrenceId : String)
    (preparation : DispatchPreparation) (openedAt : Instant) :
    Except ForemanError OpenedDispatch := do
  refuseIf (history.wakeWorkAttemptIds[position]? != some attemptId)
    (.duplicateEvent wakeOccurrenceId)
  let nextDigest ← okOr (history.wakeNextDispatchDigests[position]?)
    (.readOnlyStore "wake occurrence lacks exact next dispatch digest")
  let index ← okOr (history.dispatches.findIdx? fun dispatch =>
      dispatch.dispatchDigest == nextDigest)
    (.readOnlyStore "wake occurrence lacks exact next dispatch")
  let dispatch ← okOr (history.dispatches[index]?)
    (.readOnlyStore "wake occurrence lacks exact next dispatch")
  let start ← okOr (history.workerStartRequests[index]?)
    (.readOnlyStore "wake occurrence lacks exact next dispatch")
  refuseIf (dispatch.dispatchOccurrenceId != preparation.dispatchOccurrenceId ||
      dispatch.adapterProcessOccurrenceId != preparation.adapterProcessOccurrenceId ||
      dispatch.appServerSessionIdentity != preparation.appServerSessionIdentity ||
      dispatch.selectedModelOrdinal != preparation.selectedModelOrdinal ||
      dispatch.openedAt != openedAt)
    (.duplicateEvent wakeOccurrenceId)
  .ok ⟨start, dispatch⟩

/-- Under release-and-reacquire a wake takes a worker slot again. -/
def checkWakeSlot (tx : Tx) (runId : String) (history : History) : Except ForemanError Unit := do
  if history.policy.parkedResourceLockPolicy == .releaseAndReacquire then do
    let projection ← loadProjection w tx.tables runId
    refuseIf (activeWorkers (releasedAttempts history.resourceTransitions) projection ≥
        projection.maximumConcurrentWorkers)
      (.resourceUnavailable "maximum concurrent workers reached while waking parked dispatch")
  else .ok ()

/-- The parked deferral a wake continues. -/
def wakeDeferral (history : History) (attemptId : String) (openedAt : Instant) :
    Except ForemanError DeferredProviderDispatchV1 := do
  let lastDispatch ← okOr (history.lane attemptId).getLast?
    (.transition "wake requires a prior provider dispatch")
  let lastDisposition ← okOr (history.lastDispositionOf lastDispatch.dispatchDigest)
    (.transition "wake requires a prior provider disposition")
  let deferred ← okOr (history.deferredOf lastDisposition.dispositionDigest)
    (.transition "wake requires exact parked deferral")
  refuseIf (lastDisposition.mechanismState != .parkedNotAdmitted || openedAt < deferred.wakeAt)
    (.transition "parked dispatch is not yet wake eligible")
  .ok deferred

def wakeLawful (history : History) (attemptId : String) (deferred : DeferredProviderDispatchV1)
    (preparation : DispatchPreparation) : Bool :=
  (preparation.selectedModelOrdinal == deferred.selectedModelOrdinal ||
      (history.policy.allowOrderedModelFallback &&
        deferred.remainingModelOrdinals.head? == some preparation.selectedModelOrdinal)) &&
    (history.lane attemptId).length < history.policy.maximumDispatchOccurrencesPerAttempt &&
    !(history.dispatches.any fun dispatch =>
      dispatch.adapterProcessOccurrenceId == preparation.adapterProcessOccurrenceId)

/-- Take the locks of a parked attempt again, or check that they were kept. -/
def regainLocks (tx : Tx) (c : Contracts) (runId workItemId attemptId wakeOccurrenceId : String)
    (policy : ExecutionAvailabilityPolicyV1) (deferred : DeferredProviderDispatchV1)
    (opened : OpenedDispatch) (openedAt : Instant) : Except ForemanError Tx :=
  match policy.parkedResourceLockPolicy with
  | .releaseAndReacquire => do
    let tx ← tx.reacquireAttemptResourceClaims c.profile workItemId attemptId
    let execution ← okOr (c.profile.workItems[workItemId]?) (.unknownWorkItem workItemId)
    tx.appendExecutionAvailabilityBounded w
      { schema := internalEventSchema
        eventId := "provider-resources-reacquired-" ++ wakeOccurrenceId
        runId := runId
        workItemId := some workItemId
        attemptId := some attemptId
        recordedAt := openedAt
        payload := .providerResourcesReacquired wakeOccurrenceId deferred.deferredDispatchDigest
          opened.dispatch.dispatchDigest policy.policyDigest execution.resourceLockKeys }
      c.profile.maximumEventBytes
  | .retainWhileParked => do
    tx.tables.requireAttemptResourceClaims c.profile workItemId attemptId
    .ok tx

/-- Open the next dispatch of a parked attempt. -/
def openWake (tx : Tx) (c : Contracts) (runId workItemId attemptId wakeOccurrenceId : String)
    (history : History) (preparation : DispatchPreparation) (openedAt : Instant) :
    Except ForemanError (OpenedDispatch × Tx) := do
  tx.checkWakeSlot w runId history
  let deferred ← wakeDeferral history attemptId openedAt
  refuseIf (!wakeLawful history attemptId deferred preparation)
    (.transition "wake model, dispatch bound, or process occurrence is not lawful")
  let predecessor ← tx.tables.loadAttemptStartRequest workItemId attemptId
  let opened ← buildProviderDispatch w predecessor c.profile history.requirement
    preparation.dispatchOccurrenceId preparation.adapterProcessOccurrenceId
    preparation.appServerSessionIdentity preparation.selectedModelOrdinal
    ((history.lane attemptId).length + 1) openedAt
  let tx ← tx.regainLocks w c runId workItemId attemptId wakeOccurrenceId history.policy deferred
    opened openedAt
  let tx ← tx.appendExecutionAvailabilityBounded w
    { schema := internalEventSchema
      eventId := "provider-wake-" ++ wakeOccurrenceId
      runId := runId
      workItemId := some workItemId
      attemptId := some attemptId
      recordedAt := openedAt
      payload := .providerWakeOpened wakeOccurrenceId deferred.deferredDispatchDigest
        opened.dispatch.dispatchDigest } c.profile.maximumEventBytes
  let tx ← tx.appendProviderDispatch w runId workItemId attemptId opened
    c.profile.maximumEventBytes
  let _ ← loadExecutionAvailabilityHistory w tx.tables c
  .ok (opened, tx)

/-- `wake_provider_dispatch` -/
def wakeProviderDispatch (tx : Tx) (runId workItemId attemptId wakeOccurrenceId : String)
    (preparation : DispatchPreparation) (openedAt : Instant) :
    Except ForemanError (OpenedDispatch × Tx) := do
  tx.tables.exactActiveAttempt w runId workItemId attemptId
  let c ← loadContracts w tx.tables runId
  let history ← requireHistory w tx.tables c noRequirement
  match history.wakeOccurrenceIds.findIdx? fun value => value == wakeOccurrenceId with
  | some position => do
    let opened ← retainedWake history position attemptId wakeOccurrenceId preparation openedAt
    .ok (opened, tx)
  | none =>
    tx.openWake w c runId workItemId attemptId wakeOccurrenceId history preparation openedAt

/-- A retained resume accepts only its own arguments again. -/
def checkRetainedResume (history : History) (position : Nat)
    (workItemId attemptId resumeOccurrenceId dispositionDigest adapterProcessOccurrenceId : String)
    (executionIdentity : ProviderExecutionIdentityV1) (recordedAt : Instant) :
    Except ForemanError Unit :=
  refuseIf (history.resumeWorkItemIds[position]? != some workItemId ||
      history.resumeWorkAttemptIds[position]? != some attemptId ||
      history.resumeDispositionDigests[position]? != some dispositionDigest ||
      history.resumeAdapterProcessOccurrenceIds[position]? != some adapterProcessOccurrenceId ||
      history.resumeExecutionIdentities[position]? != some executionIdentity ||
      history.resumeRecordedAt[position]? != some recordedAt)
    (.duplicateEvent resumeOccurrenceId)

def checkResume (history : History) (attemptId dispositionDigest : String)
    (adapterProcessOccurrenceId : String) (executionIdentity : ProviderExecutionIdentityV1)
    (recordedAt : Instant) : Except ForemanError Unit := do
  let disposition ← okOr (history.dispositions.reverse.find? fun value =>
      value.workAttemptId == attemptId)
    (.transition "resume requires exact post-admission disposition")
  refuseIf (history.resumeDispositionDigests.contains dispositionDigest ||
      (history.dispatches.any fun dispatch =>
        dispatch.adapterProcessOccurrenceId == adapterProcessOccurrenceId) ||
      history.resumeAdapterProcessOccurrenceIds.contains adapterProcessOccurrenceId)
    (.transition "resume disposition or adapter process occurrence is already retained")
  refuseIf (disposition.dispositionDigest != dispositionDigest ||
      disposition.mechanismState != .postAdmissionInterrupted ||
      disposition.providerExecution != some executionIdentity ||
      executionIdentity.appServerSessionIdentity != disposition.appServerSessionIdentity ||
      recordedAt < disposition.receivedAt)
    (.transition "resume is not bound to exact interrupted execution")

/-- `resume_provider_execution`, after the argument checks. -/
def resumeProviderExecution (tx : Tx) (runId workItemId attemptId resumeOccurrenceId : String)
    (dispositionDigest adapterProcessOccurrenceId : String)
    (executionIdentity : ProviderExecutionIdentityV1) (recordedAt : Instant) :
    Except ForemanError (Unit × Tx) := do
  tx.tables.exactActiveAttempt w runId workItemId attemptId
  let c ← loadContracts w tx.tables runId
  let history ← requireHistory w tx.tables c noRequirement
  match history.resumeOccurrenceIds.findIdx? fun value => value == resumeOccurrenceId with
  | some position => do
    checkRetainedResume history position workItemId attemptId resumeOccurrenceId dispositionDigest
      adapterProcessOccurrenceId executionIdentity recordedAt
    .ok ((), tx)
  | none => do
    checkResume history attemptId dispositionDigest adapterProcessOccurrenceId executionIdentity
      recordedAt
    tx.tables.requireAttemptResourceClaims c.profile workItemId attemptId
    let tx ← tx.appendExecutionAvailabilityBounded w
      { schema := internalEventSchema
        eventId := "provider-resume-" ++ resumeOccurrenceId
        runId := runId
        workItemId := some workItemId
        attemptId := some attemptId
        recordedAt := recordedAt
        payload := .providerExecutionResumeRequested resumeOccurrenceId dispositionDigest
          adapterProcessOccurrenceId executionIdentity } c.profile.maximumEventBytes
    let _ ← loadExecutionAvailabilityHistory w tx.tables c
    .ok ((), tx)

end Tx

end Nightshift
