import Nightshift.Evidence

/-!
# The strict restart validator

Every read of a run replays its whole journal through the capacity validator,
the execution-availability validator and the scheduler. The availability
validator is a scan with one accumulator record; what it returns is the provider
history of the run.
-/

namespace Nightshift

open Checked

def validateReadOnlyEventRow (w : Platform) (c : Contracts) (row : EventRow) :
    Except ForemanError Unit := do
  refuseIf (row.sequence == 0 || row.rawDigest != w.rawDigest (row.rawBytes w))
    (.readOnlyStore "journal sequence or retained-raw digest mismatch")
  if row.kind == .adapterEvent then do
    let event ← mapErr .contract (w.parseAdapterEvent (row.rawBytes w))
    mapErr .contract (event.validate w)
    refuseIf (event.eventId != row.eventId || event.runId != c.admission.runId ||
        event.packetDigest != c.packet.packetDigest || row.workItemId != some event.workItemId ||
        row.attemptId != some event.attemptId || event.occurredAt != row.recordedAt ||
        (c.profile.workItems[event.workItemId]?).map (·.adapterId) != some event.adapterId ||
        (c.profile.adapters[event.adapterId]?).map (·.adapterVersion) != some event.adapterVersion)
      (.readOnlyStore "adapter event row identity mismatch")
  else do
    let event ← row.internalEvent
    refuseIf (row.kind != event.payload.rowKind || event.schema != internalEventSchema ||
        event.eventId != row.eventId || event.runId != c.admission.runId ||
        event.workItemId != row.workItemId || event.attemptId != row.attemptId ||
        event.recordedAt != row.recordedAt)
      (.readOnlyStore "internal event row identity mismatch")
    match event.payload with
    | .attemptCreated _ startRequest => do
      mapErr .contract (startRequest.validate w)
      refuseIf (startRequest.runId != c.admission.runId ||
          startRequest.packetDigest != c.packet.packetDigest ||
          event.workItemId != some startRequest.workItemId ||
          event.attemptId != some startRequest.attemptId)
        (.readOnlyStore "attempt-created start request mismatch")
    | _ => .ok ()

/-- `ReadOnlyCapacityRequirementV1` -/
structure RetainedCapacityRequirement where
  recordedAt : Instant
  requirement : ForemanCapacityRequirementV1
  requirementBytes : Bytes

/-- The accumulators of `read_only_capacity_admissions`; of an admission only
its attempt matters to any caller here. -/
structure CapacityScan where
  requirement : Option RetainedCapacityRequirement
  attempts : BTreeSet String
  admitted : BTreeSet String

def CapacityScan.start : CapacityScan := ⟨none, ∅, ∅⟩

def CapacityScan.step (w : Platform) (c : Contracts) (scan : CapacityScan) (row : EventRow) :
    Except ForemanError CapacityScan := do
  if row.kind == .adapterEvent then .ok scan else
  let event ← row.internalEvent
  match event.payload with
  | .capacityRequirementAdmitted candidate requirementBytes => do
    refuseIf (scan.requirement.isSome || event.workItemId.isSome || event.attemptId.isSome ||
        w.canonical (.capacityRequirement candidate) != requirementBytes)
      (.readOnlyStore "capacity requirement event custody is invalid")
    mapErr .contract (candidate.validate w)
    validateCapacityRequirement candidate c.packet c.admission c.profile
    .ok { scan with requirement := some ⟨event.recordedAt, candidate, requirementBytes⟩ }
  | .capacityAdmissionAccepted capacityAdmission admissionBytes observationBytes policyBytes
      decisionBytes => do
    let workItemId ← okOr event.workItemId
      (.readOnlyStore "capacity admission lacks work item identity")
    let attemptId ← okOr event.attemptId
      (.readOnlyStore "capacity admission lacks attempt identity")
    let bundle ← validateCapacityBundle w admissionBytes observationBytes policyBytes decisionBytes
    refuseIf (bundle.admission != capacityAdmission || scan.admitted.contains attemptId)
      (.readOnlyStore "capacity admission event exact bytes or identity disagree")
    let exact_ ← okOr scan.requirement
      (.readOnlyStore "capacity admission precedes immutable requirement")
    validateCapacityBindings bundle c.packet c.admission c.profile exact_.requirement workItemId
      event.recordedAt
    .ok { scan with admitted := scan.admitted.insert attemptId }
  | .attemptCreated _ _ => do
    let attemptId ← okOr event.attemptId (.readOnlyStore "attempt-created lacks identity")
    .ok { scan with attempts := scan.attempts.insert attemptId }
  | _ => .ok scan

def readOnlyCapacityAdmissions (w : Platform) (c : Contracts) (rows : List EventRow) :
    Except ForemanError (Option RetainedCapacityRequirement) := do
  let scan ← rows.foldlM (CapacityScan.step w c) CapacityScan.start
  refuseIf (scan.requirement.isSome && scan.attempts != scan.admitted)
    (.readOnlyStore "capacity-required attempt graph is incomplete")
  refuseIf (scan.requirement.isNone && !scan.admitted.isEmpty)
    (.readOnlyStore "legacy run carries capacity admission evidence")
  .ok scan.requirement

/-- The internal event of a row, absent for an adapter event. -/
def parsedEvent (row : EventRow) : Except ForemanError (Option InternalEvent) :=
  if row.kind == .adapterEvent then .ok none else some <$> row.internalEvent

def isRunAdmitted (event : Option InternalEvent) : Bool :=
  event.any fun event => event.payload == .runAdmitted

def isCapacityAdmission (event : Option InternalEvent) : Bool :=
  event.any fun event => event.payload.rowKind == .capacityAdmission

/-- The placement rule of one journal position, given its two neighbours. -/
def checkCapacityPlacement (required : Bool) (runPosition : Nat) (index : Nat)
    (previous : Option InternalEvent) (current : EventRow × Option InternalEvent)
    (next : Option (EventRow × Option InternalEvent)) : Except ForemanError Unit :=
  match current.2 with
  | none => .ok ()
  | some event =>
    match event.payload with
    | .capacityRequirementAdmitted _ _ =>
      refuseIf (!required || index == 0 || runPosition + 1 != index)
        (.readOnlyStore "capacity requirement placement is invalid")
    | .capacityAdmissionAccepted capacityAdmission _ _ _ _ => do
      let following ← okOr (next.bind (·.2))
        (.readOnlyStore "capacity admission lacks adjacent attempt creation")
      match following.payload with
      | .attemptCreated _ startRequest =>
        refuseIf ((next.map (·.1.sequence)) != some (current.1.sequence + 1) ||
            following.runId != event.runId || following.workItemId != event.workItemId ||
            following.attemptId != event.attemptId || following.recordedAt != event.recordedAt ||
            capacityAdmission.packetDigest != startRequest.packetDigest ||
            capacityAdmission.runId != startRequest.runId ||
            capacityAdmission.workItemId != startRequest.workItemId ||
            capacityAdmission.adapterId != startRequest.adapterId ||
            capacityAdmission.profileModelClass != startRequest.providerModelClass ||
            event.attemptId != some startRequest.attemptId)
          (.readOnlyStore "capacity admission and attempt creation identities disagree")
      | _ => .error (.readOnlyStore "capacity admission is not followed by attempt creation")
    | .attemptCreated _ _ =>
      refuseIf (required && !isCapacityAdmission previous)
        (.readOnlyStore "capacity-required attempt lacks adjacent admission")
    | _ => .ok ()

/-- The placement pass over the journal, with the index and the previous event. -/
def checkCapacityPlacements (required : Bool) (runPosition : Nat) :
    Nat → Option InternalEvent → List (EventRow × Option InternalEvent) → Except ForemanError Unit
  | _, _, [] => .ok ()
  | index, previous, current :: rest => do
    checkCapacityPlacement required runPosition index previous current rest.head?
    checkCapacityPlacements required runPosition (index + 1) current.2 rest

/-- The requirement event stands right behind the run admission. -/
def checkRequirementAdjacent (entries : List (EventRow × Option InternalEvent)) (index : Nat) :
    Except ForemanError Unit := do
  let missing := ForemanError.readOnlyStore
    "capacity-required run lacks adjacent requirement event"
  let admitted ← okOr (entries[index]?) missing
  let next ← okOr (entries[index + 1]?) missing
  let event ← okOr next.2 missing
  refuseIf (event.payload.rowKind != .capacityRequirement ||
      next.1.sequence != admitted.1.sequence + 1 ||
      some event.recordedAt != admitted.2.map (·.recordedAt))
    (.readOnlyStore "capacity requirement is not adjacent to exact run admission")

def validateCapacityHistory (w : Platform) (t : RunTables) (c : Contracts) :
    Except ForemanError (Option RetainedCapacityRequirement) := do
  let _ ← t.validateCapacityHistorySize w c.profile.maximumEventBytes c.maximumCapacityRows
  forEach t.events (validateReadOnlyEventRow w c)
  let requirement ← readOnlyCapacityAdmissions w c t.events
  let parsed ← t.events.mapM parsedEvent
  let entries := t.events.zip parsed
  let positions := (List.range parsed.length).filter fun index =>
    isRunAdmitted (parsed[index]?).join
  match positions with
  | [index] => do
    if requirement.isSome then checkRequirementAdjacent entries index else .ok ()
    checkCapacityPlacements requirement.isSome index 0 none entries
    .ok requirement
  | _ => .error (.readOnlyStore "journal must contain one exact run-admitted event")

inductive ResourceTransition where
  | released
  | reacquired
  deriving DecidableEq, Repr

/-- `ReadOnlyProviderResourceTransitionV1` -/
structure ResourceTransitionRecord where
  transition : ResourceTransition
  workItemId : String
  workAttemptId : String
  dispatchDigest : String
  dispositionDigest : Option String
  deferredDispatchDigest : Option String
  policyDigest : String
  wakeOccurrenceId : Option String
  resourceLockKeys : List String
  recordedAt : Instant
  deriving DecidableEq, Repr

/-- `ReadOnlyExecutionAvailabilityHistoryV1`: the retained owner records and the
parallel columns of wakes and resumes, each in journal order. -/
structure History where
  requirement : ForemanExecutionAvailabilityRequirementV1
  requirementBytes : Bytes
  policy : ExecutionAvailabilityPolicyV1
  policyBytes : Bytes
  workerStartRequests : List WorkerStartRequestV3
  dispatches : List ProviderDispatchOccurrenceV1
  observations : List ExecutionAvailabilityObservationV1
  dispositions : List ProviderAdmissionDispositionV1
  deferred : List DeferredProviderDispatchV1
  wakeOccurrenceIds : List String
  wakeWorkAttemptIds : List String
  wakeNextDispatchDigests : List String
  resumeOccurrenceIds : List String
  resumeWorkItemIds : List String
  resumeWorkAttemptIds : List String
  resumeAdapterProcessOccurrenceIds : List String
  resumeExecutionIdentities : List ProviderExecutionIdentityV1
  resumeDispositionDigests : List String
  resumeRecordedAt : List Instant
  resourceTransitions : List ResourceTransitionRecord

def History.configured (configuration : Configuration) : History where
  requirement := configuration.requirement
  requirementBytes := configuration.requirementBytes
  policy := configuration.policy
  policyBytes := configuration.policyBytes
  workerStartRequests := []
  dispatches := []
  observations := []
  dispositions := []
  deferred := []
  wakeOccurrenceIds := []
  wakeWorkAttemptIds := []
  wakeNextDispatchDigests := []
  resumeOccurrenceIds := []
  resumeWorkItemIds := []
  resumeWorkAttemptIds := []
  resumeAdapterProcessOccurrenceIds := []
  resumeExecutionIdentities := []
  resumeDispositionDigests := []
  resumeRecordedAt := []
  resourceTransitions := []

namespace History

def lastDispositionOf (h : History) (dispatchDigest : String) :
    Option ProviderAdmissionDispositionV1 :=
  h.dispositions.reverse.find? fun value => value.dispatchDigest == dispatchDigest

def deferredOf (h : History) (dispositionDigest : String) : Option DeferredProviderDispatchV1 :=
  h.deferred.find? fun value => value.dispositionDigest == dispositionDigest

def lane (h : History) (attemptId : String) : List ProviderDispatchOccurrenceV1 :=
  h.dispatches.filter fun dispatch => dispatch.workAttemptId == attemptId

/-- The three owner receipts of one prior dispatch. -/
def deferralEntry (h : History) (dispatch : ProviderDispatchOccurrenceV1) :
    Except ForemanError ProviderDeferralHistoryEntryV1 := do
  let disposition ← okOr (h.lastDispositionOf dispatch.dispatchDigest)
    (.readOnlyStore "prior dispatch lacks exact terminal admission disposition")
  let deferred ← okOr (h.deferredOf disposition.dispositionDigest)
    (.readOnlyStore "prior not-admitted dispatch lacks exact deferral")
  .ok ⟨dispatch, disposition, deferred⟩

/-- `provider_deferral_history`; the final stable sort is by dispatch ordinal. -/
def providerDeferralHistory (h : History) (attemptId : String) (beforeDispatchOrdinal : Nat) :
    Except ForemanError (List ProviderDeferralHistoryEntryV1) := do
  let entries ← ((h.lane attemptId).filter fun dispatch =>
    dispatch.dispatchOrdinal < beforeDispatchOrdinal).mapM h.deferralEntry
  .ok (entries.insertionSort fun a b => a.dispatch.dispatchOrdinal ≤ b.dispatch.dispatchOrdinal)

end History

/-- The states an admitted execution may pass through. -/
def ProviderMechanismStateV1.retainsExecution : ProviderMechanismStateV1 → Bool
  | executionAdmitted | waitingApproval | postAdmissionInterrupted | providerCompleted => true
  | parkedNotAdmitted | admissionIndeterminate => false

def validateProviderDispositionTransition (previous next : ProviderAdmissionDispositionV1) :
    Except ForemanError Unit := do
  refuseIf (previous.dispatchDigest != next.dispatchDigest ||
      previous.workAttemptId != next.workAttemptId ||
      previous.dispatchOccurrenceId != next.dispatchOccurrenceId ||
      next.receivedAt < previous.receivedAt)
    (.identityMismatch "provider disposition transition identity")
  match previous.mechanismState with
  | .admissionIndeterminate => .ok ()
  | .executionAdmitted | .waitingApproval | .postAdmissionInterrupted =>
    refuseIf (previous.providerExecution.isNone ||
        next.providerExecution != previous.providerExecution ||
        !next.mechanismState.retainsExecution)
      (.transition "post-admission state may retain only the exact execution")
  | .parkedNotAdmitted | .providerCompleted =>
    .error (.transition "closed provider disposition cannot transition")

/-- `AvailabilityLaneEvent`: the last provider event of a lane. -/
inductive LaneEvent where
  | dispatch (dispatchDigest : String)
  | prelaunchClosed
  | disposition (dispositionDigest : String)
  | reacquired (wakeOccurrenceId nextDispatchDigest : String) (sequence : Nat)
      (recordedAt : Instant)
  | wake (nextDispatchDigest : String) (sequence : Nat) (recordedAt : Instant)
  | resume
  deriving DecidableEq, Repr

namespace LaneEvent

/-- A reacquisition or wake must be followed by its successor in the same transaction. -/
def lacksSuccessor : LaneEvent → Bool
  | reacquired .. | wake .. => true
  | _ => false

end LaneEvent

/-- The accumulators of `validate_execution_availability_history_rows`. -/
structure Scan where
  runAdmitted : Option (Nat × Instant)
  attempts : BTreeMap (String × String) (WorkerStartRequestV2 × Nat × Instant)
  laneLast : BTreeMap (String × String) LaneEvent
  history : Option History
  dispatchIds : BTreeSet String
  dispatchDigests : BTreeSet String
  wakeIds : BTreeSet String
  resumeIds : BTreeSet String
  adapterProcessIds : BTreeSet String
  appServerSessionIds : BTreeSet String
  dispositionRows : BTreeMap String (Nat × Instant)
  releasedDispositionDigests : BTreeSet String
  expectedClaims : BTreeMap String (String × String)

namespace Scan

def start : Scan := ⟨none, ∅, ∅, none, ∅, ∅, ∅, ∅, ∅, ∅, ∅, ∅, ∅⟩

/-- Insert a claim for every lock and refuse a lock that already has one. -/
def claimAll (message : String) (claims : BTreeMap String (String × String))
    (holder : String × String) (locks : List String) :
    Except ForemanError (BTreeMap String (String × String)) :=
  locks.foldlM (fun claims lock => do
    refuseIf (claims.contains lock) (.readOnlyStore message)
    .ok (claims.insert lock holder)) claims

/-- Remove the claim of every lock and refuse a lock that another holder has. -/
def releaseAll (claims : BTreeMap String (String × String)) (holder : String × String)
    (locks : List String) : Except ForemanError (BTreeMap String (String × String)) :=
  locks.foldlM (fun claims lock => do
    refuseIf (claims[lock]? != some holder)
      (.readOnlyStore "resource release history disagrees with retained claim")
    .ok (claims.erase lock)) claims

variable (w : Platform) (t : RunTables) (c : Contracts)

def onAttemptCreated (scan : Scan) (row : EventRow) (event : InternalEvent)
    (resourceLockKeys : List String) (startRequest : WorkerStartRequestV2) :
    Except ForemanError Scan := do
  let workItemId ← okOr event.workItemId (.readOnlyStore "attempt lacks work-item identity")
  let attemptId ← okOr event.attemptId (.readOnlyStore "attempt lacks attempt identity")
  refuseIf (scan.attempts.contains (workItemId, attemptId))
    (.readOnlyStore "duplicate work-attempt identity")
  let claims ← claimAll "resource claim history has overlapping attempt creation"
    scan.expectedClaims (workItemId, attemptId) resourceLockKeys
  .ok { scan with
    attempts := scan.attempts.insert (workItemId, attemptId)
      (startRequest, row.sequence, event.recordedAt)
    expectedClaims := claims }

def onConfigured (scan : Scan) (row : EventRow) (event : InternalEvent)
    (requirement : ForemanExecutionAvailabilityRequirementV1) (requirementBytes : Bytes)
    (policy : ExecutionAvailabilityPolicyV1) (policyBytes : Bytes) :
    Except ForemanError Scan := do
  refuseIf (scan.history.isSome || event.workItemId.isSome || event.attemptId.isSome)
    (.readOnlyStore "execution availability requirement is not singular run-level state")
  let admitted ← okOr scan.runAdmitted
    (.readOnlyStore "execution availability requirement precedes run admission")
  let capacityPredecessor := t.events.any fun candidate =>
    candidate.sequence == admitted.1 + 1 && candidate.kind == .capacityRequirement
  refuseIf (row.sequence != admitted.1 + 1 + capacityPredecessor.toNat ||
      event.recordedAt != admitted.2)
    (.readOnlyStore "execution availability requirement is not adjacent to run admission")
  let configuration ← validateExecutionAvailabilityConfiguration w requirementBytes policyBytes
  refuseIf (configuration.requirement != requirement || configuration.policy != policy)
    (.readOnlyStore "execution availability typed/raw configuration split")
  validateExecutionAvailabilityConfigurationBindings configuration c.packet c.admission c.profile
    event.recordedAt
  .ok { scan with history := some (History.configured configuration) }

/-- A dispatch follows its attempt, or the wake that names it. -/
def dispatchFollows (last : Option LaneEvent) (row : EventRow) (event : InternalEvent)
    (dispatch : ProviderDispatchOccurrenceV1) : Bool :=
  match last with
  | none => dispatch.dispatchOrdinal == 1
  | some (.wake nextDispatchDigest sequence recordedAt) =>
    nextDispatchDigest == dispatch.dispatchDigest && row.sequence == sequence + 1 &&
      event.recordedAt == recordedAt
  | _ => false

def onDispatch (scan : Scan) (row : EventRow) (event : InternalEvent)
    (startRequest : WorkerStartRequestV3) (startRequestBytes : Bytes)
    (dispatch : ProviderDispatchOccurrenceV1) (dispatchBytes : Bytes) :
    Except ForemanError Scan := do
  let history ← okOr scan.history
    (.readOnlyStore "provider dispatch lacks immutable availability requirement")
  mapErr .contract (startRequest.validate w)
  mapErr .contract (dispatch.validate w)
  refuseIf (w.canonical (.startRequestV3 startRequest) != startRequestBytes ||
      w.canonical (.dispatch dispatch) != dispatchBytes)
    (.readOnlyStore "provider dispatch typed/raw custody split")
  mapErr .contract (startRequest.validateDispatchGraph w c.profile history.requirement dispatch)
  refuseIf (event.workItemId != some dispatch.workItemId ||
      event.attemptId != some dispatch.workAttemptId || event.recordedAt != dispatch.openedAt ||
      event.eventId != "provider-dispatch-" ++ dispatch.dispatchOccurrenceId ||
      scan.dispatchIds.contains dispatch.dispatchOccurrenceId ||
      scan.dispatchDigests.contains dispatch.dispatchDigest)
    (.readOnlyStore "provider dispatch journal identity mismatch")
  let key := (dispatch.workItemId, dispatch.workAttemptId)
  let attempt ← okOr (scan.attempts[key]?)
    (.readOnlyStore "provider dispatch lacks exact work-attempt predecessor")
  let predecessor ← mapErr .contract (startRequest.predecessorV2 w)
  refuseIf (predecessor != attempt.1 ||
      (dispatch.dispatchOrdinal == 1 &&
        (row.sequence != attempt.2.1 + 1 || event.recordedAt != attempt.2.2)) ||
      dispatch.dispatchOrdinal != (history.lane dispatch.workAttemptId).length + 1)
    (.readOnlyStore "provider dispatch attempt or ordinal discontinuity")
  refuseIf (!dispatchFollows (scan.laneLast[key]?) row event dispatch)
    (.readOnlyStore "provider dispatch lacks exact attempt/wake predecessor")
  refuseIf (scan.adapterProcessIds.contains dispatch.adapterProcessOccurrenceId)
    (.readOnlyStore "adapter process occurrence is not globally unique")
  refuseIf (scan.appServerSessionIds.contains dispatch.appServerSessionIdentity)
    (.readOnlyStore "App Server session identity is not globally unique per dispatch")
  .ok { scan with
    dispatchIds := scan.dispatchIds.insert dispatch.dispatchOccurrenceId
    dispatchDigests := scan.dispatchDigests.insert dispatch.dispatchDigest
    adapterProcessIds := scan.adapterProcessIds.insert dispatch.adapterProcessOccurrenceId
    appServerSessionIds := scan.appServerSessionIds.insert dispatch.appServerSessionIdentity
    laneLast := scan.laneLast.insert key (.dispatch dispatch.dispatchDigest)
    history := some { history with
      workerStartRequests := history.workerStartRequests ++ [startRequest]
      dispatches := history.dispatches ++ [dispatch] } }

def onPrelaunch (scan : Scan) (event : InternalEvent) (closure : PrelaunchClosureV1)
    (receipt : NotStartedReceiptV1) : Except ForemanError Scan := do
  let history ← okOr scan.history (.readOnlyStore "prelaunch closure lacks provider history")
  let binding := closure.binding
  let key := (binding.workItemId, binding.workAttemptId)
  refuseIf (scan.laneLast[key]? != some (.dispatch binding.dispatchDigest) ||
      (history.dispositions.any fun value => value.workAttemptId == binding.workAttemptId) ||
      event.workItemId != some binding.workItemId ||
      event.attemptId != some binding.workAttemptId || event.recordedAt != closure.closedAt ||
      event.eventId != "prelaunch-closed-" ++ closure.closureDigest)
    (.readOnlyStore "prelaunch closure history mismatch")
  let index ← okOr (history.dispatches.findIdx? fun dispatch =>
    dispatch.dispatchDigest == binding.dispatchDigest) (.identityMismatch "prelaunch dispatch")
  let brief ← workerBrief w t c.packet c.profile binding.workItemId
  let request ← okOr (history.workerStartRequests[index]?) (.identityMismatch "prelaunch dispatch")
  let dispatch ← okOr (history.dispatches[index]?) (.identityMismatch "prelaunch dispatch")
  mapErr .contract (closure.validatePrepared w request dispatch
    (w.canonical (.workerBrief brief)))
  let expected ← prelaunchNotStartedReceipt w closure
  refuseIf (receipt != expected) (.readOnlyStore "prelaunch receipt custody differs")
  let retained ← t.receiptOf binding.workItemId
  refuseIf (retained.rawBytes != w.canonical (.notStartedReceipt expected) ||
      retained.receiptKind != .notStarted || retained.attemptId.isSome)
    (.readOnlyStore "prelaunch receipt row differs")
  .ok { scan with laneLast := scan.laneLast.insert key .prelaunchClosed }

/-- A disposition answers its open dispatch or transitions the last one of it. -/
def dispositionFollows (scan : Scan) (history : History) (key : String × String)
    (disposition : ProviderAdmissionDispositionV1) (reconciles : Option String) :
    Except ForemanError Unit :=
  match history.lastDispositionOf disposition.dispatchDigest, reconciles with
  | none, none =>
    refuseIf (scan.laneLast[key]? != some (.dispatch disposition.dispatchDigest))
      (.readOnlyStore "provider disposition lacks exact dispatch predecessor")
  | some prior, some expected =>
    if prior.dispositionDigest == expected then
      validateProviderDispositionTransition prior disposition
    else .error (.readOnlyStore "provider disposition predecessor mismatch")
  | _, _ => .error (.readOnlyStore "provider disposition predecessor mismatch")

def onDisposition (scan : Scan) (row : EventRow) (event : InternalEvent)
    (observation : ExecutionAvailabilityObservationV1) (observationBytes : Bytes)
    (disposition : ProviderAdmissionDispositionV1) (dispositionBytes : Bytes)
    (deferred : Option DeferredProviderDispatchV1) (deferredBytes : Option Bytes)
    (reconciles : Option String) : Except ForemanError Scan := do
  let history ← okOr scan.history
    (.readOnlyStore "provider disposition lacks immutable availability requirement")
  let accepted ← validateProviderDispositionEvidence w
    ⟨observationBytes, dispositionBytes, deferredBytes⟩
  refuseIf (accepted.observation != observation || accepted.disposition != disposition ||
      accepted.deferred != deferred)
    (.readOnlyStore "provider disposition nested typed/raw custody split")
  let dispatch ← okOr (history.dispatches.find? fun value =>
      value.dispatchDigest == disposition.dispatchDigest)
    (.readOnlyStore "provider disposition lacks exact dispatch")
  refuseIf (event.workItemId != some disposition.workItemId ||
      event.attemptId != some disposition.workAttemptId ||
      event.recordedAt != disposition.receivedAt ||
      event.eventId != "provider-disposition-" ++ disposition.dispositionDigest)
    (.readOnlyStore "provider disposition journal identity mismatch")
  let key := (disposition.workItemId, disposition.workAttemptId)
  dispositionFollows scan history key disposition reconciles
  let prior ← history.providerDeferralHistory disposition.workAttemptId dispatch.dispatchOrdinal
  mapErr .contract (AvailabilityGraph.validate w history.requirement history.policy dispatch
    observation disposition prior deferred)
  .ok { scan with
    laneLast := scan.laneLast.insert key (.disposition disposition.dispositionDigest)
    dispositionRows :=
      scan.dispositionRows.insert disposition.dispositionDigest (row.sequence, event.recordedAt)
    history := some { history with
      observations := history.observations ++ [observation]
      dispositions := history.dispositions ++ [disposition]
      deferred := history.deferred ++ deferred.toList } }

/-- A wake follows its reacquisition, or the parked disposition whose locks were kept. -/
def wakeFollows (policy : ParkedResourceLockPolicyV1) (last : Option LaneEvent) (row : EventRow)
    (event : InternalEvent) (wakeOccurrenceId nextDispatchDigest : String)
    (deferred : DeferredProviderDispatchV1) : Except ForemanError Unit :=
  match policy with
  | .releaseAndReacquire =>
    refuseIf (match last with
      | some (.reacquired expectedWake expectedDispatch sequence recordedAt) =>
        !(expectedWake == wakeOccurrenceId && expectedDispatch == nextDispatchDigest &&
          row.sequence == sequence + 1 && event.recordedAt == recordedAt)
      | _ => true) (.readOnlyStore "provider wake resource reacquisition binding mismatch")
  | .retainWhileParked =>
    refuseIf (last != some (.disposition deferred.dispositionDigest))
      (.readOnlyStore "provider wake lacks exact parked disposition predecessor")

def onWake (scan : Scan) (row : EventRow) (event : InternalEvent)
    (wakeOccurrenceId deferredDispatchDigest nextDispatchDigest : String) :
    Except ForemanError Scan := do
  let history ← okOr scan.history
    (.readOnlyStore "provider wake lacks immutable availability requirement")
  validateLocalOccurrenceId wakeOccurrenceId "wake_occurrence_id"
  let workItemId ← okOr event.workItemId (.readOnlyStore "provider wake lacks work item")
  let attemptId ← okOr event.attemptId (.readOnlyStore "provider wake lacks attempt")
  let key := (workItemId, attemptId)
  let deferred ← okOr (history.deferred.find? fun value =>
      value.deferredDispatchDigest == deferredDispatchDigest && value.workAttemptId == attemptId)
    (.readOnlyStore "provider wake deferred binding mismatch")
  refuseIf (event.recordedAt < deferred.wakeAt || scan.wakeIds.contains wakeOccurrenceId ||
      event.eventId != "provider-wake-" ++ wakeOccurrenceId)
    (.readOnlyStore "provider wake time or identity mismatch")
  wakeFollows history.policy.parkedResourceLockPolicy (scan.laneLast[key]?) row event
    wakeOccurrenceId nextDispatchDigest deferred
  .ok { scan with
    wakeIds := scan.wakeIds.insert wakeOccurrenceId
    laneLast := scan.laneLast.insert key (.wake nextDispatchDigest row.sequence event.recordedAt)
    history := some { history with
      wakeOccurrenceIds := history.wakeOccurrenceIds ++ [wakeOccurrenceId]
      wakeWorkAttemptIds := history.wakeWorkAttemptIds ++ [attemptId]
      wakeNextDispatchDigests := history.wakeNextDispatchDigests ++ [nextDispatchDigest] } }

def onResume (scan : Scan) (event : InternalEvent)
    (resumeOccurrenceId dispositionDigest adapterProcessOccurrenceId : String)
    (executionIdentity : ProviderExecutionIdentityV1) : Except ForemanError Scan := do
  let history ← okOr scan.history
    (.readOnlyStore "provider resume lacks immutable availability requirement")
  validateLocalOccurrenceId resumeOccurrenceId "resume_occurrence_id"
  validateLocalOccurrenceId adapterProcessOccurrenceId "adapter_process_occurrence_id"
  mapErr .contract executionIdentity.validate
  let workItemId ← okOr event.workItemId (.readOnlyStore "provider resume lacks work item")
  let attemptId ← okOr event.attemptId (.readOnlyStore "provider resume lacks attempt")
  let key := (workItemId, attemptId)
  let disposition ← okOr (history.dispositions.reverse.find? fun value =>
      value.workAttemptId == attemptId)
    (.readOnlyStore "provider resume lacks exact disposition")
  refuseIf (disposition.dispositionDigest != dispositionDigest ||
      disposition.mechanismState != .postAdmissionInterrupted ||
      disposition.providerExecution != some executionIdentity ||
      event.recordedAt < disposition.receivedAt ||
      event.eventId != "provider-resume-" ++ resumeOccurrenceId ||
      scan.resumeIds.contains resumeOccurrenceId ||
      scan.adapterProcessIds.contains adapterProcessOccurrenceId ||
      history.resumeDispositionDigests.contains dispositionDigest)
    (.readOnlyStore "provider resume exact execution binding mismatch")
  .ok { scan with
    resumeIds := scan.resumeIds.insert resumeOccurrenceId
    adapterProcessIds := scan.adapterProcessIds.insert adapterProcessOccurrenceId
    laneLast := scan.laneLast.insert key .resume
    history := some { history with
      resumeOccurrenceIds := history.resumeOccurrenceIds ++ [resumeOccurrenceId]
      resumeWorkItemIds := history.resumeWorkItemIds ++ [workItemId]
      resumeWorkAttemptIds := history.resumeWorkAttemptIds ++ [attemptId]
      resumeAdapterProcessOccurrenceIds :=
        history.resumeAdapterProcessOccurrenceIds ++ [adapterProcessOccurrenceId]
      resumeExecutionIdentities := history.resumeExecutionIdentities ++ [executionIdentity]
      resumeDispositionDigests := history.resumeDispositionDigests ++ [dispositionDigest]
      resumeRecordedAt := history.resumeRecordedAt ++ [event.recordedAt] } }

def onProviderReleased (scan : Scan) (row : EventRow) (event : InternalEvent)
    (dispositionDigest dispatchDigest policyDigest : String) (resourceLockKeys : List String) :
    Except ForemanError Scan := do
  let history ← okOr scan.history
    (.readOnlyStore "resource release lacks immutable availability requirement")
  let workItemId ← okOr event.workItemId (.readOnlyStore "resource release lacks work item")
  let attemptId ← okOr event.attemptId (.readOnlyStore "resource release lacks attempt")
  let disposition ← okOr (history.dispositions.find? fun value =>
      value.dispositionDigest == dispositionDigest)
    (.readOnlyStore "resource release lacks exact parked disposition")
  let parked ← okOr (scan.dispositionRows[dispositionDigest]?)
    (.readOnlyStore "missing disposition row")
  refuseIf (history.policy.parkedResourceLockPolicy != .releaseAndReacquire ||
      disposition.mechanismState != .parkedNotAdmitted ||
      disposition.dispatchDigest != dispatchDigest ||
      history.policy.policyDigest != policyDigest ||
      (c.profile.workItems[workItemId]?).map (·.resourceLockKeys) != some resourceLockKeys ||
      disposition.workAttemptId != attemptId ||
      event.eventId != "provider-resources-released-" ++ dispositionDigest ||
      row.sequence != parked.1 + 1 || event.recordedAt != parked.2)
    (.readOnlyStore "provider resource release binding mismatch")
  refuseIf (scan.releasedDispositionDigests.contains dispositionDigest)
    (.readOnlyStore "duplicate provider resource release")
  let claims ← releaseAll scan.expectedClaims (workItemId, attemptId) resourceLockKeys
  .ok { scan with
    releasedDispositionDigests := scan.releasedDispositionDigests.insert dispositionDigest
    expectedClaims := claims
    history := some { history with
      resourceTransitions := history.resourceTransitions ++
        [⟨.released, workItemId, attemptId, dispatchDigest, some dispositionDigest, none,
          policyDigest, none, resourceLockKeys, event.recordedAt⟩] } }

def onProviderReacquired (scan : Scan) (row : EventRow) (event : InternalEvent)
    (wakeOccurrenceId deferredDispatchDigest nextDispatchDigest policyDigest : String)
    (resourceLockKeys : List String) : Except ForemanError Scan := do
  let history ← okOr scan.history
    (.readOnlyStore "resource reacquisition lacks immutable availability requirement")
  let workItemId ← okOr event.workItemId (.readOnlyStore "resource reacquisition lacks work item")
  let attemptId ← okOr event.attemptId (.readOnlyStore "resource reacquisition lacks attempt")
  let deferred ← okOr (history.deferred.find? fun value =>
      value.deferredDispatchDigest == deferredDispatchDigest)
    (.readOnlyStore "resource reacquisition lacks exact deferral")
  let key := (workItemId, attemptId)
  refuseIf (history.policy.parkedResourceLockPolicy != .releaseAndReacquire ||
      history.policy.policyDigest != policyDigest || deferred.workAttemptId != attemptId ||
      (c.profile.workItems[workItemId]?).map (·.resourceLockKeys) != some resourceLockKeys ||
      event.eventId != "provider-resources-reacquired-" ++ wakeOccurrenceId ||
      event.recordedAt < deferred.wakeAt ||
      scan.laneLast[key]? != some (.disposition deferred.dispositionDigest))
    (.readOnlyStore "provider resource reacquisition binding mismatch")
  let claims ← claimAll "resource reacquisition overlaps a retained claim" scan.expectedClaims key
    resourceLockKeys
  .ok { scan with
    expectedClaims := claims
    laneLast := scan.laneLast.insert key
      (.reacquired wakeOccurrenceId nextDispatchDigest row.sequence event.recordedAt)
    history := some { history with
      resourceTransitions := history.resourceTransitions ++
        [⟨.reacquired, workItemId, attemptId, nextDispatchDigest, none,
          some deferredDispatchDigest, policyDigest, some wakeOccurrenceId, resourceLockKeys,
          event.recordedAt⟩] } }

def onResourcesReleased (scan : Scan) (event : InternalEvent) : Scan :=
  match event.workItemId, event.attemptId with
  | some workItemId, some attemptId =>
    { scan with expectedClaims := scan.expectedClaims.filter fun _ holder =>
        holder.1 != workItemId || holder.2 != attemptId }
  | _, _ => scan

def onPayload (scan : Scan) (row : EventRow) (event : InternalEvent) :
    Except ForemanError Scan :=
  match event.payload with
  | .runAdmitted => do
    refuseIf scan.runAdmitted.isSome
      (.readOnlyStore "execution availability history has duplicate run admission")
    .ok { scan with runAdmitted := some (row.sequence, event.recordedAt) }
  | .attemptCreated resourceLockKeys startRequest =>
    scan.onAttemptCreated row event resourceLockKeys startRequest
  | .executionAvailabilityConfigured requirement requirementBytes policy policyBytes =>
    scan.onConfigured w t c row event requirement requirementBytes policy policyBytes
  | .providerDispatchOpened startRequest startRequestBytes dispatch dispatchBytes =>
    scan.onDispatch w c row event startRequest startRequestBytes dispatch dispatchBytes
  | .prelaunchClosureAccepted closure receipt => scan.onPrelaunch w t c event closure receipt
  | .providerDispositionRecorded observation observationBytes disposition dispositionBytes deferred
      deferredBytes reconciles =>
    scan.onDisposition w row event observation observationBytes disposition dispositionBytes
      deferred deferredBytes reconciles
  | .providerWakeOpened wakeOccurrenceId deferredDispatchDigest nextDispatchDigest =>
    scan.onWake row event wakeOccurrenceId deferredDispatchDigest nextDispatchDigest
  | .providerExecutionResumeRequested resumeOccurrenceId dispositionDigest
      adapterProcessOccurrenceId executionIdentity =>
    scan.onResume event resumeOccurrenceId dispositionDigest adapterProcessOccurrenceId
      executionIdentity
  | .providerResourcesReleased dispositionDigest dispatchDigest policyDigest resourceLockKeys =>
    scan.onProviderReleased c row event dispositionDigest dispatchDigest policyDigest
      resourceLockKeys
  | .providerResourcesReacquired wakeOccurrenceId deferredDispatchDigest nextDispatchDigest
      policyDigest resourceLockKeys =>
    scan.onProviderReacquired c row event wakeOccurrenceId deferredDispatchDigest
      nextDispatchDigest policyDigest resourceLockKeys
  | .resourcesReleased => .ok (scan.onResourcesReleased event)
  | _ => .ok scan

def step (scan : Scan) (row : EventRow) : Except ForemanError Scan := do
  validateReadOnlyEventRow w c row
  if row.kind == .adapterEvent then .ok scan else
  let event ← row.internalEvent
  scan.onPayload w t c row event

/-- The scan of the whole journal, before the closing checks. -/
def ofJournal : Except ForemanError Scan := t.events.foldlM (step w t c) start

/-- Every attempt of an availability-required run has its first dispatch. -/
def attemptsDispatched (scan : Scan) (history : History) : Bool :=
  scan.attempts.keys.all fun key =>
    history.dispatches.any fun dispatch =>
      dispatch.workItemId == key.1 && dispatch.workAttemptId == key.2 &&
        dispatch.dispatchOrdinal == 1

/-- Under release-and-reacquire every parked disposition was released. -/
def parkedReleased (scan : Scan) (history : History) : Bool :=
  history.policy.parkedResourceLockPolicy != .releaseAndReacquire ||
    history.dispositions.all fun disposition =>
      disposition.mechanismState != .parkedNotAdmitted ||
        scan.releasedDispositionDigests.contains disposition.dispositionDigest

def close (scan : Scan) : Except ForemanError (Option History) := do
  refuseIf ((BTreeMap.valuesOf scan.laneLast).any (·.lacksSuccessor)) (.readOnlyStore
    "provider resource reacquisition or wake lacks atomic successor")
  match scan.history with
  | none => .ok none
  | some history => do
    refuseIf (!scan.attemptsDispatched history)
      (.readOnlyStore "availability-required attempt lacks adjacent initial dispatch")
    refuseIf (!scan.parkedReleased history)
      (.readOnlyStore "parked disposition lacks mandatory resource release")
    refuseIf (t.resourceClaims != scan.expectedClaims)
      (.readOnlyStore "mutable resource claims disagree with exact journal history")
    .ok (some history)

end Scan

/-- `validate_execution_availability_history_rows` over the journal of a run. -/
def validateExecutionAvailabilityHistoryRows (w : Platform) (t : RunTables) (c : Contracts) :
    Except ForemanError (Option History) := do
  let scan ← Scan.ofJournal w t c
  scan.close t

def loadExecutionAvailabilityHistory (w : Platform) (t : RunTables) (c : Contracts) :
    Except ForemanError (Option History) := do
  let _ ← t.validateExecutionAvailabilityHistorySize w c.profile.maximumEventBytes false
  validateExecutionAvailabilityHistoryRows w t c

/-- The replay kind of a journal payload. -/
def InternalPayload.replayKind : InternalPayload → ReplayKind
  | .runAdmitted => .runAdmitted
  | .capacityRequirementAdmitted .. | .capacityAdmissionAccepted .. => .capacityEvidence
  | .executionAvailabilityConfigured .. => .executionAvailabilityConfigured
  | .providerDispatchOpened .. => .providerDispatchOpened
  | .providerDispositionRecorded _ _ disposition _ _ _ _ =>
    .providerDispositionRecorded disposition.mechanismState disposition.providerExecution
  | .providerWakeOpened .. => .providerWakeOpened
  | .providerExecutionResumeRequested .. => .providerExecutionResumeRequested
  | .providerResourcesReleased .. => .providerResourcesReleased
  | .providerResourcesReacquired _ _ _ _ resourceLockKeys =>
    .providerResourcesReacquired resourceLockKeys
  | .attemptCreated resourceLockKeys _ => .attemptCreated resourceLockKeys
  | .dispatchRequested => .dispatchRequested
  | .resumeRequested => .resumeRequested
  | .terminalAccepted outcome => .terminalAccepted outcome
  | .terminalRefused _ => .terminalRefused
  | .notStartedAccepted outcome => .notStartedAccepted outcome
  | .prelaunchClosureAccepted _ receipt =>
    .notStartedAccepted ⟨receipt.state, receipt.resultClassification, receipt.receiptDigest⟩
  | .resourcesReleased => .resourcesReleased
  | .runClosed finalReceiptsDigest => .runClosed finalReceiptsDigest

def EventRow.replayEvent (w : Platform) (row : EventRow) : Except ForemanError ReplayEvent := do
  let kind ← if row.kind == .adapterEvent then
      ReplayKind.adapter <$> mapErr .contract (w.parseAdapterEvent (row.rawBytes w))
    else (·.payload.replayKind) <$> row.internalEvent
  .ok ⟨row.sequence, row.workItemId, row.attemptId, kind, row.rawDigest⟩

/-- `load_projection` -/
def loadProjection (w : Platform) (t : RunTables) (runId : String) :
    Except ForemanError LiveRunProjectionV1 := do
  let c ← loadContracts w t runId
  let _ ← t.validateCapacityHistorySize w c.profile.maximumEventBytes c.maximumCapacityRows
  let _ ← t.validateExecutionAvailabilityHistorySize w c.profile.maximumEventBytes false
  let _ ← validateCapacityHistory w t c
  let _ ← validateExecutionAvailabilityHistoryRows w t c
  let events ← t.events.mapM (EventRow.replayEvent w)
  okOr (Scheduler.replay c.packet runId c.admission.admissionDigest c.profile c.maximum events)
    (.transition "index out of range")

end Nightshift
