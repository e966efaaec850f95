import Nightshift.Bootstrap

/-!
# The scheduler projection

Scheduler state is never stored. It is recomputed by replaying the journal over
the packet's work items and then deciding readiness of every item that has no
attempt.
-/

namespace Nightshift

def liveRunProjectionSchemaV1 : String := "nightshift.foreman-live-run/v1"

inductive ReplayKind where
  | runAdmitted
  | attemptCreated (resourceLockKeys : List String)
  | dispatchRequested
  | resumeRequested
  | adapter (event : AdapterEventV1)
  | terminalAccepted (outcome : AcceptedOutcomeV1)
  | terminalRefused
  | notStartedAccepted (outcome : AcceptedOutcomeV1)
  | resourcesReleased
  | capacityEvidence
  | executionAvailabilityConfigured
  | providerDispatchOpened
  | providerDispositionRecorded (mechanismState : ProviderMechanismStateV1)
      (executionIdentity : Option ProviderExecutionIdentityV1)
  | providerWakeOpened
  | providerExecutionResumeRequested
  | providerResourcesReleased
  | providerResourcesReacquired (resourceLockKeys : List String)
  | runClosed (finalReceiptsDigest : String)
  deriving DecidableEq

structure ReplayEvent where
  sequence : Nat
  workItemId : Option String
  attemptId : Option String
  kind : ReplayKind
  rawDigest : String
  deriving DecidableEq

/-- The `Debug` name of a scheduler state. -/
def SchedulerStateV1.debugName : SchedulerStateV1 → String
  | waitingDependencies => "WaitingDependencies"
  | readyEntryEvaluation => "ReadyEntryEvaluation"
  | waitingResource => "WaitingResource"
  | dispatching => "Dispatching"
  | running => "Running"
  | waitingProvider => "WaitingProvider"
  | waitingApproval => "WaitingApproval"
  | waitingHuman => "WaitingHuman"
  | checkpointed => "Checkpointed"
  | terminalReceiptAccepted => "TerminalReceiptAccepted"
  | terminalReceiptRefused => "TerminalReceiptRefused"
  | notStarted => "NotStarted"
  | indeterminateMechanismState => "IndeterminateMechanismState"

namespace LiveWorkItemV1

/-- The scheduler state an adapter event leaves; a diagnostic keeps the state. -/
def stateAfterAdapter (state : SchedulerStateV1) : AdapterEventKindV1 → SchedulerStateV1
  | .adapterAccepted | .workerStarted => .running
  | .providerIdentity => .waitingProvider
  | .checkpoint => .checkpointed
  | .waitingApproval => .waitingApproval
  | .humanQuestion => .waitingHuman
  | .providerCompletionObservation => .waitingProvider
  | .adapterDiagnostic => state
  | .mechanismIndeterminate => .indeterminateMechanismState

def pushQuestion (questions : List HumanQuestionV1) : Option HumanQuestionV1 → List HumanQuestionV1
  | none => questions
  | some question =>
    if questions.any fun existing => existing.questionId == question.questionId then questions
    else questions ++ [question]

def applyAdapterEvent (item : LiveWorkItemV1) (event : AdapterEventV1) : LiveWorkItemV1 :=
  { item with
    providerIdentity := event.providerIdentity <|> item.providerIdentity
    modelIdentity := event.modelIdentity <|> item.modelIdentity
    sessionIdentity := event.sessionIdentity <|> item.sessionIdentity
    threadIdentity := event.threadIdentity <|> item.threadIdentity
    turnIdentity := event.turnIdentity <|> item.turnIdentity
    queueIdentity := event.queueIdentity <|> item.queueIdentity
    schedulerState := stateAfterAdapter item.schedulerState event.kind
    humanQuestions := pushQuestion item.humanQuestions event.humanQuestion }

def stateAfterDisposition : ProviderMechanismStateV1 → SchedulerStateV1
  | .parkedNotAdmitted => .waitingProvider
  | .admissionIndeterminate => .indeterminateMechanismState
  | .executionAdmitted | .postAdmissionInterrupted => .waitingProvider
  | .waitingApproval => .waitingApproval
  | .providerCompleted => .waitingProvider

def bindExecution (item : LiveWorkItemV1) :
    Option ProviderExecutionIdentityV1 → LiveWorkItemV1
  | none => item
  | some identity =>
    { item with
      providerIdentity := some identity.providerId
      modelIdentity := some identity.modelId
      sessionIdentity := some identity.appServerSessionIdentity
      threadIdentity := some identity.threadId
      turnIdentity := some identity.turnId }

def acceptOutcome (item : LiveWorkItemV1) (state : SchedulerStateV1)
    (outcome : AcceptedOutcomeV1) : LiveWorkItemV1 :=
  { item with
    schedulerState := state
    acceptedTerminalOutcome := some outcome
    resultAbsentUntilTerminalReceiptAcceptance := false }

/-- What one journal event changes in the item it names. -/
def apply (item : LiveWorkItemV1) (event : ReplayEvent) : LiveWorkItemV1 :=
  let item := { item with
    lastEventSequence := some event.sequence, lastEventDigest := some event.rawDigest }
  match event.kind with
  | .attemptCreated _ =>
    { item with activeAttemptId := event.attemptId, schedulerState := .dispatching }
  | .dispatchRequested | .resumeRequested => { item with schedulerState := .dispatching }
  | .adapter adapterEvent => item.applyAdapterEvent adapterEvent
  | .terminalAccepted outcome => item.acceptOutcome .terminalReceiptAccepted outcome
  | .notStartedAccepted outcome => item.acceptOutcome .notStarted outcome
  | .terminalRefused => { item with schedulerState := .terminalReceiptRefused }
  | .providerDispatchOpened | .providerWakeOpened | .providerExecutionResumeRequested =>
    { item with schedulerState := .dispatching }
  | .providerDispositionRecorded mechanismState executionIdentity =>
    { item.bindExecution executionIdentity with
      schedulerState := stateAfterDisposition mechanismState }
  | .resourcesReleased | .providerResourcesReleased | .providerResourcesReacquired _
  | .runAdmitted | .capacityEvidence | .executionAvailabilityConfigured | .runClosed _ => item

/-- An item without an attempt is ready, blocked on a lock, or blocked on a dependency. -/
def evaluateReadiness (terminal held : BTreeSet String) (item : LiveWorkItemV1) :
    LiveWorkItemV1 :=
  let item := { item with
    dependencyTerminality := item.dependencies.foldl
      (fun map dependency => map.insert dependency (terminal.contains dependency)) ∅ }
  if item.activeAttemptId.isNone && !item.schedulerState.isExplicitTerminal &&
      !(item.schedulerState == .terminalReceiptRefused ||
        item.schedulerState == .indeterminateMechanismState) then
    if item.dependencies.all terminal.contains then
      if item.resourceLockKeys.any held.contains then
        { item with schedulerState := .waitingResource }
      else { item with schedulerState := .readyEntryEvaluation }
    else { item with schedulerState := .waitingDependencies }
  else item

end LiveWorkItemV1

namespace Scheduler

/-- The maps a replay carries from event to event. -/
structure Replay where
  items : BTreeMap String LiveWorkItemV1
  claims : BTreeMap String ResourceClaimV1
  closedFinalReceiptsDigest : Option String

/-- The item before any event; indexing the profile is the only way to fail. -/
def initialItem (profile : ExecutionProfileV2) (item : WorkItemV1) : Option LiveWorkItemV1 := do
  let execution ← profile.workItems[item.id]?
  let adapter ← profile.adapters[execution.adapterId]?
  some
    { workItemId := item.id
      dependencies := item.dependencies
      schedulerState := .waitingDependencies
      dependencyTerminality := ∅
      resourceLockKeys := execution.resourceLockKeys
      activeAttemptId := none
      adapterId := execution.adapterId
      adapterVersion := adapter.adapterVersion
      providerModelClass := execution.providerModelClass
      providerIdentity := none
      modelIdentity := none
      sessionIdentity := none
      threadIdentity := none
      turnIdentity := none
      queueIdentity := none
      lastEventSequence := none
      lastEventDigest := none
      humanQuestions := []
      acceptedTerminalOutcome := none
      resultAbsentUntilTerminalReceiptAcceptance := true }

def initialItems (profile : ExecutionProfileV2) (items : List WorkItemV1) :
    Option (BTreeMap String LiveWorkItemV1) :=
  items.foldlM (fun map item => (initialItem profile item).map (map.insert item.id)) ∅

def claimAll (claims : BTreeMap String ResourceClaimV1) (workItemId : String) :
    Option String → List String → BTreeMap String ResourceClaimV1
  | none, _ => claims
  | some attemptId, keys => BTreeMap.insertAll claims keys fun key => ⟨key, workItemId, attemptId⟩

/-- What one journal event changes in the claim map. -/
def claimsAfter (claims : BTreeMap String ResourceClaimV1) (workItemId : String)
    (event : ReplayEvent) : BTreeMap String ResourceClaimV1 :=
  match event.kind with
  | .attemptCreated keys | .providerResourcesReacquired keys =>
    claimAll claims workItemId event.attemptId keys
  | .resourcesReleased => claims.filter fun _ claim => claim.workItemId != workItemId
  | .providerResourcesReleased =>
    claims.filter fun _ claim =>
      claim.workItemId != workItemId || event.attemptId != some claim.attemptId
  | _ => claims

def closedAfter (closed : Option String) : ReplayKind → Option String
  | .runClosed finalReceiptsDigest => some finalReceiptsDigest
  | _ => closed

/-- One journal event. An event that names an unknown item is skipped whole. -/
def Replay.step (replay : Replay) (event : ReplayEvent) : Replay :=
  match event.workItemId with
  | none =>
    { replay with
      closedFinalReceiptsDigest := closedAfter replay.closedFinalReceiptsDigest event.kind }
  | some workItemId =>
    match replay.items[workItemId]? with
    | none => replay
    | some item =>
      { items := replay.items.insert workItemId (item.apply event)
        claims := claimsAfter replay.claims workItemId event
        closedFinalReceiptsDigest := closedAfter replay.closedFinalReceiptsDigest event.kind }

def Replay.run (replay : Replay) (events : List ReplayEvent) : Replay :=
  events.foldl Replay.step replay

def Replay.terminal (replay : Replay) : BTreeSet String :=
  BTreeSet.collect (((BTreeMap.valuesOf replay.items).filter
    (·.schedulerState.isExplicitTerminal)).map (·.workItemId))

def Replay.held (replay : Replay) : BTreeSet String := BTreeSet.collect replay.claims.keys

/-- The items after the readiness pass, in key order. -/
def Replay.workItems (replay : Replay) : List LiveWorkItemV1 :=
  (BTreeMap.valuesOf replay.items).map
    (LiveWorkItemV1.evaluateReadiness replay.terminal replay.held)

/-- `Scheduler::replay`; `none` is the panic of an index the profile lacks. -/
def replay (packet : NightshiftPacketV1) (runId admissionDigest : String)
    (profile : ExecutionProfileV2) (maximumConcurrentWorkers : Nat) (events : List ReplayEvent) :
    Option LiveRunProjectionV1 := do
  let items ← initialItems profile packet.workItems
  let final := (Replay.mk items ∅ none).run events
  some
    { schema := liveRunProjectionSchemaV1
      runId := runId
      packetId := packet.packetId
      packetDigest := packet.packetDigest
      admissionDigest := admissionDigest
      profileDigest := profile.profileDigest
      maximumConcurrentWorkers := maximumConcurrentWorkers
      workItems := final.workItems
      resourceClaims := BTreeMap.valuesOf final.claims
      closedFinalReceiptsDigest := final.closedFinalReceiptsDigest
      authorityEffect := localSchedulingOnly }

end Scheduler

end Nightshift
