import Nightshift.Lanes

/-!
# The foreman store

Admission, the legacy attempt transitions, receipts, closeout and the
self-hosted driver, and then the whole store: a call either commits its
transaction or leaves every table as it was.
-/

namespace Nightshift

open Checked

/-- What the last dispatch of an attempt is known to have come to. -/
structure HoldingAttemptState where
  disposition : Option ProviderAdmissionDispositionV1
  resumedCurrentDisposition : Bool

namespace RunTables

variable (w : Platform)

def currentHoldingAttemptState (t : RunTables) (runId workItemId attemptId : String) :
    Except ForemanError (Option HoldingAttemptState) := do
  let c ← loadContracts w t runId
  let history ← loadExecutionAvailabilityHistory w t c
  match history with
  | none => .ok none
  | some history =>
    let disposition := (history.dispatches.reverse.find? fun dispatch =>
        dispatch.workItemId == workItemId && dispatch.workAttemptId == attemptId).bind
      fun dispatch => history.lastDispositionOf dispatch.dispatchDigest
    .ok (some ⟨disposition, disposition.any fun value =>
      history.resumeDispositionDigests.contains value.dispositionDigest⟩)

def refuseHoldingLegacyTransition (t : RunTables) (runId workItemId attemptId : String) :
    Except ForemanError Unit := do
  let state ← t.currentHoldingAttemptState w runId workItemId attemptId
  refuseIf state.isSome
    (.transition "HOLDING attempt requires an exact mechanism-owned transition")

def validateHoldingAdapterEventTransition (t : RunTables) (event : AdapterEventV1) :
    Except ForemanError Unit := do
  let state ← t.currentHoldingAttemptState w event.runId event.workItemId event.attemptId
  refuseIf state.isSome
    (.transition "HOLDING mechanism state is accepted only through exact owner dispositions")

/-- The states in which a terminal receipt is not admissible. -/
def barsTerminal (state : ProviderMechanismStateV1) (resumed : Bool) : Bool :=
  state == .parkedNotAdmitted || state == .admissionIndeterminate || state == .waitingApproval ||
    (state == .postAdmissionInterrupted && !resumed)

def validateHoldingTerminalTransition (t : RunTables) (receipt : TerminalReceiptV1) :
    Except ForemanError Unit := do
  let state ← t.currentHoldingAttemptState w receipt.runId receipt.workItemId receipt.attemptId
  match state with
  | none => .ok ()
  | some state => do
    let disposition ← okOr state.disposition
      (.transition "terminal receipt requires exact admitted provider execution")
    refuseIf (barsTerminal disposition.mechanismState state.resumedCurrentDisposition)
      (.transition "terminal receipt is not admissible in the exact HOLDING state")
    let execution ← okOr disposition.providerExecution
      (.transition "terminal receipt requires exact admitted provider execution")
    forEach [("provider_identity", some receipt.providerIdentity, execution.providerId),
        ("model_identity", some receipt.modelIdentity, execution.modelId),
        ("session_identity", receipt.sessionIdentity, execution.appServerSessionIdentity),
        ("thread_identity", receipt.threadIdentity, execution.threadId),
        ("turn_identity", receipt.turnIdentity, execution.turnId)] fun member =>
      refuseIf (member.2.1 != some member.2.2) (.identityMismatch member.1)

def validateCompleteExecutionAvailabilityHistory (t : RunTables) (runId : String) :
    Except ForemanError Unit := do
  let c ← loadContracts w t runId
  let _ ← loadExecutionAvailabilityHistory w t c
  .ok ()

end RunTables

def validateIncrementalIdentity (field : String) (frozen observed : Option String) :
    Except ForemanError Unit :=
  refuseIf (frozen.isSome && observed.isSome && frozen != observed) (.identityMismatch field)

def validateReceiptIdentity (field : String) (frozen receipt : Option String) :
    Except ForemanError Unit :=
  refuseIf (frozen.isSome && frozen != receipt) (.identityMismatch field)

/-- The time of the latest retained receipt. -/
def latestTerminalEvidenceAt (w : Platform) (t : RunTables) : Except ForemanError Instant := do
  let latest ← (BTreeMap.valuesOf t.terminalReceipts).foldlM (fun latest receipt => do
    let observedAt ← match receipt.receiptKind with
      | .terminal => (·.endedAt) <$> mapErr .contract (w.parseTerminalReceipt receipt.rawBytes)
      | .notStarted =>
        (·.recordedAt) <$> mapErr .contract (w.parseNotStartedReceipt receipt.rawBytes)
    .ok (some ((latest.map fun current => max current observedAt).getD observedAt))) none
  okOr latest (.incompleteCloseout "no terminal evidence")

def finalQuestion (workItemId : String) (question : HumanQuestionV1) : FinalQuestion where
  workItem := workItemId
  exactQuestion := question.question
  evidenceExhausted := question.exhaustedEvidence
  safeDefault := question.safeDefault
  consequences := question.consequences
  resumePoint := question.resumePoint

/-- The sections one work item adds to the final document. -/
def finalSections (w : Platform) (t : RunTables) (item : WorkItemV1) :
    Except ForemanError (FinalWorkItem × List FinalQuestion × List FinalCustody) := do
  let row ← t.receiptOf item.id
  match row.receiptKind with
  | .terminal => do
    let receipt ← mapErr .contract (w.parseTerminalReceipt row.rawBytes)
    .ok (⟨item.id, receipt.state, receipt.resultClassification, receipt.repositories,
        receipt.tests, receipt.evidence, receipt.liveOrProductionMutations,
        receipt.remainingTrigger, receipt.nextLawfulAction⟩,
      receipt.humanQuestions.map (finalQuestion item.id),
      receipt.repositories.map fun repository =>
        ⟨repository.repository, repository.branch ++ "@" ++ repository.head,
          repository.pushStatus, "declared by exact worker receipt; no inference",
          receipt.teardown.liveRuntime, receipt.teardown.secrets, receipt.teardown.teardown⟩)
  | .notStarted => do
    let receipt ← mapErr .contract (w.parseNotStartedReceipt row.rawBytes)
    .ok (⟨item.id, receipt.state, receipt.resultClassification, [], [], receipt.evidence, [],
        receipt.remainingTrigger, receipt.nextLawfulAction⟩,
      receipt.humanQuestions.map (finalQuestion item.id), [])

def buildFinalDocument (w : Platform) (t : RunTables) (packet : NightshiftPacketV1)
    (updatedAt : Instant) : Except ForemanError FinalReceiptDocument := do
  let sections ← packet.workItems.mapM (finalSections w t)
  .ok
    { schema := "nightshift.run-receipts/v1"
      packetDigest := packet.packetDigest
      updatedAt := w.rfc3339Seconds updatedAt
      workItems := sections.map (·.1)
      humanQuestions := sections.flatMap (·.2.1)
      repositoryCustody := sections.flatMap (·.2.2) }

namespace Tx

variable (w : Platform)

/-- `record_attempt_transition` and the append of `record_terminal_refusal`. -/
def recordAttemptTransition (tx : Tx) (runId workItemId attemptId : String)
    (recordedAt : Instant) (payload : InternalPayload) (pre : String) :
    Except ForemanError (Unit × Tx) := do
  tx.tables.exactActiveAttempt w runId workItemId attemptId
  tx.tables.validateCompleteExecutionAvailabilityHistory w runId
  tx.tables.refuseHoldingLegacyTransition w runId workItemId attemptId
  let tx ← tx.drawn.appendInternal w
    { schema := internalEventSchema
      eventId := pre ++ "-" ++ tx.uuid w
      runId := runId
      workItemId := some workItemId
      attemptId := some attemptId
      recordedAt := recordedAt
      payload := payload }
  .ok ((), tx)

/-- `accept_adapter_event`, after the event was read and validated. -/
def acceptAdapterEvent (tx : Tx) (raw : Bytes) (event : AdapterEventV1) :
    Except ForemanError (Unit × Tx) := do
  let c ← loadContracts w tx.tables event.runId
  refuseIf (raw.length > c.profile.maximumEventBytes) (.inputTooLarge "adapter event")
  refuseIf (event.packetDigest != c.admission.packetDigest) (.identityMismatch "packet_digest")
  tx.tables.exactActiveAttempt w event.runId event.workItemId event.attemptId
  tx.tables.validateHoldingAdapterEventTransition w event
  let execution ← okOr (c.profile.workItems[event.workItemId]?) (.unknownWorkItem event.workItemId)
  refuseIf (event.adapterId != execution.adapterId) (.identityMismatch "adapter_id")
  let adapter ← okOr (c.profile.adapters[execution.adapterId]?)
    (.unknownWorkItem event.workItemId)
  refuseIf (event.adapterVersion != adapter.adapterVersion) (.identityMismatch "adapter_version")
  let projection ← loadProjection w tx.tables event.runId
  let item ← findItem projection event.workItemId
  validateIncrementalIdentity "provider_identity" item.providerIdentity event.providerIdentity
  validateIncrementalIdentity "model_identity" item.modelIdentity event.modelIdentity
  validateIncrementalIdentity "session_identity" item.sessionIdentity event.sessionIdentity
  validateIncrementalIdentity "thread_identity" item.threadIdentity event.threadIdentity
  validateIncrementalIdentity "turn_identity" item.turnIdentity event.turnIdentity
  validateIncrementalIdentity "queue_identity" item.queueIdentity event.queueIdentity
  refuseIf (tx.tables.events.any fun row => row.eventId == event.eventId)
    (.duplicateEvent event.eventId)
  let tx ← tx.insertEvent w event.eventId (some event.workItemId) (some event.attemptId)
    .adapterEvent event.occurredAt (.adapter raw)
  .ok ((), tx)

/-- `accept_terminal_receipt`, after the receipt was read and validated. -/
def acceptTerminalReceipt (tx : Tx) (raw : Bytes) (receipt : TerminalReceiptV1) :
    Except ForemanError (Unit × Tx) := do
  let c ← loadContracts w tx.tables receipt.runId
  refuseIf (raw.length > c.profile.maximumReceiptBytes) (.inputTooLarge "terminal receipt")
  refuseIf (receipt.packetDigest != c.admission.packetDigest) (.identityMismatch "packet_digest")
  tx.tables.exactActiveAttempt w receipt.runId receipt.workItemId receipt.attemptId
  tx.tables.validateHoldingTerminalTransition w receipt
  let execution ← okOr (c.profile.workItems[receipt.workItemId]?)
    (.unknownWorkItem receipt.workItemId)
  refuseIf (execution.adapterId != receipt.adapterId) (.identityMismatch "adapter_id")
  let adapter ← okOr (c.profile.adapters[execution.adapterId]?)
    (.unknownWorkItem receipt.workItemId)
  refuseIf (adapter.adapterVersion != receipt.adapterVersion) (.identityMismatch "adapter_version")
  let projection ← loadProjection w tx.tables receipt.runId
  let item ← findItem projection receipt.workItemId
  validateReceiptIdentity "provider_identity" item.providerIdentity (some receipt.providerIdentity)
  validateReceiptIdentity "model_identity" item.modelIdentity (some receipt.modelIdentity)
  validateReceiptIdentity "session_identity" item.sessionIdentity receipt.sessionIdentity
  validateReceiptIdentity "thread_identity" item.threadIdentity receipt.threadIdentity
  validateReceiptIdentity "turn_identity" item.turnIdentity receipt.turnIdentity
  validateReceiptIdentity "queue_identity" item.queueIdentity receipt.queueIdentity
  let tx ← tx.insertReceipt receipt.workItemId
    ⟨some receipt.attemptId, receipt.receiptDigest, raw, .terminal⟩
  let tx ← tx.drawn.appendInternal w
    { schema := internalEventSchema
      eventId := "terminal-accepted-" ++ tx.uuid w
      runId := receipt.runId
      workItemId := some receipt.workItemId
      attemptId := some receipt.attemptId
      recordedAt := receipt.endedAt
      payload := .terminalAccepted
        ⟨receipt.state, receipt.resultClassification, receipt.receiptDigest⟩ }
  let tx ← tx.releaseResources w receipt.runId receipt.workItemId receipt.attemptId
    receipt.endedAt
  .ok ((), tx)

/-- Journal a prelaunch closure and give back the locks of its attempt. -/
def closePrelaunch (tx : Tx) (c : Contracts) (closure : PrelaunchClosureV1)
    (receipt : NotStartedReceiptV1) : Except ForemanError Tx := do
  let binding := closure.binding
  let tx ← tx.insertReceipt binding.workItemId
    ⟨none, receipt.receiptDigest, w.canonical (.notStartedReceipt receipt), .notStarted⟩
  let event : InternalEvent :=
    { schema := internalEventSchema
      eventId := "prelaunch-closed-" ++ closure.closureDigest
      runId := binding.runId
      workItemId := some binding.workItemId
      attemptId := some binding.workAttemptId
      recordedAt := closure.closedAt
      payload := .prelaunchClosureAccepted closure receipt }
  refuseIf ((w.canonical (.event event)).length > c.profile.maximumEventBytes)
    (.inputTooLarge "prelaunch journal event")
  let tx ← tx.appendInternal w event
  tx.releaseResources w binding.runId binding.workItemId binding.workAttemptId closure.closedAt

/-- `Iterator::rposition` -/
def rposition {α : Type} (p : α → Bool) (values : List α) : Option Nat :=
  (values.reverse.findIdx? p).map fun index => values.length - 1 - index

/-- The checks of a prelaunch closure that has no receipt yet. -/
def checkPrelaunch (tx : Tx) (c : Contracts) (closure : PrelaunchClosureV1) :
    Except ForemanError Unit := do
  let binding := closure.binding
  let projection ← loadProjection w tx.tables binding.runId
  let item ← findItem projection binding.workItemId
  refuseIf (item.schedulerState != .dispatching ||
      item.activeAttemptId != some binding.workAttemptId)
    (.transition "prelaunch closure requires exact DISPATCHING attempt")
  tx.tables.exactActiveAttempt w binding.runId binding.workItemId binding.workAttemptId
  let history ← requireHistory w tx.tables c
    "prelaunch closure requires provider dispatch custody"
  let index ← okOr (rposition (fun dispatch => dispatch.workAttemptId == binding.workAttemptId)
    history.dispatches) (.identityMismatch "prelaunch dispatch")
  refuseIf (history.dispositions.any fun value => value.workAttemptId == binding.workAttemptId)
    (.transition "prelaunch closure refuses observed provider disposition")
  let brief ← workerBrief w tx.tables c.packet c.profile binding.workItemId
  let request ← okOr (history.workerStartRequests[index]?) (.identityMismatch "prelaunch dispatch")
  let dispatch ← okOr (history.dispatches[index]?) (.identityMismatch "prelaunch dispatch")
  mapErr .contract (closure.validatePrepared w request dispatch (w.canonical (.workerBrief brief)))

/-- `accept_prelaunch_closure`, after the closure was read and validated. -/
def acceptPrelaunchClosure (tx : Tx) (closure : PrelaunchClosureV1) :
    Except ForemanError (Bytes × Tx) := do
  let binding := closure.binding
  let c ← loadContracts w tx.tables binding.runId
  let receipt ← prelaunchNotStartedReceipt w closure
  let receiptBytes := w.canonical (.notStartedReceipt receipt)
  refuseIf (receiptBytes.length > c.profile.maximumReceiptBytes)
    (.inputTooLarge "prelaunch receipt")
  match tx.tables.terminalReceipts[binding.workItemId]? with
  | some prior => do
    refuseIf (prior.rawBytes != receiptBytes) (.transition "conflicting prelaunch closure")
    let _ ← loadProjection w tx.tables binding.runId
    .ok (prior.rawBytes, tx)
  | none => do
    tx.checkPrelaunch w c closure
    let tx ← tx.closePrelaunch w c closure receipt
    let _ ← loadProjection w tx.tables binding.runId
    .ok (receiptBytes, tx)

/-- `accept_not_started`, after the receipt was read and validated. -/
def acceptNotStarted (tx : Tx) (raw : Bytes) (receipt : NotStartedReceiptV1) :
    Except ForemanError (Unit × Tx) := do
  let projection ← loadProjection w tx.tables receipt.runId
  let item ← findItem projection receipt.workItemId
  refuseIf (!isEntryEligible item.schedulerState || item.activeAttemptId.isSome)
    (.transition "not-started receipt requires an eligible item with no attempt")
  let c ← loadContracts w tx.tables receipt.runId
  refuseIf (raw.length > c.profile.maximumReceiptBytes) (.inputTooLarge "not-started receipt")
  refuseIf (receipt.packetDigest != c.admission.packetDigest) (.identityMismatch "packet_digest")
  let tx ← tx.insertReceipt receipt.workItemId ⟨none, receipt.receiptDigest, raw, .notStarted⟩
  let tx ← tx.drawn.appendInternal w
    { schema := internalEventSchema
      eventId := "not-started-accepted-" ++ tx.uuid w
      runId := receipt.runId
      workItemId := some receipt.workItemId
      attemptId := none
      recordedAt := receipt.recordedAt
      payload := .notStartedAccepted
        ⟨receipt.state, receipt.resultClassification, receipt.receiptDigest⟩ }
  .ok ((), tx)

/-- `close` -/
def close (tx : Tx) (runId : String) (updatedAt : Instant) :
    Except ForemanError (Bytes × Tx) := do
  match tx.tables.finalSnapshot with
  | some snapshot => .ok (snapshot.rawBytes, tx)
  | none => do
    let projection ← loadProjection w tx.tables runId
    let incomplete := projection.workItems.filter fun item =>
      !item.schedulerState.isExplicitTerminal
    refuseIf (!incomplete.isEmpty)
      (.incompleteCloseout (", ".intercalate (incomplete.map (·.workItemId))))
    let latest ← latestTerminalEvidenceAt w tx.tables
    refuseIf (updatedAt < latest)
      (.transition ("closeout snapshot time " ++ w.displayInstant updatedAt ++
        " precedes retained terminal evidence " ++ w.displayInstant latest))
    let c ← loadContracts w tx.tables runId
    let document ← buildFinalDocument w tx.tables c.packet updatedAt
    let raw := w.canonical (.finalReceipts document)
    let digest := w.rawDigest raw
    let tx := { tx with tables := { tx.tables with
      finalSnapshot := some ⟨updatedAt, digest, raw⟩ } }
    let tx ← tx.drawn.appendInternal w
      { schema := internalEventSchema
        eventId := "run-closed-" ++ tx.uuid w
        runId := runId
        workItemId := none
        attemptId := none
        recordedAt := updatedAt
        payload := .runClosed digest }
    .ok (raw, tx)

end Tx

/-- `ReadOnlySelfHostedBootstrapV1` -/
structure SelfHostedCustody where
  bootstrap : SelfHostedForemanBootstrapV1
  bootstrapBytes : Bytes
  capacityPolicyBytes : Bytes
  steps : List SelfHostedForemanDriverStepV1

/-- The accumulators of the driver-step loop. -/
structure DriverScan where
  index : Nat
  previousRecordedAt : Option Instant
  terminalClosed : Bool

def checkDriverStep (w : Platform) (runId : String) (bootstrap : SelfHostedForemanBootstrapV1)
    (scan : DriverScan) (row : DriverStepRow) : Except ForemanError DriverScan := do
  let step := row.step
  mapErr .contract (step.validate w)
  refuseIf (scan.terminalClosed ||
      (scan.previousRecordedAt.any fun previous => step.recordedAt < previous) ||
      step.runId != runId || step.bootstrapDigest != bootstrap.bootstrapDigest ||
      step.bootstrapOccurrenceId != bootstrap.bootstrapOccurrenceId ||
      step.stepOrdinal != scan.index + 1 || step.stepOrdinal != row.stepOrdinal ||
      step.stepDigest != row.stepDigest ||
      step.schedulerProcessOccurrenceId != row.schedulerProcessOccurrenceId ||
      step.recordedAt != row.recordedAt || step.recordedAt < bootstrap.evaluatedAt ||
      step.stepOrdinal > bootstrap.maximumDriverSteps)
    (.readOnlyStore "driver step columns or bootstrap binding disagree")
  .ok ⟨scan.index + 1, some step.recordedAt, step.disposition.closesDriver⟩

def loadSelfHostedBootstrap (w : Platform) (t : RunTables) (runId : String) :
    Except ForemanError SelfHostedCustody := do
  let row ← okOr t.bootstrap (.transition "run has no self-hosted bootstrap custody")
  refuseIf (row.bootstrapBytes.isEmpty || row.capacityPolicyBytes.isEmpty ||
      row.bootstrapBytes.length > maximumWorkerBriefBytes ||
      row.capacityPolicyBytes.length > maximumWorkerBriefBytes)
    (.inputTooLarge "self-hosted bootstrap custody")
  let lengths := t.driverSteps.map fun step => (step.rawBytes w).length
  refuseIf (t.driverSteps.length > 1000000 ||
      (lengths.any fun length => length > maximumSelfHostedDriverStepBytes) ||
      lengths.sum > maximumSelfHostedHistoryBytes)
    (.inputTooLarge "self-hosted driver history")
  let bootstrap ← mapErr .contract (SelfHostedForemanBootstrapV1.fromSlice w row.bootstrapBytes)
  let deadline ← okOr bootstrap.deadline (.readOnlyStore "bootstrap deadline overflow")
  refuseIf (bootstrap.runId != runId || bootstrap.bootstrapDigest != row.bootstrapDigest ||
      bootstrap.bootstrapOccurrenceId != row.bootstrapOccurrenceId ||
      bootstrap.evaluatedAt != row.admittedAt || deadline != row.deadlineAt ||
      bootstrap.maximumDriverSteps != row.maximumDriverSteps)
    (.readOnlyStore "bootstrap custody columns disagree with exact record")
  let c ← loadContracts w t runId
  refuseIf (w.canonical (.packet c.packet) != t.run.packetBytes ||
      w.canonical (.admission c.admission) != t.run.admissionBytes ||
      w.canonical (.profile c.profile) != t.run.profileBytes)
    (.readOnlyStore "self-hosted run contracts are not exact canonical row bytes")
  let _ ← t.validateCapacityHistorySize w c.profile.maximumEventBytes c.maximumCapacityRows
  let _ ← t.validateExecutionAvailabilityHistorySize w c.profile.maximumEventBytes false
  let requirement ← validateCapacityHistory w t c
  let requirement ← okOr requirement
    (.readOnlyStore "bootstrap capacity requirement is absent")
  let history ← validateExecutionAvailabilityHistoryRows w t c
  let history ← okOr history
    (.readOnlyStore "bootstrap availability configuration is absent")
  mapErr .contract (bootstrap.validateGraph w t.run.packetBytes t.run.admissionBytes
    t.run.profileBytes requirement.requirementBytes row.capacityPolicyBytes
    history.requirementBytes history.policyBytes)
  let _ ← t.driverSteps.foldlM (checkDriverStep w runId bootstrap) ⟨0, none, false⟩
  .ok ⟨bootstrap, row.bootstrapBytes, row.capacityPolicyBytes, t.driverSteps.map (·.step)⟩

/-- What the driver reports of a projection at a step. -/
def driverDisposition (projection : LiveRunProjectionV1) (bootstrap : SelfHostedForemanBootstrapV1)
    (stepOrdinal : Nat) (recordedAt deadline : Instant) : SelfHostedDriverDispositionV1 :=
  if projection.workItems.all (·.schedulerState.isExplicitTerminal) then .allItemsExplicitTerminal
  else if recordedAt ≥ deadline || stepOrdinal == bootstrap.maximumDriverSteps then .boundReached
  else if projection.workItems.any (isEntryEligible ·.schedulerState) then .readyWorkPresent
  else .waitingForExactOwnerEvidence

namespace Tx

variable (w : Platform)

/-- Retain the next driver step. The step digest is unique over all runs. -/
def retainDriverStep (tx : Tx) (runId : String) (custody : SelfHostedCustody)
    (retainedDigests : List String) (expectedStepOrdinal : Nat)
    (schedulerProcessOccurrenceId : String) (recordedAt : Instant) :
    Except ForemanError (SelfHostedForemanDriverStepV1 × Tx) := do
  let prior := custody.steps.getLast?
  refuseIf (custody.steps.length + 1 ≥ 2 ^ 32) (.transition "driver step ordinal overflow")
  refuseIf (expectedStepOrdinal != custody.steps.length + 1 ||
      expectedStepOrdinal > custody.bootstrap.maximumDriverSteps ||
      recordedAt < custody.bootstrap.evaluatedAt ||
      (prior.any fun step => recordedAt < step.recordedAt) ||
      (prior.any fun step => step.disposition.closesDriver))
    (.transition "driver step ordinal, bound, or time is not admissible")
  let deadline ← okOr custody.bootstrap.deadline (.transition "driver deadline overflow")
  let projection ← loadProjection w tx.tables runId
  let step ← mapErr .contract (SelfHostedForemanDriverStepV1.sealed w
    { schema := selfHostedForemanDriverStepSchemaV1
      stepDigest := placeholderDigest
      bootstrapDigest := custody.bootstrap.bootstrapDigest
      bootstrapOccurrenceId := custody.bootstrap.bootstrapOccurrenceId
      runId := runId
      stepOrdinal := expectedStepOrdinal
      schedulerProcessOccurrenceId := schedulerProcessOccurrenceId
      observedProjectionDigest :=
        w.domainDigest "nightshift.self-hosted-foreman-observed-projection.digest/v1\x00"
          (w.canonical (.projection projection))
      disposition := driverDisposition projection custody.bootstrap expectedStepOrdinal recordedAt
        deadline
      recordedAt := recordedAt
      workerDispatchAuthorized := false
      approvalResponseAuthorized := false
      protectedEffectAuthorized := false
      semanticRetryAuthorized := false
      aggregateResultCreated := false })
  let raw := w.canonical (.driverStep step)
  refuseIf (raw.isEmpty || raw.length > maximumSelfHostedDriverStepBytes)
    (.inputTooLarge "self-hosted driver step")
  refuseIf ((tx.tables.driverSteps.map fun row => (row.rawBytes w).length).sum + raw.length >
    maximumSelfHostedHistoryBytes) (.inputTooLarge "self-hosted driver history")
  refuseIf (retainedDigests.contains step.stepDigest)
    (.sql "UNIQUE constraint failed: self_hosted_driver_steps.step_digest")
  .ok (step, { tx with tables := { tx.tables with
    driverSteps := tx.tables.driverSteps ++
      [⟨step.stepOrdinal, step.stepDigest, step.schedulerProcessOccurrenceId, step.recordedAt,
        step⟩] } })

/-- `advance_self_hosted_driver` -/
def advanceSelfHostedDriver (tx : Tx) (retainedDigests : List String)
    (runId bootstrapDigest : String) (expectedStepOrdinal : Nat)
    (schedulerProcessOccurrenceId : String) (recordedAt : Instant) :
    Except ForemanError (SelfHostedForemanDriverStepV1 × Tx) := do
  let custody ← loadSelfHostedBootstrap w tx.tables runId
  refuseIf (custody.bootstrap.bootstrapDigest != bootstrapDigest)
    (.identityMismatch "bootstrap_digest")
  match custody.steps.find? fun step => step.stepOrdinal == expectedStepOrdinal with
  | some existing => .ok (existing, tx)
  | none =>
    tx.retainDriverStep w runId custody retainedDigests expectedStepOrdinal
      schedulerProcessOccurrenceId recordedAt

end Tx

/-- `ValidatedSelfHostedBootstrap` -/
structure BootstrapCustody where
  bootstrap : SelfHostedForemanBootstrapV1
  bootstrapBytes : Bytes
  capacityPolicyBytes : Bytes

/-- `ValidatedRunMechanisms` -/
structure RunMechanisms where
  capacityRequirement : Option (ForemanCapacityRequirementV1 × Bytes)
  executionAvailability : Option Configuration
  selfHosted : Option BootstrapCustody

/-- The contracts of a run about to be admitted. -/
def admittedContracts (w : Platform) (packetBytes admissionBytes profileBytes : Bytes)
    (evaluatedAt : Instant) (mechanisms : RunMechanisms) : Except ForemanError Contracts := do
  let packet ← mapErr .packet (Packet.fromSlice w packetBytes)
  mapErr .packet (Packet.validateAt w packet evaluatedAt)
  let admission ← mapErr .contract (w.parseAdmission admissionBytes)
  mapErr .contract (admission.validateAt w evaluatedAt)
  let profile ← mapErr .contract (w.parseProfile profileBytes)
  mapErr .contract (profile.validate w)
  validateBindings packet admission profile
  match mechanisms.capacityRequirement with
  | some requirement => validateCapacityRequirement requirement.1 packet admission profile
  | none => .ok ()
  match mechanisms.executionAvailability with
  | some configuration =>
    validateExecutionAvailabilityConfigurationBindings configuration packet admission profile
      evaluatedAt
  | none => .ok ()
  .ok ⟨packet, admission, profile, admission.maximumConcurrentWorkers⟩

/-- The tables of a run before its first journal row. -/
def freshTables (c : Contracts) (packetBytes admissionBytes profileBytes : Bytes)
    (availabilityRequired : Bool) : RunTables where
  run :=
    { packetDigest := c.packet.packetDigest
      admissionDigest := c.admission.admissionDigest
      profileDigest := c.profile.profileDigest
      packetBytes := packetBytes
      admissionBytes := admissionBytes
      profileBytes := profileBytes
      admittedAt := c.admission.admittedAt
      expiresAt := c.admission.expiresAt
      maximumConcurrentWorkers := c.admission.maximumConcurrentWorkers
      executionAvailabilityRequired := availabilityRequired }
  events := []
  resourceClaims := ∅
  metadata := []
  anchors := []
  markers := 0
  terminalReceipts := ∅
  finalSnapshot := none
  bootstrap := none
  driverSteps := []

namespace Tx

variable (w : Platform)

/-- A run-level admission event. -/
def admissionEvent (tx : Tx) (runId name : String) (evaluatedAt : Instant)
    (payload : InternalPayload) : InternalEvent where
  schema := internalEventSchema
  eventId := name ++ "-" ++ tx.uuid w
  runId := runId
  workItemId := none
  attemptId := none
  recordedAt := evaluatedAt
  payload := payload

def admitCapacityRequirement (tx : Tx) (c : Contracts) (evaluatedAt : Instant) :
    Option (ForemanCapacityRequirementV1 × Bytes) → Except ForemanError Tx
  | none => .ok tx
  | some requirement =>
    tx.drawn.appendInternalBounded w
      (tx.admissionEvent w c.admission.runId "capacity-required" evaluatedAt
        (.capacityRequirementAdmitted requirement.1 requirement.2))
      c.profile.maximumEventBytes c.maximumCapacityRows

def admitExecutionAvailability (tx : Tx) (c : Contracts) (evaluatedAt : Instant) :
    Option Configuration → Except ForemanError Tx
  | none => .ok tx
  | some configuration =>
    let tx := { tx with tables := { tx.tables with markers := tx.tables.markers + 1 } }
    tx.drawn.appendExecutionAvailabilityBounded w
      (tx.admissionEvent w c.admission.runId "execution-availability-required" evaluatedAt
        (.executionAvailabilityConfigured configuration.requirement configuration.requirementBytes
          configuration.policy configuration.policyBytes))
      c.profile.maximumEventBytes

/-- Bootstrap digest and occurrence are unique over all runs. -/
def admitBootstrap (tx : Tx) (c : Contracts) (retained : List BootstrapRow) :
    Option BootstrapCustody → Except ForemanError Tx
  | none => .ok tx
  | some custody => do
    let bootstrap := custody.bootstrap
    refuseIf (bootstrap.runId != c.admission.runId ||
        bootstrap.packetDigest != c.packet.packetDigest ||
        bootstrap.admissionDigest != c.admission.admissionDigest ||
        bootstrap.profileDigest != c.profile.profileDigest)
      (.identityMismatch "self-hosted bootstrap admission")
    let deadline ← okOr bootstrap.deadline (.transition "self-hosted deadline overflow")
    refuseIf (retained.any fun row => row.bootstrapDigest == bootstrap.bootstrapDigest)
      (.sql "UNIQUE constraint failed: self_hosted_bootstraps.bootstrap_digest")
    refuseIf (retained.any fun row => row.bootstrapOccurrenceId == bootstrap.bootstrapOccurrenceId)
      (.sql "UNIQUE constraint failed: self_hosted_bootstraps.bootstrap_occurrence_id")
    .ok { tx with tables := { tx.tables with
      bootstrap := some
        { bootstrapDigest := bootstrap.bootstrapDigest
          bootstrapOccurrenceId := bootstrap.bootstrapOccurrenceId
          bootstrapBytes := custody.bootstrapBytes
          capacityPolicyBytes := custody.capacityPolicyBytes
          admittedAt := bootstrap.evaluatedAt
          deadlineAt := deadline
          maximumDriverSteps := bootstrap.maximumDriverSteps } } }

/-- The transaction of `admit_internal` over the fresh tables of the run. -/
def admitRun (tx : Tx) (c : Contracts) (evaluatedAt : Instant) (retained : List BootstrapRow)
    (mechanisms : RunMechanisms) : Except ForemanError Tx := do
  let tx ← tx.drawn.appendInternal w
    (tx.admissionEvent w c.admission.runId "run-admitted" evaluatedAt .runAdmitted)
  let tx ← tx.admitCapacityRequirement w c evaluatedAt mechanisms.capacityRequirement
  let tx ← tx.admitExecutionAvailability w c evaluatedAt mechanisms.executionAvailability
  let tx ← tx.admitBootstrap c retained mechanisms.selfHosted
  let _ ← loadExecutionAvailabilityHistory w tx.tables c
  .ok tx

end Tx

namespace Store

variable (w : Platform)

def begin_ (s : Store) (runId : String) : Except ForemanError Tx :=
  okOr ((s.runs[runId]?).map fun tables => ⟨tables, s.sequence, s.draws⟩) (.unknownRun runId)

def commit (s : Store) (runId : String) (tx : Tx) : Store :=
  { s with runs := s.runs.insert runId tx.tables, sequence := tx.sequence, draws := tx.draws }

/-- Run a body over the tables of one run and commit what it leaves. -/
def transact {α : Type} (s : Store) (runId : String)
    (body : Tx → Except ForemanError (α × Tx)) : Except ForemanError (α × Store) := do
  let tx ← s.begin_ runId
  let result ← body tx
  .ok (result.1, s.commit runId result.2)

def bootstrapRows (s : Store) : List BootstrapRow :=
  (BTreeMap.valuesOf s.runs).filterMap (·.bootstrap)

def stepDigests (s : Store) : List String :=
  (BTreeMap.valuesOf s.runs).flatMap fun tables => tables.driverSteps.map (·.stepDigest)

/-- `admit_internal` -/
def admitInternal (s : Store) (packetBytes admissionBytes profileBytes : Bytes)
    (evaluatedAt : Instant) (mechanisms : RunMechanisms) :
    Except ForemanError (String × Store) := do
  let c ← admittedContracts w packetBytes admissionBytes profileBytes evaluatedAt mechanisms
  refuseIf (s.runs.contains c.admission.runId) (.duplicateRun c.admission.runId)
  let tables := freshTables c packetBytes admissionBytes profileBytes
    mechanisms.executionAvailability.isSome
  let tx ← Tx.admitRun w ⟨tables, s.sequence, s.draws⟩ c evaluatedAt s.bootstrapRows mechanisms
  .ok (c.admission.runId, s.commit c.admission.runId tx)

/-- The two optional requirements of `admit_with_mechanism_requirements`. -/
def mechanismRequirements (capacityRequirementBytes requirementBytes policyBytes : Option Bytes) :
    Except ForemanError RunMechanisms := do
  let capacity ← match capacityRequirementBytes with
    | none => .ok none
    | some bytes => (fun value => some (value, bytes)) <$> validateCapacityRequirementBytes w bytes
  let availability ← match requirementBytes, policyBytes with
    | none, none => .ok none
    | some requirement, some policy =>
      some <$> validateExecutionAvailabilityConfiguration w requirement policy
    | _, _ => .error (.transition
      "execution-availability requirement and policy must be supplied together")
  .ok ⟨capacity, availability, none⟩

/-- `SelfHostedBootstrapInputsV1` -/
structure BootstrapInputs where
  bootstrapBytes : Bytes
  packetBytes : Bytes
  admissionBytes : Bytes
  profileBytes : Bytes
  capacityRequirementBytes : Bytes
  capacityPolicyBytes : Bytes
  requirementBytes : Bytes
  policyBytes : Bytes

/-- `admit_self_hosted_at_path` on an open store. -/
def admitSelfHosted (s : Store) (inputs : BootstrapInputs) :
    Except ForemanError (String × Store) := do
  forEach [("bootstrap plan", inputs.bootstrapBytes), ("bootstrap packet", inputs.packetBytes),
      ("bootstrap admission", inputs.admissionBytes), ("bootstrap profile", inputs.profileBytes),
      ("bootstrap capacity requirement", inputs.capacityRequirementBytes),
      ("bootstrap capacity policy", inputs.capacityPolicyBytes),
      ("bootstrap availability requirement", inputs.requirementBytes),
      ("bootstrap availability policy", inputs.policyBytes)] fun entry =>
    refuseIf (entry.2.isEmpty || entry.2.length > maximumWorkerBriefBytes) (.inputTooLarge entry.1)
  let bootstrap ← mapErr .contract
    (SelfHostedForemanBootstrapV1.fromSlice w inputs.bootstrapBytes)
  mapErr .contract (bootstrap.validateGraph w inputs.packetBytes inputs.admissionBytes
    inputs.profileBytes inputs.capacityRequirementBytes inputs.capacityPolicyBytes
    inputs.requirementBytes inputs.policyBytes)
  let capacity ← validateCapacityRequirementBytes w inputs.capacityRequirementBytes
  let availability ←
    validateExecutionAvailabilityConfiguration w inputs.requirementBytes inputs.policyBytes
  let admission ← mapErr .contract (w.parseAdmission inputs.admissionBytes)
  s.admitInternal w inputs.packetBytes inputs.admissionBytes inputs.profileBytes
    admission.admittedAt
    ⟨some (capacity, inputs.capacityRequirementBytes), some availability,
      some ⟨bootstrap, inputs.bootstrapBytes, inputs.capacityPolicyBytes⟩⟩

/-- The capacity evidence bytes of one attempt preparation. -/
structure CapacityEvidence where
  admissionBytes : Bytes
  observationBytes : Bytes
  policyBytes : Bytes
  decisionBytes : Bytes

def capacityBundle : Option CapacityEvidence → Except ForemanError (Option CapacityBundle)
  | none => .ok none
  | some evidence => some <$> validateCapacityBundle w evidence.admissionBytes
      evidence.observationBytes evidence.policyBytes evidence.decisionBytes

/-- `prepare_attempt` and `prepare_attempt_with_capacity`. -/
def prepareAttempt (s : Store) (runId workItemId : String) (evidence : Option CapacityEvidence)
    (recordedAt : Instant) : Except ForemanError (WorkerStartRequestV2 × Store) := do
  let capacity ← capacityBundle w evidence
  let result ← s.transact runId fun tx =>
    tx.prepareAttemptInternal w runId workItemId recordedAt capacity none
  .ok (result.1.1, result.2)

/-- `prepare_provider_attempt` and `prepare_provider_attempt_with_capacity`. -/
def prepareProviderAttempt (s : Store) (runId workItemId : String)
    (evidence : Option CapacityEvidence) (preparation : DispatchPreparation)
    (recordedAt : Instant) : Except ForemanError (OpenedDispatch × Store) := do
  let capacity ← capacityBundle w evidence
  let result ← s.transact runId fun tx =>
    tx.prepareAttemptInternal w runId workItemId recordedAt capacity (some preparation)
  let opened ← okOr result.1.2 (.transition "provider attempt lacks atomic V3 dispatch")
  .ok (opened, result.2)

def openProviderDispatch (s : Store) (runId workItemId attemptId : String)
    (preparation : DispatchPreparation) (openedAt : Instant) :
    Except ForemanError (OpenedDispatch × Store) :=
  s.transact runId fun tx =>
    tx.openProviderDispatch w runId workItemId attemptId preparation openedAt

def recordProviderDisposition (s : Store) (runId workItemId attemptId : String)
    (evidence : DispositionEvidence) (predecessorDispositionDigest : Option String) :
    Except ForemanError (ProviderAdmissionDispositionV1 × Store) := do
  let accepted ← validateProviderDispositionEvidence w evidence
  s.transact runId fun tx =>
    tx.recordProviderDisposition w runId workItemId attemptId accepted
      predecessorDispositionDigest

def wakeProviderDispatch (s : Store) (runId workItemId attemptId wakeOccurrenceId : String)
    (preparation : DispatchPreparation) (openedAt : Instant) :
    Except ForemanError (OpenedDispatch × Store) := do
  validateLocalOccurrenceId wakeOccurrenceId "wake_occurrence_id"
  s.transact runId fun tx =>
    tx.wakeProviderDispatch w runId workItemId attemptId wakeOccurrenceId preparation openedAt

def resumeProviderExecution (s : Store) (runId workItemId attemptId resumeOccurrenceId : String)
    (dispositionDigest adapterProcessOccurrenceId : String)
    (executionIdentity : ProviderExecutionIdentityV1) (recordedAt : Instant) :
    Except ForemanError (Unit × Store) := do
  validateLocalOccurrenceId resumeOccurrenceId "resume_occurrence_id"
  validateLocalOccurrenceId adapterProcessOccurrenceId "adapter_process_occurrence_id"
  mapErr .contract executionIdentity.validate
  s.transact runId fun tx =>
    tx.resumeProviderExecution w runId workItemId attemptId resumeOccurrenceId dispositionDigest
      adapterProcessOccurrenceId executionIdentity recordedAt

def recordDispatchRequested (s : Store) (runId workItemId attemptId : String)
    (recordedAt : Instant) : Except ForemanError (Unit × Store) :=
  s.transact runId fun tx =>
    tx.recordAttemptTransition w runId workItemId attemptId recordedAt .dispatchRequested
      "dispatch-requested"

def recordResumeRequested (s : Store) (runId workItemId attemptId : String)
    (recordedAt : Instant) : Except ForemanError (Unit × Store) :=
  s.transact runId fun tx =>
    tx.recordAttemptTransition w runId workItemId attemptId recordedAt .resumeRequested
      "resume-requested"

def recordTerminalRefusal (s : Store) (runId workItemId attemptId reason : String)
    (recordedAt : Instant) : Except ForemanError (Unit × Store) := do
  refuseIf (isBlank reason || byteLength reason > 4096) (.transition "invalid refusal reason")
  s.transact runId fun tx =>
    tx.recordAttemptTransition w runId workItemId attemptId recordedAt (.terminalRefused reason)
      "terminal-refused"

def acceptAdapterEvent (s : Store) (raw : Bytes) : Except ForemanError (Unit × Store) := do
  let event ← mapErr .contract (w.parseAdapterEvent raw)
  mapErr .contract (event.validate w)
  s.transact event.runId fun tx => tx.acceptAdapterEvent w raw event

def acceptTerminalReceipt (s : Store) (raw : Bytes) : Except ForemanError (Unit × Store) := do
  let receipt ← mapErr .contract (w.parseTerminalReceipt raw)
  mapErr .contract (receipt.validate w)
  s.transact receipt.runId fun tx => tx.acceptTerminalReceipt w raw receipt

def acceptPrelaunchClosure (s : Store) (raw : Bytes) : Except ForemanError (Bytes × Store) := do
  let closure ← mapErr .contract (PrelaunchClosureV1.fromSlice w raw)
  s.transact closure.binding.runId fun tx => tx.acceptPrelaunchClosure w closure

def acceptNotStarted (s : Store) (raw : Bytes) : Except ForemanError (Unit × Store) := do
  let receipt ← mapErr .contract (w.parseNotStartedReceipt raw)
  mapErr .contract (receipt.validate w)
  s.transact receipt.runId fun tx => tx.acceptNotStarted w raw receipt

def close (s : Store) (runId : String) (updatedAt : Instant) :
    Except ForemanError (Bytes × Store) :=
  s.transact runId fun tx => tx.close w runId updatedAt

def advanceSelfHostedDriver (s : Store) (runId bootstrapDigest : String)
    (expectedStepOrdinal : Nat) (schedulerProcessOccurrenceId : String) (recordedAt : Instant) :
    Except ForemanError (SelfHostedForemanDriverStepV1 × Store) := do
  validateLocalOccurrenceId schedulerProcessOccurrenceId "scheduler_process_occurrence_id"
  refuseIf (!s.runs.contains runId) (.transition "run has no self-hosted bootstrap custody")
  s.transact runId fun tx =>
    tx.advanceSelfHostedDriver w s.stepDigests runId bootstrapDigest expectedStepOrdinal
      schedulerProcessOccurrenceId recordedAt

end Store

/-- One client call, with all the arguments the client supplies. -/
inductive Call where
  | admitRun (packetBytes admissionBytes profileBytes : Bytes)
      (capacityRequirementBytes requirementBytes policyBytes : Option Bytes)
      (evaluatedAt : Instant)
  | admitSelfHosted (inputs : Store.BootstrapInputs)
  | prepareAttempt (runId workItemId : String) (evidence : Option Store.CapacityEvidence)
      (recordedAt : Instant)
  | prepareProviderAttempt (runId workItemId : String) (evidence : Option Store.CapacityEvidence)
      (preparation : DispatchPreparation) (recordedAt : Instant)
  | openProviderDispatch (runId workItemId attemptId : String) (preparation : DispatchPreparation)
      (openedAt : Instant)
  | recordProviderDisposition (runId workItemId attemptId : String)
      (evidence : DispositionEvidence) (predecessorDispositionDigest : Option String)
  | wakeProviderDispatch (runId workItemId attemptId wakeOccurrenceId : String)
      (preparation : DispatchPreparation) (openedAt : Instant)
  | resumeProviderExecution (runId workItemId attemptId resumeOccurrenceId : String)
      (dispositionDigest adapterProcessOccurrenceId : String)
      (executionIdentity : ProviderExecutionIdentityV1) (recordedAt : Instant)
  | recordDispatchRequested (runId workItemId attemptId : String) (recordedAt : Instant)
  | recordResumeRequested (runId workItemId attemptId : String) (recordedAt : Instant)
  | acceptAdapterEvent (raw : Bytes)
  | acceptTerminalReceipt (raw : Bytes)
  | recordTerminalRefusal (runId workItemId attemptId reason : String) (recordedAt : Instant)
  | acceptPrelaunchClosure (raw : Bytes)
  | acceptNotStarted (raw : Bytes)
  | close (runId : String) (updatedAt : Instant)
  | advanceSelfHostedDriver (runId bootstrapDigest : String) (expectedStepOrdinal : Nat)
      (schedulerProcessOccurrenceId : String) (recordedAt : Instant)

/-- What a call returns. -/
inductive Reply where
  | runId (value : String)
  | startRequest (value : WorkerStartRequestV2)
  | opened (value : OpenedDispatch)
  | disposition (value : ProviderAdmissionDispositionV1)
  | done
  | bytes (value : Bytes)
  | driverStep (value : SelfHostedForemanDriverStepV1)
  deriving DecidableEq

namespace Store

variable (w : Platform)

def replyWith {α : Type} (reply : α → Reply) (result : Except ForemanError (α × Store)) :
    Except ForemanError (Reply × Store) := do
  let result ← result
  .ok (reply result.1, result.2)

/-- One call against the store. -/
def perform (s : Store) : Call → Except ForemanError (Reply × Store)
  | .admitRun packetBytes admissionBytes profileBytes capacityRequirementBytes requirementBytes
      policyBytes evaluatedAt => do
    let mechanisms ←
      mechanismRequirements w capacityRequirementBytes requirementBytes policyBytes
    replyWith .runId
      (s.admitInternal w packetBytes admissionBytes profileBytes evaluatedAt mechanisms)
  | .admitSelfHosted inputs => replyWith .runId (s.admitSelfHosted w inputs)
  | .prepareAttempt runId workItemId evidence recordedAt =>
    replyWith .startRequest (s.prepareAttempt w runId workItemId evidence recordedAt)
  | .prepareProviderAttempt runId workItemId evidence preparation recordedAt =>
    replyWith .opened
      (s.prepareProviderAttempt w runId workItemId evidence preparation recordedAt)
  | .openProviderDispatch runId workItemId attemptId preparation openedAt =>
    replyWith .opened
      (s.openProviderDispatch w runId workItemId attemptId preparation openedAt)
  | .recordProviderDisposition runId workItemId attemptId evidence predecessor =>
    replyWith .disposition
      (s.recordProviderDisposition w runId workItemId attemptId evidence predecessor)
  | .wakeProviderDispatch runId workItemId attemptId wakeOccurrenceId preparation openedAt =>
    replyWith .opened
      (s.wakeProviderDispatch w runId workItemId attemptId wakeOccurrenceId preparation openedAt)
  | .resumeProviderExecution runId workItemId attemptId resumeOccurrenceId dispositionDigest
      adapterProcessOccurrenceId executionIdentity recordedAt =>
    replyWith (fun _ => .done)
      (s.resumeProviderExecution w runId workItemId attemptId resumeOccurrenceId dispositionDigest
        adapterProcessOccurrenceId executionIdentity recordedAt)
  | .recordDispatchRequested runId workItemId attemptId recordedAt =>
    replyWith (fun _ => .done) (s.recordDispatchRequested w runId workItemId attemptId recordedAt)
  | .recordResumeRequested runId workItemId attemptId recordedAt =>
    replyWith (fun _ => .done) (s.recordResumeRequested w runId workItemId attemptId recordedAt)
  | .acceptAdapterEvent raw => replyWith (fun _ => .done) (s.acceptAdapterEvent w raw)
  | .acceptTerminalReceipt raw => replyWith (fun _ => .done) (s.acceptTerminalReceipt w raw)
  | .recordTerminalRefusal runId workItemId attemptId reason recordedAt =>
    replyWith (fun _ => .done)
      (s.recordTerminalRefusal w runId workItemId attemptId reason recordedAt)
  | .acceptPrelaunchClosure raw => replyWith .bytes (s.acceptPrelaunchClosure w raw)
  | .acceptNotStarted raw => replyWith (fun _ => .done) (s.acceptNotStarted w raw)
  | .close runId updatedAt => replyWith .bytes (s.close w runId updatedAt)
  | .advanceSelfHostedDriver runId bootstrapDigest expectedStepOrdinal
      schedulerProcessOccurrenceId recordedAt =>
    replyWith .driverStep (s.advanceSelfHostedDriver w runId bootstrapDigest expectedStepOrdinal
      schedulerProcessOccurrenceId recordedAt)

/-- A refused call rolls back. -/
def after (s : Store) (call : Call) : Store :=
  match s.perform w call with
  | .ok result => result.2
  | .error _ => s

def run (s : Store) (calls : List Call) : Store := calls.foldl (after w) s

end Store

end Nightshift
