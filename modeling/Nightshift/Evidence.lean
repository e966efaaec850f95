import Nightshift.Journal

/-!
What the store checks before it writes: the bindings between packet, admission
and profile, the two mechanism requirements of a run, the capacity and
disposition evidence of an attempt, and the worker brief. None of it changes a
table.
-/

namespace Nightshift

open Checked

/-- The reopened contracts of a run. -/
structure Contracts where
  packet : NightshiftPacketV1
  admission : ForemanAdmissionV1
  profile : ExecutionProfileV2
  maximum : Nat

def Contracts.maximumCapacityRows (c : Contracts) : Nat := c.packet.workItems.length + 1

def validateBindings (packet : NightshiftPacketV1) (admission : ForemanAdmissionV1)
    (profile : ExecutionProfileV2) : Except ForemanError Unit := do
  refuseIf (admission.packetDigest != packet.packetDigest ||
    profile.packetDigest != packet.packetDigest) (.identityMismatch "packet_digest")
  refuseIf (profile.admissionDigest != admission.admissionDigest)
    (.identityMismatch "admission_digest")
  refuseIf (admission.maximumConcurrentWorkers >
      packet.workerBudget.maximumConcurrentMutatingWorkers)
    (.transition "admission exceeds packet worker budget")
  refuseIf (BTreeSet.collect (packet.workItems.map (·.id)) !=
    BTreeSet.collect profile.workItems.keys) (.identityMismatch "profile work items")
  forEach (BTreeMap.valuesOf profile.workItems) fun execution => do
    refuseIf (!(admission.allowedAdapterIds.contains execution.adapterId))
      (.transition "profile adapter not admitted")
    refuseIf (!(admission.allowedProviderModelClasses.contains execution.providerModelClass))
      (.transition "provider/model class not admitted")

def loadContracts (w : Platform) (t : RunTables) (runId : String) :
    Except ForemanError Contracts := do
  let packet ← mapErr .packet (Packet.fromSlice w t.run.packetBytes)
  mapErr .packet (Packet.validateIntegrity w packet)
  let admission ← mapErr .contract (w.parseAdmission t.run.admissionBytes)
  mapErr .contract (admission.validate w)
  let profile ← mapErr .contract (w.parseProfile t.run.profileBytes)
  mapErr .contract (profile.validate w)
  validateBindings packet admission profile
  refuseIf (admission.runId != runId || t.run.packetDigest != packet.packetDigest ||
      t.run.admissionDigest != admission.admissionDigest ||
      t.run.profileDigest != profile.profileDigest || t.run.admittedAt != admission.admittedAt ||
      t.run.expiresAt != admission.expiresAt ||
      t.run.maximumConcurrentWorkers != admission.maximumConcurrentWorkers)
    (.readOnlyStore "run row and exact contract bytes disagree")
  .ok ⟨packet, admission, profile, t.run.maximumConcurrentWorkers⟩

/-- `ValidatedExecutionAvailabilityConfiguration` -/
structure Configuration where
  requirement : ForemanExecutionAvailabilityRequirementV1
  requirementBytes : Bytes
  policy : ExecutionAvailabilityPolicyV1
  policyBytes : Bytes
  deriving DecidableEq

def validateExecutionAvailabilityConfiguration (w : Platform) (requirementBytes policyBytes : Bytes) :
    Except ForemanError Configuration := do
  refuseIf (requirementBytes.isEmpty || policyBytes.isEmpty ||
      requirementBytes.length > maximumCapacityRecordBytes ||
      policyBytes.length > maximumCapacityRecordBytes)
    (.inputTooLarge "execution availability configuration")
  let requirement ← mapErr .contract (w.parseRequirement requirementBytes)
  let policy ← mapErr .contract (w.parsePolicy policyBytes)
  mapErr .contract (requirement.validate w)
  mapErr .contract (policy.validate w)
  refuseIf (w.canonical (.requirement requirement) != requirementBytes ||
      w.canonical (.policy policy) != policyBytes)
    (.transition "execution availability configuration is not exact canonical owner bytes")
  .ok ⟨requirement, requirementBytes, policy, policyBytes⟩

/-- All selections of a run name one provider. -/
def bindProvider (provider : Option String) (selection : ProviderModelSelectionV1) :
    Except ForemanError (Option String) :=
  match provider with
  | none => .ok (some selection.providerId)
  | some expected =>
    if expected == selection.providerId then .ok (some expected)
    else .error (.identityMismatch "execution availability provider identity")

def bindSelections (requirement : ForemanExecutionAvailabilityRequirementV1)
    (profile : ExecutionProfileV2) (provider : Option String) (item : WorkItemV1) :
    Except ForemanError (Option String) := do
  let execution ← okOr (profile.workItems[item.id]?) (.unknownWorkItem item.id)
  let selections ← okOr (requirement.workItemModelSelections[item.id]?)
    (.identityMismatch "execution availability selection")
  refuseIf (execution.adapterId != requirement.adapterId ||
      item.modelRouting.class_ != execution.providerModelClass ||
      (selections.any fun selection => selection.modelClass != execution.providerModelClass))
    (.identityMismatch "execution availability profile selection")
  selections.foldlM bindProvider provider

def validateExecutionAvailabilityConfigurationBindings (configuration : Configuration)
    (packet : NightshiftPacketV1) (admission : ForemanAdmissionV1) (profile : ExecutionProfileV2)
    (recordedAt : Instant) : Except ForemanError Unit := do
  let requirement := configuration.requirement
  let policy := configuration.policy
  refuseIf (requirement.packetDigest != packet.packetDigest ||
      requirement.admissionDigest != admission.admissionDigest ||
      requirement.profileDigest != profile.profileDigest ||
      requirement.runId != admission.runId || requirement.admittedAt != recordedAt ||
      requirement.admittedAt != admission.admittedAt || requirement.policyId != policy.policyId ||
      requirement.policyDigest != policy.policyDigest)
    (.identityMismatch "execution availability run requirement")
  let adapter ← okOr (profile.adapters[requirement.adapterId]?)
    (.identityMismatch "execution availability adapter")
  refuseIf (requirement.adapterId != adapter.adapterId ||
      requirement.adapterProtocol != adapter.protocol ||
      requirement.adapterVersion != adapter.adapterVersion ||
      requirement.adapterExecutableIdentity != adapter.executableIdentity)
    (.identityMismatch "execution availability adapter registration")
  refuseIf (BTreeSet.collect (packet.workItems.map (·.id)) !=
      BTreeSet.collect requirement.workItemModelSelections.keys)
    (.identityMismatch "execution availability work-item domain")
  let _ ← packet.workItems.foldlM (bindSelections requirement profile) none
  .ok ()

def validateCapacityRequirementBytes (w : Platform) (bytes : Bytes) :
    Except ForemanError ForemanCapacityRequirementV1 := do
  refuseIf (bytes.isEmpty || bytes.length > maximumCapacityRecordBytes)
    (.inputTooLarge "capacity requirement")
  let requirement ← mapErr .contract (w.parseCapacityRequirement bytes)
  mapErr .contract (requirement.validate w)
  refuseIf (w.canonical (.capacityRequirement requirement) != bytes)
    (.transition "capacity requirement bytes are not exact canonical owner bytes")
  .ok requirement

def validateCapacityRequirement (requirement : ForemanCapacityRequirementV1)
    (packet : NightshiftPacketV1) (admission : ForemanAdmissionV1)
    (profile : ExecutionProfileV2) : Except ForemanError Unit :=
  refuseIf (requirement.packetDigest != packet.packetDigest ||
      requirement.admissionDigest != admission.admissionDigest ||
      requirement.profileDigest != profile.profileDigest ||
      requirement.runId != admission.runId || requirement.policyId != profile.budgetPolicyRef ||
      BTreeSet.collect (packet.workItems.map (·.modelRouting.class_)) !=
        BTreeSet.collect requirement.modelCostClasses.keys ||
      (packet.workItems.any fun work =>
        (profile.workItems[work.id]?).all fun execution =>
          execution.providerModelClass != work.modelRouting.class_))
    (.identityMismatch "capacity requirement binding")

/-- `ValidatedCapacityAdmission` -/
structure CapacityBundle where
  admission : ForemanCapacityAdmissionV1
  observation : CapacityObservationV1
  policy : CapacityPolicyV1
  decision : CapacityDecisionV1
  admissionBytes : Bytes
  observationBytes : Bytes
  policyBytes : Bytes
  decisionBytes : Bytes
  deriving DecidableEq

def validateCapacityBundle (w : Platform)
    (admissionBytes observationBytes policyBytes decisionBytes : Bytes) :
    Except ForemanError CapacityBundle := do
  forEach [("capacity admission", admissionBytes), ("capacity observation", observationBytes),
      ("capacity policy", policyBytes), ("capacity decision", decisionBytes)] fun entry =>
    refuseIf (entry.2.isEmpty || entry.2.length > maximumCapacityRecordBytes)
      (.inputTooLarge entry.1)
  let admission ← mapErr .contract (w.parseCapacityAdmission admissionBytes)
  mapErr .contract (admission.validate w)
  let observation ← mapErr .serialization (w.parseCapacityObservation observationBytes)
  let policy ← mapErr .serialization (w.parseCapacityPolicy policyBytes)
  let decision ← mapErr .serialization (w.parseCapacityDecision decisionBytes)
  mapErr (.transition ·.display) (observation.validate w)
  mapErr (.transition ·.display) (policy.validate w)
  mapErr (.transition ·.display) (decision.validate w)
  let reproducedDecision ←
    mapErr (.transition ·.display) (decideCapacity w observation policy decision.decisionAt)
  refuseIf (reproducedDecision != decision)
    (.transition "capacity decision is not the exact deterministic FUEL outcome")
  forEach [("capacity admission", admissionBytes, Document.capacityAdmission admission),
      ("capacity observation", observationBytes, .capacityObservation observation),
      ("capacity policy", policyBytes, .capacityPolicy policy),
      ("capacity decision", decisionBytes, .capacityDecision decision)] fun entry =>
    refuseIf (entry.2.1 != w.canonical entry.2.2)
      (.transition (entry.1 ++ " bytes are not exact canonical owner bytes"))
  .ok ⟨admission, observation, policy, decision, admissionBytes, observationBytes, policyBytes,
    decisionBytes⟩

/-- What a validated bundle establishes of its records. -/
structure CapacityBundle.Valid (w : Platform) (bundle : CapacityBundle) : Prop where
  reopens : validateCapacityBundle w bundle.admissionBytes bundle.observationBytes
    bundle.policyBytes bundle.decisionBytes = .ok bundle
  decided : decideCapacity w bundle.observation bundle.policy bundle.decision.decisionAt =
    .ok bundle.decision

theorem validateCapacityBundle_bytes {w : Platform}
    {admission observation policy decision : Bytes} {bundle : CapacityBundle}
    (h : validateCapacityBundle w admission observation policy decision = .ok bundle) :
    bundle.admissionBytes = admission ∧ bundle.observationBytes = observation ∧
      bundle.policyBytes = policy ∧ bundle.decisionBytes = decision := by
  simp only [validateCapacityBundle, bind_eq_ok, Except.ok.injEq] at h
  obtain ⟨_, -, _, -, _, -, _, -, _, -, _, -, _, -, _, -, _, -, _, -, _, -, _, -, rfl⟩ := h
  exact ⟨rfl, rfl, rfl, rfl⟩

theorem validateCapacityBundle_ok {w : Platform} {admission observation policy decision : Bytes}
    {bundle : CapacityBundle}
    (h : validateCapacityBundle w admission observation policy decision = .ok bundle) :
    bundle.Valid w := by
  have hfields := h
  simp only [validateCapacityBundle, bind_eq_ok, mapErr_eq_ok, refuseIf_eq_ok,
    bne_eq_false_iff_eq, Except.ok.injEq] at hfields
  obtain ⟨_, -, _, -, _, -, _, -, _, -, _, -, _, -, _, -, _, -, reproduced, hreproduced, _, rfl, _,
    -, rfl⟩ := hfields
  exact ⟨h, hreproduced⟩

/-- The closing match of `validate_capacity_bindings`. -/
def admitsCost (decision : CapacityDecisionV1) (cost : CapacityCostClassV1) :
    Except ForemanError Unit :=
  match decision.admission with
  | .noNewWork => .error (.transition "capacity decision admits no new work")
  | .cheapBoundedOnly =>
    refuseIf (cost != .cheap)
      (.transition "capacity decision admits only closed cheap model classes")
  | .ordinaryBounded =>
    refuseIf (cost == .expensive && !decision.allowNewExpensiveWork)
      (.transition "capacity decision does not admit new expensive work")

def validateCapacityBindings (capacity : CapacityBundle) (packet : NightshiftPacketV1)
    (foremanAdmission : ForemanAdmissionV1) (profile : ExecutionProfileV2)
    (requirement : ForemanCapacityRequirementV1) (workItemId : String) (recordedAt : Instant) :
    Except ForemanError Unit := do
  let binding := capacity.admission
  let work ← okOr (packet.workItems.find? fun work => work.id == workItemId)
    (.unknownWorkItem workItemId)
  let execution ← okOr (profile.workItems[workItemId]?) (.unknownWorkItem workItemId)
  refuseIf (binding.capacityRequirementDigest != requirement.capacityRequirementDigest ||
      binding.providerId != requirement.providerId || binding.policyId != requirement.policyId ||
      requirement.modelCostClasses[binding.packetModelClass]? != some binding.costClass)
    (.identityMismatch "capacity requirement identity")
  refuseIf (binding.packetDigest != packet.packetDigest ||
      binding.admissionDigest != foremanAdmission.admissionDigest ||
      binding.profileDigest != profile.profileDigest ||
      binding.runId != foremanAdmission.runId || binding.workItemId != workItemId ||
      binding.adapterId != execution.adapterId ||
      binding.packetModelClass != work.modelRouting.class_ ||
      binding.profileModelClass != execution.providerModelClass)
    (.identityMismatch "capacity admission binding")
  refuseIf (capacity.observation.modelFamily.any fun family => family != binding.packetModelClass)
    (.identityMismatch "capacity observation model family")
  refuseIf (binding.providerId != capacity.observation.providerId ||
      binding.providerId != capacity.decision.providerId ||
      binding.policyId != capacity.policy.policyId ||
      binding.policyId != profile.budgetPolicyRef ||
      binding.observationDigest != capacity.observation.observationDigest ||
      binding.policyDigest != capacity.policy.policyDigest ||
      binding.decisionDigest != capacity.decision.decisionDigest ||
      capacity.decision.observationDigest != capacity.observation.observationDigest ||
      capacity.decision.policyDigest != capacity.policy.policyDigest)
    (.identityMismatch "capacity owner identity")
  refuseIf (binding.evaluatedAt != recordedAt || capacity.decision.decisionAt != recordedAt ||
      recordedAt < capacity.observation.observedAt || recordedAt ≥ capacity.observation.expiresAt)
    (.transition "capacity decision is not current at exact attempt admission")
  admitsCost capacity.decision binding.costClass

/-- The capacity requirement retained in the journal, read in sequence order. -/
def findCapacityRequirement (w : Platform) (found : Option ForemanCapacityRequirementV1)
    (row : EventRow) : Except ForemanError (Option ForemanCapacityRequirementV1) := do
  let event ← row.internalEvent
  match event.payload with
  | .capacityRequirementAdmitted requirement requirementBytes => do
    refuseIf (found.isSome || w.canonical (.capacityRequirement requirement) != requirementBytes)
      (.readOnlyStore "capacity requirement history is not singular exact custody")
    mapErr .contract (requirement.validate w)
    .ok (some requirement)
  | _ => .ok found

def loadCapacityRequirement (w : Platform) (t : RunTables) :
    Except ForemanError (Option ForemanCapacityRequirementV1) :=
  (t.events.filter fun row => row.kind == .internal || row.kind == .capacityRequirement).foldlM
    (findCapacityRequirement w) none

/-- `ProviderDispositionEvidenceV1`, the bytes a mechanism owner submits. -/
structure DispositionEvidence where
  observationBytes : Bytes
  dispositionBytes : Bytes
  deferredBytes : Option Bytes
  deriving DecidableEq

/-- `ValidatedProviderDispositionEvidence` -/
structure AcceptedDisposition where
  observation : ExecutionAvailabilityObservationV1
  observationBytes : Bytes
  disposition : ProviderAdmissionDispositionV1
  dispositionBytes : Bytes
  deferred : Option DeferredProviderDispatchV1
  deferredBytes : Option Bytes
  deriving DecidableEq

def parseOptionalDeferred (w : Platform) :
    Option Bytes → Except ForemanError (Option DeferredProviderDispatchV1)
  | none => .ok none
  | some bytes => some <$> mapErr .contract (w.parseDeferred bytes)

def validateOptionalDeferred (w : Platform) :
    Option DeferredProviderDispatchV1 → Except ForemanError Unit
  | none => .ok ()
  | some deferred => mapErr .contract (deferred.validate w)

def validateProviderDispositionEvidence (w : Platform) (evidence : DispositionEvidence) :
    Except ForemanError AcceptedDisposition := do
  refuseIf (evidence.observationBytes.isEmpty || evidence.dispositionBytes.isEmpty ||
      evidence.observationBytes.length + evidence.dispositionBytes.length +
        (evidence.deferredBytes.map List.length).getD 0 >
          maximumExecutionAvailabilityHistoryBytes)
    (.inputTooLarge "provider disposition evidence")
  let observation ← mapErr .contract (w.parseObservation evidence.observationBytes)
  let disposition ← mapErr .contract (w.parseDisposition evidence.dispositionBytes)
  let deferred ← parseOptionalDeferred w evidence.deferredBytes
  mapErr .contract (observation.validate w)
  mapErr .contract (disposition.validate w)
  validateOptionalDeferred w deferred
  refuseIf (w.canonical (.observation observation) != evidence.observationBytes ||
      w.canonical (.disposition disposition) != evidence.dispositionBytes ||
      (deferred.map fun value => w.canonical (.deferred value)) != evidence.deferredBytes)
    (.transition "provider disposition evidence is not exact canonical owner bytes")
  .ok ⟨observation, evidence.observationBytes, disposition, evidence.dispositionBytes, deferred,
    evidence.deferredBytes⟩

def isLocalOccurrenceId (value : String) : Bool :=
  !value.isEmpty && byteLength value ≤ 256 &&
    (utf8 value).all fun b => isAsciiAlphanumeric b || isOneOf "._:-" b

def validateLocalOccurrenceId (value field : String) : Except ForemanError Unit :=
  refuseIf (!isLocalOccurrenceId value) (.transition ("invalid " ++ field))

/-- `OpenedProviderDispatchV1` -/
structure OpenedDispatch where
  workerStartRequest : WorkerStartRequestV3
  dispatch : ProviderDispatchOccurrenceV1
  deriving DecidableEq

def buildProviderDispatch (w : Platform) (predecessor : WorkerStartRequestV2)
    (profile : ExecutionProfileV2) (requirement : ForemanExecutionAvailabilityRequirementV1)
    (dispatchOccurrenceId adapterProcessOccurrenceId appServerSessionIdentity : String)
    (selectedModelOrdinal dispatchOrdinal : Nat) (openedAt : Instant) :
    Except ForemanError OpenedDispatch := do
  validateLocalOccurrenceId dispatchOccurrenceId "dispatch_occurrence_id"
  validateLocalOccurrenceId adapterProcessOccurrenceId "adapter_process_occurrence_id"
  validateLocalOccurrenceId appServerSessionIdentity "app_server_session_identity"
  let start ← mapErr .contract (WorkerStartRequestV3.fromV2ForDispatch w
    (w.canonical (.startRequestV2 predecessor)) profile requirement dispatchOccurrenceId
    selectedModelOrdinal)
  let dispatch : ProviderDispatchOccurrenceV1 :=
    { schema := providerDispatchOccurrenceSchemaV1
      dispatchDigest := placeholderDigest
      requirementDigest := requirement.requirementDigest
      policyDigest := requirement.policyDigest
      packetDigest := requirement.packetDigest
      runId := start.runId
      workItemId := start.workItemId
      workAttemptId := start.workAttemptId
      dispatchOccurrenceId := dispatchOccurrenceId
      dispatchOrdinal := dispatchOrdinal
      selectedModelOrdinal := selectedModelOrdinal
      selection := ⟨start.providerId, start.modelId, start.modelClass⟩
      adapterId := start.adapterId
      adapterVersion := start.adapterVersion
      adapterProtocol := start.adapterProtocol
      adapterProcessOccurrenceId := adapterProcessOccurrenceId
      appServerSessionIdentity := appServerSessionIdentity
      workerStartRequestSchema := start.schema
      workerStartRequestDigest := start.requestDigest
      workerBriefDigest := start.workerBriefDigest
      openedAt := openedAt
      internalProviderRetryCount := 0
      providerExecutionId := none
      authorityEffect := localSchedulingOnly }
  let dispatch ← mapErr .contract (dispatch.sealed w)
  mapErr .contract (start.validateDispatchGraph w profile requirement dispatch)
  .ok ⟨start, dispatch⟩

/-- `query_row` on the retained receipt of a work item. -/
def RunTables.receiptOf (t : RunTables) (workItemId : String) : Except ForemanError ReceiptRow :=
  okOr (t.terminalReceipts[workItemId]?) (.sql "Query returned no rows")

/-- The predecessor receipts of a brief, as one representation of each row. -/
def predecessorReceipts (t : RunTables) (represent : ReceiptRow → RetainedPredecessorReceiptV1)
    (dependencies : List String) :
    Except ForemanError (BTreeMap String RetainedPredecessorReceiptV1) :=
  dependencies.foldlM (fun map dependency => do
    let receipt ← t.receiptOf dependency
    .ok (map.insert dependency (represent receipt))) ∅

def retainedLengths (t : RunTables) (dependencies : List String) : Except ForemanError Nat :=
  dependencies.foldlM (fun total dependency => do
    let receipt ← t.receiptOf dependency
    .ok (total + receipt.rawBytes.length)) t.run.packetBytes.length

/-- `worker_brief_bytes`: the size is bounded before the retained bytes are expanded. -/
def workerBrief (w : Platform) (t : RunTables) (packet : NightshiftPacketV1)
    (profile : ExecutionProfileV2) (workItemId : String) : Except ForemanError WorkerBriefV2 := do
  let item ← okOr (packet.workItems.find? fun item => item.id == workItemId)
    (.unknownWorkItem workItemId)
  refuseIf (item.dependencies.length > maximumPredecessorReceipts)
    (.inputTooLarge "predecessor receipt count")
  let preflight ← predecessorReceipts t
    (fun receipt => ⟨receipt.receiptKind, placeholderDigest, []⟩) item.dependencies
  let execution ← okOr (profile.workItems[workItemId]?) (.unknownWorkItem workItemId)
  let baseline := w.canonical (.workerBrief
    ⟨packet.packetDigest, ⟨placeholderDigest, []⟩, item, preflight, packet.globalConstraints,
      execution⟩)
  let rawTotal ← retainedLengths t item.dependencies
  refuseIf (baseline.length + 2 * rawTotal > maximumWorkerBriefBytes)
    (.inputTooLarge "worker brief")
  let predecessors ← predecessorReceipts t
    (fun receipt => ⟨receipt.receiptKind, w.rawDigest receipt.rawBytes, receipt.rawBytes⟩)
    item.dependencies
  let brief : WorkerBriefV2 :=
    ⟨packet.packetDigest, ⟨w.rawDigest t.run.packetBytes, t.run.packetBytes⟩, item, predecessors,
      packet.globalConstraints, execution⟩
  refuseIf ((w.canonical (.workerBrief brief)).length > maximumWorkerBriefBytes)
    (.inputTooLarge "worker brief")
  .ok brief

def workerBriefDigest (w : Platform) (brief : WorkerBriefV2) : String :=
  w.domainDigest "nightshift.worker-brief.digest/v2\x00" (w.canonical (.workerBrief brief))

namespace WorkerBriefV2

def decodeRetained (w : Platform) (retainedRawDigest : String) (raw : Bytes) :
    Except ContractError Bytes := do
  Contract.digest "retained_raw_digest" retainedRawDigest
  refuseIf (2 * raw.length > 2 * maximumWorkerBriefBytes) (.invalidField "retained raw encoding")
  refuseIf (w.rawDigest raw != retainedRawDigest) (.digestMismatch "retained raw")
  .ok raw

def checkPredecessor (w : Platform) (brief : WorkerBriefV2) (start : WorkerStartRequestV2)
    (entry : String × RetainedPredecessorReceiptV1) : Except ContractError Unit := do
  let raw ← decodeRetained w entry.2.retainedRawDigest entry.2.bytesHex
  match entry.2.receiptKind with
  | .terminal => do
    let receipt ← w.parseTerminalReceipt raw
    receipt.validate w
    refuseIf (receipt.packetDigest != brief.packetDigest || receipt.runId != start.runId ||
      receipt.workItemId != entry.1) (.invalidField "predecessor terminal binding")
  | .notStarted => do
    let receipt ← w.parseNotStartedReceipt raw
    receipt.validate w
    refuseIf (receipt.packetDigest != brief.packetDigest || receipt.runId != start.runId ||
      receipt.workItemId != entry.1) (.invalidField "predecessor not-started binding")

/-- `from_slice_for_start` on the canonical bytes of a brief. -/
def validateForStart (w : Platform) (brief : WorkerBriefV2) (start : WorkerStartRequestV2) :
    Except ContractError Unit := do
  refuseIf ((w.canonical (.workerBrief brief)).length > maximumWorkerBriefBytes)
    (.invalidField "worker brief size")
  Contract.digest "packet_digest" brief.packetDigest
  refuseIf (brief.packetDigest != start.packetDigest ||
      Nightshift.workerBriefDigest w brief != start.workerBriefDigest)
    (.digestMismatch "worker brief binding")
  refuseIf (brief.predecessorReceipts.size > maximumPredecessorReceipts)
    (.invalidField "predecessor receipt count")
  let packetRaw ← decodeRetained w brief.packetSource.retainedRawDigest
    brief.packetSource.bytesHex
  let packet ← mapErr (fun _ => .invalidField "retained packet") (Packet.fromSlice w packetRaw)
  mapErr (fun _ => .invalidField "retained packet integrity") (Packet.validateIntegrity w packet)
  refuseIf (packet.packetDigest != brief.packetDigest) (.digestMismatch "retained packet")
  let selected ← okOr (packet.workItems.find? fun item => item.id == start.workItemId)
    (.invalidField "retained work item")
  refuseIf (brief.workItem != selected) (.invalidField "recognized work item")
  refuseIf (brief.globalConstraints != packet.globalConstraints)
    (.invalidField "recognized global constraints")
  refuseIf (brief.execution.adapterId != start.adapterId ||
      brief.execution.workspaceIdentity != start.workspaceIdentity ||
      brief.execution.providerModelClass != start.providerModelClass)
    (.invalidField "recognized execution binding")
  refuseIf (BTreeSet.collect selected.dependencies !=
    BTreeSet.collect brief.predecessorReceipts.keys) (.invalidField "predecessor receipt set")
  forEach brief.predecessorReceipts.toList (checkPredecessor w brief start)

end WorkerBriefV2

/-- `prelaunch_not_started_receipt` -/
def prelaunchNotStartedReceipt (w : Platform) (closure : PrelaunchClosureV1) :
    Except ForemanError NotStartedReceiptV1 := do
  mapErr .contract (closure.validate w)
  let receipt : NotStartedReceiptV1 :=
    { schema := workItemNotStartedReceiptSchemaV1
      receiptDigest := placeholderDigest
      packetDigest := closure.binding.packetDigest
      runId := closure.binding.runId
      workItemId := closure.binding.workItemId
      recordedAt := closure.closedAt
      state := "NOT_STARTED"
      resultClassification := "LOCAL_PRELAUNCH_FAILURE"
      evidence := [closure.closureDigest]
      remainingTrigger :=
        "Prepared attempt retained; backend launch failed before provider claim. No worker result exists."
      nextLawfulAction :=
        "Review the local failure and obtain separately admitted successor work; this closure grants no retry."
      humanQuestions := []
      extensions := ((∅ : BTreeMap String String).insert "prelaunch_closure"
        (w.jsonText (.prelaunchClosure closure))).insert "prepared_attempt_id"
        (w.jsonText (.text closure.binding.workAttemptId)) }
  mapErr .contract (receipt.sealed w)

end Nightshift
