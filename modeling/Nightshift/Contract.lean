import Nightshift.Packet

/-!
Contract validation. Every sealed record carries the digest of itself with its
digest member erased; the field checks keep the order and the field names of
the source, so that the first refusal is the source's.
-/

namespace Nightshift

open Checked

def foremanAdmissionSchemaV1 : String := "nightshift.foreman-admission/v1"
def foremanCapacityAdmissionSchemaV1 : String := "nightshift.foreman-capacity-admission/v1"
def foremanCapacityRequirementSchemaV1 : String := "nightshift.foreman-capacity-requirement/v1"
def foremanExecutionProfileSchemaV2 : String := "nightshift.foreman-execution-profile/v2"
def foremanExecutionProfileSchemaV3 : String := "nightshift.foreman-execution-profile/v3"
def workerStartRequestSchemaV2 : String := "nightshift.worker-start-request/v2"
def workerAdapterEventSchemaV1 : String := "nightshift.worker-adapter-event/v1"
def workerTerminalReceiptSchemaV1 : String := "nightshift.worker-terminal-receipt/v1"
def workItemNotStartedReceiptSchemaV1 : String := "nightshift.work-item-not-started-receipt/v1"
def maximumAdapterTimeoutSeconds : Nat := 86400
def maximumWorkerOutputBytes : Nat := 16 * 1024 * 1024
def maximumCapacityHistoryBytes : Nat := 16 * 1024 * 1024
def maximumPredecessorReceipts : Nat := 1024
def maximumWorkerBriefBytes : Nat := 16 * 1024 * 1024

namespace Contract

def schema (actual expected : String) : Except ContractError Unit :=
  refuseIf (actual != expected) (.foreignSchema actual)

def isDigest (value : String) : Bool :=
  byteLength value == 71 &&
    ((stripPrefix "sha256:" value).any fun hex => hex.all isAsciiHexdigit)

def digest (field value : String) : Except ContractError Unit :=
  refuseIf (!isDigest value) (.invalidField field)

def isId (value : String) : Bool :=
  !value.isEmpty && byteLength value ≤ 512 &&
    (utf8 value).all fun b => isAsciiAlphanumeric b || isOneOf "._-:/" b

def id (field value : String) : Except ContractError Unit :=
  refuseIf (!isId value) (.invalidField field)

/-- A list of named members checked in order by one field check. -/
def each (check : String → String → Except ContractError Unit)
    (members : List (String × String)) : Except ContractError Unit :=
  forEach members fun member => check member.1 member.2

def eachPresent (members : List (String × Option String)) : Except ContractError Unit :=
  forEach members fun member =>
    match member.2 with
    | some value => id member.1 value
    | none => .ok ()

def insertUnique (field : String) (unique : BTreeSet String) (value : String) :
    Except ContractError (BTreeSet String) := do
  id field value
  refuseIf (unique.contains value) (.invalidField field)
  .ok (unique.insert value)

def uniqueIds (field : String) (values : List String) : Except ContractError Unit := do
  refuseIf values.isEmpty (.invalidField field)
  let _ ← values.foldlM (insertUnique field) ∅
  .ok ()

def custodyRoot (value : String) : Except ContractError Unit :=
  refuseIf (!(utf8 "/").isPrefixOf (utf8 value) || (utf8 value).contains 0 ||
    (utf8 value).tails.any fun rest => (utf8 "/../").isPrefixOf rest) (.invalidField "custody root")

def text (field value : String) : Except ContractError Unit :=
  refuseIf (isBlank value || value.length > 65536) (.invalidField field)

def extensions (w : Platform) (values : BTreeMap String String) : Except ContractError Unit := do
  refuseIf (values.size > 64) (.invalidField "extensions")
  forEach values.toList fun entry => do
    id "RFC8785 object key" entry.1
    w.interoperableJson entry.2

def sealedDigest (computed field observed : String) : Except ContractError Unit := do
  digest field observed
  refuseIf (computed != observed) (.digestMismatch field)

end Contract

namespace ForemanAdmissionV1

def computedDigest (w : Platform) (a : ForemanAdmissionV1) : String :=
  w.digestWithout "nightshift.foreman-admission.digest/v1\x00" "admission_digest"
    (.admission { a with admissionDigest := "" })

def validate (w : Platform) (a : ForemanAdmissionV1) : Except ContractError Unit := do
  Contract.schema a.schema foremanAdmissionSchemaV1
  Contract.sealedDigest (a.computedDigest w) "admission_digest" a.admissionDigest
  Contract.id "run_id" a.runId
  Contract.digest "packet_digest" a.packetDigest
  Contract.digest "operator_basis_digest" a.operatorBasisDigest
  Contract.id "local_runtime_identity" a.localRuntimeIdentity
  refuseIf (a.admittedAt ≥ a.expiresAt || a.maximumConcurrentWorkers == 0 ||
      a.maximumConcurrentWorkers > 4 || a.maximumNewAttemptsPerWorkItem != 1)
    (.invalidField "admission bounds")
  Contract.uniqueIds "allowed_adapter_ids" a.allowedAdapterIds
  Contract.uniqueIds "allowed_provider_model_classes" a.allowedProviderModelClasses
  refuseIf (a.authorityEffect != "LOCAL_AGENT_COMPUTE_SCHEDULING_ONLY" ||
    a.targetEffectsAuthorized) (.invalidField "authority boundary")

def validateAt (w : Platform) (a : ForemanAdmissionV1) (now : Instant) :
    Except ContractError Unit := do
  a.validate w
  refuseIf (now < a.admittedAt || now > a.expiresAt) (.invalidField "admission expired")

end ForemanAdmissionV1

namespace Contract

def capacityCostClass (value : String) : Except ContractError CapacityCostClassV1 :=
  if value == "small" || value == "bounded" then .ok .cheap
  else if value == "medium" || value == "large" then .ok .expensive
  else .error (.invalidField "capacity model-class mapping")

end Contract

namespace ForemanCapacityRequirementV1

def computedDigest (w : Platform) (r : ForemanCapacityRequirementV1) : String :=
  w.digestWithout "nightshift.foreman-capacity-requirement.digest/v1\x00"
    "capacity_requirement_digest" (.capacityRequirement { r with capacityRequirementDigest := "" })

def validate (w : Platform) (r : ForemanCapacityRequirementV1) : Except ContractError Unit := do
  Contract.schema r.schema foremanCapacityRequirementSchemaV1
  Contract.each Contract.digest
    [("capacity_requirement_digest", r.capacityRequirementDigest),
      ("packet_digest", r.packetDigest), ("admission_digest", r.admissionDigest),
      ("profile_digest", r.profileDigest)]
  Contract.each Contract.id
    [("run_id", r.runId), ("policy_id", r.policyId), ("provider_id", r.providerId)]
  refuseIf (r.modelCostClasses.isEmpty || r.modelCostClasses.size > 16)
    (.invalidField "capacity model-class map")
  forEach r.modelCostClasses.toList fun entry => do
    Contract.id "capacity model class" entry.1
    let cost ← Contract.capacityCostClass entry.1
    refuseIf (cost != entry.2) (.invalidField "capacity model-class map")
  refuseIf (r.authorityEffect != "LOCAL_AGENT_COMPUTE_SCHEDULING_ONLY")
    (.invalidField "capacity authority effect")
  refuseIf (r.computedDigest w != r.capacityRequirementDigest)
    (.digestMismatch "capacity_requirement_digest")

end ForemanCapacityRequirementV1

namespace ForemanCapacityAdmissionV1

def computedDigest (w : Platform) (a : ForemanCapacityAdmissionV1) : String :=
  w.digestWithout "nightshift.foreman-capacity-admission.digest/v1\x00"
    "capacity_admission_digest" (.capacityAdmission { a with capacityAdmissionDigest := "" })

def validate (w : Platform) (a : ForemanCapacityAdmissionV1) : Except ContractError Unit := do
  Contract.schema a.schema foremanCapacityAdmissionSchemaV1
  Contract.each Contract.digest
    [("packet_digest", a.packetDigest), ("admission_digest", a.admissionDigest),
      ("profile_digest", a.profileDigest),
      ("capacity_requirement_digest", a.capacityRequirementDigest),
      ("observation_digest", a.observationDigest), ("policy_digest", a.policyDigest),
      ("decision_digest", a.decisionDigest),
      ("capacity_admission_digest", a.capacityAdmissionDigest)]
  Contract.each Contract.id
    [("run_id", a.runId), ("work_item_id", a.workItemId), ("adapter_id", a.adapterId),
      ("provider_id", a.providerId), ("packet_model_class", a.packetModelClass),
      ("profile_model_class", a.profileModelClass), ("policy_id", a.policyId)]
  refuseIf (a.packetModelClass != a.profileModelClass)
    (.invalidField "capacity model-class binding")
  let expected ← Contract.capacityCostClass a.packetModelClass
  refuseIf (a.costClass != expected) (.invalidField "capacity cost class")
  refuseIf a.speculativeRequested (.invalidField "speculative capacity admission is unbound")
  refuseIf (a.authorityEffect != "LOCAL_AGENT_COMPUTE_SCHEDULING_ONLY")
    (.invalidField "capacity authority effect")
  refuseIf (a.computedDigest w != a.capacityAdmissionDigest)
    (.digestMismatch "capacity_admission_digest")

end ForemanCapacityAdmissionV1

namespace ExecutionProfileV2

/-- The digest domain; V2 omits the output bound and V3 carries one in range. -/
def profileDomain (p : ExecutionProfileV2) : Except ContractError String :=
  match p.maximumWorkerOutputBytes with
  | none =>
    if p.schema == foremanExecutionProfileSchemaV2 then
      .ok "nightshift.foreman-execution-profile.digest/v2\x00"
    else .error (.invalidField "profile schema/output bounds")
  | some bound =>
    if p.schema == foremanExecutionProfileSchemaV3 && 1024 ≤ bound &&
        bound ≤ Nightshift.maximumWorkerOutputBytes then
      .ok "nightshift.foreman-execution-profile.digest/v3\x00"
    else .error (.invalidField "profile schema/output bounds")

def workerOutputBound (p : ExecutionProfileV2) : Nat :=
  p.maximumWorkerOutputBytes.getD p.maximumEventBytes

def computedDigest (w : Platform) (domain : String) (p : ExecutionProfileV2) : String :=
  w.digestWithout domain "profile_digest" (.profile { p with profileDigest := "" })

def validateAdapter (key : String) (adapter : AdapterRegistrationV2) :
    Except ContractError Unit := do
  Contract.id "adapter key" key
  refuseIf (key != adapter.adapterId) (.invalidField "adapter key binding")
  Contract.id "adapter_id" adapter.adapterId
  Contract.id "adapter protocol" adapter.protocol
  Contract.id "adapter_version" adapter.adapterVersion
  Contract.digest "executable_identity" adapter.executableIdentity
  refuseIf (adapter.boundedArguments.length > 32 ||
    adapter.boundedArguments.any fun argument => byteLength argument > 1024)
    (.invalidField "bounded_arguments")

def validateExecution (p : ExecutionProfileV2) (workItem : String)
    (execution : WorkItemExecutionV1) : Except ContractError Unit := do
  Contract.id "work item key" workItem
  refuseIf (!p.adapters.contains execution.adapterId) (.invalidField "work item adapter")
  Contract.id "workspace_identity" execution.workspaceIdentity
  Contract.id "provider_model_class" execution.providerModelClass
  Contract.uniqueIds "resource_lock_keys" execution.resourceLockKeys

def validate (w : Platform) (p : ExecutionProfileV2) : Except ContractError Unit := do
  let domain ← p.profileDomain
  Contract.sealedDigest (p.computedDigest w domain) "profile_digest" p.profileDigest
  Contract.digest "packet_digest" p.packetDigest
  Contract.digest "admission_digest" p.admissionDigest
  refuseIf (p.adapters.isEmpty || p.workItems.isEmpty) (.invalidField "profile mappings")
  forEach p.adapters.toList fun entry => validateAdapter entry.1 entry.2
  forEach p.workItems.toList fun entry => p.validateExecution entry.1 entry.2
  Contract.id "budget_policy_ref" p.budgetPolicyRef
  Contract.custodyRoot p.logCustodyRoot
  Contract.custodyRoot p.receiptCustodyRoot
  refuseIf (!(1024 ≤ p.maximumEventBytes && p.maximumEventBytes ≤ 16 * 1024 * 1024) ||
      !(1024 ≤ p.maximumReceiptBytes && p.maximumReceiptBytes ≤ 16 * 1024 * 1024) ||
      p.adapterTimeoutSeconds == 0 || p.adapterTimeoutSeconds > 86400 ||
      p.closeoutPolicy != "ALL_EXPLICIT_TERMINAL_OR_NOT_STARTED") (.invalidField "profile bounds")

end ExecutionProfileV2

namespace WorkerStartRequestV2

def computedDigest (w : Platform) (r : WorkerStartRequestV2) : String :=
  w.digestWithout "nightshift.worker-start-request.digest/v2\x00" "request_digest"
    (.startRequestV2 { r with requestDigest := "" })

def validate (w : Platform) (r : WorkerStartRequestV2) : Except ContractError Unit := do
  Contract.schema r.schema workerStartRequestSchemaV2
  Contract.sealedDigest (r.computedDigest w) "request_digest" r.requestDigest
  Contract.digest "packet_digest" r.packetDigest
  Contract.each Contract.id
    [("adapter_id", r.adapterId), ("adapter_version", r.adapterVersion),
      ("adapter_protocol", r.adapterProtocol), ("run_id", r.runId),
      ("work_item_id", r.workItemId), ("attempt_id", r.attemptId),
      ("workspace_identity", r.workspaceIdentity),
      ("provider_model_class", r.providerModelClass)]
  Contract.digest "worker_brief_digest" r.workerBriefDigest
  refuseIf (r.timeoutSeconds == 0 || r.timeoutSeconds > maximumAdapterTimeoutSeconds ||
      r.maximumOutputBytes < 1024 || r.maximumOutputBytes > maximumWorkerOutputBytes ||
      !r.recursiveWorkerSwarmsForbidden || r.approvalPolicy != "SURFACE_ONLY_NO_RESPONSE" ||
      r.expectedReceiptSchema != workerTerminalReceiptSchemaV1)
    (.invalidField "worker start boundary")

def sealed (w : Platform) (r : WorkerStartRequestV2) : Except ContractError WorkerStartRequestV2 := do
  let r := { r with requestDigest := r.computedDigest w }
  r.validate w
  .ok r

end WorkerStartRequestV2

namespace HumanQuestionV1

def validate (q : HumanQuestionV1) : Except ContractError Unit := do
  Contract.id "question_id" q.questionId
  forEach [q.question, q.exhaustedEvidence, q.safeDefault, q.consequences, q.resumePoint]
    (Contract.text "human question")

end HumanQuestionV1

namespace AdapterEventV1

def computedDigest (w : Platform) (e : AdapterEventV1) : String :=
  w.digestWithout "nightshift.worker-adapter-event.digest/v1\x00" "event_digest"
    (.adapterEvent { e with eventDigest := "" })

def validate (w : Platform) (e : AdapterEventV1) : Except ContractError Unit := do
  Contract.schema e.schema workerAdapterEventSchemaV1
  Contract.sealedDigest (e.computedDigest w) "event_digest" e.eventDigest
  Contract.digest "packet_digest" e.packetDigest
  Contract.each Contract.id
    [("event_id", e.eventId), ("run_id", e.runId), ("work_item_id", e.workItemId),
      ("attempt_id", e.attemptId), ("adapter_id", e.adapterId),
      ("adapter_version", e.adapterVersion)]
  refuseIf ((e.kind == .humanQuestion) != e.humanQuestion.isSome) (.invalidField "human_question")
  match e.humanQuestion with
  | some question => question.validate
  | none => .ok ()
  refuseIf (e.message.any fun message => message.length > 65536)
    (.invalidField "adapter event bounds")
  Contract.extensions w e.extensions
  Contract.eachPresent
    [("provider_identity", e.providerIdentity), ("model_identity", e.modelIdentity),
      ("session_identity", e.sessionIdentity), ("thread_identity", e.threadIdentity),
      ("turn_identity", e.turnIdentity), ("queue_identity", e.queueIdentity)]

end AdapterEventV1

namespace TerminalReceiptV1

def computedDigest (w : Platform) (r : TerminalReceiptV1) : String :=
  w.digestWithout "nightshift.worker-terminal-receipt.digest/v1\x00" "receipt_digest"
    (.terminalReceipt { r with receiptDigest := "" })

def validate (w : Platform) (r : TerminalReceiptV1) : Except ContractError Unit := do
  Contract.schema r.schema workerTerminalReceiptSchemaV1
  Contract.sealedDigest (r.computedDigest w) "receipt_digest" r.receiptDigest
  Contract.digest "packet_digest" r.packetDigest
  Contract.each Contract.id
    [("run_id", r.runId), ("work_item_id", r.workItemId), ("attempt_id", r.attemptId),
      ("adapter_id", r.adapterId), ("adapter_version", r.adapterVersion),
      ("provider_identity", r.providerIdentity), ("model_identity", r.modelIdentity)]
  refuseIf (r.startedAt > r.endedAt) (.invalidField "receipt timestamps")
  Contract.each Contract.text
    [("state", r.state), ("result_classification", r.resultClassification),
      ("remaining_trigger", r.remainingTrigger), ("next_lawful_action", r.nextLawfulAction)]
  Contract.eachPresent
    [("session_identity", r.sessionIdentity), ("thread_identity", r.threadIdentity),
      ("turn_identity", r.turnIdentity), ("queue_identity", r.queueIdentity)]
  forEach r.humanQuestions HumanQuestionV1.validate
  Contract.extensions w r.extensions

end TerminalReceiptV1

namespace NotStartedReceiptV1

def computedDigest (w : Platform) (r : NotStartedReceiptV1) : String :=
  w.digestWithout "nightshift.work-item-not-started-receipt.digest/v1\x00" "receipt_digest"
    (.notStartedReceipt { r with receiptDigest := "" })

def validate (w : Platform) (r : NotStartedReceiptV1) : Except ContractError Unit := do
  Contract.schema r.schema workItemNotStartedReceiptSchemaV1
  Contract.sealedDigest (r.computedDigest w) "receipt_digest" r.receiptDigest
  Contract.digest "packet_digest" r.packetDigest
  Contract.id "run_id" r.runId
  Contract.id "work_item_id" r.workItemId
  Contract.each Contract.text
    [("state", r.state), ("result_classification", r.resultClassification),
      ("remaining_trigger", r.remainingTrigger), ("next_lawful_action", r.nextLawfulAction)]
  forEach r.humanQuestions HumanQuestionV1.validate
  Contract.extensions w r.extensions

def sealed (w : Platform) (r : NotStartedReceiptV1) : Except ContractError NotStartedReceiptV1 := do
  let r := { r with receiptDigest := r.computedDigest w }
  r.validate w
  .ok r

end NotStartedReceiptV1

end Nightshift
