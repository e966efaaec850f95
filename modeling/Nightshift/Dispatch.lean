import Nightshift.Availability

/-!
Dispatch records: owner pins and model selections, the run requirement, the V3
start request built over its V2 predecessor, the dispatch occurrence, the
disposition of a dispatch and the deferral of a parked one.
-/

namespace Nightshift

open Checked

namespace ProviderAdmissionOwnerPinsV1

def finalCodexOwnerHead : String := "97b0acd5ce2ccb3c87a763606696c35a450947f6"
def finalSwitchyardSchemaSha256 : String :=
  "sha256:0e9c851cc9fad9538408ab44d84737d5f4d4d7ef39f2fd5db20c6f88fc7fbb9e"
def priorEchoSchemaSha256 : String :=
  "sha256:2bcf795c753a08d3c7e2ef8b521b44b155054fccbd50452662230d59ddd3f293"

def accepted : ProviderAdmissionOwnerPinsV1 where
  codexOwnerHead := "c36a8137638decf8b04a49611354a90f32c5a945"
  switchyardOwnerHead := "2ba25db66d8b29dd215bd87e05f4ea794024b3b7"
  switchyardSchemaSha256 :=
    "sha256:131f1f6e0cf8cb0aea26ed225c584440c81ffedd443c68ace23adecbe493cf93"
  deterministicFixtureSha256 :=
    "sha256:cafa673ac58f60029fd6c1de229b4f57d9f42ba918b7ecb2a3bfb20cb2b41a31"

def boundedTurnEchoCandidate : ProviderAdmissionOwnerPinsV1 :=
  { accepted with
    codexOwnerHead := finalCodexOwnerHead
    switchyardOwnerHead := "805e84d777eaab57c2108919ce43b09828e6e1ef"
    switchyardSchemaSha256 :=
      "sha256:c851fb5dd157ebb70896da06db50a07b968b3c0d357b2defc73ca267b9d82f93" }

def rawCompletionEchoCandidate : ProviderAdmissionOwnerPinsV1 :=
  { boundedTurnEchoCandidate with
    switchyardOwnerHead := "df9acbd044beaa4cb165dcb648341cc373aecd72" }

def filteredRawCompletionEchoCandidate : ProviderAdmissionOwnerPinsV1 :=
  { rawCompletionEchoCandidate with
    switchyardOwnerHead := "299609cda100ccf8701d5619ac78499f8bddd303" }

def retainedProviderReceiptCandidate : ProviderAdmissionOwnerPinsV1 :=
  { filteredRawCompletionEchoCandidate with
    switchyardOwnerHead := "0d5c87e792bb0e8ea787329f25b0e31cc9dfd0b6" }

def priorBoundedTurnEchoCandidate : ProviderAdmissionOwnerPinsV1 :=
  { accepted with
    codexOwnerHead := finalCodexOwnerHead
    switchyardOwnerHead := "6fe1084dc1a0e8e39a5a6c2bc108b39ace682724"
    switchyardSchemaSha256 := priorEchoSchemaSha256 }

def earlierBoundedTurnEchoCandidate : ProviderAdmissionOwnerPinsV1 :=
  { accepted with
    codexOwnerHead := finalCodexOwnerHead
    switchyardOwnerHead := "ce5a3a0be8f90162581c820b85b2a785557aae24"
    switchyardSchemaSha256 := priorEchoSchemaSha256 }

def boundedTurnCandidate : ProviderAdmissionOwnerPinsV1 :=
  { accepted with
    codexOwnerHead := finalCodexOwnerHead
    switchyardOwnerHead := "8479cb77dc76632e64b66e84c4f75c9765e421a6"
    switchyardSchemaSha256 :=
      "sha256:4e4eac904735c570f3fe7332765fffe4608cc3987fee9c1ef4b8db3ffdf03376" }

def packagedRuntimeCandidate : ProviderAdmissionOwnerPinsV1 :=
  { accepted with
    codexOwnerHead := finalCodexOwnerHead
    switchyardOwnerHead := "7df43b4e15cb1465f434e072b4233a2e5825c0ca"
    switchyardSchemaSha256 := finalSwitchyardSchemaSha256 }

def sourceExportVerifiedCandidate : ProviderAdmissionOwnerPinsV1 :=
  { accepted with
    codexOwnerHead := finalCodexOwnerHead
    switchyardOwnerHead := "3ba607c950a28c922b26d6dfa66ee06095158dc9"
    switchyardSchemaSha256 := finalSwitchyardSchemaSha256 }

def finalBetaCandidate : ProviderAdmissionOwnerPinsV1 :=
  { accepted with
    codexOwnerHead := finalCodexOwnerHead
    switchyardOwnerHead := "c01fb1ee586d33a5031d1d928ce40fcabfb4f4f2"
    switchyardSchemaSha256 := finalSwitchyardSchemaSha256 }

def priorFinalBetaCandidate : ProviderAdmissionOwnerPinsV1 :=
  { finalBetaCandidate with
    switchyardOwnerHead := "4f85615ef6ebe5483ab96afe6e046b4ea10566c6" }

def betaCandidate : ProviderAdmissionOwnerPinsV1 :=
  { accepted with
    codexOwnerHead := "6893ae42233aa95b1c1623497405681d99a589da"
    switchyardOwnerHead := "2207bb6ca19690a2c218fffe6c69e429eee24eb5"
    switchyardSchemaSha256 :=
      "sha256:448c2535c9c9586754d222912bbc86bc09fadb3c98059dc134141aff08efb8ba" }

/-- Every enrolled owner tuple. -/
def enrolled : List ProviderAdmissionOwnerPinsV1 :=
  [accepted, retainedProviderReceiptCandidate, filteredRawCompletionEchoCandidate,
    rawCompletionEchoCandidate, boundedTurnEchoCandidate, priorBoundedTurnEchoCandidate,
    earlierBoundedTurnEchoCandidate, boundedTurnCandidate, betaCandidate,
    priorFinalBetaCandidate, finalBetaCandidate, sourceExportVerifiedCandidate,
    packagedRuntimeCandidate]

def isEnrolled (p : ProviderAdmissionOwnerPinsV1) : Bool := enrolled.contains p

def validate (p : ProviderAdmissionOwnerPinsV1) : Except ContractError Unit :=
  refuseIf (!p.isEnrolled) (.invalidField "provider admission owner pins")

end ProviderAdmissionOwnerPinsV1

namespace ProviderModelSelectionV1

def validate (s : ProviderModelSelectionV1) : Except ContractError Unit := do
  Contract.id "selection provider_id" s.providerId
  Contract.id "selection model_id" s.modelId
  Contract.id "selection model_class" s.modelClass

end ProviderModelSelectionV1

namespace ForemanExecutionAvailabilityRequirementV1

def computedDigest (w : Platform) (r : ForemanExecutionAvailabilityRequirementV1) : String :=
  w.digestWithout "nightshift.foreman-execution-availability-requirement.digest/v1\x00"
    "requirement_digest" (.requirement { r with requirementDigest := "" })

def insertSelection (exact_ : List ProviderModelSelectionV1)
    (selection : ProviderModelSelectionV1) :
    Except ContractError (List ProviderModelSelectionV1) := do
  selection.validate
  refuseIf (exact_.contains selection) (.invalidField "duplicate model selection")
  .ok (selection :: exact_)

def validateSelections (workItem : String) (selections : List ProviderModelSelectionV1) :
    Except ContractError Unit := do
  Contract.id "work_item_id" workItem
  refuseIf (selections.isEmpty || selections.length > 16)
    (.invalidField "model selection count")
  let _ ← selections.foldlM insertSelection []
  .ok ()

def validate (w : Platform) (r : ForemanExecutionAvailabilityRequirementV1) :
    Except ContractError Unit := do
  Contract.schema r.schema foremanExecutionAvailabilityRequirementSchemaV1
  Availability.sealedDigest (r.computedDigest w) "requirement_digest" r.requirementDigest
  Contract.each Availability.digest
    [("packet_digest", r.packetDigest), ("admission_digest", r.admissionDigest),
      ("profile_digest", r.profileDigest),
      ("adapter_executable_identity", r.adapterExecutableIdentity),
      ("policy_digest", r.policyDigest)]
  Contract.each Contract.id
    [("run_id", r.runId), ("adapter_id", r.adapterId), ("adapter_protocol", r.adapterProtocol),
      ("adapter_version", r.adapterVersion), ("policy_id", r.policyId)]
  r.ownerPins.validate
  refuseIf (r.workItemModelSelections.isEmpty || r.workItemModelSelections.size > 1024)
    (.invalidField "work-item model selections")
  forEach r.workItemModelSelections.toList fun entry => validateSelections entry.1 entry.2
  refuseIf (r.authorityEffect != localSchedulingOnly)
    (.invalidField "requirement authority effect")

/-- The ordered selection an ordinal names for a work item. -/
def selectionAt (r : ForemanExecutionAvailabilityRequirementV1) (workItemId : String)
    (ordinal : Nat) : Option ProviderModelSelectionV1 :=
  (r.workItemModelSelections[workItemId]?).bind fun selections => selections[ordinal]?

end ForemanExecutionAvailabilityRequirementV1

namespace ProviderDispatchOccurrenceV1

def computedDigest (w : Platform) (d : ProviderDispatchOccurrenceV1) : String :=
  w.digestWithout "nightshift.provider-dispatch-occurrence.digest/v1\x00" "dispatch_digest"
    (.dispatch { d with dispatchDigest := "" })

def validate (w : Platform) (d : ProviderDispatchOccurrenceV1) : Except ContractError Unit := do
  Contract.schema d.schema providerDispatchOccurrenceSchemaV1
  Availability.sealedDigest (d.computedDigest w) "dispatch_digest" d.dispatchDigest
  Contract.each Availability.digest
    [("requirement_digest", d.requirementDigest), ("policy_digest", d.policyDigest),
      ("packet_digest", d.packetDigest),
      ("worker_start_request_digest", d.workerStartRequestDigest),
      ("worker_brief_digest", d.workerBriefDigest)]
  Contract.each Contract.id
    [("run_id", d.runId), ("work_item_id", d.workItemId), ("work_attempt_id", d.workAttemptId),
      ("dispatch_occurrence_id", d.dispatchOccurrenceId), ("adapter_id", d.adapterId),
      ("adapter_version", d.adapterVersion), ("adapter_protocol", d.adapterProtocol),
      ("adapter_process_occurrence_id", d.adapterProcessOccurrenceId),
      ("app_server_session_identity", d.appServerSessionIdentity)]
  d.selection.validate
  refuseIf (d.dispatchOrdinal == 0 || d.dispatchOrdinal > maximumDispatchOccurrences ||
      d.selectedModelOrdinal ≥ 16 || d.workerStartRequestSchema != workerStartRequestSchemaV3 ||
      d.internalProviderRetryCount != 0 || d.providerExecutionId.isSome ||
      d.authorityEffect != localSchedulingOnly)
    (.invalidField "dispatch occurrence boundary")

def sealed (w : Platform) (d : ProviderDispatchOccurrenceV1) :
    Except ContractError ProviderDispatchOccurrenceV1 := do
  let d := { d with dispatchDigest := d.computedDigest w }
  d.validate w
  .ok d

end ProviderDispatchOccurrenceV1

namespace WorkerStartRequestV3

def computedDigest (w : Platform) (r : WorkerStartRequestV3) : String :=
  w.digestWithout "nightshift.worker-start-request.digest/v3\x00" "request_digest"
    (.startRequestV3 { r with requestDigest := "" })

def ownerPins (r : WorkerStartRequestV3) : ProviderAdmissionOwnerPinsV1 where
  codexOwnerHead := r.codexOwnerHead
  switchyardOwnerHead := r.switchyardOwnerHead
  switchyardSchemaSha256 := r.switchyardSchemaSha256
  deterministicFixtureSha256 := r.switchyardDeterministicFixtureSha256

def predecessorV2 (w : Platform) (r : WorkerStartRequestV3) :
    Except ContractError WorkerStartRequestV2 := do
  refuseIf (r.predecessorEncoding != "hex") (.invalidField "V2 predecessor encoding")
  let bytes := r.predecessorBytesHex
  refuseIf (bytes.isEmpty || bytes.length > 64 * 1024 ||
    w.plainSha256 bytes != r.predecessorSha256) (.invalidField "V2 predecessor custody")
  let predecessor ← w.parseStartRequestV2 bytes
  predecessor.validate w
  refuseIf (w.canonical (.startRequestV2 predecessor) != bytes ||
      predecessor.requestDigest != r.predecessorRequestDigest)
    (.invalidField "canonical V2 predecessor bytes")
  .ok predecessor

def switchyardBinding (r : WorkerStartRequestV3) : Bool :=
  r.adapterId != holdingQualificationProducerId &&
    r.adapterProtocol == switchyardAppServerProtocol &&
    r.providerAdmissionAdapterProtocol == r.adapterProtocol &&
    r.providerAdmissionBindingSchema == "switchyard.codex-provider-admission-binding/v1" &&
    r.providerAdmissionEvidenceSchema == "switchyard.codex-provider-admission-evidence/v1" &&
    r.providerAdmissionSnapshotSchema == switchyardSnapshotSchema

/-- A qualification binding of one producer version and its evidence protocol. -/
def qualificationBinding (version protocol : String) (r : WorkerStartRequestV3) : Bool :=
  r.adapterId == holdingQualificationProducerId && r.adapterVersion == version &&
    r.adapterProtocol == protocol && r.providerAdmissionAdapterProtocol == r.adapterProtocol &&
    r.providerAdmissionBindingSchema == r.adapterProtocol &&
    r.providerAdmissionEvidenceSchema == r.adapterProtocol &&
    r.providerAdmissionSnapshotSchema == r.adapterProtocol

def qualificationBindingV1 (r : WorkerStartRequestV3) : Bool :=
  r.qualificationBinding holdingQualificationProducerVersion
    deterministicProviderAdmissionEvidenceSchemaV1

def qualificationBindingV2 (r : WorkerStartRequestV3) : Bool :=
  r.qualificationBinding secondWatchQualificationProducerVersion
    deterministicProviderAdmissionEvidenceSchemaV2

def validate (w : Platform) (r : WorkerStartRequestV3) : Except ContractError Unit := do
  Contract.schema r.schema workerStartRequestSchemaV3
  Availability.sealedDigest (r.computedDigest w) "request_digest" r.requestDigest
  Contract.each Availability.digest
    [("predecessor_request_digest", r.predecessorRequestDigest),
      ("predecessor_sha256", r.predecessorSha256), ("packet_digest", r.packetDigest),
      ("profile_digest", r.profileDigest), ("worker_brief_digest", r.workerBriefDigest),
      ("switchyard_schema_sha256", r.switchyardSchemaSha256),
      ("switchyard_deterministic_fixture_sha256", r.switchyardDeterministicFixtureSha256)]
  Contract.each Contract.id
    [("run_id", r.runId), ("work_item_id", r.workItemId), ("attempt_id", r.attemptId),
      ("work_attempt_id", r.workAttemptId), ("dispatch_occurrence_id", r.dispatchOccurrenceId),
      ("adapter_id", r.adapterId), ("adapter_version", r.adapterVersion),
      ("adapter_protocol", r.adapterProtocol), ("workspace_identity", r.workspaceIdentity),
      ("provider_model_class", r.providerModelClass), ("provider_id", r.providerId),
      ("model_id", r.modelId), ("model_class", r.modelClass),
      ("provider_admission_adapter_protocol", r.providerAdmissionAdapterProtocol),
      ("provider_admission_binding_schema", r.providerAdmissionBindingSchema),
      ("provider_admission_evidence_schema", r.providerAdmissionEvidenceSchema),
      ("provider_admission_snapshot_schema", r.providerAdmissionSnapshotSchema)]
  let predecessor ← r.predecessorV2 w
  refuseIf (r.predecessorSchema != workerStartRequestSchemaV2 ||
      predecessor.schema != r.predecessorSchema || r.packetDigest != predecessor.packetDigest ||
      r.runId != predecessor.runId || r.workItemId != predecessor.workItemId ||
      r.attemptId != predecessor.attemptId || r.workAttemptId != predecessor.attemptId ||
      r.adapterId != predecessor.adapterId || r.adapterVersion != predecessor.adapterVersion ||
      r.adapterProtocol != predecessor.adapterProtocol ||
      r.workerBriefDigest != predecessor.workerBriefDigest ||
      r.workspaceIdentity != predecessor.workspaceIdentity ||
      r.providerModelClass != predecessor.providerModelClass ||
      r.timeoutSeconds != predecessor.timeoutSeconds ||
      r.maximumOutputBytes != predecessor.maximumOutputBytes ||
      r.recursiveWorkerSwarmsForbidden != predecessor.recursiveWorkerSwarmsForbidden ||
      r.approvalPolicy != predecessor.approvalPolicy ||
      r.expectedReceiptSchema != predecessor.expectedReceiptSchema ||
      r.modelClass != r.providerModelClass || r.selectedModelOrdinal ≥ 16 ||
      !(r.switchyardBinding || r.qualificationBindingV1 || r.qualificationBindingV2) ||
      !r.ownerPins.isEnrolled || r.providerExecutionId.isSome ||
      r.internalProviderRetryCount != 0 || r.semanticRetry || r.approvalResponseAuthorized ||
      r.authorityEffect != localSchedulingOnly)
    (.invalidField "worker start V3 binding")

def validatePreDispatchGraph (w : Platform) (r : WorkerStartRequestV3)
    (profile : ExecutionProfileV2) (requirement : ForemanExecutionAvailabilityRequirementV1) :
    Except ContractError Unit := do
  r.validate w
  profile.validate w
  requirement.validate w
  let predecessor ← r.predecessorV2 w
  let execution ← okOr (profile.workItems[r.workItemId]?) (.invalidField "V3 profile work item")
  let adapter ← okOr (profile.adapters[execution.adapterId]?) (.invalidField "V3 profile adapter")
  let exactQualificationExecutable :=
    if r.adapterVersion == holdingQualificationProducerVersion then
      adapter.executableIdentity == holdingQualificationExecutableSha256
    else if r.adapterVersion == secondWatchQualificationProducerVersion then
      adapter.executableIdentity == secondWatchQualificationExecutableSha256
    else false
  refuseIf (r.adapterId == holdingQualificationProducerId &&
      (!exactQualificationExecutable || !adapter.boundedArguments.isEmpty))
    (.invalidField "V3 qualification adapter executable binding")
  let selection ← okOr (requirement.selectionAt r.workItemId r.selectedModelOrdinal)
    (.invalidField "V3 selected model ordinal")
  refuseIf (r.workAttemptId == r.dispatchOccurrenceId || r.ownerPins != requirement.ownerPins ||
      r.profileDigest != profile.profileDigest || r.packetDigest != profile.packetDigest ||
      r.packetDigest != requirement.packetDigest ||
      profile.admissionDigest != requirement.admissionDigest ||
      profile.profileDigest != requirement.profileDigest || r.runId != requirement.runId ||
      r.adapterId != requirement.adapterId || r.adapterVersion != requirement.adapterVersion ||
      r.adapterProtocol != requirement.adapterProtocol || r.adapterId != execution.adapterId ||
      r.adapterId != adapter.adapterId || r.adapterVersion != adapter.adapterVersion ||
      r.adapterProtocol != adapter.protocol ||
      requirement.adapterExecutableIdentity != adapter.executableIdentity ||
      r.workspaceIdentity != execution.workspaceIdentity ||
      r.providerModelClass != execution.providerModelClass ||
      r.timeoutSeconds != profile.adapterTimeoutSeconds ||
      r.maximumOutputBytes != profile.workerOutputBound ||
      r.providerId != selection.providerId || r.modelId != selection.modelId ||
      r.modelClass != selection.modelClass ||
      predecessor.requestDigest != r.predecessorRequestDigest ||
      predecessor.workerBriefDigest != r.workerBriefDigest)
    (.invalidField "worker start V3 pre-dispatch graph")

def validateDispatchGraph (w : Platform) (r : WorkerStartRequestV3)
    (profile : ExecutionProfileV2) (requirement : ForemanExecutionAvailabilityRequirementV1)
    (dispatch : ProviderDispatchOccurrenceV1) : Except ContractError Unit := do
  r.validatePreDispatchGraph w profile requirement
  dispatch.validate w
  refuseIf (dispatch.requirementDigest != requirement.requirementDigest ||
      dispatch.policyDigest != requirement.policyDigest ||
      dispatch.packetDigest != requirement.packetDigest ||
      dispatch.runId != requirement.runId || dispatch.workItemId != r.workItemId ||
      dispatch.workAttemptId != r.workAttemptId ||
      dispatch.dispatchOccurrenceId != r.dispatchOccurrenceId ||
      dispatch.selectedModelOrdinal != r.selectedModelOrdinal ||
      dispatch.selection.providerId != r.providerId ||
      dispatch.selection.modelId != r.modelId ||
      dispatch.selection.modelClass != r.modelClass || dispatch.adapterId != r.adapterId ||
      dispatch.adapterVersion != r.adapterVersion ||
      dispatch.adapterProtocol != r.adapterProtocol ||
      dispatch.workerStartRequestSchema != r.schema ||
      dispatch.workerStartRequestDigest != r.requestDigest ||
      dispatch.workerBriefDigest != r.workerBriefDigest ||
      dispatch.openedAt < requirement.admittedAt || dispatch.providerExecutionId.isSome)
    (.invalidField "worker start V3 dispatch graph")

/-- The admission protocol and the three schemas of a predecessor's adapter. -/
def admissionSchemas (predecessor : WorkerStartRequestV2) : String × String × String × String :=
  let v1 := deterministicProviderAdmissionEvidenceSchemaV1
  let v2 := deterministicProviderAdmissionEvidenceSchemaV2
  if predecessor.adapterId == holdingQualificationProducerId &&
      predecessor.adapterVersion == holdingQualificationProducerVersion &&
      predecessor.adapterProtocol == v1 then (v1, v1, v1, v1)
  else if predecessor.adapterId == holdingQualificationProducerId &&
      predecessor.adapterVersion == secondWatchQualificationProducerVersion &&
      predecessor.adapterProtocol == v2 then (v2, v2, v2, v2)
  else (switchyardAppServerProtocol, "switchyard.codex-provider-admission-binding/v1",
    "switchyard.codex-provider-admission-evidence/v1", switchyardSnapshotSchema)

def fromV2ForDispatch (w : Platform) (predecessorBytes : Bytes) (profile : ExecutionProfileV2)
    (requirement : ForemanExecutionAvailabilityRequirementV1) (dispatchOccurrenceId : String)
    (selectedModelOrdinal : Nat) : Except ContractError WorkerStartRequestV3 := do
  profile.validate w
  requirement.validate w
  refuseIf (predecessorBytes.isEmpty || predecessorBytes.length > 64 * 1024)
    (.invalidField "V2 predecessor bytes")
  let predecessor ← w.parseStartRequestV2 predecessorBytes
  predecessor.validate w
  refuseIf (w.canonical (.startRequestV2 predecessor) != predecessorBytes)
    (.invalidField "canonical V2 predecessor bytes")
  let selections ← okOr (requirement.workItemModelSelections[predecessor.workItemId]?)
    (.invalidField "V3 work-item selection")
  let selection ← okOr (selections[selectedModelOrdinal]?)
    (.invalidField "V3 selected model ordinal")
  let schemas := admissionSchemas predecessor
  let request : WorkerStartRequestV3 :=
    { schema := workerStartRequestSchemaV3
      requestDigest := placeholderDigest
      predecessorSchema := predecessor.schema
      predecessorRequestDigest := predecessor.requestDigest
      predecessorSha256 := w.plainSha256 predecessorBytes
      predecessorEncoding := "hex"
      predecessorBytesHex := predecessorBytes
      packetDigest := predecessor.packetDigest
      profileDigest := profile.profileDigest
      runId := predecessor.runId
      workItemId := predecessor.workItemId
      attemptId := predecessor.attemptId
      workAttemptId := predecessor.attemptId
      dispatchOccurrenceId := dispatchOccurrenceId
      adapterId := predecessor.adapterId
      adapterVersion := predecessor.adapterVersion
      adapterProtocol := predecessor.adapterProtocol
      workerBriefDigest := predecessor.workerBriefDigest
      workspaceIdentity := predecessor.workspaceIdentity
      providerModelClass := predecessor.providerModelClass
      timeoutSeconds := predecessor.timeoutSeconds
      maximumOutputBytes := predecessor.maximumOutputBytes
      recursiveWorkerSwarmsForbidden := predecessor.recursiveWorkerSwarmsForbidden
      approvalPolicy := predecessor.approvalPolicy
      expectedReceiptSchema := predecessor.expectedReceiptSchema
      providerId := selection.providerId
      modelId := selection.modelId
      modelClass := selection.modelClass
      selectedModelOrdinal := selectedModelOrdinal
      providerAdmissionAdapterProtocol := schemas.1
      providerAdmissionBindingSchema := schemas.2.1
      providerAdmissionEvidenceSchema := schemas.2.2.1
      providerAdmissionSnapshotSchema := schemas.2.2.2
      codexOwnerHead := requirement.ownerPins.codexOwnerHead
      switchyardOwnerHead := requirement.ownerPins.switchyardOwnerHead
      switchyardSchemaSha256 := requirement.ownerPins.switchyardSchemaSha256
      switchyardDeterministicFixtureSha256 := requirement.ownerPins.deterministicFixtureSha256
      providerExecutionId := none
      internalProviderRetryCount := 0
      semanticRetry := false
      approvalResponseAuthorized := false
      authorityEffect := localSchedulingOnly }
  let request := { request with requestDigest := request.computedDigest w }
  request.validate w
  request.validatePreDispatchGraph w profile requirement
  .ok request

end WorkerStartRequestV3

end Nightshift
