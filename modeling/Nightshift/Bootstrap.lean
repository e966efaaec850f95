import Nightshift.Prelaunch
import Nightshift.ProviderCapacity

/-!
The self-hosted bootstrap contract and the driver steps retained under it. The
record is mechanism input: it names every exact input of one run and carries no
authority of its own.
-/

namespace Nightshift

open Checked

def selfHostedForemanBootstrapSchemaV1 : String := "nightshift.self-hosted-foreman-bootstrap/v1"
def selfHostedForemanDriverStepSchemaV1 : String :=
  "nightshift.self-hosted-foreman-driver-step/v1"
def selfHostedForemanBootstrapDigestPreimageV1 : String :=
  "domain prefix nightshift.self-hosted-foreman-bootstrap.digest/v1 NUL, then the bootstrap object with bootstrap_digest omitted as RFC8785-JCS"
def secondWatchCanonicalSlug : String := "nightshift-self-hosted-foreman-bootstrap-v1"

namespace Bootstrap

/-- The bootstrap digest check accepts lower-case hex only. -/
def isDigest (value : String) : Bool :=
  byteLength value == 71 &&
    ((stripPrefix "sha256:" value).any fun hex => hex.all isLowerHexdigit)

def digest (field value : String) : Except ContractError Unit :=
  refuseIf (!isDigest value) (.invalidField field)

def commit (field value : String) : Except ContractError Unit :=
  refuseIf (byteLength value != 40 || !(utf8 value).all isLowerHexdigit) (.invalidField field)

def canonicalBytes (w : Platform) (field : String) (record : Document) (raw : Bytes) :
    Except ContractError Unit :=
  refuseIf (w.canonical record != raw) (.invalidField field)

end Bootstrap

namespace SelfHostedForemanBootstrapV1

def computedDigest (w : Platform) (b : SelfHostedForemanBootstrapV1) : String :=
  w.digestWithout "nightshift.self-hosted-foreman-bootstrap.digest/v1\x00" "bootstrap_digest"
    (.bootstrap { b with bootstrapDigest := "" })

def fromSlice (w : Platform) (bytes : Bytes) :
    Except ContractError SelfHostedForemanBootstrapV1 := do
  let record ← w.parseBootstrap bytes
  Bootstrap.canonicalBytes w "bootstrap canonical bytes" (.bootstrap record) bytes
  .ok record

def predecessorCustody (b : SelfHostedForemanBootstrapV1) : Bool :=
  b.digestPreimage == selfHostedForemanBootstrapDigestPreimageV1 &&
    b.campaignCodename == "SECOND-WATCH" && b.canonicalSlug == secondWatchCanonicalSlug &&
    b.track == "nightshift-self-hosting" &&
    b.holdingResultHead == "0dff82fa3522e59a6ce8e8161f6aed92cbacc061" &&
    b.holdingQualifiedSubject == "57c165fb246a530bc9448afbe3a26c17a5118ebd" &&
    b.durableRoadmapHead == "70e3b734e979173ae552efb322b48bf7fb0c028b" &&
    b.midnightResultHead == "6160a7fac9845aaefefbc11847e55786b35749e6" &&
    b.siliconResultHead == "f6e95c8a51982a9381c27c4792c8d9fd6f1daf47" &&
    b.codexOwnerHead == ProviderAdmissionOwnerPinsV1.accepted.codexOwnerHead &&
    b.switchyardOwnerHead == ProviderAdmissionOwnerPinsV1.accepted.switchyardOwnerHead &&
    b.predecessorV2PacketDigest ==
      "sha256:1df7f47bb3ea70d0f987e756f34aaa62f7187a659ef0bcc8d7c8aa2e645431fc" &&
    b.packetDigest != b.predecessorV2PacketDigest

def bounded (b : SelfHostedForemanBootstrapV1) : Bool :=
  3 ≤ b.expectedWorkItemCount && b.expectedWorkItemCount ≤ 1024 &&
    2 ≤ b.initiallyRunnableLaneCount && b.initiallyRunnableLaneCount ≤ b.expectedWorkItemCount &&
    b.maximumDriverSteps != 0 && b.maximumDriverSteps ≤ 1000000 &&
    b.maximumWallSeconds != 0 && b.maximumWallSeconds ≤ 86400

def closedAuthority (b : SelfHostedForemanBootstrapV1) : Bool :=
  b.bootstrapDepth == 0 && b.parentBootstrapOccurrenceId.isNone &&
    b.schedulerOwner == "NIGHTSHIFT_DURABLE_FOREMAN" &&
    b.workerAdapterMode == "CAMPAIGN_QUALIFICATION_DETERMINISTIC_FAKE" &&
    b.wakeSourcePolicy == "QUALIFIED_LOCAL_REEVALUATION_NO_EVIDENCE_OR_AUTHORITY" &&
    b.closeoutPolicy == "ALL_EXPLICIT_TERMINAL_OR_NOT_STARTED" &&
    b.authorityEffect == localSchedulingOnly && !b.targetEffectsAuthorized &&
    !b.approvalResponseAuthorized && !b.protectedEffectAuthorized &&
    !b.semanticRetryAuthorized && !b.bootstrapMayNest && !b.workerMayInvokeBootstrap &&
    !b.outerConversationScheduler && !b.timerOrServiceActivationAuthorized &&
    !b.productionActivationAuthorized && !b.aggregateResultCreated

def validate (w : Platform) (b : SelfHostedForemanBootstrapV1) : Except ContractError Unit := do
  Contract.schema b.schema selfHostedForemanBootstrapSchemaV1
  Contract.each Bootstrap.digest
    [("bootstrap_digest", b.bootstrapDigest), ("packet_digest", b.packetDigest),
      ("predecessor_v2_packet_digest", b.predecessorV2PacketDigest),
      ("admission_digest", b.admissionDigest), ("profile_digest", b.profileDigest),
      ("capacity_requirement_digest", b.capacityRequirementDigest),
      ("capacity_policy_digest", b.capacityPolicyDigest),
      ("execution_availability_requirement_digest", b.executionAvailabilityRequirementDigest),
      ("execution_availability_policy_digest", b.executionAvailabilityPolicyDigest)]
  refuseIf (b.computedDigest w != b.bootstrapDigest) (.digestMismatch "bootstrap_digest")
  Contract.each Contract.id
    [("bootstrap_occurrence_id", b.bootstrapOccurrenceId), ("run_id", b.runId),
      ("packet_id", b.packetId), ("local_runtime_identity", b.localRuntimeIdentity),
      ("presentation_only_question_work_item_id", b.presentationOnlyQuestionWorkItemId)]
  refuseIf (b.bootstrapOccurrenceId == b.runId)
    (.invalidField "bootstrap/run identity separation")
  Contract.each Bootstrap.commit
    [("holding_result_head", b.holdingResultHead),
      ("holding_qualified_subject", b.holdingQualifiedSubject),
      ("durable_roadmap_head", b.durableRoadmapHead),
      ("midnight_result_head", b.midnightResultHead),
      ("silicon_result_head", b.siliconResultHead), ("codex_owner_head", b.codexOwnerHead),
      ("switchyard_owner_head", b.switchyardOwnerHead)]
  refuseIf (!b.predecessorCustody) (.invalidField "bootstrap predecessor custody")
  refuseIf (!b.bounded) (.invalidField "bootstrap bounds")
  refuseIf (!b.closedAuthority) (.invalidField "bootstrap authority and recursion boundary")

/-- The seven reopened inputs of one bootstrap graph. -/
structure Graph where
  packet : NightshiftPacketV1
  admission : ForemanAdmissionV1
  profile : ExecutionProfileV2
  capacityRequirement : ForemanCapacityRequirementV1
  capacityPolicy : CapacityPolicyV1
  requirement : ForemanExecutionAvailabilityRequirementV1
  policy : ExecutionAvailabilityPolicyV1

def reopen (w : Platform) (b : SelfHostedForemanBootstrapV1)
    (packetBytes admissionBytes profileBytes capacityRequirementBytes capacityPolicyBytes
      requirementBytes policyBytes : Bytes) : Except ContractError Graph := do
  let packet ← mapErr (fun _ => .invalidField "bootstrap packet") (Packet.fromSlice w packetBytes)
  mapErr (fun _ => .invalidField "bootstrap packet") (Packet.validateAt w packet b.evaluatedAt)
  Bootstrap.canonicalBytes w "bootstrap packet bytes" (.packet packet) packetBytes
  let admission ← w.parseAdmission admissionBytes
  admission.validateAt w b.evaluatedAt
  Bootstrap.canonicalBytes w "bootstrap admission bytes" (.admission admission) admissionBytes
  let profile ← w.parseProfile profileBytes
  profile.validate w
  Bootstrap.canonicalBytes w "bootstrap profile bytes" (.profile profile) profileBytes
  let capacityRequirement ← w.parseCapacityRequirement capacityRequirementBytes
  capacityRequirement.validate w
  Bootstrap.canonicalBytes w "bootstrap capacity requirement bytes"
    (.capacityRequirement capacityRequirement) capacityRequirementBytes
  let capacityPolicy ← mapErr .json (w.parseCapacityPolicy capacityPolicyBytes)
  mapErr (fun _ => .invalidField "bootstrap capacity policy") (capacityPolicy.validate w)
  Bootstrap.canonicalBytes w "bootstrap capacity policy bytes" (.capacityPolicy capacityPolicy)
    capacityPolicyBytes
  let requirement ← w.parseRequirement requirementBytes
  requirement.validate w
  Bootstrap.canonicalBytes w "bootstrap availability requirement bytes"
    (.requirement requirement) requirementBytes
  let policy ← w.parsePolicy policyBytes
  policy.validate w
  Bootstrap.canonicalBytes w "bootstrap availability policy bytes" (.policy policy) policyBytes
  .ok ⟨packet, admission, profile, capacityRequirement, capacityPolicy, requirement, policy⟩

def exactInputs (b : SelfHostedForemanBootstrapV1) (g : Graph) : Bool :=
  b.packetId == g.packet.packetId && b.packetDigest == g.packet.packetDigest &&
    b.runId == g.admission.runId && b.packetDigest == g.admission.packetDigest &&
    b.admissionDigest == g.admission.admissionDigest &&
    b.localRuntimeIdentity == g.admission.localRuntimeIdentity &&
    b.packetDigest == g.profile.packetDigest &&
    b.admissionDigest == g.profile.admissionDigest &&
    b.profileDigest == g.profile.profileDigest &&
    b.capacityRequirementDigest == g.capacityRequirement.capacityRequirementDigest &&
    b.capacityPolicyDigest == g.capacityPolicy.policyDigest &&
    b.executionAvailabilityRequirementDigest == g.requirement.requirementDigest &&
    b.executionAvailabilityPolicyDigest == g.policy.policyDigest

def mechanismGraph (b : SelfHostedForemanBootstrapV1) (g : Graph) : Bool :=
  g.capacityRequirement.packetDigest == b.packetDigest &&
    g.capacityRequirement.admissionDigest == b.admissionDigest &&
    g.capacityRequirement.profileDigest == b.profileDigest &&
    g.capacityRequirement.runId == b.runId &&
    g.capacityRequirement.policyId == g.capacityPolicy.policyId &&
    g.profile.budgetPolicyRef == g.capacityPolicy.policyId &&
    g.requirement.packetDigest == b.packetDigest &&
    g.requirement.admissionDigest == b.admissionDigest &&
    g.requirement.profileDigest == b.profileDigest && g.requirement.runId == b.runId &&
    g.requirement.policyId == g.policy.policyId &&
    g.requirement.policyDigest == g.policy.policyDigest &&
    g.requirement.admittedAt == g.admission.admittedAt

def topology (b : SelfHostedForemanBootstrapV1) (g : Graph) : Bool :=
  let packetItems := BTreeSet.collect (g.packet.workItems.map (·.id))
  let profileClasses :=
    BTreeSet.collect ((BTreeMap.valuesOf g.profile.workItems).map (·.providerModelClass))
  g.packet.workItems.length == b.expectedWorkItemCount &&
    (g.packet.workItems.filter fun item => item.dependencies.isEmpty).length ==
      b.initiallyRunnableLaneCount &&
    packetItems == BTreeSet.collect g.profile.workItems.keys &&
    packetItems == BTreeSet.collect g.requirement.workItemModelSelections.keys &&
    profileClasses == BTreeSet.collect g.admission.allowedProviderModelClasses &&
    profileClasses == BTreeSet.collect g.capacityRequirement.modelCostClasses.keys &&
    packetItems.contains b.presentationOnlyQuestionWorkItemId &&
    !(g.packet.workItems.any fun item =>
      item.campaign.canonicalSlug == secondWatchCanonicalSlug) &&
    g.packet.workerBudget.recursiveWorkerSwarmsForbidden &&
    2 ≤ g.packet.workerBudget.maximumConcurrentMutatingWorkers &&
    2 ≤ g.admission.maximumConcurrentWorkers &&
    g.admission.maximumConcurrentWorkers ≤
      g.packet.workerBudget.maximumConcurrentMutatingWorkers

/-- The qualification adapter of one version, protocol and executable. -/
def exactAdapter (version protocol executable : String) (adapter : AdapterRegistrationV2) : Bool :=
  adapter.adapterId == holdingQualificationProducerId && adapter.protocol == protocol &&
    adapter.adapterVersion == version && adapter.executableIdentity == executable

def acceptedAdapter (adapter : AdapterRegistrationV2) : Bool :=
  (exactAdapter holdingQualificationProducerVersion
      deterministicProviderAdmissionEvidenceSchemaV1 holdingQualificationExecutableSha256
      adapter ||
    exactAdapter secondWatchQualificationProducerVersion
      deterministicProviderAdmissionEvidenceSchemaV2 secondWatchQualificationExecutableSha256
      adapter) && adapter.boundedArguments.isEmpty

/-- The class routing of one work item; a missing entry aborts the source and is
refused here. -/
def modelGraph (g : Graph) (item : WorkItemV1) : Except ContractError Unit := do
  let work ← okOr (g.profile.workItems[item.id]?) (.invalidField "bootstrap model graph")
  let selections ← okOr (g.requirement.workItemModelSelections[item.id]?)
    (.invalidField "bootstrap model graph")
  refuseIf (work.providerModelClass != item.modelRouting.class_ ||
      !(g.capacityRequirement.modelCostClasses.contains work.providerModelClass) ||
      (selections.any fun selection =>
        selection.providerId != g.capacityRequirement.providerId ||
          selection.modelClass != work.providerModelClass))
    (.invalidField "bootstrap model graph")

def validateGraph (w : Platform) (b : SelfHostedForemanBootstrapV1)
    (packetBytes admissionBytes profileBytes capacityRequirementBytes capacityPolicyBytes
      requirementBytes policyBytes : Bytes) : Except ContractError Unit := do
  b.validate w
  let g ← b.reopen w packetBytes admissionBytes profileBytes capacityRequirementBytes
    capacityPolicyBytes requirementBytes policyBytes
  refuseIf (!b.exactInputs g) (.invalidField "bootstrap exact input binding")
  refuseIf (!b.mechanismGraph g) (.invalidField "bootstrap mechanism graph")
  refuseIf (!b.topology g) (.invalidField "bootstrap packet topology")
  refuseIf (g.profile.adapters.size != 1 ||
      g.admission.allowedAdapterIds != [g.requirement.adapterId])
    (.invalidField "bootstrap adapter closure")
  let adapter ← okOr (g.profile.adapters[g.requirement.adapterId]?)
    (.invalidField "bootstrap adapter closure")
  refuseIf (adapter.protocol != g.requirement.adapterProtocol ||
      adapter.adapterVersion != g.requirement.adapterVersion ||
      adapter.executableIdentity != g.requirement.adapterExecutableIdentity ||
      ((BTreeMap.valuesOf g.profile.workItems).any fun work =>
        work.adapterId != adapter.adapterId))
    (.invalidField "bootstrap adapter closure")
  refuseIf (!acceptedAdapter adapter) (.invalidField "bootstrap accepted qualification adapter")
  forEach g.packet.workItems (modelGraph g)

/-- The instant at which the wall bound of a bootstrap is reached. -/
def deadline (b : SelfHostedForemanBootstrapV1) : Option Instant :=
  checkedAddSeconds b.evaluatedAt b.maximumWallSeconds

end SelfHostedForemanBootstrapV1

namespace SelfHostedDriverDispositionV1

/-- The dispositions after which no further driver step is retained. -/
def closesDriver : SelfHostedDriverDispositionV1 → Bool
  | boundReached | allItemsExplicitTerminal => true
  | readyWorkPresent | waitingForExactOwnerEvidence => false

end SelfHostedDriverDispositionV1

namespace SelfHostedForemanDriverStepV1

def computedDigest (w : Platform) (s : SelfHostedForemanDriverStepV1) : String :=
  w.digestWithout "nightshift.self-hosted-foreman-driver-step.digest/v1\x00" "step_digest"
    (.driverStep { s with stepDigest := "" })

def validate (w : Platform) (s : SelfHostedForemanDriverStepV1) : Except ContractError Unit := do
  Contract.schema s.schema selfHostedForemanDriverStepSchemaV1
  Contract.each Bootstrap.digest
    [("step_digest", s.stepDigest), ("bootstrap_digest", s.bootstrapDigest),
      ("observed_projection_digest", s.observedProjectionDigest)]
  Contract.each Contract.id
    [("bootstrap_occurrence_id", s.bootstrapOccurrenceId), ("run_id", s.runId),
      ("scheduler_process_occurrence_id", s.schedulerProcessOccurrenceId)]
  refuseIf (s.stepOrdinal == 0 || s.stepOrdinal > 1000000 || s.workerDispatchAuthorized ||
      s.approvalResponseAuthorized || s.protectedEffectAuthorized ||
      s.semanticRetryAuthorized || s.aggregateResultCreated ||
      s.computedDigest w != s.stepDigest)
    (.invalidField "driver step boundary")

def sealed (w : Platform) (s : SelfHostedForemanDriverStepV1) :
    Except ContractError SelfHostedForemanDriverStepV1 := do
  let s := { s with stepDigest := s.computedDigest w }
  s.validate w
  .ok s

end SelfHostedForemanDriverStepV1

end Nightshift
