import Nightshift.Contract

/-!
Availability records: the run requirement and policy, the deterministic
qualification evidence, observations, dispositions, deferrals and dispatches.
The Switchyard snapshot family is checked by its owner.
-/

namespace Nightshift

open Checked

def executionAvailabilityObservationSchemaV1 : String :=
  "nightshift.provider-execution-availability-observation/v1"
def executionAvailabilityPolicySchemaV1 : String :=
  "nightshift.provider-execution-availability-policy/v1"
def foremanExecutionAvailabilityRequirementSchemaV1 : String :=
  "nightshift.foreman-execution-availability-requirement/v1"
def providerDispatchOccurrenceSchemaV1 : String := "nightshift.provider-dispatch-occurrence/v1"
def providerAdmissionDispositionSchemaV1 : String :=
  "nightshift.provider-admission-disposition/v1"
def providerAdmissionDispositionSchemaV2 : String :=
  "nightshift.provider-admission-disposition/v2"
def providerAdmissionDispositionSchemaV3 : String :=
  "nightshift.provider-admission-disposition/v3"
def deterministicProviderAdmissionEvidenceSchemaV1 : String :=
  "nightshift.holding-deterministic-provider-admission-evidence/v1"
def deterministicProviderAdmissionEvidenceSchemaV2 : String :=
  "nightshift.holding-deterministic-provider-admission-evidence/v2"
def deferredProviderDispatchSchemaV1 : String := "nightshift.deferred-provider-dispatch/v1"
def workerStartRequestSchemaV3 : String := "nightshift.worker-start-request/v3"
def maximumAvailabilityEvidenceBytes : Nat := 16 * 1024
def maximumSwitchyardMapperSnapshotBytes : Nat := 16 * 1024 * 1024
def maximumDispatchOccurrences : Nat := 16
def maximumTotalDeferralSeconds : Nat := 7 * 24 * 60 * 60
def holdingQualificationProducerId : String :=
  "nightshift:holding-pattern-deterministic-fake-adapter"
def holdingQualificationProducerVersion : String := "v1"
def holdingQualificationExecutableId : String :=
  "campaign:holding-pattern:deterministic-fake-adapter:v1"
def holdingQualificationExecutableSha256 : String :=
  "sha256:e8a310d46cb40b0aef6399a8da6c97ac99f0fc5eab6a78c5e7007600d5cbfa82"
def secondWatchQualificationProducerVersion : String := "v2"
def secondWatchQualificationExecutableId : String :=
  "campaign:second-watch:deterministic-fake-adapter:v2"
def secondWatchQualificationExecutableSha256 : String :=
  "sha256:bcfea17f0aff021d6b69f2b3d924e7606bf74941671a5a7af13e2d1e3d43edd4"
def switchyardAppServerProtocol : String := "switchyard.codex-app-server/v2"
def switchyardSnapshotSchema : String := "switchyard.codex-provider-admission-snapshot/v1"
def localSchedulingOnly : String := "LOCAL_AGENT_COMPUTE_SCHEDULING_ONLY"
def mechanismEvidenceOnly : String := "SCHEDULING_MECHANISM_EVIDENCE_ONLY"
def qualificationRepresentation : String :=
  "RFC8785_NIGHTSHIFT_QUALIFICATION_FAKE_ADAPTER_EVIDENCE"

namespace Availability

/-- The availability records spell digests in lower-case hex only. -/
def digest (field value : String) : Except ContractError Unit :=
  refuseIf (!(byteLength value == 71 &&
      ((stripPrefix "sha256:" value).any fun hex => hex.all isLowerHexdigit)))
    (.invalidField field)

def sealedDigest (computed field observed : String) : Except ContractError Unit := do
  digest field observed
  refuseIf (computed != observed) (.digestMismatch field)

end Availability

namespace ExactAvailabilityEvidenceV1

def validate (w : Platform) (e : ExactAvailabilityEvidenceV1) : Except ContractError Bytes := do
  refuseIf (!(["EXACT_PROVIDER_AVAILABILITY_SOURCE_BYTES",
      "EXACT_WIRE_BYTES_INCLUDING_LINE_TERMINATOR",
      "EXACT_ACQUIRED_FRAME_BYTES_INCLUDING_LINE_TERMINATOR"].contains e.representation))
    (.invalidField "availability evidence representation")
  Availability.digest "evidence sha256" e.sha256
  refuseIf (e.encoding != "hex" || e.byteLength == 0 ||
      e.byteLength > maximumAvailabilityEvidenceBytes || e.bytesHex.length != e.byteLength)
    (.invalidField "availability evidence encoding")
  refuseIf (w.plainSha256 e.bytesHex != e.sha256)
    (.digestMismatch "availability evidence sha256")
  .ok e.bytesHex

end ExactAvailabilityEvidenceV1

namespace ProviderExecutionIdentityV1

def validate (i : ProviderExecutionIdentityV1) : Except ContractError Unit :=
  Contract.each Contract.id
    [("execution provider_id", i.providerId), ("execution model_id", i.modelId),
      ("execution session", i.appServerSessionIdentity), ("execution thread", i.threadId),
      ("execution turn", i.turnId), ("execution first_response_id", i.firstResponseId)]

end ProviderExecutionIdentityV1

namespace DeterministicProviderAdmissionEvidenceV1

def computedDigest (w : Platform) (e : DeterministicProviderAdmissionEvidenceV1) : String :=
  w.digestWithout "nightshift.holding-deterministic-provider-admission-evidence.digest/v1\x00"
    "evidence_digest" (.qualificationV1 { e with evidenceDigest := "" })

def validate (w : Platform) (e : DeterministicProviderAdmissionEvidenceV1) :
    Except ContractError Unit := do
  Contract.schema e.schema deterministicProviderAdmissionEvidenceSchemaV1
  Availability.sealedDigest (e.computedDigest w) "evidence_digest" e.evidenceDigest
  Contract.each Contract.id
    [("producer_id", e.producerId), ("producer_version", e.producerVersion),
      ("executable_id", e.executableId), ("work_attempt_id", e.workAttemptId),
      ("dispatch_occurrence_id", e.dispatchOccurrenceId),
      ("provider_request_occurrence_id", e.providerRequestOccurrenceId),
      ("provider_id", e.providerId), ("model_id", e.modelId)]
  Availability.digest "executable_sha256" e.executableSha256
  let raw ← e.rawEvidence.validate w
  refuseIf (e.producerId != holdingQualificationProducerId ||
      e.producerVersion != holdingQualificationProducerVersion ||
      e.executableId != holdingQualificationExecutableId ||
      e.executableSha256 != holdingQualificationExecutableSha256 ||
      e.rawEvidence.representation != "EXACT_PROVIDER_AVAILABILITY_SOURCE_BYTES" ||
      e.observedAt > e.receivedAt || (e.retryAfter.any fun at_ => at_ < e.receivedAt) ||
      e.authorityEffect != "QUALIFICATION_MECHANISM_EVIDENCE_ONLY")
    (.invalidField "deterministic provider evidence boundary")
  -- Canonical raw bytes with exactly these members are the canonical bytes of the members.
  refuseIf (raw != w.canonical (.qualificationRawV1
      ⟨e.outcome, e.responseCreated, e.nonAdmissionProven, e.retryAfter, e.observedAt⟩))
    (.invalidField "deterministic provider raw binding")
  match e.outcome with
  | .rateLimited | .providerUnavailable =>
    refuseIf (e.responseCreated || !e.nonAdmissionProven)
      (.invalidField "qualified explicit non-admission")
  | .authenticationRefused =>
    refuseIf (e.responseCreated || !e.nonAdmissionProven || e.retryAfter.isSome)
      (.invalidField "qualified authentication refusal")
  | .transportError | .protocolError =>
    refuseIf (e.nonAdmissionProven || e.retryAfter.isSome)
      (.invalidField "qualified indeterminate admission")

end DeterministicProviderAdmissionEvidenceV1

namespace DeterministicProviderAdmissionEvidenceV2

def computedDigest (w : Platform) (e : DeterministicProviderAdmissionEvidenceV2) : String :=
  w.digestWithout "nightshift.holding-deterministic-provider-admission-evidence.digest/v2\x00"
    "evidence_digest" (.qualificationV2 { e with evidenceDigest := "" })

def validate (w : Platform) (e : DeterministicProviderAdmissionEvidenceV2) :
    Except ContractError Unit := do
  Contract.schema e.schema deterministicProviderAdmissionEvidenceSchemaV2
  Availability.sealedDigest (e.computedDigest w) "evidence_digest" e.evidenceDigest
  Contract.each Contract.id
    [("producer_id", e.producerId), ("producer_version", e.producerVersion),
      ("executable_id", e.executableId), ("work_attempt_id", e.workAttemptId),
      ("dispatch_occurrence_id", e.dispatchOccurrenceId),
      ("provider_request_occurrence_id", e.providerRequestOccurrenceId),
      ("provider_id", e.providerId), ("model_id", e.modelId)]
  Availability.digest "executable_sha256" e.executableSha256
  let raw ← e.rawEvidence.validate w
  refuseIf (e.producerId != holdingQualificationProducerId ||
      e.producerVersion != secondWatchQualificationProducerVersion ||
      e.executableId != secondWatchQualificationExecutableId ||
      e.executableSha256 != secondWatchQualificationExecutableSha256 ||
      e.rawEvidence.representation != "EXACT_PROVIDER_AVAILABILITY_SOURCE_BYTES" ||
      e.observedAt > e.receivedAt || (e.retryAfter.any fun at_ => at_ < e.receivedAt) ||
      e.authorityEffect != "QUALIFICATION_MECHANISM_EVIDENCE_ONLY")
    (.invalidField "deterministic provider execution evidence boundary")
  refuseIf (raw != w.canonical (.qualificationRawV2 ⟨e.outcome, e.responseCreated,
      e.nonAdmissionProven, e.retryAfter, e.observedAt, e.providerExecution⟩))
    (.invalidField "deterministic provider execution raw binding")
  match e.outcome with
  | .providerUnavailable =>
    refuseIf (e.responseCreated || !e.nonAdmissionProven || e.providerExecution.isSome ||
      e.retryAfter.isNone) (.invalidField "qualified v2 explicit non-admission")
  | .executionCompleted =>
    let execution ← okOr e.providerExecution (.invalidField "qualified v2 execution identity")
    execution.validate
    refuseIf (!e.responseCreated || e.nonAdmissionProven || e.retryAfter.isSome ||
      execution.providerId != e.providerId || execution.modelId != e.modelId)
      (.invalidField "qualified v2 completed execution")

end DeterministicProviderAdmissionEvidenceV2

namespace ExactMapperSnapshotV1

def validate (w : Platform) (s : ExactMapperSnapshotV1) : Except ContractError Bytes := do
  Availability.digest "mapper snapshot sha256" s.sha256
  refuseIf (!(["RFC8785_SWITCHYARD_MAPPER_SNAPSHOT", qualificationRepresentation].contains
        s.representation) || s.encoding != "hex" || s.byteLength == 0 ||
      s.byteLength > maximumSwitchyardMapperSnapshotBytes || s.bytesHex.length != s.byteLength)
    (.invalidField "mapper snapshot encoding")
  refuseIf (w.plainSha256 s.bytesHex != s.sha256) (.digestMismatch "mapper snapshot sha256")
  .ok s.bytesHex

end ExactMapperSnapshotV1

namespace ExecutionAvailabilityObservationV1

def computedDigest (w : Platform) (o : ExecutionAvailabilityObservationV1) : String :=
  w.digestWithout "nightshift.provider-execution-availability-observation.digest/v1\x00"
    "observation_digest" (.observation { o with observationDigest := "" })

def validate (w : Platform) (o : ExecutionAvailabilityObservationV1) :
    Except ContractError Unit := do
  Contract.schema o.schema executionAvailabilityObservationSchemaV1
  Availability.sealedDigest (o.computedDigest w) "observation_digest" o.observationDigest
  Contract.each Contract.id
    [("provider_id", o.providerId), ("model_id", o.modelId), ("model_class", o.modelClass),
      ("source_identity", o.sourceIdentity), ("source_version", o.sourceVersion)]
  refuseIf (o.observedAt > o.receivedAt || o.receivedAt ≥ o.expiresAt)
    (.invalidField "availability observation time order")
  refuseIf (o.providerRetryAfter.any fun retryAfter => retryAfter < o.receivedAt)
    (.invalidField "provider_retry_after")
  match o.exactEvidence with
  | some evidence =>
    let _ ← evidence.validate w
    .ok ()
  | none => refuseIf (o.state != .unknown) (.invalidField "availability evidence absence")
  refuseIf (o.authorityEffect != mechanismEvidenceOnly)
    (.invalidField "availability authority effect")

def isCurrentAt (o : ExecutionAvailabilityObservationV1) (evaluatedAt : Instant) : Bool :=
  o.receivedAt ≤ evaluatedAt && evaluatedAt < o.expiresAt

end ExecutionAvailabilityObservationV1

namespace ExecutionAvailabilityPolicyV1

def computedDigest (w : Platform) (p : ExecutionAvailabilityPolicyV1) : String :=
  w.digestWithout "nightshift.provider-execution-availability-policy.digest/v1\x00"
    "policy_digest" (.policy { p with policyDigest := "" })

def validate (w : Platform) (p : ExecutionAvailabilityPolicyV1) : Except ContractError Unit := do
  Contract.schema p.schema executionAvailabilityPolicySchemaV1
  Availability.sealedDigest (p.computedDigest w) "policy_digest" p.policyDigest
  Contract.id "policy_id" p.policyId
  -- The checked sum overflows only above the total bound, which is refused too.
  refuseIf (!(1 ≤ p.maximumDispatchOccurrencesPerAttempt &&
        p.maximumDispatchOccurrencesPerAttempt ≤ maximumDispatchOccurrences) ||
      p.backoffSeconds.isEmpty ||
      p.backoffSeconds.length > p.maximumDispatchOccurrencesPerAttempt ||
      (p.backoffSeconds.any fun seconds => seconds == 0 || seconds > 86400) ||
      p.maximumTotalDeferralSeconds == 0 ||
      p.maximumTotalDeferralSeconds > Nightshift.maximumTotalDeferralSeconds ||
      p.backoffSeconds.sum > p.maximumTotalDeferralSeconds ||
      !p.providerCapacityReleasedWhileParked || !p.reconcileIndeterminate ||
      p.automaticSemanticRetry || p.approvalResponseAuthorized ||
      p.authorityEffect != localSchedulingOnly)
    (.invalidField "availability policy boundary")

end ExecutionAvailabilityPolicyV1

end Nightshift
