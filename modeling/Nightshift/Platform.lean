import Nightshift.JournalRecords
import Nightshift.Lib.Checked

/-!
# The platform

What the foreman uses and does not define: SHA-256, the canonical serialiser
and the JSON readers, the random UUID source, and the two mechanism owners
whose records it only reopens. Each is a parameter of the model. The only laws
assumed of them are the three stated as fields here: a JSON text is not empty, a
drawn UUID is fresh, and a Switchyard snapshot binds an execution identity
exactly in the admitted states.
-/

namespace Nightshift

namespace ProviderMechanismStateV1

/-- The mechanism states that follow an admission by the provider. -/
def isAdmitted : ProviderMechanismStateV1 → Bool
  | parkedNotAdmitted | admissionIndeterminate => false
  | executionAdmitted | postAdmissionInterrupted | waitingApproval | providerCompleted => true

end ProviderMechanismStateV1

/-- The Switchyard snapshot validators, over the raw snapshot bytes. -/
structure SwitchyardOwner where
  /-- `validate_switchyard_snapshot_complete` -/
  complete : ProviderAdmissionDispositionV1 → Bytes → Except ContractError Unit
  /-- The vendored schema, echo and owner-head checks of the availability graph. -/
  graph : ProviderAdmissionOwnerPinsV1 → Bytes → Except ContractError Unit
  /-- The Switchyard part of `disposition_source_observation`. -/
  source : ProviderAdmissionDispositionV1 → Bytes →
    Except ContractError DispositionSourceObservation
  /-- A complete snapshot carries an execution exactly in the admitted states. -/
  complete_execution : ∀ disposition raw, complete disposition raw = .ok () →
    disposition.providerExecution.isSome = disposition.mechanismState.isAdmitted

structure Platform where
  /-- SHA-256 of a domain prefix and the following bytes, as `sha256:` and hex. -/
  sha256 : String → Bytes → String
  /-- `serde_jcs::to_vec` -/
  canonical : Document → Bytes
  canonical_ne_nil : ∀ document, canonical document ≠ []
  /-- `serde_jcs::to_vec` after one member was removed from the object. -/
  canonicalWithout : String → Document → Bytes
  /-- The canonical JSON text of an extension value. -/
  jsonText : Document → String
  /-- `to_rfc3339_opts(SecondsFormat::Secs, true)` -/
  rfc3339Seconds : Instant → String
  /-- The `Display` text of an instant. -/
  displayInstant : Instant → String
  /-- `interoperable_json` on the canonical text of an extension value. -/
  interoperableJson : String → Except ContractError Unit
  parsePacket : Bytes → Except String NightshiftPacketV1
  parseAdmission : Bytes → Except ContractError ForemanAdmissionV1
  parseProfile : Bytes → Except ContractError ExecutionProfileV2
  parseCapacityRequirement : Bytes → Except ContractError ForemanCapacityRequirementV1
  parseCapacityAdmission : Bytes → Except ContractError ForemanCapacityAdmissionV1
  parseStartRequestV2 : Bytes → Except ContractError WorkerStartRequestV2
  parseAdapterEvent : Bytes → Except ContractError AdapterEventV1
  parseTerminalReceipt : Bytes → Except ContractError TerminalReceiptV1
  parseNotStartedReceipt : Bytes → Except ContractError NotStartedReceiptV1
  parseObservation : Bytes → Except ContractError ExecutionAvailabilityObservationV1
  parsePolicy : Bytes → Except ContractError ExecutionAvailabilityPolicyV1
  parseRequirement : Bytes → Except ContractError ForemanExecutionAvailabilityRequirementV1
  parseDisposition : Bytes → Except ContractError ProviderAdmissionDispositionV1
  parseDeferred : Bytes → Except ContractError DeferredProviderDispatchV1
  parseQualificationV1 : Bytes → Except ContractError DeterministicProviderAdmissionEvidenceV1
  parseQualificationV2 : Bytes → Except ContractError DeterministicProviderAdmissionEvidenceV2
  parsePrelaunchClosure : Bytes → Except ContractError PrelaunchClosureV1
  parseBootstrap : Bytes → Except ContractError SelfHostedForemanBootstrapV1
  parseCapacityObservation : Bytes → Except String CapacityObservationV1
  parseCapacityPolicy : Bytes → Except String CapacityPolicyV1
  parseCapacityDecision : Bytes → Except String CapacityDecisionV1
  switchyard : SwitchyardOwner
  /-- `Uuid::new_v4`, as the text of the n-th draw. -/
  uuid : Nat → String
  uuid_fresh : ∀ m n, uuid m = uuid n → m = n

namespace Platform

variable (w : Platform)

/-- `digest_without` of a record whose named member was erased. -/
def digestWithout (domain field : String) (record : Document) : String :=
  w.sha256 domain (w.canonicalWithout field record)

/-- `domain_digest` -/
def domainDigest (domain : String) (bytes : Bytes) : String := w.sha256 domain bytes

/-- `plain_sha256` -/
def plainSha256 (bytes : Bytes) : String := w.sha256 "" bytes

/-- `raw_digest` -/
def rawDigest (bytes : Bytes) : String :=
  w.domainDigest "nightshift.foreman-retained-raw.digest/v1\x00" bytes

end Platform

end Nightshift
