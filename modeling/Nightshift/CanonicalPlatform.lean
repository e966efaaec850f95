import Nightshift.CanonicalRecords
import Nightshift.PresentEvidence

/-!
# The canonical platform

What the canonical runtime and its store call and do not define, over the
platform of the posture evaluator: the canonical serialisers of the records, the
readers of JSON values, UUID syntax, and the validators of records that other
offices own and sign. No law is assumed of any of them here.
-/

namespace Nightshift.Canonical

open Checked Diagnostic

/-- A deployment-pinned Standing continuity key. -/
structure ContinuityAuthorityVerifierV1 where
  expectedKeyId : String
  expectedNqAudience : String
  key : Bytes
  deriving DecidableEq, Repr

/-- A deployment-pinned substrate-origin key and what it is required for. -/
structure SubstrateOriginVerifierV1 where
  requirement : SubstrateOriginRequirementV1
  key : Bytes
  deriving DecidableEq, Repr

end Nightshift.Canonical

namespace Nightshift

open Diagnostic Canonical

structure CanonicalPlatform extends DiagnosticPlatform where
  /-- `Uuid::parse_str(value).is_ok()` -/
  isUuid : String → Bool
  /-- `serde_json::Value::as_object` and its keys. -/
  objectKeys : JsonValue → Option (List String)
  /-- `serde_json::Value::get` -/
  member : JsonValue → String → Option JsonValue
  /-- `serde_json::Value::as_str` -/
  asStr : JsonValue → Option String
  /-- `serde_json::json!` of the compiled work preimage. -/
  compiledWorkValue : (parameters : JsonValue) → (schema : String) → JsonValue
  /-- `serde_jcs::to_vec` of a whole record. -/
  artifactCanonical : DiagnosticExecution → Bytes
  compositionText : ComposedExternalEvidenceV1 → Bytes
  basisCanonical : DecisionBasisV1 → Bytes
  /-- `serde_jcs::to_vec` after the identity member was removed. -/
  admissionQueryCanonical : NqAdmissionQueryV1 → Bytes
  provenanceCanonical : NqAdmissionProvenance → Bytes
  originApplicabilityCanonical : SubstrateOriginApplicabilityV1 → Bytes
  externalProfileCanonical : ExternalEvidenceProfileV1 → Bytes
  compositionCanonical : ComposedExternalEvidenceV1 → Bytes
  externalCustodyCanonical : ExternalObservationCustodyProvenanceV1 → Bytes
  steadyCustodyCanonical : SteadyStateObservationCustodyV1 → Bytes
  recurrenceSlotCanonical : RecurrenceSlotV1 → Bytes
  intentCanonical : TypedCoarseIntentV2 → Bytes
  cycleCanonical : ObservationCycleV1 → Bytes
  authoringCanonical : AuthoringContextProvenanceV1 → Bytes
  authoringCustodyCanonical : AuthoringContextCustodyProvenanceV1 → Bytes
  /-- `ContinuityAcquisitionProofV1::validate_shape` -/
  validateContinuityShape : ContinuityAcquisitionProofV1 → Except String Unit
  /-- `ContinuityApplicabilityV1::validate` -/
  validateContinuityApplicability : ContinuityApplicabilityV1 → Except String Unit
  /-- `ContinuityAuthorityVerifierV1::evaluate` on a proof, an artifact, its subject and intake. -/
  evaluateContinuity : ContinuityAuthorityVerifierV1 → ContinuityAcquisitionProofV1 →
    (artifactId subjectRef providerIntakeRef : String) → Except String ContinuityApplicabilityV1
  /-- `ContinuityAuthorityVerifierV1::verify_embedded_carrier` -/
  verifyEmbeddedCarrier : ContinuityAuthorityVerifierV1 → ContinuityAcquisitionCarrierV1 →
    ContinuityAcquisitionBasisV1 → Except String Unit
  /-- `SubstrateOriginAcquisitionProofV1::validate_shape` -/
  validateOriginShape : SubstrateOriginAcquisitionProofV1 → Except String Unit
  /-- `SubstrateOriginVerifierV1::verify_attestation` -/
  verifyAttestation : SubstrateOriginVerifierV1 → SubstrateOriginAcquisitionProofV1 →
    Except String Unit
  /-- `LocalComposeWorldObservationV1::validate` -/
  validateWorldObservation : LocalComposeWorldObservationV1 → Except String Unit
  /-- `ExternalObservationCustodyProvenanceV1::validate` -/
  validateExternalCustody : ExternalObservationCustodyProvenanceV1 → Except String Unit
  /-- `LocalComposeSteadyStateObservationV1::validate` -/
  validateSteadyObservation : LocalComposeSteadyStateObservationV1 → Except String Unit
  /-- `SteadyStateObservationCustodyV1::validate` -/
  validateSteadyCustody : SteadyStateObservationCustodyV1 → Except String Unit
  /-- `DecisionRelativeEvidenceReferenceV1::validate` -/
  validateDecisionReference : DecisionRelativeEvidenceReferenceV1 → Except String Unit
  /-- `ComposedDecisionRelativeEvidenceV1::validate` -/
  validateDecisionComposition : ComposedDecisionRelativeEvidenceV1 → Except String Unit
  /-- `ComposedDecisionRelativeEvidenceV1::canonical_observation_id` -/
  decisionObservationId : ComposedDecisionRelativeEvidenceV1 → Except String String
  /-- `ComposedDecisionRelativeEvidenceV1::compose` -/
  composeDecision : DecisionRelativeEvidenceReferenceV1 → SteadyStateEvidenceProfileV1 →
    LocalComposeWorldObservationV1 → ExternalObservationCustodyProvenanceV1 →
    LocalComposeSteadyStateObservationV1 → SteadyStateObservationCustodyV1 →
    (admittedAt : Instant) →
    (targetCampaignId targetOccurrenceId subjectId subjectDigest scopeDigest : String) →
    Except String ComposedDecisionRelativeEvidenceV1

/-- `serde_json::Value::is_object` -/
def CanonicalPlatform.isObject (w : CanonicalPlatform) (value : JsonValue) : Bool :=
  (w.objectKeys value).isSome

end Nightshift
