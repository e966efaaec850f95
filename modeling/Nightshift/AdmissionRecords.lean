import Nightshift.PostureRecords

/-!
The source admissions of a canonical observation: NQ provenance in its three
versions, the continuity and substrate-origin verdicts on it, and the external
evidence composed with it. A record keeps the fields Nightshift reads of it; its
other members are one document that only its own validator and identity see.
-/

namespace Nightshift.Canonical

open Diagnostic

/-- A `serde_json::Value`, known by its canonical text. -/
structure JsonValue where
  canonical : Bytes
  deriving DecidableEq, Repr

/-! ## NQ admission -/

structure NqAdmissionQueryV1 where
  schema : String
  queryId : String
  sourceId : String
  artifactId : String
  contractSchema : String
  canonicalBytesSha256 : String
  canonicalBytesLength : Nat
  runId : String
  completedAt : String
  profileSemanticId : Option String
  deriving DecidableEq, Repr

inductive NqSourceDispositionV1 where
  | admittedReport | governedRefusal | acquisitionFailure
  deriving DecidableEq, Repr

structure NqAdmissionSourceV1 where
  kind : String
  sourceId : String
  deriving DecidableEq, Repr

structure NqAdmissionArtifactV1 where
  artifactId : String
  contractSchema : String
  canonicalBytesSha256 : String
  canonicalBytesLength : Nat
  deriving DecidableEq, Repr

structure NqAdmissionOriginV1 where
  runId : String
  evaluationId : Option String
  completedAt : String
  committedAt : String
  deriving DecidableEq, Repr

structure NqAdmissionProviderV1 where
  providerIntakeId : String
  rawSha256 : String
  providerAdmissionId : String
  sourceAdmissionId : String
  admissionContextDigest : String
  profileSemanticId : String
  deriving DecidableEq, Repr

structure NqAdmissionJudgmentV1 where
  reportId : String
  judgmentSchema : String
  judgmentDigest : String
  deriving DecidableEq, Repr

/-- What the three provenance versions share. -/
structure NqAdmissionProvenanceV1 where
  schema : String
  provenanceId : String
  source : NqAdmissionSourceV1
  artifact : NqAdmissionArtifactV1
  origin : NqAdmissionOriginV1
  provider : NqAdmissionProviderV1
  disposition : NqSourceDispositionV1
  judgment : Option NqAdmissionJudgmentV1
  nonclaims : List String
  deriving DecidableEq, Repr

inductive ContinuityRelationV1 where
  | substrateIncarnation
  deriving DecidableEq, Repr

structure ContinuityEdgeV1 where
  subjectRef : String
  relation : ContinuityRelationV1
  predecessorRef : String
  successorRef : String
  deriving DecidableEq, Repr

/-- A signed authority and the acquisition commitment made under it. -/
structure ContinuityAcquisitionCarrierV1 where
  edge : ContinuityEdgeV1
  authorityOccurrenceRef : String
  commitmentOccurrenceRef : String
  document : Bytes
  deriving DecidableEq, Repr

structure ContinuityAcquisitionProofV1 where
  acquisitionId : String
  carrier : ContinuityAcquisitionCarrierV1
  intakeId : String
  runId : String
  document : Bytes
  deriving DecidableEq, Repr

structure ContinuityAcquisitionBasisV1 where
  edge : ContinuityEdgeV1
  document : Bytes
  deriving DecidableEq, Repr

/-- The origin intent of an acquisition, with its basis and its signed attestation. -/
structure SubstrateOriginAcquisitionProofV1 where
  acquisitionId : String
  subjectRef : String
  coordinateRef : String
  continuity : Option ContinuityAcquisitionBasisV1
  continuityCarrier : Option ContinuityAcquisitionCarrierV1
  attestationOccurrenceRef : String
  intakeId : String
  runId : String
  document : Bytes
  deriving DecidableEq, Repr

inductive NqAdmissionProvenance where
  | v1 (value : NqAdmissionProvenanceV1)
  | v2 (value : NqAdmissionProvenanceV1) (continuity : ContinuityAcquisitionProofV1)
  | v3 (value : NqAdmissionProvenanceV1) (substrateOrigin : SubstrateOriginAcquisitionProofV1)
  deriving DecidableEq, Repr

inductive ContinuityApplicabilityStatusV1 where
  | applicable | refused | unresolved
  deriving DecidableEq, Repr

inductive ContinuityApplicabilityReasonV1 where
  | exactAuthenticatedPrerequisite | subjectMismatch | intakeMismatch | edgeMismatch
  | acquisitionBindingMismatch | observationSubstrateAbsent | observationSubstrateMismatch
  deriving DecidableEq, Repr

structure ContinuityApplicabilityV1 where
  schema : String
  applicabilityId : String
  status : ContinuityApplicabilityStatusV1
  reason : ContinuityApplicabilityReasonV1
  diagnosticArtifactId : String
  subjectRef : String
  relation : ContinuityRelationV1
  predecessorRef : String
  successorRef : String
  authorityOccurrenceRef : String
  commitmentOccurrenceRef : String
  acquisitionId : String
  providerIntakeRef : String
  deriving DecidableEq, Repr

structure SubstrateOriginRequirementV1 where
  schema : String
  profileId : String
  subjectRef : String
  /-- The coordinate that may establish the first origin of the subject. -/
  bootstrapCoordinateRef : Option String
  expectedIssuerId : String
  expectedKeyId : String
  expectedNamespace : String
  expectedLinodeInstanceIdSha256 : Option String
  deriving DecidableEq, Repr

inductive SubstrateOriginApplicabilityStatusV1 where
  | applicable | refused | unresolved
  deriving DecidableEq, Repr

inductive SubstrateOriginApplicabilityReasonV1 where
  | bootstrapOriginEstablished | stableExactOrigin | authorizedExactTransition | subjectMismatch
  | intakeMismatch | predecessorHistoryAbsent | predecessorHistoryMismatch | originMismatch
  | continuityAuthorityMissing | continuityAuthorityUnexpected | continuityEdgeMismatch
  | originProofInvalid
  deriving DecidableEq, Repr

structure SubstrateOriginApplicabilityV1 where
  schema : String
  applicabilityId : String
  status : SubstrateOriginApplicabilityStatusV1
  reason : SubstrateOriginApplicabilityReasonV1
  profileId : String
  diagnosticArtifactId : String
  subjectRef : String
  predecessorApplicabilityId : Option String
  predecessorCoordinateRef : Option String
  observedCoordinateRef : String
  attestationOccurrenceRef : String
  acquisitionId : String
  providerIntakeRef : String
  authorityOccurrenceRef : Option String
  deriving DecidableEq, Repr

/-! ## External evidence -/

inductive LocalComposeActionV1 where
  | qualify | teardown
  deriving DecidableEq, Repr

inductive ExecutorOutcomeV1 where
  | success | failure | indeterminate
  deriving DecidableEq, Repr

inductive WorldClaimStatusV1 where
  | satisfied | unknown
  deriving DecidableEq, Repr

inductive LocalComposeClaimKindV1 where
  | frontDoorReachable | cacheMissThenHit | singleCacheFailureSurvived | cacheTopologyRestored
  | campaignResourcesAbsent
  deriving DecidableEq, Repr

structure LocalComposeWorldClaimV1 where
  claimId : String
  kind : LocalComposeClaimKindV1
  status : WorldClaimStatusV1
  planNodeId : String
  compiledOutputIdentity : String
  document : Bytes
  deriving DecidableEq, Repr

/-- One authenticated application observation in custody. -/
structure LocalComposeWorldObservationV1 where
  observationId : String
  adapterId : String
  adapterVersion : String
  action : LocalComposeActionV1
  planDocumentDigest : String
  compilationId : String
  campaignId : String
  occurrenceId : String
  proposalId : String
  exactWorkId : String
  issuanceId : String
  attemptId : String
  settlementId : String
  subjectDigest : String
  scopeDigest : String
  executorEvidenceReceipt : String
  observedAtUnixMs : Int
  outcome : ExecutorOutcomeV1
  claims : List LocalComposeWorldClaimV1
  document : Bytes
  deriving DecidableEq, Repr

structure ExternalObservationCustodyProvenanceV1 where
  schema : String
  custodyId : String
  handoffId : String
  observationId : String
  producerPrincipalId : String
  producerKeyId : String
  targetRuntimeId : String
  campaignId : String
  occurrenceId : String
  exactWorkId : String
  attemptId : String
  settlementId : String
  executorEvidenceReceipt : String
  receivedAt : Instant
  deriving DecidableEq, Repr

inductive ExternalEvidencePurposeV1 where
  | postSettlementSuccessor
  deriving DecidableEq, Repr

structure ExternalEvidenceProfileV1 where
  schema : String
  profileId : String
  purpose : ExternalEvidencePurposeV1
  expectedAdapterId : String
  expectedAdapterVersion : String
  expectedProducerPrincipalId : String
  expectedProducerKeyId : String
  expectedRuntimeId : String
  requiredAction : LocalComposeActionV1
  requiredClaims : List LocalComposeClaimKindV1
  maxAgeMs : Nat
  deriving DecidableEq, Repr

structure ExternalEvidenceReferenceV1 where
  schema : String
  sourceObservationId : String
  sourceCustodyId : String
  profileId : String
  deriving DecidableEq, Repr

structure ComposedExternalClaimV1 where
  claimId : String
  kind : LocalComposeClaimKindV1
  planNodeId : String
  compiledOutputIdentity : String
  deriving DecidableEq, Repr

structure ComposedExternalEvidenceV1 where
  schema : String
  compositionId : String
  profile : ExternalEvidenceProfileV1
  sourceObservationId : String
  sourceCustodyId : String
  sourceCampaignId : String
  sourceOccurrenceId : String
  sourceProposalId : String
  sourceExactWorkId : String
  sourceIssuanceId : String
  sourceAttemptId : String
  sourceSettlementId : String
  sourcePlanDocumentDigest : String
  sourceCompilationId : String
  producerPrincipalId : String
  producerKeyId : String
  targetRuntimeId : String
  sourceObservedAtUnixMs : Nat
  sourceReceivedAt : Instant
  admittedAt : Instant
  freshUntilUnixMs : Nat
  targetCampaignId : String
  targetOccurrenceId : String
  subjectId : String
  subjectDigest : String
  scopeDigest : String
  claims : List ComposedExternalClaimV1
  nonclaims : List String
  deriving DecidableEq, Repr

structure LocalComposeSteadyStateObservationV1 where
  observationId : String
  qualificationObservationId : String
  planDocumentDigest : String
  compilationId : String
  evidenceReceipt : String
  observedAtUnixMs : Int
  document : Bytes
  deriving DecidableEq, Repr

structure SteadyStateObservationCustodyV1 where
  schema : String
  custodyId : String
  handoffId : String
  observationId : String
  qualificationObservationId : String
  producerPrincipalId : String
  producerKeyId : String
  targetRuntimeId : String
  planDocumentDigest : String
  compilationId : String
  evidenceReceipt : String
  receivedAt : Instant
  deriving DecidableEq, Repr

structure SteadyStateEvidenceProfileV1 where
  profileId : String
  document : Bytes
  deriving DecidableEq, Repr

structure DecisionRelativeEvidenceReferenceV1 where
  schema : String
  qualificationObservationId : String
  qualificationCustodyId : String
  steadyStateObservationId : String
  steadyStateCustodyId : String
  profileId : String
  deriving DecidableEq, Repr

structure ArtifactQualificationEvidenceV1 where
  sourceObservationId : String
  planDocumentDigest : String
  document : Bytes
  deriving DecidableEq, Repr

structure ComposedDecisionRelativeEvidenceV1 where
  compositionId : String
  profile : SteadyStateEvidenceProfileV1
  qualification : ArtifactQualificationEvidenceV1
  steadyStateObservationId : String
  admittedAt : Instant
  freshUntilUnixMs : Nat
  targetCampaignId : String
  targetOccurrenceId : String
  subjectId : String
  subjectDigest : String
  scopeDigest : String
  document : Bytes
  deriving DecidableEq, Repr

end Nightshift.Canonical
