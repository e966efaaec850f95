import Nightshift.CanonicalPlatform

/-!
# Composition of external evidence

One authenticated application observation in custody is composed, under a
deployment-owned profile, into the evidence of one successor occurrence. The
composition is a function of its source, so it can be rebuilt and compared.
-/

namespace Nightshift.Canonical

open Checked Diagnostic PresentEvidence

def externalEvidenceProfileSchemaV1 : String := "nightshift.external_evidence_profile.v1"
def externalEvidenceReferenceSchemaV1 : String := "nightshift.external_evidence_reference.v1"
def composedExternalEvidenceSchemaV1 : String := "nightshift.composed_external_evidence.v1"
def composedObservationDomainV1 : String := "nightshift.composed-observation-identity.v1\x00"

def compositionNonclaims : List String :=
  ["authenticated custody is not observation currentness",
    "Docket settlement is not application health",
    "evidence age is not a currentness decision",
    "composition does not confer standing or authorization"]

/-- `2^64`, the first value a `u64` cannot hold. -/
def u64Bound : Nat := 18446744073709551616

/-- `timestamp_millis`, rounded down. -/
def timestampMillis (at_ : Instant) : Int := at_ / 1000000

/-- `u64::try_from` -/
def tryU64 (value : Int) : Option Nat := if 0 ≤ value then some value.toNat else none

/-- `u64::checked_add` -/
def checkedAdd (a b : Nat) : Option Nat := if a + b < u64Bound then some (a + b) else none

def unixMs (at_ : Instant) : Except String Nat :=
  okOr (tryU64 (timestampMillis at_)) "composition time precedes the Unix epoch"

variable (w : CanonicalPlatform)

namespace ExternalEvidenceProfileV1

def requiredClaimSet : List LocalComposeClaimKindV1 :=
  [.frontDoorReachable, .cacheMissThenHit, .singleCacheFailureSurvived, .cacheTopologyRestored]

def validate (profile : ExternalEvidenceProfileV1) : Except String Unit := do
  refuseIf (profile.schema != externalEvidenceProfileSchemaV1)
    "unsupported external-evidence profile schema"
  requireDigest "profile_id" profile.profileId
  forEach
    [("expected_adapter_id", profile.expectedAdapterId),
      ("expected_adapter_version", profile.expectedAdapterVersion),
      ("expected_producer_principal_id", profile.expectedProducerPrincipalId),
      ("expected_producer_key_id", profile.expectedProducerKeyId),
      ("expected_runtime_id", profile.expectedRuntimeId)]
    fun (name, value) => PresentEvidence.requireToken name value
  refuseIf (profile.purpose != .postSettlementSuccessor ||
      profile.expectedAdapterId != "maude.local-compose-observation-adapter" ||
      profile.expectedAdapterVersion != "1" || profile.requiredAction != .qualify ||
      profile.requiredClaims != requiredClaimSet || profile.maxAgeMs == 0)
    "external-evidence v1 profile is not the closed successor profile"
  refuseIf (profile.profileId != w.sha256 (w.externalProfileCanonical profile))
    "external-evidence profile identity mismatch"

end ExternalEvidenceProfileV1

def ExternalEvidenceReferenceV1.validate (reference : ExternalEvidenceReferenceV1) :
    Except String Unit := do
  refuseIf (reference.schema != externalEvidenceReferenceSchemaV1)
    "unsupported external-evidence reference schema"
  requireDigest "source_observation_id" reference.sourceObservationId
  requireDigest "source_custody_id" reference.sourceCustodyId
  requireDigest "profile_id" reference.profileId

def ComposedExternalClaimV1.validate (claim : ComposedExternalClaimV1) : Except String Unit := do
  requireDigest "claim_id" claim.claimId
  PresentEvidence.requireToken "plan_node_id" claim.planNodeId
  requireDigest "compiled_output_identity" claim.compiledOutputIdentity

/-- The custody record repeats the governed identities of its observation. -/
def custodyBinds (custody : ExternalObservationCustodyProvenanceV1)
    (observation : LocalComposeWorldObservationV1) : Bool :=
  custody.observationId == observation.observationId &&
    custody.campaignId == observation.campaignId &&
    custody.occurrenceId == observation.occurrenceId &&
    custody.exactWorkId == observation.exactWorkId &&
    custody.attemptId == observation.attemptId &&
    custody.settlementId == observation.settlementId &&
    custody.executorEvidenceReceipt == observation.executorEvidenceReceipt

namespace ComposedExternalEvidenceV1

/-- The binding and temporal law of one composition. -/
def lawful (composition : ComposedExternalEvidenceV1) (admittedMs : Nat) : Bool :=
  composition.sourceCampaignId == composition.targetCampaignId &&
    composition.sourceOccurrenceId != composition.targetOccurrenceId &&
    composition.sourceObservedAtUnixMs < composition.freshUntilUnixMs &&
    composition.sourceObservedAtUnixMs ≤ admittedMs &&
    composition.sourceReceivedAt ≤ composition.admittedAt &&
    admittedMs < composition.freshUntilUnixMs &&
    checkedAdd composition.sourceObservedAtUnixMs composition.profile.maxAgeMs ==
      some composition.freshUntilUnixMs &&
    composition.producerPrincipalId == composition.profile.expectedProducerPrincipalId &&
    composition.producerKeyId == composition.profile.expectedProducerKeyId &&
    composition.targetRuntimeId == composition.profile.expectedRuntimeId &&
    composition.nonclaims == compositionNonclaims

def validate (composition : ComposedExternalEvidenceV1) : Except String Unit := do
  refuseIf (composition.schema != composedExternalEvidenceSchemaV1)
    "unsupported composed external-evidence schema"
  composition.profile.validate w
  forEach
    [("composition_id", composition.compositionId),
      ("source_observation_id", composition.sourceObservationId),
      ("source_custody_id", composition.sourceCustodyId),
      ("source_campaign_id", composition.sourceCampaignId),
      ("source_proposal_id", composition.sourceProposalId),
      ("source_exact_work_id", composition.sourceExactWorkId),
      ("source_issuance_id", composition.sourceIssuanceId),
      ("source_attempt_id", composition.sourceAttemptId),
      ("source_settlement_id", composition.sourceSettlementId),
      ("source_plan_document_digest", composition.sourcePlanDocumentDigest),
      ("source_compilation_id", composition.sourceCompilationId),
      ("target_campaign_id", composition.targetCampaignId),
      ("subject_digest", composition.subjectDigest), ("scope_digest", composition.scopeDigest)]
    fun (name, value) => requireDigest name value
  forEach
    [("source_occurrence_id", composition.sourceOccurrenceId),
      ("target_occurrence_id", composition.targetOccurrenceId),
      ("subject_id", composition.subjectId),
      ("producer_principal_id", composition.producerPrincipalId),
      ("producer_key_id", composition.producerKeyId),
      ("target_runtime_id", composition.targetRuntimeId)]
    fun (name, value) => PresentEvidence.requireToken name value
  -- An unreadable admission time is only met once the cheaper bindings passed.
  refuseIf (composition.sourceCampaignId != composition.targetCampaignId ||
      composition.sourceOccurrenceId == composition.targetOccurrenceId ||
      composition.sourceObservedAtUnixMs ≥ composition.freshUntilUnixMs)
    "composed external evidence binding or temporal law failed"
  let admittedMs ← unixMs composition.admittedAt
  refuseIf (!composition.lawful admittedMs)
    "composed external evidence binding or temporal law failed"
  refuseIf (composition.claims.map (·.kind) != composition.profile.requiredClaims)
    "composed external evidence claim set differs from profile"
  forEach composition.claims (·.validate)
  refuseIf (composition.compositionId != w.sha256 (w.compositionCanonical composition))
    "composed external evidence identity mismatch"

def canonicalObservationId (composition : ComposedExternalEvidenceV1) : Except String String := do
  composition.validate w
  .ok (w.sha256 (utf8 composedObservationDomainV1 ++ w.compositionText composition))

/-- The source is adequate for the profile and bound to the exact successor. -/
def checkSource (reference : ExternalEvidenceReferenceV1) (profile : ExternalEvidenceProfileV1)
    (observation : LocalComposeWorldObservationV1)
    (custody : ExternalObservationCustodyProvenanceV1)
    (targetCampaignId targetOccurrenceId subjectDigest scopeDigest : String) :
    Except String Unit := do
  refuseIf (reference.sourceObservationId != observation.observationId ||
      reference.sourceCustodyId != custody.custodyId ||
      reference.profileId != profile.profileId || !custodyBinds custody observation)
    "external evidence reference/custody/source binding mismatch"
  refuseIf (observation.adapterId != profile.expectedAdapterId ||
      observation.adapterVersion != profile.expectedAdapterVersion ||
      custody.producerPrincipalId != profile.expectedProducerPrincipalId ||
      custody.producerKeyId != profile.expectedProducerKeyId ||
      custody.targetRuntimeId != profile.expectedRuntimeId)
    "external evidence does not match deployment profile"
  refuseIf (observation.action != profile.requiredAction || observation.outcome != .success)
    "external evidence is not adequate for the requested purpose"
  refuseIf (observation.claims.map (·.kind) != profile.requiredClaims ||
      observation.claims.any (·.status != .satisfied))
    "external evidence lacks the profile's exact satisfied claim set"
  refuseIf (observation.campaignId != targetCampaignId ||
      observation.occurrenceId == targetOccurrenceId ||
      observation.subjectDigest != subjectDigest || observation.scopeDigest != scopeDigest)
    "external evidence is not bound to the exact predecessor/subject/scope"

def compose (reference : ExternalEvidenceReferenceV1) (profile : ExternalEvidenceProfileV1)
    (observation : LocalComposeWorldObservationV1)
    (custody : ExternalObservationCustodyProvenanceV1) (admittedAt : Instant)
    (targetCampaignId targetOccurrenceId subjectId subjectDigest scopeDigest : String) :
    Except String ComposedExternalEvidenceV1 := do
  reference.validate
  profile.validate w
  w.validateWorldObservation observation
  w.validateExternalCustody custody
  checkSource reference profile observation custody targetCampaignId targetOccurrenceId
    subjectDigest scopeDigest
  requireDigest "target_campaign_id" targetCampaignId
  PresentEvidence.requireToken "target_occurrence_id" targetOccurrenceId
  PresentEvidence.requireToken "subject_id" subjectId
  requireDigest "subject_digest" subjectDigest
  requireDigest "scope_digest" scopeDigest
  let observedAt ← okOr (tryU64 observation.observedAtUnixMs)
    "source observation time is not representable"
  let admittedMs ← unixMs admittedAt
  let freshUntilUnixMs ← okOr (checkedAdd observedAt profile.maxAgeMs)
    "external evidence horizon overflows Unix milliseconds"
  refuseIf (admittedMs < observedAt)
    "external evidence was admitted before its acquisition time"
  refuseIf (admittedAt < custody.receivedAt)
    "external evidence was admitted before Nightshift custody"
  refuseIf (admittedMs ≥ freshUntilUnixMs) "external evidence is stale for the configured profile"
  let open_ : ComposedExternalEvidenceV1 :=
    { schema := composedExternalEvidenceSchemaV1
      compositionId := ""
      profile
      sourceObservationId := observation.observationId
      sourceCustodyId := custody.custodyId
      sourceCampaignId := observation.campaignId
      sourceOccurrenceId := observation.occurrenceId
      sourceProposalId := observation.proposalId
      sourceExactWorkId := observation.exactWorkId
      sourceIssuanceId := observation.issuanceId
      sourceAttemptId := observation.attemptId
      sourceSettlementId := observation.settlementId
      sourcePlanDocumentDigest := observation.planDocumentDigest
      sourceCompilationId := observation.compilationId
      producerPrincipalId := custody.producerPrincipalId
      producerKeyId := custody.producerKeyId
      targetRuntimeId := custody.targetRuntimeId
      sourceObservedAtUnixMs := observedAt
      sourceReceivedAt := custody.receivedAt
      admittedAt, freshUntilUnixMs, targetCampaignId, targetOccurrenceId, subjectId,
      subjectDigest, scopeDigest
      claims := observation.claims.map fun claim =>
        ⟨claim.claimId, claim.kind, claim.planNodeId, claim.compiledOutputIdentity⟩
      nonclaims := compositionNonclaims }
  let composition := { open_ with compositionId := w.sha256 (w.compositionCanonical open_) }
  composition.validate w
  .ok composition

end ComposedExternalEvidenceV1

/-! ## Custody records -/

def externalObservationCustodySchemaV1 : String :=
  "nightshift.external_observation_custody_provenance.v1"
def steadyStateCustodySchemaV1 : String := "nightshift.steady_state_observation_custody.v1"

/-- `ExternalObservationCustodyProvenanceV1::mint` -/
def ExternalObservationCustodyProvenanceV1.mint (handoff : ExternalObservationHandoffV1)
    (receivedAt : Instant) : Except String ExternalObservationCustodyProvenanceV1 := do
  let open_ : ExternalObservationCustodyProvenanceV1 :=
    { schema := externalObservationCustodySchemaV1
      custodyId := ""
      handoffId := handoff.handoffId
      observationId := handoff.observation.observationId
      producerPrincipalId := handoff.producerPrincipalId
      producerKeyId := handoff.producerKeyId
      targetRuntimeId := handoff.targetRuntimeId
      campaignId := handoff.observation.campaignId
      occurrenceId := handoff.observation.occurrenceId
      exactWorkId := handoff.observation.exactWorkId
      attemptId := handoff.observation.attemptId
      settlementId := handoff.observation.settlementId
      executorEvidenceReceipt := handoff.observation.executorEvidenceReceipt
      receivedAt }
  let custody := { open_ with custodyId := w.sha256 (w.externalCustodyCanonical open_) }
  w.validateExternalCustody custody
  .ok custody

/-- `SteadyStateObservationCustodyV1::mint` -/
def SteadyStateObservationCustodyV1.mint (handoff : SteadyStateObservationHandoffV1)
    (receivedAt : Instant) : Except String SteadyStateObservationCustodyV1 := do
  let open_ : SteadyStateObservationCustodyV1 :=
    { schema := steadyStateCustodySchemaV1
      custodyId := ""
      handoffId := handoff.handoffId
      observationId := handoff.observation.observationId
      qualificationObservationId := handoff.observation.qualificationObservationId
      producerPrincipalId := handoff.producerPrincipalId
      producerKeyId := handoff.producerKeyId
      targetRuntimeId := handoff.targetRuntimeId
      planDocumentDigest := handoff.observation.planDocumentDigest
      compilationId := handoff.observation.compilationId
      evidenceReceipt := handoff.observation.evidenceReceipt
      receivedAt }
  let custody := { open_ with custodyId := w.sha256 (w.steadyCustodyCanonical open_) }
  w.validateSteadyCustody custody
  .ok custody

end Nightshift.Canonical
