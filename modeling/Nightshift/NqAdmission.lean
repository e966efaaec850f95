import Nightshift.CanonicalPlatform

/-!
# NQ source admission

The query for one delivered artifact, the three provenance versions that may
answer it, the substrate-origin verdict on a version 3 answer, and the cover of
all delivered artifacts that an observation retains. The verdict names the
predecessor it was judged against; nothing here looks at the store again.
-/

namespace Nightshift.Canonical

open Checked Diagnostic PresentEvidence

def nqAdmissionQuerySchemaV1 : String := "nightshift.nq_admission_query.v1"
def nqAdmissionProvenanceSchemaV1 : String := "nq.diagnostic_admission_provenance.v1"
def nqAdmissionProvenanceSchemaV2 : String := "nq.diagnostic_admission_provenance.v2"
def nqAdmissionProvenanceSchemaV3 : String := "nq.diagnostic_admission_provenance.v3"
def originApplicabilitySchemaV1 : String := "nightshift.substrate_origin_applicability.v1"

def nqAdmissionNonclaims : List String :=
  ["admission establishes evidence eligibility only",
    "this provenance does not establish freshness, reliance, authorization, or action",
    "source and resolver honesty remain environmental"]

variable (w : CanonicalPlatform)

/-- `DateTime::parse_from_rfc3339(value).is_ok()` -/
def isRfc3339 (value : String) : Bool := (w.parseFromRfc3339 value).toBool

namespace NqAdmissionQueryV1

def validate (query : NqAdmissionQueryV1) : Except String Unit := do
  refuseIf (query.schema != nqAdmissionQuerySchemaV1) "unsupported NQ admission query schema"
  requireDigest "query_id" query.queryId
  PresentEvidence.requireToken "source_id" query.sourceId
  requireDigest "artifact_id" query.artifactId
  refuseIf (query.contractSchema != nqDiagnosticExecutionSchema &&
      query.contractSchema != nqDiagnosticExecutionV2Schema)
    "NQ admission query carries an unsupported artifact schema"
  requireDigest "canonical_bytes_sha256" query.canonicalBytesSha256
  refuseIf (query.canonicalBytesLength == 0) "NQ admission query carries empty artifact bytes"
  PresentEvidence.requireToken "run_id" query.runId
  refuseIf (!isRfc3339 w query.completedAt) "NQ admission query completed_at is not RFC3339"
  if query.contractSchema = nqDiagnosticExecutionV2Schema then
    match query.profileSemanticId with
    | some value => requireDigest "profile_semantic_id" value
    | none => throw "NQ v2 admission query lacks profile_semantic_id"
  else
    refuseIf query.profileSemanticId.isSome "NQ v1 admission query carries v2 provenance"
  refuseIf (query.queryId != w.sha256 (w.admissionQueryCanonical query))
    "NQ admission query identity mismatch"

/-- The query binds the exact canonical bytes of the artifact. -/
def fromArtifact (artifact : DiagnosticExecution) : Except String NqAdmissionQueryV1 := do
  w.validateExecution artifact
  let canonical := w.artifactCanonical artifact
  let open_ : NqAdmissionQueryV1 :=
    { schema := nqAdmissionQuerySchemaV1
      queryId := ""
      sourceId := artifact.producer.nodeId
      artifactId := artifact.artifactId
      contractSchema := artifact.schemaName
      canonicalBytesSha256 := w.sha256 canonical
      canonicalBytesLength := canonical.length
      runId := artifact.runId
      completedAt := artifact.completedAt
      profileSemanticId := artifact.profileSemanticId }
  let query := { open_ with queryId := w.sha256 (w.admissionQueryCanonical open_) }
  query.validate w
  .ok query

end NqAdmissionQueryV1

namespace NqAdmissionProvenanceV1

def checkBinding (value : NqAdmissionProvenanceV1) (contracts : List String) (message : String) :
    Except String Unit := do
  requireDigest "provenance_id" value.provenanceId
  refuseIf (value.source.kind != "local_nq_store")
    "NQ admission provenance is not local-source custody"
  PresentEvidence.requireToken "source_id" value.source.sourceId
  requireDigest "artifact_id" value.artifact.artifactId
  refuseIf (!contracts.contains value.artifact.contractSchema ||
    value.artifact.canonicalBytesLength == 0) message
  requireDigest "canonical_bytes_sha256" value.artifact.canonicalBytesSha256

def checkOrigin (value : NqAdmissionProvenanceV1) : Except String Unit := do
  PresentEvidence.requireToken "run_id" value.origin.runId
  refuseIf (value.origin.evaluationId == some "" || !isRfc3339 w value.origin.completedAt ||
    !isRfc3339 w value.origin.committedAt) "NQ admission origin is invalid"
  PresentEvidence.requireToken "provider_intake_id" value.provider.providerIntakeId
  requireDigest "raw_sha256" value.provider.rawSha256
  requireDigest "provider_admission_id" value.provider.providerAdmissionId
  PresentEvidence.requireToken "source_admission_id" value.provider.sourceAdmissionId
  requireDigest "admission_context_digest" value.provider.admissionContextDigest
  requireDigest "profile_semantic_id" value.provider.profileSemanticId

def checkDisposition (value : NqAdmissionProvenanceV1) : Except String Unit := do
  match value.disposition, value.judgment with
  | .admittedReport, some judgment =>
    PresentEvidence.requireToken "report_id" judgment.reportId
    refuseIf (judgment.judgmentSchema != "nq-ng.judgment.v1")
      "NQ admission judgment schema is unsupported"
    requireDigest "judgment_digest" judgment.judgmentDigest
  | .admittedReport, none => throw "admitted NQ report lacks its exact judgment"
  | _, some _ => throw "non-admitted NQ source carries a report judgment"
  | _, none => .ok ()
  refuseIf (value.nonclaims != nqAdmissionNonclaims)
    "NQ admission nonclaims differ from the closed contract"

/-- The members of the query that the answer repeats. -/
def bindsQuery (value : NqAdmissionProvenanceV1) (query : NqAdmissionQueryV1) : Bool :=
  value.source.sourceId == query.sourceId && value.artifact.artifactId == query.artifactId &&
    value.artifact.contractSchema == query.contractSchema &&
    value.artifact.canonicalBytesSha256 == query.canonicalBytesSha256 &&
    value.artifact.canonicalBytesLength == query.canonicalBytesLength &&
    value.origin.runId == query.runId && value.origin.completedAt == query.completedAt

def bindsProfile (value : NqAdmissionProvenanceV1) (query : NqAdmissionQueryV1) : Bool :=
  query.profileSemanticId.all (· == value.provider.profileSemanticId)

end NqAdmissionProvenanceV1

namespace NqAdmissionProvenance

def artifactId : NqAdmissionProvenance → String
  | v1 value => value.artifact.artifactId
  | v2 value _ => value.artifact.artifactId
  | v3 value _ => value.artifact.artifactId

def checkIdentity (provenance : NqAdmissionProvenance) (provenanceId message : String) :
    Except String Unit :=
  refuseIf (provenanceId != w.sha256 (w.provenanceCanonical provenance)) message

def validate (provenance : NqAdmissionProvenance) : Except String Unit :=
  match provenance with
  | v1 value => do
    refuseIf (value.schema != nqAdmissionProvenanceSchemaV1)
      "unsupported NQ admission provenance schema"
    value.checkBinding [nqDiagnosticExecutionSchema, nqDiagnosticExecutionV2Schema]
      "NQ admission artifact binding is invalid"
    value.checkOrigin w
    value.checkDisposition
    checkIdentity w provenance value.provenanceId "NQ admission provenance identity mismatch"
  | v2 value continuity => do
    refuseIf (value.schema != nqAdmissionProvenanceSchemaV2)
      "unsupported NQ admission provenance schema"
    value.checkBinding [nqDiagnosticExecutionV2Schema]
      "NQ continuity provenance requires diagnostic execution v2"
    value.checkOrigin w
    refuseIf (value.provider.providerIntakeId != continuity.intakeId ||
        value.origin.runId != continuity.runId)
      "NQ continuity proof substitutes the provider intake or run"
    w.validateContinuityShape continuity
    value.checkDisposition
    checkIdentity w provenance value.provenanceId "NQ admission provenance identity mismatch"
  | v3 value origin => do
    refuseIf (value.schema != nqAdmissionProvenanceSchemaV3)
      "unsupported NQ substrate-origin provenance schema"
    value.checkBinding [nqDiagnosticExecutionV2Schema]
      "NQ substrate-origin provenance requires diagnostic execution v2"
    value.checkOrigin w
    w.validateOriginShape origin
    refuseIf (value.provider.providerIntakeId != origin.intakeId ||
        value.origin.runId != origin.runId)
      "NQ origin proof substitutes the provider intake or run"
    value.checkDisposition
    checkIdentity w provenance value.provenanceId
      "NQ substrate-origin provenance identity mismatch"

/-- `validate_query_binding`; version 1 tells the profile apart. -/
def validateQueryBinding (provenance : NqAdmissionProvenance) (query : NqAdmissionQueryV1) :
    Except String Unit :=
  match provenance with
  | v1 value => do
    refuseIf (!value.bindsQuery query)
      "NQ admission provenance does not bind the exact diagnostic artifact"
    refuseIf (!value.bindsProfile query)
      "NQ admission provenance substitutes the evaluated profile"
  | v2 value _ => refuseIf (!value.bindsQuery query || !value.bindsProfile query)
      "NQ admission provenance does not bind the exact diagnostic artifact"
  | v3 value _ => refuseIf (!value.bindsQuery query || !value.bindsProfile query)
      "NQ substrate-origin provenance does not bind the exact diagnostic artifact"

/-- The checks `validate_for` starts with in every version. -/
def validateAnswer (provenance : NqAdmissionProvenance) (query : NqAdmissionQueryV1) :
    Except String Unit := do
  query.validate w
  provenance.validate w
  provenance.validateQueryBinding query

end NqAdmissionProvenance

/-! ## Substrate origin -/

namespace SubstrateOriginApplicabilityV1

def validate (verdict : SubstrateOriginApplicabilityV1) : Except String Unit := do
  refuseIf (verdict.schema != originApplicabilitySchemaV1)
    "unsupported substrate-origin applicability schema"
  requireDigest "origin applicability id" verdict.applicabilityId
  requireDigest "origin diagnostic artifact" verdict.diagnosticArtifactId
  forEach
    [("origin profile", verdict.profileId), ("origin subject", verdict.subjectRef),
      ("observed coordinate", verdict.observedCoordinateRef),
      ("origin attestation occurrence", verdict.attestationOccurrenceRef),
      ("origin acquisition", verdict.acquisitionId),
      ("origin provider intake", verdict.providerIntakeRef)]
    fun (name, value) => PresentEvidence.requireToken name value
  forEach verdict.predecessorApplicabilityId.toList (requireDigest "predecessor applicability")
  refuseIf (verdict.predecessorApplicabilityId.isSome != verdict.predecessorCoordinateRef.isSome)
    "origin predecessor identity and coordinate must be paired"
  refuseIf (verdict.applicabilityId != w.sha256 (w.originApplicabilityCanonical verdict))
    "substrate-origin applicability identity mismatch"

/-- `SubstrateOriginApplicabilityV1::new` -/
def mint (requirement : SubstrateOriginRequirementV1) (proof : SubstrateOriginAcquisitionProofV1)
    (diagnosticArtifactId providerIntakeRef : String)
    (predecessor : Option SubstrateOriginApplicabilityV1)
    (status : SubstrateOriginApplicabilityStatusV1)
    (reason : SubstrateOriginApplicabilityReasonV1) :
    Except String SubstrateOriginApplicabilityV1 := do
  let open_ : SubstrateOriginApplicabilityV1 :=
    { schema := originApplicabilitySchemaV1
      applicabilityId := ""
      status, reason
      profileId := requirement.profileId
      diagnosticArtifactId
      subjectRef := requirement.subjectRef
      predecessorApplicabilityId := predecessor.map (·.applicabilityId)
      predecessorCoordinateRef := predecessor.map (·.observedCoordinateRef)
      observedCoordinateRef := proof.coordinateRef
      attestationOccurrenceRef := proof.attestationOccurrenceRef
      acquisitionId := proof.acquisitionId
      providerIntakeRef
      authorityOccurrenceRef := proof.continuityCarrier.map (·.authorityOccurrenceRef) }
  let verdict := { open_ with applicabilityId := w.sha256 (w.originApplicabilityCanonical open_) }
  verdict.validate w
  .ok verdict

end SubstrateOriginApplicabilityV1

namespace SubstrateOriginVerifierV1

/-- A transition to another coordinate needs exact continuity authority. -/
def evaluateTransition (verifier : SubstrateOriginVerifierV1)
    (proof : SubstrateOriginAcquisitionProofV1) (previous : SubstrateOriginApplicabilityV1)
    (continuityVerifier : Option ContinuityAuthorityVerifierV1) :
    Except String (SubstrateOriginApplicabilityStatusV1 × SubstrateOriginApplicabilityReasonV1) :=
  match proof.continuity, proof.continuityCarrier, continuityVerifier with
  | some basis, some carrier, some continuityVerifier => do
    w.verifyEmbeddedCarrier continuityVerifier carrier basis
    if basis.edge.subjectRef != verifier.requirement.subjectRef ||
        basis.edge.relation != .substrateIncarnation ||
        basis.edge.predecessorRef != previous.observedCoordinateRef ||
        basis.edge.successorRef != proof.coordinateRef then
      .ok (.refused, .continuityEdgeMismatch)
    else .ok (.applicable, .authorizedExactTransition)
  | _, _, _ => .ok (.refused, .continuityAuthorityMissing)

/-- The status and reason of the verdict, in the order the verifier decides them. -/
def judge (verifier : SubstrateOriginVerifierV1) (proof : SubstrateOriginAcquisitionProofV1)
    (diagnosticSubjectRef diagnosticProviderIntakeRef : String)
    (predecessor : Option SubstrateOriginApplicabilityV1)
    (continuityVerifier : Option ContinuityAuthorityVerifierV1) :
    Except String (SubstrateOriginApplicabilityStatusV1 × SubstrateOriginApplicabilityReasonV1) :=
  if diagnosticSubjectRef != verifier.requirement.subjectRef ||
      proof.subjectRef != verifier.requirement.subjectRef then .ok (.refused, .subjectMismatch)
  else if proof.intakeId != diagnosticProviderIntakeRef then .ok (.refused, .intakeMismatch)
  else match predecessor with
  | none =>
    if verifier.requirement.bootstrapCoordinateRef == some proof.coordinateRef then
      if proof.continuity.isSome || proof.continuityCarrier.isSome then
        .ok (.refused, .continuityAuthorityUnexpected)
      else .ok (.applicable, .bootstrapOriginEstablished)
    else .ok (.unresolved, .predecessorHistoryAbsent)
  | some previous =>
    if previous.observedCoordinateRef == proof.coordinateRef then
      if proof.continuity.isSome || proof.continuityCarrier.isSome then
        .ok (.refused, .continuityAuthorityUnexpected)
      else .ok (.applicable, .stableExactOrigin)
    else evaluateTransition w verifier proof previous continuityVerifier

def evaluate (verifier : SubstrateOriginVerifierV1) (proof : SubstrateOriginAcquisitionProofV1)
    (diagnosticArtifactId diagnosticSubjectRef diagnosticProviderIntakeRef : String)
    (predecessor : Option SubstrateOriginApplicabilityV1)
    (continuityVerifier : Option ContinuityAuthorityVerifierV1) :
    Except String SubstrateOriginApplicabilityV1 := do
  w.validateOriginShape proof
  w.verifyAttestation verifier proof
  let (status, reason) ← judge w verifier proof diagnosticSubjectRef diagnosticProviderIntakeRef
    predecessor continuityVerifier
  SubstrateOriginApplicabilityV1.mint w verifier.requirement proof diagnosticArtifactId
    diagnosticProviderIntakeRef predecessor status reason

end SubstrateOriginVerifierV1

/-! ## Qualification of delivered inputs -/

/-- The configured NQ source of one runtime: its answers and its pinned verifiers. -/
structure NqAdmissionPortV1 where
  qualify : NqAdmissionQueryV1 → Except String NqAdmissionProvenance
  continuityVerifier : Option ContinuityAuthorityVerifierV1
  substrateOriginVerifier : Option SubstrateOriginVerifierV1

structure QualifiedNqAdmissionsV1 where
  provenance : List NqAdmissionProvenance
  continuity : List ContinuityApplicabilityV1
  substrateOrigins : List SubstrateOriginApplicabilityV1
  deriving DecidableEq, Repr

/-- The delivered artifacts, in input order. -/
def deliveredArtifacts (inputs : DiagnosticInputs) : List DiagnosticExecution :=
  inputs.inputs.filterMap fun input =>
    match input.status with
    | .delivered artifact => some artifact
    | _ => none

/-- One query per artifact identity; the same identity must stand for the same bytes. -/
def admissionQueries (inputs : DiagnosticInputs) :
    Except String (BTreeMap String (NqAdmissionQueryV1 × DiagnosticExecution)) :=
  (deliveredArtifacts inputs).foldlM
    (fun queries artifact => do
      let query ← NqAdmissionQueryV1.fromArtifact w artifact
      refuseIf (queries[query.artifactId]?.any (·.1 != query))
        "one artifact identity is bound to different diagnostic bytes"
      .ok (queries.insert query.artifactId (query, artifact))) ∅

/-- `artifact.provider_intake_ids()` of an artifact that must bind exactly one intake. -/
def soleIntake (artifact : DiagnosticExecution) (message : String) : Except String String :=
  match artifact.providerIntakeIds with
  | [intake] => .ok intake
  | _ => .error message

def ContinuityApplicabilityStatusV1.debug : ContinuityApplicabilityStatusV1 → String
  | applicable => "Applicable"
  | refused => "Refused"
  | unresolved => "Unresolved"

def ContinuityApplicabilityReasonV1.debug : ContinuityApplicabilityReasonV1 → String
  | exactAuthenticatedPrerequisite => "ExactAuthenticatedPrerequisite"
  | subjectMismatch => "SubjectMismatch"
  | intakeMismatch => "IntakeMismatch"
  | edgeMismatch => "EdgeMismatch"
  | acquisitionBindingMismatch => "AcquisitionBindingMismatch"
  | observationSubstrateAbsent => "ObservationSubstrateAbsent"
  | observationSubstrateMismatch => "ObservationSubstrateMismatch"

def SubstrateOriginApplicabilityStatusV1.debug : SubstrateOriginApplicabilityStatusV1 → String
  | applicable => "Applicable"
  | refused => "Refused"
  | unresolved => "Unresolved"

def SubstrateOriginApplicabilityReasonV1.debug : SubstrateOriginApplicabilityReasonV1 → String
  | bootstrapOriginEstablished => "BootstrapOriginEstablished"
  | stableExactOrigin => "StableExactOrigin"
  | authorizedExactTransition => "AuthorizedExactTransition"
  | subjectMismatch => "SubjectMismatch"
  | intakeMismatch => "IntakeMismatch"
  | predecessorHistoryAbsent => "PredecessorHistoryAbsent"
  | predecessorHistoryMismatch => "PredecessorHistoryMismatch"
  | originMismatch => "OriginMismatch"
  | continuityAuthorityMissing => "ContinuityAuthorityMissing"
  | continuityAuthorityUnexpected => "ContinuityAuthorityUnexpected"
  | continuityEdgeMismatch => "ContinuityEdgeMismatch"
  | originProofInvalid => "OriginProofInvalid"

/-- The configured origin requirement covers the subject of the artifact. -/
def requiresOrigin (port : NqAdmissionPortV1) (artifact : DiagnosticExecution) : Bool :=
  port.substrateOriginVerifier.any (·.requirement.subjectRef == artifact.subject.id)

/-- One answered query: what it adds to the qualified admissions. -/
def qualifyOne (port : NqAdmissionPortV1)
    (originHistory : BTreeMap String SubstrateOriginApplicabilityV1)
    (qualified : QualifiedNqAdmissionsV1) (query : NqAdmissionQueryV1)
    (artifact : DiagnosticExecution) : Except String QualifiedNqAdmissionsV1 := do
  let provenance ← port.qualify query
  match provenance with
  | .v1 _ =>
    provenance.validateAnswer w query
    refuseIf (requiresOrigin port artifact) ("substrate-origin V3 is required; " ++
      "V1 configured identity cannot establish continuity")
    .ok { qualified with provenance := qualified.provenance ++ [provenance] }
  | .v2 value continuity =>
    refuseIf (requiresOrigin port artifact) ("substrate-origin V3 is required; " ++
      "V2 authority without origin proof cannot establish continuity")
    let verifier ← okOr port.continuityVerifier
      "NQ continuity provenance arrived without a configured Standing verifier"
    provenance.validateAnswer w query
    let intake ← soleIntake artifact
      "continuity-bearing diagnostic must bind exactly one provider intake"
    let verdict ← w.evaluateContinuity verifier continuity value.artifact.artifactId
      artifact.subject.id intake
    refuseIf (verdict.status != .applicable)
      ("continuity attribution is " ++ verdict.status.debug ++ ": " ++ verdict.reason.debug)
    .ok { qualified with
      provenance := qualified.provenance ++ [provenance]
      continuity := qualified.continuity ++ [verdict] }
  | .v3 value origin =>
    let verifier ← okOr port.substrateOriginVerifier
      "NQ substrate-origin provenance arrived without a configured origin verifier"
    provenance.validateAnswer w query
    let intake ← soleIntake artifact
      "origin-bearing diagnostic must bind exactly one provider intake"
    let verdict ← verifier.evaluate w origin value.artifact.artifactId artifact.subject.id intake
      originHistory[artifact.subject.id]? port.continuityVerifier
    refuseIf (verdict.status != .applicable)
      ("substrate-origin attribution is " ++ verdict.status.debug ++ ": " ++ verdict.reason.debug)
    .ok { qualified with
      provenance := qualified.provenance ++ [provenance]
      substrateOrigins := qualified.substrateOrigins ++ [verdict] }

def qualifyDeliveredInputsWithOriginHistory (port : NqAdmissionPortV1) (inputs : DiagnosticInputs)
    (originHistory : BTreeMap String SubstrateOriginApplicabilityV1) :
    Except String QualifiedNqAdmissionsV1 := do
  let queries ← admissionQueries w inputs
  (BTreeMap.valuesOf queries).foldlM
    (fun qualified item => qualifyOne w port originHistory qualified item.1 item.2) ⟨[], [], []⟩

/-! ## The retained cover -/

/-- The exact query of each delivered artifact, by artifact identity. -/
def expectedAdmissions (inputs : DiagnosticInputs) :
    Except String (BTreeMap String (NqAdmissionQueryV1 × DiagnosticExecution)) :=
  (deliveredArtifacts inputs).foldlM
    (fun expected artifact => do
      let query ← NqAdmissionQueryV1.fromArtifact w artifact
      .ok (expected.insert query.artifactId (query, artifact))) ∅

/-- One retained provenance against its exact query. -/
def checkCovered (item : String × NqAdmissionQueryV1 × DiagnosticExecution)
    (actual : NqAdmissionProvenance) : Except String Unit := do
  refuseIf (actual.artifactId != item.1)
    "NQ admission provenance is not in canonical artifact order"
  match actual with
  | .v1 _ => actual.validateAnswer w item.2.1
  | .v2 _ continuity =>
    actual.validate w
    actual.validateQueryBinding item.2.1
    refuseIf (item.2.2.providerIntakeIds != [continuity.intakeId])
      "persisted continuity proof substitutes the diagnostic provider intake"
  | .v3 _ origin =>
    actual.validate w
    actual.validateQueryBinding item.2.1
    refuseIf (item.2.2.providerIntakeIds != [origin.intakeId])
      "persisted origin proof substitutes the diagnostic provider intake"

def checkContinuity (item : String × ContinuityAcquisitionProofV1)
    (verdict : ContinuityApplicabilityV1) : Except String Unit := do
  w.validateContinuityApplicability verdict
  let (artifactId, proof) := item
  refuseIf (verdict.diagnosticArtifactId != artifactId || verdict.status != .applicable ||
      verdict.subjectRef != proof.carrier.edge.subjectRef ||
      verdict.relation != proof.carrier.edge.relation ||
      verdict.predecessorRef != proof.carrier.edge.predecessorRef ||
      verdict.successorRef != proof.carrier.edge.successorRef ||
      verdict.authorityOccurrenceRef != proof.carrier.authorityOccurrenceRef ||
      verdict.commitmentOccurrenceRef != proof.carrier.commitmentOccurrenceRef ||
      verdict.acquisitionId != proof.acquisitionId ||
      verdict.providerIntakeRef != proof.intakeId)
    "continuity applicability substitutes its exact NQ source proof"

def checkOrigin (item : String × SubstrateOriginAcquisitionProofV1)
    (verdict : SubstrateOriginApplicabilityV1) : Except String Unit := do
  verdict.validate w
  let (artifactId, proof) := item
  refuseIf (verdict.diagnosticArtifactId != artifactId || verdict.status != .applicable ||
      verdict.subjectRef != proof.subjectRef ||
      verdict.observedCoordinateRef != proof.coordinateRef ||
      verdict.attestationOccurrenceRef != proof.attestationOccurrenceRef ||
      verdict.acquisitionId != proof.acquisitionId ||
      verdict.providerIntakeRef != proof.intakeId ||
      verdict.authorityOccurrenceRef !=
        proof.continuityCarrier.map (·.authorityOccurrenceRef))
    "substrate-origin applicability substitutes its exact NQ source proof"

/-- The proofs of one version, in canonical artifact order. -/
def continuityProofs (provenance : List NqAdmissionProvenance) :
    List (String × ContinuityAcquisitionProofV1) :=
  provenance.filterMap fun
    | .v2 value proof => some (value.artifact.artifactId, proof)
    | _ => none

def originProofs (provenance : List NqAdmissionProvenance) :
    List (String × SubstrateOriginAcquisitionProofV1) :=
  provenance.filterMap fun
    | .v3 value proof => some (value.artifact.artifactId, proof)
    | _ => none

/-- Nothing here bounds how many origin verdicts name one subject or one predecessor. -/
def validateAdmissionCover (inputs : DiagnosticInputs) (provenance : List NqAdmissionProvenance)
    (continuity : List ContinuityApplicabilityV1)
    (substrateOrigins : List SubstrateOriginApplicabilityV1) : Except String Unit := do
  let expected ← expectedAdmissions w inputs
  refuseIf (expected.size != provenance.length)
    "NQ admission provenance does not cover every delivered artifact exactly once"
  forEach (expected.toList.zip provenance) fun (item, actual) => checkCovered w item actual
  refuseIf ((continuityProofs provenance).length != continuity.length)
    "continuity applicability does not cover every V2 source admission exactly once"
  forEach ((continuityProofs provenance).zip continuity) fun (item, verdict) =>
    checkContinuity w item verdict
  refuseIf ((originProofs provenance).length != substrateOrigins.length)
    "substrate-origin applicability does not cover every V3 source admission exactly once"
  forEach ((originProofs provenance).zip substrateOrigins) fun (item, verdict) =>
    checkOrigin w item verdict

end Nightshift.Canonical
