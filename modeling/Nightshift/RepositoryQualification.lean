import Nightshift.AgRequest
import Nightshift.CanonicalStore
import Nightshift.QualificationRecords
import Mathlib.Data.List.MinMax
import Mathlib.Data.Prod.Lex
import Mathlib.Data.String.Basic

/-!
# Repository qualifications

NQ's receipts about the result of a repository stage are retained under their
identity, each with the applicability profile it first arrived under. A
resolution compares one receipt with the latest of the rows of a profile.
-/

namespace Nightshift.Qualification

open Checked Diagnostic PresentEvidence Canonical Interleave

def qualificationApplicabilityProfileSchemaV1 : String :=
  "nightshift.repository-qualification-applicability-profile/v1"
def qualificationApplicabilitySchemaV1 : String :=
  "nightshift.repository-qualification-applicability/v1"
def agObservationResolutionSchemaV3 : String := "ag.governed-loop.observation-resolution/v3"
def agTypedObservationBasisSchemaV1 : String := "ag.governed-loop.typed-observation-basis/v1"
def nqProfileSchemaV1 : String := "nq-ng.campaign-stage-qualification-profile/v1"
def nqEvidenceSchemaV1 : String := "nq-ng.campaign-stage-qualification-evidence/v1"
def nqReceiptSchemaV1 : String := "nq-ng.campaign-stage-qualification/v1"
def qualificationEvaluatorId : String := "nq-ng.campaign-stage-qualification-evaluator/v1"

def qualificationNonclaims : List String :=
  ["standing", "authorization", "successor choice", "continuation", "effect authority",
    "freshness or present applicability"]

/-- `2^63`, the first value a column of SQLite cannot hold. -/
def i64Bound : Nat := 9223372036854775808

/-- `u64::saturating_add` -/
def saturatingAdd (a b : Nat) : Nat := min (a + b) (u64Bound - 1)

variable (w : QualificationPlatform)

def GitObjectBindingV1.validate (object : GitObjectBindingV1) : Except String Unit := do
  let expected ← match object.objectFormat with
    | "sha1" => .ok 40
    | "sha256" => .ok 64
    | _ => .error "unsupported Git object format"
  refuseIf ((utf8 object.digest).length != expected || !(utf8 object.digest).all isLowerHexdigit)
    "malformed Git object identity"

def QualificationApplicabilityProfileV1.validate (profile : QualificationApplicabilityProfileV1) :
    Except String Unit := do
  refuseIf (profile.schema != qualificationApplicabilityProfileSchemaV1)
    "unsupported qualification-applicability profile schema"
  forEach
    [("profile_id", profile.profileId),
      ("expected_nq_profile_sha256", profile.expectedNqProfileSha256),
      ("expected_nq_evaluator_executable_sha256", profile.expectedNqEvaluatorExecutableSha256),
      ("source_campaign_id", profile.sourceCampaignId), ("subject_digest", profile.subjectDigest)]
    fun (name, value) => requireDigest name value
  forEach
    [("expected_nq_profile_id", profile.expectedNqProfileId),
      ("expected_nq_evaluator_id", profile.expectedNqEvaluatorId),
      ("expected_nq_evaluator_version", profile.expectedNqEvaluatorVersion),
      ("source_occurrence_id", profile.sourceOccurrenceId),
      ("source_attempt_id", profile.sourceAttemptId),
      ("source_settlement_id", profile.sourceSettlementId), ("resolver_id", profile.resolverId)]
    fun (name, value) => PresentEvidence.requireToken name value
  refuseIf (!w.isUuid profile.sourceOccurrenceId) "source_occurrence_id must be a UUID"
  profile.expectedResultHead.validate
  profile.expectedResultTree.validate
  refuseIf (profile.expectedNqEvaluatorId != qualificationEvaluatorId || profile.maxAgeMs == 0 ||
      profile.profileId != w.sha256 (w.qualificationProfileCanonical profile))
    "qualification-applicability profile is not the closed v1 profile"

def NqReceiptV1.validateIntegrity (receipt : NqReceiptV1) : Except String Unit := do
  refuseIf (receipt.schema != nqReceiptSchemaV1) "unsupported NQ qualification receipt schema"
  forEach
    [("receipt_sha256", receipt.receiptSha256), ("profile_sha256", receipt.profileSha256),
      ("evidence_sha256", receipt.evidenceSha256),
      ("campaign_packet_sha256", receipt.campaignPacketSha256),
      ("evaluator_executable_sha256", receipt.evaluatorExecutableSha256)]
    fun (name, value) => requireDigest name value
  refuseIf (receipt.receiptSha256 != w.sha256 (w.receiptCanonical { receipt with receiptSha256 := "" }))
    "NQ qualification receipt digest mismatch"
  refuseIf (receipt.doesNotEstablish != qualificationNonclaims)
    "NQ qualification receipt nonclaims changed"

/-! ## The table -/

/-- `repository_qualification_receipts` -/
structure QualificationRow where
  receiptId : String
  receiptSha256 : String
  status : NqQualificationStatusV1
  evaluatedAtUnixMs : Nat
  applicabilityProfileId : String
  sourceCampaignId : String
  sourceOccurrenceId : String
  exactProfile : Bytes
  exactEvidence : Bytes
  exactReceipt : Bytes
  deriving DecidableEq, Repr

/-- The rows in the order of insertion. -/
structure QualificationStore where
  rows : List QualificationRow

def QualificationStore.empty : QualificationStore := ⟨[]⟩

/-- `WHERE receipt_id = ?1` -/
def QualificationStore.row? (s : QualificationStore) (receiptId : String) : Option QualificationRow :=
  s.rows.find? (·.receiptId == receiptId)

/-! ## Ingest -/

/-- The arguments of one `ingest`. -/
structure QualificationIngest where
  applicability : QualificationApplicabilityProfileV1
  nqProfile : JsonValue
  nqEvidence : JsonValue
  nqReceipt : JsonValue
  verifier : NqVerifier

/-- A receipt that passed every check, with the bytes that are retained of it. -/
structure VerifiedReceipt where
  applicability : QualificationApplicabilityProfileV1
  receipt : NqReceiptV1
  exactProfile : Bytes
  exactEvidence : Bytes
  exactReceipt : Bytes
  deriving DecidableEq, Repr

namespace QualificationIngest

/-- The pins of the profile, but for the running evaluator. -/
def pinned (call : QualificationIngest) (profileSchema profileId evidenceSchema : String)
    (receipt : NqReceiptV1) : Bool :=
  profileSchema == nqProfileSchemaV1 && evidenceSchema == nqEvidenceSchemaV1 &&
    profileId == call.applicability.expectedNqProfileId &&
    w.sha256 call.nqProfile.canonical == call.applicability.expectedNqProfileSha256 &&
    receipt.profileId == profileId &&
    receipt.profileSha256 == w.sha256 call.nqProfile.canonical &&
    receipt.evidenceSha256 == w.sha256 call.nqEvidence.canonical &&
    receipt.evaluatorId == call.applicability.expectedNqEvaluatorId &&
    receipt.evaluatorVersion == call.applicability.expectedNqEvaluatorVersion &&
    receipt.evaluatorExecutableSha256 == call.applicability.expectedNqEvaluatorExecutableSha256 &&
    receipt.resultHead == call.applicability.expectedResultHead &&
    receipt.resultTree == call.applicability.expectedResultTree

/-- Everything before the first statement. -/
def verify (call : QualificationIngest) : Except String VerifiedReceipt := do
  call.applicability.validate w
  let profileSchema ← okOr ((w.member call.nqProfile "schema").bind w.asStr)
    "NQ profile schema is absent"
  let profileId ← okOr ((w.member call.nqProfile "profile_id").bind w.asStr)
    "NQ profile identity is absent"
  let evidenceSchema ← okOr ((w.member call.nqEvidence "schema").bind w.asStr)
    "NQ evidence schema is absent"
  let receipt ← mapErr ("invalid NQ qualification receipt: " ++ ·)
    (w.readReceipt call.nqReceipt.canonical)
  receipt.validateIntegrity w
  refuseIf (!call.pinned w profileSchema profileId evidenceSchema receipt)
    "qualification profile/evidence/evaluator identity mismatch"
  let executable ← call.verifier.executableSha256
  refuseIf (executable != call.applicability.expectedNqEvaluatorExecutableSha256)
    "qualification profile/evidence/evaluator identity mismatch"
  call.verifier.replay call.nqProfile call.nqEvidence call.nqReceipt
  .ok
    { applicability := call.applicability
      receipt
      exactProfile := call.nqProfile.canonical
      exactEvidence := call.nqEvidence.canonical
      exactReceipt := call.nqReceipt.canonical }

end QualificationIngest

namespace VerifiedReceipt

def retained (verified : VerifiedReceipt) : RetainedQualificationReceiptV1 where
  receiptId := verified.receipt.receiptId
  receiptSha256 := verified.receipt.receiptSha256
  status := verified.receipt.status
  evaluatedAtUnixMs := verified.receipt.evaluatedAtUnixMs

def row (verified : VerifiedReceipt) : QualificationRow where
  receiptId := verified.receipt.receiptId
  receiptSha256 := verified.receipt.receiptSha256
  status := verified.receipt.status
  evaluatedAtUnixMs := verified.receipt.evaluatedAtUnixMs
  applicabilityProfileId := verified.applicability.profileId
  sourceCampaignId := verified.applicability.sourceCampaignId
  sourceOccurrenceId := verified.applicability.sourceOccurrenceId
  exactProfile := verified.exactProfile
  exactEvidence := verified.exactEvidence
  exactReceipt := verified.exactReceipt

/-- A row with one of its two keys is there. -/
def clashes (verified : VerifiedReceipt) (row : QualificationRow) : Bool :=
  row.receiptId == verified.receipt.receiptId ||
    row.receiptSha256 == verified.receipt.receiptSha256

/-- The row holds this very receipt, under whatever profile. -/
def heldBy (verified : VerifiedReceipt) (row : QualificationRow) : Bool :=
  row.receiptSha256 == verified.receipt.receiptSha256 &&
    row.exactProfile == verified.exactProfile &&
    row.exactEvidence == verified.exactEvidence &&
    row.exactReceipt == verified.exactReceipt

/-- `INSERT OR IGNORE`, with the number of rows changed. -/
def insertOrIgnore (verified : VerifiedReceipt) (s : QualificationStore) :
    Except String (Nat × QualificationStore) := do
  refuseIf (verified.receipt.evaluatedAtUnixMs ≥ i64Bound) (w.sqlMessage .integerOutOfRange)
  if s.rows.any verified.clashes then .ok (0, s)
  else .ok (1, ⟨s.rows ++ [verified.row]⟩)

/-- What an ignored insert found instead. -/
def compare (verified : VerifiedReceipt) (existing : Option QualificationRow) :
    Except String RetainedQualificationReceiptV1 := do
  let existing ← okOr existing "Query returned no rows"
  refuseIf (!verified.heldBy existing) "immutable qualification receipt identity conflicts"
  .ok verified.retained

def retain (verified : VerifiedReceipt) :
    Call QualificationStore String RetainedQualificationReceiptV1 := do
  let changed ← Call.commit (verified.insertOrIgnore w)
  if changed == 0 then
    let existing ← Call.read (·.row? verified.receipt.receiptId)
    Call.check (verified.compare existing)
  else return verified.retained

end VerifiedReceipt

def QualificationIngest.ingest (call : QualificationIngest) :
    Call QualificationStore String RetainedQualificationReceiptV1 := do
  let verified ← Call.check (call.verify w)
  verified.retain w

/-! ## Resolution -/

def QualificationStore.loadReceipt (s : QualificationStore) (receiptId : String) :
    Except String (Option NqReceiptV1) :=
  match s.row? receiptId with
  | none => .ok none
  | some row => some <$> w.readReceipt row.exactReceipt

/-- `ORDER BY evaluated_at_unix_ms DESC, receipt_sha256 DESC` -/
def QualificationRow.rank (row : QualificationRow) : Nat ×ₗ String :=
  toLex (row.evaluatedAtUnixMs, row.receiptSha256)

namespace QualificationApplicabilityProfileV1

/-- The row arrived under the profile. -/
def owns (profile : QualificationApplicabilityProfileV1) (row : QualificationRow) : Bool :=
  row.applicabilityProfileId == profile.profileId &&
    row.sourceCampaignId == profile.sourceCampaignId &&
    row.sourceOccurrenceId == profile.sourceOccurrenceId

def latestReceiptId (profile : QualificationApplicabilityProfileV1) (s : QualificationStore) :
    Option String :=
  ((s.rows.filter profile.owns).argmax (·.rank)).map (·.receiptId)

def observationId (profile : QualificationApplicabilityProfileV1) (receipt : NqReceiptV1) : String :=
  w.sha256 (w.qualificationObservationCanonical
    ⟨profile.profileId, receipt.receiptSha256, profile.subjectDigest⟩)

/-- The request is about the exact settled predecessor of the profile. -/
def admits (profile : QualificationApplicabilityProfileV1) (request : ApplicabilityRequest) : Bool :=
  request.source.campaignId == profile.sourceCampaignId &&
    request.source.occurrenceId == profile.sourceOccurrenceId &&
    request.source.programCounter == .settledObservationRequired &&
    request.source.docketAttemptId == some profile.sourceAttemptId &&
    request.source.settlementId == some profile.sourceSettlementId &&
    request.requestedSubject == profile.subjectDigest

def horizon (profile : QualificationApplicabilityProfileV1) (receipt : NqReceiptV1) :
    Except String Nat :=
  okOr (checkedAdd receipt.evaluatedAtUnixMs profile.maxAgeMs)
    "qualification freshness horizon overflow"

def standing (profile : QualificationApplicabilityProfileV1) (receipt : NqReceiptV1)
    (receiptId : String) (latest : Option String) (nowUnixMs : Nat) :
    Except String AgTypedObservationStatusV1 :=
  if latest != some receiptId then .ok .superseded
  else do
    let horizon ← profile.horizon receipt
    if nowUnixMs ≥ horizon then .ok .stale else .ok .current

/-- The observation a qualified receipt is answered with. -/
def observe (profile : QualificationApplicabilityProfileV1) (request : ApplicabilityRequest)
    (receipt : NqReceiptV1) (status : AgTypedObservationStatusV1) :
    Except String QualificationApplicabilityOutcomeV1 := do
  let applicability : QualificationApplicabilityV1 :=
    { schema := qualificationApplicabilitySchemaV1
      applicabilityProfileId := profile.profileId
      nqReceiptId := receipt.receiptId
      nqReceiptSha256 := receipt.receiptSha256
      sourceCampaignId := request.source.campaignId
      sourceOccurrenceId := request.source.occurrenceId
      sourceStateDigest := request.source.stateDigest
      sourceSnapshotDigest := request.source.snapshotDigest
      sourceAttemptId := profile.sourceAttemptId
      sourceSettlementId := profile.sourceSettlementId
      resultHead := receipt.resultHead
      resultTree := receipt.resultTree
      subjectDigest := request.requestedSubject }
  let basis : AgTypedObservationBasisV1 :=
    ⟨agTypedObservationBasisSchemaV1, qualificationApplicabilitySchemaV1,
      w.sha256 (w.applicabilityCanonical applicability)⟩
  let naturalHorizon ← profile.horizon receipt
  .ok (.observation
    { schema := agObservationResolutionSchemaV3
      key := ⟨request.targetCampaignId, request.targetOccurrenceId⟩
      observation := request.requestedObservation
      currentness := w.sha256 (w.qualificationCurrentnessCanonical
        ⟨receipt.receiptSha256, request.source.stateDigest, request.source.snapshotDigest, status,
          request.nowUnixMs⟩)
      normalizedPreconditions := agHashDomain w.toCanonicalPlatform agTypedObservationBasisSchemaV1
        (w.typedBasisCanonical basis)
      basis
      resolverId := profile.resolverId
      subject := request.requestedSubject
      status
      resolvedAtUnixMs := request.nowUnixMs
      freshUntilUnixMs :=
        if status = .current then naturalHorizon else saturatingAdd request.nowUnixMs 1 })

def accepts (profile : QualificationApplicabilityProfileV1) (request : ApplicabilityRequest) :
    Except String Unit := do
  profile.validate w
  mapErr (·.display w.toRuntimePlatform) (request.source.validate w.toCanonicalPlatform)
  requireDigest "target_campaign_id" request.targetCampaignId
  refuseIf (!w.isUuid request.targetOccurrenceId) "target_occurrence_id must be a UUID"
  requireDigest "requested_observation" request.requestedObservation
  requireDigest "requested_subject" request.requestedSubject
  refuseIf (!profile.admits request)
    "qualification is not applicable to the exact live settled predecessor"

/-- What is answered about a retained receipt, given the latest of the profile. -/
def judge (profile : QualificationApplicabilityProfileV1) (request : ApplicabilityRequest)
    (receiptId : String) (receipt : NqReceiptV1) (latest : Option String) :
    Except String QualificationApplicabilityOutcomeV1 := do
  let status ← profile.standing receipt receiptId latest request.nowUnixMs
  profile.observe w request receipt status

def resolveApplicability (profile : QualificationApplicabilityProfileV1)
    (request : ApplicabilityRequest) (receiptId : String) :
    Call QualificationStore String QualificationApplicabilityOutcomeV1 := do
  Call.check (profile.accepts w request)
  let loaded ← Call.read (·.loadReceipt w receiptId)
  let loaded ← Call.check loaded
  let receipt ← Call.check (okOr loaded "qualification receipt is not retained")
  if receipt.status != .qualified then return .retainedOnly receipt.receiptId receipt.status
  Call.check (refuseIf (request.requestedObservation != profile.observationId w receipt)
    "requested observation substitutes a different qualification")
  let latest ← Call.read profile.latestReceiptId
  Call.check (profile.judge w request receiptId receipt latest)

end QualificationApplicabilityProfileV1

end Nightshift.Qualification
