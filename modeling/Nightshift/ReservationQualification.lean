import Nightshift.RepositoryQualification

/-!
# Reservation realizations

NQ-qualified realizations of an evidence reservation are taken into one row a
reservation, byte for byte; a realization that differs from the row is put
beside it and the row is flagged. Every statement commits by itself. A
resolution reads the row and says whether it is presently applicable.
-/

namespace Nightshift.Qualification

open Checked Diagnostic PresentEvidence Canonical Interleave

def reservationApplicabilityProfileSchemaV1 : String :=
  "nightshift.repository-qualification-reservation-applicability-profile/v1"
def reservationApplicabilityBasisTypeV1 : String :=
  "nightshift.repository-qualification-reservation-applicability/v1"
def nqRealizationProfileSchemaV2 : String := "nq-ng.campaign-stage-realization-profile/v2"
def nqRealizationEvidenceSchemaV2 : String := "nq-ng.campaign-stage-realization-evidence/v2"
def nqRealizationReceiptSchemaV2 : String := "nq-ng.campaign-stage-realization-qualification/v2"
def realizationEvaluatorId : String := "nq-ng.campaign-stage-realization-evaluator/v2"

def realizationNonclaims : List String :=
  ["standing", "authorization", "successor choice", "continuation", "effect authority",
    "freshness or present applicability", "reservation validity outside this exact profile"]

variable (w : QualificationPlatform)

namespace ReservationApplicabilityProfileV1

def validate (profile : ReservationApplicabilityProfileV1) : Except String Unit := do
  refuseIf (profile.schema != reservationApplicabilityProfileSchemaV1)
    "unsupported reservation-applicability profile schema"
  forEach
    [("profile_id", profile.profileId), ("evidence_reservation", profile.evidenceReservation),
      ("expected_nq_profile_sha256", profile.expectedNqProfileSha256),
      ("expected_nq_evaluator_executable_sha256", profile.expectedNqEvaluatorExecutableSha256),
      ("source_campaign_id", profile.sourceCampaignId), ("subject_digest", profile.subjectDigest)]
    fun (name, value) => requireDigest name value
  forEach
    [("expected_nq_profile_id", profile.expectedNqProfileId),
      ("expected_nq_evaluator_id", profile.expectedNqEvaluatorId),
      ("expected_nq_evaluator_version", profile.expectedNqEvaluatorVersion),
      ("source_occurrence_id", profile.sourceOccurrenceId),
      ("source_attempt_id", profile.sourceAttemptId),
      ("source_settlement_id", profile.sourceSettlementId), ("resolver_id", profile.resolverId)]
    fun (name, value) => PresentEvidence.requireToken name value
  refuseIf (!w.isUuid profile.sourceOccurrenceId) "source_occurrence_id must be a UUID"
  refuseIf (profile.expectedNqEvaluatorId != realizationEvaluatorId || profile.maxAgeMs == 0 ||
      profile.profileId != w.sha256 (w.reservationProfileCanonical profile))
    "reservation-applicability profile is not the closed v1 profile"

end ReservationApplicabilityProfileV1

def NqRealizationReceiptV2.validateIntegrity (receipt : NqRealizationReceiptV2) :
    Except String Unit := do
  refuseIf (receipt.schema != nqRealizationReceiptSchemaV2)
    "unsupported NQ realization receipt schema"
  forEach
    [("receipt_sha256", receipt.receiptSha256), ("profile_sha256", receipt.profileSha256),
      ("evidence_sha256", receipt.evidenceSha256),
      ("campaign_packet_sha256", receipt.campaignPacketSha256),
      ("evidence_reservation", receipt.evidenceReservation),
      ("evaluator_executable_sha256", receipt.evaluatorExecutableSha256)]
    fun (name, value) => requireDigest name value
  refuseIf (receipt.receiptSha256 !=
      w.sha256 (w.realizationReceiptCanonical { receipt with receiptSha256 := "" }))
    "NQ realization receipt digest mismatch"
  refuseIf (receipt.doesNotEstablish != realizationNonclaims)
    "NQ realization receipt nonclaims changed"

/-! ## Tables -/

/-- `reservation_realizations`, by reservation. -/
structure RealizationRow where
  receiptId : String
  receiptSha256 : String
  status : NqQualificationStatusV1
  evaluatedAtUnixMs : Nat
  applicabilityProfileId : String
  conflict : Bool
  exactProfile : Bytes
  exactEvidence : Bytes
  exactReceipt : Bytes
  deriving DecidableEq, Repr

/-- `reservation_realization_conflicts` -/
structure ConflictRow where
  evidenceReservation : String
  receiptSha256 : String
  exactProfile : Bytes
  exactEvidence : Bytes
  exactReceipt : Bytes
  deriving DecidableEq, Repr

structure ReservationStore where
  realizations : BTreeMap String RealizationRow
  /-- In the order of insertion. -/
  conflicts : List ConflictRow

def ReservationStore.empty : ReservationStore := ⟨∅, []⟩

/-! ## Ingest -/

/-- The arguments of one `ingest`. -/
structure RealizationIngest where
  applicability : ReservationApplicabilityProfileV1
  nqProfile : JsonValue
  nqEvidence : JsonValue
  nqReceipt : JsonValue
  verifier : NqVerifier

/-- A realization that passed every check, with the bytes that are retained of it. -/
structure Realization where
  applicabilityProfileId : String
  evidenceReservation : String
  receipt : NqRealizationReceiptV2
  exactProfile : Bytes
  exactEvidence : Bytes
  exactReceipt : Bytes
  deriving DecidableEq, Repr

namespace RealizationIngest

/-- The pins of the profile, but for the running evaluator. -/
def pinned (call : RealizationIngest) (receipt : NqRealizationReceiptV2) : Bool :=
  (w.member call.nqProfile "schema").bind w.asStr == some nqRealizationProfileSchemaV2 &&
    (w.member call.nqEvidence "schema").bind w.asStr == some nqRealizationEvidenceSchemaV2 &&
    (w.member call.nqProfile "profile_id").bind w.asStr ==
      some call.applicability.expectedNqProfileId &&
    w.sha256 call.nqProfile.canonical == call.applicability.expectedNqProfileSha256 &&
    receipt.profileId == call.applicability.expectedNqProfileId &&
    receipt.profileSha256 == w.sha256 call.nqProfile.canonical &&
    receipt.evidenceSha256 == w.sha256 call.nqEvidence.canonical &&
    receipt.evidenceReservation == call.applicability.evidenceReservation &&
    receipt.evaluatorId == call.applicability.expectedNqEvaluatorId &&
    receipt.evaluatorVersion == call.applicability.expectedNqEvaluatorVersion &&
    receipt.evaluatorExecutableSha256 == call.applicability.expectedNqEvaluatorExecutableSha256

/-- Everything before the first statement. -/
def verify (call : RealizationIngest) : Except String Realization := do
  call.applicability.validate w
  let receipt ← mapErr ("invalid NQ realization receipt: " ++ ·)
    (w.readRealizationReceipt call.nqReceipt.canonical)
  receipt.validateIntegrity w
  refuseIf (!call.pinned w receipt) "reservation realization profile/evidence/evaluator mismatch"
  let executable ← call.verifier.executableSha256
  refuseIf (executable != call.applicability.expectedNqEvaluatorExecutableSha256)
    "reservation realization profile/evidence/evaluator mismatch"
  refuseIf (receipt.realizations.any
        (·.evidenceReservation != call.applicability.evidenceReservation) ||
      (receipt.status == .qualified && receipt.realizations.length != 1))
    "NQ receipt does not retain one exact qualified reservation realization"
  call.verifier.replay call.nqProfile call.nqEvidence call.nqReceipt
  .ok
    { applicabilityProfileId := call.applicability.profileId
      evidenceReservation := call.applicability.evidenceReservation
      receipt
      exactProfile := call.nqProfile.canonical
      exactEvidence := call.nqEvidence.canonical
      exactReceipt := call.nqReceipt.canonical }

end RealizationIngest

namespace Realization

def retained (realization : Realization) (conflict : Bool) : RetainedReservationRealizationV1 where
  evidenceReservation := realization.evidenceReservation
  receiptId := realization.receipt.receiptId
  receiptSha256 := realization.receipt.receiptSha256
  status := realization.receipt.status
  evaluatedAtUnixMs := realization.receipt.evaluatedAtUnixMs
  conflict

def row (realization : Realization) : RealizationRow where
  receiptId := realization.receipt.receiptId
  receiptSha256 := realization.receipt.receiptSha256
  status := realization.receipt.status
  evaluatedAtUnixMs := realization.receipt.evaluatedAtUnixMs
  applicabilityProfileId := realization.applicabilityProfileId
  conflict := false
  exactProfile := realization.exactProfile
  exactEvidence := realization.exactEvidence
  exactReceipt := realization.exactReceipt

def conflictRow (realization : Realization) : ConflictRow where
  evidenceReservation := realization.evidenceReservation
  receiptSha256 := realization.receipt.receiptSha256
  exactProfile := realization.exactProfile
  exactEvidence := realization.exactEvidence
  exactReceipt := realization.exactReceipt

/-- The row holds this very realization. -/
def heldBy (realization : Realization) (row : RealizationRow) : Bool :=
  row.receiptSha256 == realization.receipt.receiptSha256 &&
    row.exactProfile == realization.exactProfile &&
    row.exactEvidence == realization.exactEvidence && row.exactReceipt == realization.exactReceipt

/-- `INSERT INTO reservation_realizations` -/
def insertRealization (realization : Realization) (s : ReservationStore) :
    Except String (Unit × ReservationStore) := do
  refuseIf (realization.receipt.evaluatedAtUnixMs ≥ i64Bound) (w.sqlMessage .integerOutOfRange)
  refuseIf (s.realizations.contains realization.evidenceReservation)
    (w.sqlMessage .constraintViolation)
  .ok ((), { s with
    realizations := s.realizations.insert realization.evidenceReservation realization.row })

/-- `INSERT OR IGNORE INTO reservation_realization_conflicts` -/
def insertConflict (realization : Realization) (s : ReservationStore) :
    Except String (Unit × ReservationStore) :=
  if s.conflicts.any fun row => row.evidenceReservation == realization.evidenceReservation &&
      row.receiptSha256 == realization.receipt.receiptSha256 then .ok ((), s)
  else .ok ((), { s with conflicts := s.conflicts ++ [realization.conflictRow] })

/-- `UPDATE reservation_realizations SET conflict=1` -/
def setConflict (realization : Realization) (s : ReservationStore) :
    Except String (Unit × ReservationStore) :=
  .ok ((), { s with
    realizations := s.realizations.modify realization.evidenceReservation
      ({ · with conflict := true }) })

/-- The second of the two statements a conflict takes. -/
def flagConflict (realization : Realization) :
    Call ReservationStore String RetainedReservationRealizationV1 := do
  Call.commit realization.setConflict
  return realization.retained true

def retainConflict (realization : Realization) :
    Call ReservationStore String RetainedReservationRealizationV1 := do
  Call.commit realization.insertConflict
  realization.flagConflict

def retainFirst (realization : Realization) :
    Call ReservationStore String RetainedReservationRealizationV1 := do
  Call.commit (realization.insertRealization w)
  return realization.retained false

/-- What an ingest does about the row it read. -/
def behind (realization : Realization) (prior : Option RealizationRow) :
    Call ReservationStore String RetainedReservationRealizationV1 :=
  match prior with
  | some row =>
    if realization.heldBy row then return realization.retained row.conflict
    else realization.retainConflict
  | none => realization.retainFirst w

def retain (realization : Realization) :
    Call ReservationStore String RetainedReservationRealizationV1 := do
  let prior ← Call.read (·.realizations[realization.evidenceReservation]?)
  realization.behind w prior

end Realization

def RealizationIngest.ingest (call : RealizationIngest) :
    Call ReservationStore String RetainedReservationRealizationV1 := do
  let realization ← Call.check (call.verify w)
  realization.retain w

/-! ## Resolution -/

namespace ReservationApplicabilityProfileV1

/-- The request is about the exact settled predecessor of the profile. -/
def admits (profile : ReservationApplicabilityProfileV1) (request : ApplicabilityRequest) : Bool :=
  request.source.campaignId == profile.sourceCampaignId &&
    request.source.occurrenceId == profile.sourceOccurrenceId &&
    request.source.programCounter == .settledObservationRequired &&
    request.source.docketAttemptId == some profile.sourceAttemptId &&
    request.source.settlementId == some profile.sourceSettlementId &&
    request.requestedSubject == profile.subjectDigest &&
    request.requestedObservation == profile.evidenceReservation

/-- The observation a qualified realization is answered with. -/
def observe (profile : ReservationApplicabilityProfileV1) (request : ApplicabilityRequest)
    (receipt : NqRealizationReceiptV2) : Except String ReservationApplicabilityOutcomeV1 := do
  let naturalHorizon ← okOr (checkedAdd receipt.evaluatedAtUnixMs profile.maxAgeMs)
    "reservation qualification freshness horizon overflow"
  let status : AgTypedObservationStatusV1 :=
    if request.nowUnixMs ≥ naturalHorizon then .stale else .current
  let basis : AgTypedObservationBasisV1 :=
    ⟨agTypedObservationBasisSchemaV1, reservationApplicabilityBasisTypeV1,
      profile.evidenceReservation⟩
  .ok (.observation
    { schema := agObservationResolutionSchemaV3
      key := ⟨request.targetCampaignId, request.targetOccurrenceId⟩
      observation := profile.evidenceReservation
      currentness := w.sha256 (w.reservationCurrentnessCanonical
        ⟨profile.evidenceReservation, receipt.receiptSha256, receipt.realizations,
          request.source.stateDigest, request.source.snapshotDigest, status, request.nowUnixMs⟩)
      normalizedPreconditions := agHashDomain w.toCanonicalPlatform agTypedObservationBasisSchemaV1
        (w.typedBasisCanonical basis)
      basis
      resolverId := profile.resolverId
      subject := request.requestedSubject
      status
      resolvedAtUnixMs := request.nowUnixMs
      freshUntilUnixMs :=
        if status = .current then naturalHorizon else saturatingAdd request.nowUnixMs 1 })

/-- What the retained row says about a request. -/
def judge (profile : ReservationApplicabilityProfileV1) (request : ApplicabilityRequest) :
    Option RealizationRow → Except String ReservationApplicabilityOutcomeV1
  | none => .ok .absent
  | some row => do
    let receipt ← w.readRealizationReceipt row.exactReceipt
    if row.conflict || receipt.status != .qualified then
      .ok (.retainedOnly receipt.receiptId receipt.status row.conflict)
    else profile.observe w request receipt

def resolveApplicability (profile : ReservationApplicabilityProfileV1)
    (request : ApplicabilityRequest) :
    Call ReservationStore String ReservationApplicabilityOutcomeV1 := do
  Call.check (profile.validate w)
  Call.check (mapErr (·.display w.toRuntimePlatform)
    (request.source.validate w.toCanonicalPlatform))
  Call.check (requireDigest "target_campaign_id" request.targetCampaignId)
  Call.check (refuseIf (!w.isUuid request.targetOccurrenceId)
    "target_occurrence_id must be a UUID")
  Call.check (refuseIf (!profile.admits request)
    "reservation realization is not applicable to the exact settled predecessor")
  let row ← Call.read (·.realizations[profile.evidenceReservation]?)
  Call.check (profile.judge w request row)

end ReservationApplicabilityProfileV1

end Nightshift.Qualification
