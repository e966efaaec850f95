import Nightshift.CanonicalBench
import Nightshift.ReservationQualification

/-!
A platform for qualification receipts: a receipt is one byte, and an NQ document
has the members that are looked up here.
-/

namespace Nightshift.QualificationBench

open Nightshift.Qualification Nightshift.Canonical Interleave CanonicalBench

/-- A string member is its UTF-8 text. -/
def texts : List ((Bytes × String) × String) :=
  [(([1], "schema"), nqRealizationProfileSchemaV2), (([1], "profile_id"), "nq-profile-1"),
    (([2], "schema"), nqRealizationEvidenceSchemaV2), (([14], "schema"), nqProfileSchemaV1),
    (([14], "profile_id"), "nq-profile-1"), (([15], "schema"), nqEvidenceSchemaV1)]

def gitObject : GitObjectBindingV1 := ⟨"sha1", "0123456789abcdef0123456789abcdef01234567"⟩

def reservation : String := digest [9]

def chain : ExactRealizationChainV2 where
  evidenceReservation := reservation
  docketAttempt := "attempt-1"
  executorPlanTemplate := "template-1"
  executorPlan := "plan-1"
  docketSettlement := "settlement-1"
  porterRunId := "porter-1"
  porterRecordSha256 := placeholderDigest
  executorReceipt := "executor-receipt-1"
  predecessorHead := gitObject
  predecessorTree := gitObject
  resultHead := gitObject
  resultTree := gitObject

/-- The receipt whose canonical form is the byte `n`. -/
def realizationReceipt (n : UInt8) (version : String) : NqRealizationReceiptV2 where
  schema := nqRealizationReceiptSchemaV2
  receiptId := "realization-" ++ toString n
  evaluatorId := realizationEvaluatorId
  evaluatorVersion := version
  evaluatorExecutableSha256 := digest [8]
  evaluatedAtUnixMs := 1000
  profileId := "nq-profile-1"
  profileSha256 := digest [1]
  evidenceId := "evidence-1"
  evidenceSha256 := digest [2]
  evidenceReservation := reservation
  campaignPacketSha256 := placeholderDigest
  stageId := "stage-1"
  repositoryId := "repository-1"
  repositoryRef := "refs/heads/main"
  realizations := [chain]
  status := .qualified
  reasons := []
  doesNotEstablish := realizationNonclaims
  receiptSha256 := digest [n]

def realizationReceipts : List NqRealizationReceiptV2 :=
  [realizationReceipt 3 "1", realizationReceipt 4 "1"]

def qualificationReceipt (n : UInt8) : NqReceiptV1 where
  schema := nqReceiptSchemaV1
  receiptId := "qualification-" ++ toString n
  evaluatorId := qualificationEvaluatorId
  evaluatorVersion := "1"
  evaluatorExecutableSha256 := digest [8]
  evaluatedAtUnixMs := 1000
  profileId := "nq-profile-1"
  profileSha256 := digest [14]
  evidenceId := "evidence-1"
  evidenceSha256 := digest [15]
  campaignPacketSha256 := placeholderDigest
  stageId := "stage-1"
  repositoryId := "repository-1"
  repositoryRef := "refs/heads/main"
  predecessorHead := gitObject
  predecessorTree := gitObject
  resultHead := gitObject
  resultTree := gitObject
  status := .qualified
  reasons := []
  doesNotEstablish := qualificationNonclaims
  receiptSha256 := digest [n]

def qualificationReceipts : List NqReceiptV1 := [qualificationReceipt 3, qualificationReceipt 4]

def platform : QualificationPlatform where
  toCanonicalPlatform :=
    { CanonicalBench.platform with
      member := fun value name => (texts.lookup (value.canonical, name)).map fun text => ⟨utf8 text⟩
      asStr := fun value => (texts.map (·.2)).find? (utf8 · == value.canonical) }
  sqlMessage := fun
    | .integerOutOfRange => "integer out of range"
    | .constraintViolation => "constraint failed"
  hmacText := fun _ _ _ => placeholderDigest
  agRequestValue := fun _ => ⟨[]⟩
  agRequestCanonical := fun _ => []
  cycleRequestCanonical := fun _ => []
  targetRequestCanonical := fun _ => []
  sessionCanonical := fun _ => []
  handoffCanonical := fun _ => []
  sessionPreimage := fun _ => []
  handoffPreimage := fun _ => []
  validateDecisionProfile := fun _ => .ok ()
  readReceipt := fun bytes => Checked.okOr
    (qualificationReceipts.find? (·.receiptSha256 == digest bytes)) "EOF while parsing a value"
  readRealizationReceipt := fun bytes => Checked.okOr
    (realizationReceipts.find? (·.receiptSha256 == digest bytes)) "EOF while parsing a value"
  receiptCanonical := fun receipt => if receipt.receiptId = "qualification-3" then [3] else [4]
  realizationReceiptCanonical := fun receipt =>
    if receipt.receiptId = "realization-3" then [3] else [4]
  typedBasisCanonical := fun _ => []
  applicabilityCanonical := fun _ => []
  qualificationObservationCanonical := fun _ => []
  qualificationCurrentnessCanonical := fun _ => []
  reservationCurrentnessCanonical := fun _ => []
  qualificationProfileCanonical := fun profile => if profile.maxAgeMs = 500 then [5] else [6]
  reservationProfileCanonical := fun profile =>
    if profile.expectedNqEvaluatorVersion = "1" then [5] else [6]

/-- The profile that pins this version of the evaluator. -/
def reservationProfile (version : String) : ReservationApplicabilityProfileV1 where
  schema := reservationApplicabilityProfileSchemaV1
  profileId := if version = "1" then digest [5] else digest [6]
  evidenceReservation := reservation
  expectedNqProfileId := "nq-profile-1"
  expectedNqProfileSha256 := digest [1]
  expectedNqEvaluatorId := realizationEvaluatorId
  expectedNqEvaluatorVersion := version
  expectedNqEvaluatorExecutableSha256 := digest [8]
  sourceCampaignId := digest [7]
  sourceOccurrenceId := "00000000-0000-4000-8000-000000000001"
  sourceAttemptId := "attempt-1"
  sourceSettlementId := "settlement-1"
  subjectDigest := digest [10]
  resolverId := "resolver-1"
  maxAgeMs := 500

def verifier : NqVerifier := ⟨.ok (digest [8]), fun _ _ _ => .ok ()⟩

def realizationIngest (n : UInt8) : RealizationIngest :=
  ⟨reservationProfile "1", ⟨[1]⟩, ⟨[2]⟩, ⟨[n]⟩, verifier⟩

def settledSource : AgOccurrenceReferenceV1 where
  schema := agReferenceSchemaV1
  campaignId := digest [7]
  occurrenceId := "00000000-0000-4000-8000-000000000001"
  stateDigest := digest [11]
  snapshotDigest := digest [12]
  programCounter := .settledObservationRequired
  docketAttemptId := some "attempt-1"
  settlementId := some "settlement-1"
  externalDecisionRequestId := none
  exactSnapshot := ⟨[12]⟩

def reservationRequest (nowUnixMs : Nat) : ApplicabilityRequest where
  source := settledSource
  targetCampaignId := digest [13]
  targetOccurrenceId := "00000000-0000-4000-8000-000000000002"
  requestedObservation := reservation
  requestedSubject := digest [10]
  nowUnixMs

/-- The profile with this window. -/
def qualificationProfile (maxAgeMs : Nat) : QualificationApplicabilityProfileV1 where
  schema := qualificationApplicabilityProfileSchemaV1
  profileId := if maxAgeMs = 500 then digest [5] else digest [6]
  expectedNqProfileId := "nq-profile-1"
  expectedNqProfileSha256 := digest [14]
  expectedNqEvaluatorId := qualificationEvaluatorId
  expectedNqEvaluatorVersion := "1"
  expectedNqEvaluatorExecutableSha256 := digest [8]
  sourceCampaignId := digest [7]
  sourceOccurrenceId := "00000000-0000-4000-8000-000000000001"
  sourceAttemptId := "attempt-1"
  sourceSettlementId := "settlement-1"
  expectedResultHead := gitObject
  expectedResultTree := gitObject
  subjectDigest := digest [10]
  resolverId := "resolver-1"
  maxAgeMs

def qualificationIngest (maxAgeMs : Nat) (n : UInt8) : QualificationIngest :=
  ⟨qualificationProfile maxAgeMs, ⟨[14]⟩, ⟨[15]⟩, ⟨[n]⟩, verifier⟩

def qualificationRequest (nowUnixMs : Nat) : ApplicabilityRequest where
  source := settledSource
  targetCampaignId := digest [13]
  targetOccurrenceId := "00000000-0000-4000-8000-000000000002"
  requestedObservation := digest []
  requestedSubject := digest [10]
  nowUnixMs

/-- Schedules of the two ingests; each reads the row, then writes. -/
def bothIngests : List (Choice ReservationStore String RetainedReservationRealizationV1) :=
  [.start ((realizationIngest 3).ingest platform), .act 0, .act 0,
    .start ((realizationIngest 4).ingest platform), .act 1]

end Nightshift.QualificationBench
