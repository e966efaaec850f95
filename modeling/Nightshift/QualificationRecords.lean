import Nightshift.RuntimeRecords

/-!
The records of NQ qualification applicability: the deployment profiles, the
receipts NQ signs over its own judgment, what AG is answered, and the platform
that serialises and reads them.
-/

namespace Nightshift.Qualification

open Canonical

structure GitObjectBindingV1 where
  objectFormat : String
  digest : String
  deriving DecidableEq, Repr

inductive NqQualificationStatusV1 where
  | qualified | failed | indeterminate
  deriving DecidableEq, Repr

/-! ## Repository qualification -/

structure QualificationApplicabilityProfileV1 where
  schema : String
  profileId : String
  expectedNqProfileId : String
  expectedNqProfileSha256 : String
  expectedNqEvaluatorId : String
  expectedNqEvaluatorVersion : String
  expectedNqEvaluatorExecutableSha256 : String
  sourceCampaignId : String
  sourceOccurrenceId : String
  sourceAttemptId : String
  sourceSettlementId : String
  expectedResultHead : GitObjectBindingV1
  expectedResultTree : GitObjectBindingV1
  subjectDigest : String
  resolverId : String
  maxAgeMs : Nat
  deriving DecidableEq, Repr

structure NqReceiptV1 where
  schema : String
  receiptId : String
  evaluatorId : String
  evaluatorVersion : String
  evaluatorExecutableSha256 : String
  evaluatedAtUnixMs : Nat
  profileId : String
  profileSha256 : String
  evidenceId : String
  evidenceSha256 : String
  campaignPacketSha256 : String
  stageId : String
  repositoryId : String
  repositoryRef : String
  predecessorHead : GitObjectBindingV1
  predecessorTree : GitObjectBindingV1
  resultHead : GitObjectBindingV1
  resultTree : GitObjectBindingV1
  status : NqQualificationStatusV1
  reasons : List JsonValue
  doesNotEstablish : List String
  receiptSha256 : String
  deriving DecidableEq, Repr

structure RetainedQualificationReceiptV1 where
  receiptId : String
  receiptSha256 : String
  status : NqQualificationStatusV1
  evaluatedAtUnixMs : Nat
  deriving DecidableEq, Repr

structure QualificationApplicabilityV1 where
  schema : String
  applicabilityProfileId : String
  nqReceiptId : String
  nqReceiptSha256 : String
  sourceCampaignId : String
  sourceOccurrenceId : String
  sourceStateDigest : String
  sourceSnapshotDigest : String
  sourceAttemptId : String
  sourceSettlementId : String
  resultHead : GitObjectBindingV1
  resultTree : GitObjectBindingV1
  subjectDigest : String
  deriving DecidableEq, Repr

/-! ## Reservation realization -/

structure ReservationApplicabilityProfileV1 where
  schema : String
  profileId : String
  evidenceReservation : String
  expectedNqProfileId : String
  expectedNqProfileSha256 : String
  expectedNqEvaluatorId : String
  expectedNqEvaluatorVersion : String
  expectedNqEvaluatorExecutableSha256 : String
  sourceCampaignId : String
  sourceOccurrenceId : String
  sourceAttemptId : String
  sourceSettlementId : String
  subjectDigest : String
  resolverId : String
  maxAgeMs : Nat
  deriving DecidableEq, Repr

structure ExactRealizationChainV2 where
  evidenceReservation : String
  docketAttempt : String
  executorPlanTemplate : String
  executorPlan : String
  docketSettlement : String
  porterRunId : String
  porterRecordSha256 : String
  executorReceipt : String
  predecessorHead : GitObjectBindingV1
  predecessorTree : GitObjectBindingV1
  resultHead : GitObjectBindingV1
  resultTree : GitObjectBindingV1
  deriving DecidableEq, Repr

structure NqRealizationReceiptV2 where
  schema : String
  receiptId : String
  evaluatorId : String
  evaluatorVersion : String
  evaluatorExecutableSha256 : String
  evaluatedAtUnixMs : Nat
  profileId : String
  profileSha256 : String
  evidenceId : String
  evidenceSha256 : String
  evidenceReservation : String
  campaignPacketSha256 : String
  stageId : String
  repositoryId : String
  repositoryRef : String
  realizations : List ExactRealizationChainV2
  status : NqQualificationStatusV1
  reasons : List JsonValue
  doesNotEstablish : List String
  receiptSha256 : String
  deriving DecidableEq, Repr

structure RetainedReservationRealizationV1 where
  evidenceReservation : String
  receiptId : String
  receiptSha256 : String
  status : NqQualificationStatusV1
  evaluatedAtUnixMs : Nat
  conflict : Bool
  deriving DecidableEq, Repr

/-! ## Answers to AG -/

structure AgOccurrenceKeyV1 where
  campaign : String
  occurrence : String
  deriving DecidableEq, Repr

structure AgTypedObservationBasisV1 where
  schema : String
  basisType : String
  basisIdentity : String
  deriving DecidableEq, Repr

inductive AgTypedObservationStatusV1 where
  | current | stale | superseded
  deriving DecidableEq, Repr

structure AgQualificationObservationResolutionV3 where
  schema : String
  key : AgOccurrenceKeyV1
  observation : String
  currentness : String
  normalizedPreconditions : String
  basis : AgTypedObservationBasisV1
  resolverId : String
  subject : String
  status : AgTypedObservationStatusV1
  resolvedAtUnixMs : Nat
  freshUntilUnixMs : Nat
  deriving DecidableEq, Repr

inductive QualificationApplicabilityOutcomeV1 where
  | observation (resolution : AgQualificationObservationResolutionV3)
  | retainedOnly (receiptId : String) (status : NqQualificationStatusV1)
  deriving DecidableEq, Repr

inductive ReservationApplicabilityOutcomeV1 where
  | observation (resolution : AgQualificationObservationResolutionV3)
  | retainedOnly (receiptId : String) (status : NqQualificationStatusV1) (conflict : Bool)
  | absent
  deriving DecidableEq, Repr

/-- One resolution as AG asks for it; the receipt is named for a repository qualification only. -/
structure ApplicabilityRequest where
  source : AgOccurrenceReferenceV1
  targetCampaignId : String
  targetOccurrenceId : String
  requestedObservation : String
  requestedSubject : String
  nowUnixMs : Nat
  deriving DecidableEq, Repr

/-- `QualificationReceiptVerifierV1` and `ReservationQualificationVerifierV1`: the `nq` program of
one call. -/
structure NqVerifier where
  executableSha256 : Except String String
  replay : (profile evidence receipt : JsonValue) → Except String Unit

/-- The document a repository qualification is identified by. -/
structure QualificationObservationV1 where
  applicabilityProfile : String
  receipt : String
  subject : String
  deriving DecidableEq, Repr

/-- The document a currentness verdict is identified by. -/
structure QualificationCurrentnessV1 where
  receipt : String
  sourceState : String
  sourceSnapshot : String
  status : AgTypedObservationStatusV1
  resolvedAtUnixMs : Nat
  deriving DecidableEq, Repr

structure ReservationCurrentnessV1 where
  reservation : String
  receipt : String
  realizations : List ExactRealizationChainV2
  sourceState : String
  sourceSnapshot : String
  status : AgTypedObservationStatusV1
  resolvedAtUnixMs : Nat
  deriving DecidableEq, Repr

end Nightshift.Qualification

namespace Nightshift

open Canonical Qualification

structure QualificationPlatform extends RuntimePlatform where
  /-- `serde_json` reading a receipt out of its canonical text. -/
  readReceipt : Bytes → Except String NqReceiptV1
  readRealizationReceipt : Bytes → Except String NqRealizationReceiptV2
  /-- `serde_jcs::to_vec` -/
  receiptCanonical : NqReceiptV1 → Bytes
  realizationReceiptCanonical : NqRealizationReceiptV2 → Bytes
  typedBasisCanonical : AgTypedObservationBasisV1 → Bytes
  applicabilityCanonical : QualificationApplicabilityV1 → Bytes
  qualificationObservationCanonical : QualificationObservationV1 → Bytes
  qualificationCurrentnessCanonical : QualificationCurrentnessV1 → Bytes
  reservationCurrentnessCanonical : ReservationCurrentnessV1 → Bytes
  /-- `serde_jcs::to_vec` after the identity member was removed. -/
  qualificationProfileCanonical : QualificationApplicabilityProfileV1 → Bytes
  reservationProfileCanonical : ReservationApplicabilityProfileV1 → Bytes

end Nightshift
