import Nightshift.CanonicalHistory
import Nightshift.Lib.Register

/-!
# The external custody journal

Verified handoffs of external and of steady-state observations are taken into
two tables that nothing else writes. A handoff that binds an identity of a
retained row either is that row sent again, and gets its first receipt, or is
refused.
-/

namespace Nightshift.Canonical

open Checked Diagnostic Interleave

/-! ## What a row binds -/

inductive CustodyIdentity where
  | observation (observationId : String)
  | handoff (handoffId : String)
  | attempt (attemptId : String)
  | evidence (receipt : String)
  | occurrence (campaignId occurrenceId : String)
  deriving DecidableEq, Repr

/-- The identities an external handoff of an observation binds. -/
def externalIdentities (observation : LocalComposeWorldObservationV1) (handoffId : String) :
    List CustodyIdentity :=
  [.observation observation.observationId, .handoff handoffId, .attempt observation.attemptId,
    .evidence observation.executorEvidenceReceipt,
    .occurrence observation.campaignId observation.occurrenceId]

/-- The identities a steady-state handoff of an observation binds. -/
def steadyIdentities (observation : LocalComposeSteadyStateObservationV1) (handoffId : String) :
    List CustodyIdentity :=
  [.observation observation.observationId, .handoff handoffId,
    .evidence observation.evidenceReceipt]

def ExternalRow.identities (row : ExternalRow) : List CustodyIdentity :=
  externalIdentities row.observation row.custody.handoffId

def SteadyRow.identities (row : SteadyRow) : List CustodyIdentity :=
  steadyIdentities row.observation row.custody.handoffId

def ExternalObservationHandoffV1.identities (handoff : ExternalObservationHandoffV1) :
    List CustodyIdentity :=
  externalIdentities handoff.observation handoff.handoffId

def SteadyStateObservationHandoffV1.identities (handoff : SteadyStateObservationHandoffV1) :
    List CustodyIdentity :=
  steadyIdentities handoff.observation handoff.handoffId

def externalRegister : Register String ExternalRow CustodyIdentity where
  key := (·.observation.observationId)
  identities := ExternalRow.identities
  primary := .observation
  primary_mem := by simp [ExternalRow.identities, externalIdentities]

def steadyRegister : Register String SteadyRow CustodyIdentity where
  key := (·.observation.observationId)
  identities := SteadyRow.identities
  primary := .observation
  primary_mem := by simp [SteadyRow.identities, steadyIdentities]

/-- The handoff compares equal with the retained row, receipt time apart. -/
structure ExternalObservationHandoffV1.Resends (handoff : ExternalObservationHandoffV1)
    (row : ExternalRow) : Prop where
  observation : row.observation = handoff.observation
  handoffId : row.custody.handoffId = handoff.handoffId
  producerPrincipalId : row.custody.producerPrincipalId = handoff.producerPrincipalId
  producerKeyId : row.custody.producerKeyId = handoff.producerKeyId
  targetRuntimeId : row.custody.targetRuntimeId = handoff.targetRuntimeId

structure SteadyStateObservationHandoffV1.Resends (handoff : SteadyStateObservationHandoffV1)
    (row : SteadyRow) : Prop where
  observation : row.observation = handoff.observation
  handoffId : row.custody.handoffId = handoff.handoffId
  producerPrincipalId : row.custody.producerPrincipalId = handoff.producerPrincipalId
  producerKeyId : row.custody.producerKeyId = handoff.producerKeyId
  targetRuntimeId : row.custody.targetRuntimeId = handoff.targetRuntimeId

/-! ## Verified handoffs and their custody -/

/-- What a verifier has let through. -/
structure VerifiedExternalObservationHandoffV1 (w : CanonicalPlatform) where
  handoff : ExternalObservationHandoffV1
  observationValid : w.validateWorldObservation handoff.observation = .ok ()

structure VerifiedSteadyStateObservationHandoffV1 (w : CanonicalPlatform) where
  handoff : SteadyStateObservationHandoffV1
  observationValid : w.validateSteadyObservation handoff.observation = .ok ()

/-- `ExternalObservationCustodyProvenanceV1::validate` -/
def ExternalObservationCustodyProvenanceV1.validate (w : CanonicalPlatform)
    (custody : ExternalObservationCustodyProvenanceV1) : Except String Unit := do
  refuseIf (custody.schema != externalObservationCustodySchemaV1)
    "unsupported external-observation custody schema"
  forEach
    [("custody_id", custody.custodyId), ("handoff_id", custody.handoffId),
      ("observation_id", custody.observationId), ("campaign_id", custody.campaignId),
      ("exact_work_id", custody.exactWorkId), ("attempt_id", custody.attemptId),
      ("settlement_id", custody.settlementId),
      ("executor_evidence_receipt", custody.executorEvidenceReceipt)]
    fun (name, value) => PresentEvidence.requireDigest name value
  PresentEvidence.requireToken "occurrence_id" custody.occurrenceId
  PresentEvidence.requireToken "producer_principal_id" custody.producerPrincipalId
  PresentEvidence.requireToken "producer_key_id" custody.producerKeyId
  PresentEvidence.requireToken "target_runtime_id" custody.targetRuntimeId
  refuseIf (custody.custodyId != w.sha256 (w.externalCustodyCanonical custody))
    "external-observation custody identity mismatch"

/-- `SteadyStateObservationCustodyV1::validate` -/
def SteadyStateObservationCustodyV1.validate (w : CanonicalPlatform)
    (custody : SteadyStateObservationCustodyV1) : Except String Unit := do
  refuseIf (custody.schema != steadyStateCustodySchemaV1)
    "unsupported steady-state custody schema"
  forEach
    [("custody_id", custody.custodyId), ("handoff_id", custody.handoffId),
      ("observation_id", custody.observationId),
      ("qualification_observation_id", custody.qualificationObservationId),
      ("plan_document_digest", custody.planDocumentDigest),
      ("compilation_id", custody.compilationId), ("evidence_receipt", custody.evidenceReceipt)]
    fun (name, value) => PresentEvidence.requireDigest name value
  forEach
    [("producer_principal_id", custody.producerPrincipalId),
      ("producer_key_id", custody.producerKeyId), ("target_runtime_id", custody.targetRuntimeId)]
    fun (name, value) => PresentEvidence.requireToken name value
  refuseIf (custody.custodyId != w.sha256 (w.steadyCustodyCanonical custody))
    "steady-state custody identity mismatch"

end Nightshift.Canonical

namespace Nightshift

open Canonical Diagnostic

/-- A platform whose custody validators are the ones above: a digest has the form of one, and the
canonical form a custody id is the digest of leaves that id out. -/
structure CustodyPlatform extends CanonicalPlatform where
  sha256_isSha256Id : ∀ bytes, isSha256Id (sha256 bytes) = true
  externalCustody_validated : ∀ custody,
    validateExternalCustody custody = custody.validate toCanonicalPlatform
  externalCustody_unnamed : ∀ custody custodyId,
    externalCustodyCanonical { custody with custodyId } = externalCustodyCanonical custody
  steadyCustody_validated : ∀ custody,
    validateSteadyCustody custody = custody.validate toCanonicalPlatform
  steadyCustody_unnamed : ∀ custody custodyId,
    steadyCustodyCanonical { custody with custodyId } = steadyCustodyCanonical custody

end Nightshift

namespace Nightshift.Canonical

open Checked Diagnostic Interleave

/-! ## The custody a handoff is given -/

/-- The custody record `mint` makes before it checks it. -/
def ExternalObservationCustodyProvenanceV1.named (w : CanonicalPlatform)
    (handoff : ExternalObservationHandoffV1) (receivedAt : Instant) :
    ExternalObservationCustodyProvenanceV1 :=
  let open_ : ExternalObservationCustodyProvenanceV1 :=
    { schema := externalObservationCustodySchemaV1
      custodyId := ""
      handoffId := handoff.handoffId
      observationId := handoff.observation.observationId
      producerPrincipalId := handoff.producerPrincipalId
      producerKeyId := handoff.producerKeyId
      targetRuntimeId := handoff.targetRuntimeId
      campaignId := handoff.observation.campaignId
      occurrenceId := handoff.observation.occurrenceId
      exactWorkId := handoff.observation.exactWorkId
      attemptId := handoff.observation.attemptId
      settlementId := handoff.observation.settlementId
      executorEvidenceReceipt := handoff.observation.executorEvidenceReceipt
      receivedAt }
  { open_ with custodyId := w.sha256 (w.externalCustodyCanonical open_) }

def SteadyStateObservationCustodyV1.named (w : CanonicalPlatform)
    (handoff : SteadyStateObservationHandoffV1) (receivedAt : Instant) :
    SteadyStateObservationCustodyV1 :=
  let open_ : SteadyStateObservationCustodyV1 :=
    { schema := steadyStateCustodySchemaV1
      custodyId := ""
      handoffId := handoff.handoffId
      observationId := handoff.observation.observationId
      qualificationObservationId := handoff.observation.qualificationObservationId
      producerPrincipalId := handoff.producerPrincipalId
      producerKeyId := handoff.producerKeyId
      targetRuntimeId := handoff.targetRuntimeId
      planDocumentDigest := handoff.observation.planDocumentDigest
      compilationId := handoff.observation.compilationId
      evidenceReceipt := handoff.observation.evidenceReceipt
      receivedAt }
  { open_ with custodyId := w.sha256 (w.steadyCustodyCanonical open_) }

section Mint

variable {w : CanonicalPlatform} {receivedAt : Instant}

theorem externalMint_eq_ok {handoff : ExternalObservationHandoffV1}
    {custody : ExternalObservationCustodyProvenanceV1} :
    ExternalObservationCustodyProvenanceV1.mint w handoff receivedAt = .ok custody ↔
      custody = .named w handoff receivedAt ∧ w.validateExternalCustody custody = .ok () := by
  simp only [ExternalObservationCustodyProvenanceV1.mint, bind_eq_ok, Except.ok.injEq]
  constructor
  · rintro ⟨_, hvalid, rfl⟩
    exact ⟨rfl, hvalid⟩
  · rintro ⟨rfl, hvalid⟩
    exact ⟨(), hvalid, rfl⟩

theorem steadyMint_eq_ok {handoff : SteadyStateObservationHandoffV1}
    {custody : SteadyStateObservationCustodyV1} :
    SteadyStateObservationCustodyV1.mint w handoff receivedAt = .ok custody ↔
      custody = .named w handoff receivedAt ∧ w.validateSteadyCustody custody = .ok () := by
  simp only [SteadyStateObservationCustodyV1.mint, bind_eq_ok, Except.ok.injEq]
  constructor
  · rintro ⟨_, hvalid, rfl⟩
    exact ⟨rfl, hvalid⟩
  · rintro ⟨rfl, hvalid⟩
    exact ⟨(), hvalid, rfl⟩

end Mint

section Revalidation

variable {w : CustodyPlatform}

theorem externalNamed_identity (handoff : ExternalObservationHandoffV1) (receivedAt : Instant) :
    w.sha256 (w.externalCustodyCanonical (.named w.toCanonicalPlatform handoff receivedAt)) =
      (ExternalObservationCustodyProvenanceV1.named w.toCanonicalPlatform handoff
        receivedAt).custodyId :=
  congrArg w.sha256 (w.externalCustody_unnamed
    { ExternalObservationCustodyProvenanceV1.named w.toCanonicalPlatform handoff receivedAt with
      custodyId := "" } _)

theorem steadyNamed_identity (handoff : SteadyStateObservationHandoffV1) (receivedAt : Instant) :
    w.sha256 (w.steadyCustodyCanonical (.named w.toCanonicalPlatform handoff receivedAt)) =
      (SteadyStateObservationCustodyV1.named w.toCanonicalPlatform handoff receivedAt).custodyId :=
  congrArg w.sha256 (w.steadyCustody_unnamed
    { SteadyStateObservationCustodyV1.named w.toCanonicalPlatform handoff receivedAt with
      custodyId := "" } _)

/-- Whether a custody record is valid does not depend on the time of the receipt. -/
theorem externalNamed_valid {handoff : ExternalObservationHandoffV1} {receivedAt : Instant}
    (h : w.validateExternalCustody (.named w.toCanonicalPlatform handoff receivedAt) = .ok ())
    (receivedAt' : Instant) :
    w.validateExternalCustody (.named w.toCanonicalPlatform handoff receivedAt') = .ok () := by
  rw [w.externalCustody_validated, ExternalObservationCustodyProvenanceV1.validate,
    externalNamed_identity] at h ⊢
  simpa [ExternalObservationCustodyProvenanceV1.named, PresentEvidence.requireDigest,
    w.sha256_isSha256Id] using h

theorem steadyNamed_valid {handoff : SteadyStateObservationHandoffV1} {receivedAt : Instant}
    (h : w.validateSteadyCustody (.named w.toCanonicalPlatform handoff receivedAt) = .ok ())
    (receivedAt' : Instant) :
    w.validateSteadyCustody (.named w.toCanonicalPlatform handoff receivedAt') = .ok () := by
  rw [w.steadyCustody_validated, SteadyStateObservationCustodyV1.validate,
    steadyNamed_identity] at h ⊢
  simpa [SteadyStateObservationCustodyV1.named, PresentEvidence.requireDigest,
    w.sha256_isSha256Id] using h

end Revalidation

/-! ## The transactions as offers to a register -/

instance (handoff : ExternalObservationHandoffV1) (row : ExternalRow) :
    Decidable (handoff.Resends row) :=
  decidable_of_iff (row.observation = handoff.observation ∧
      row.custody.handoffId = handoff.handoffId ∧
      row.custody.producerPrincipalId = handoff.producerPrincipalId ∧
      row.custody.producerKeyId = handoff.producerKeyId ∧
      row.custody.targetRuntimeId = handoff.targetRuntimeId)
    ⟨fun ⟨h₁, h₂, h₃, h₄, h₅⟩ => ⟨h₁, h₂, h₃, h₄, h₅⟩, fun ⟨h₁, h₂, h₃, h₄, h₅⟩ => ⟨h₁, h₂, h₃, h₄, h₅⟩⟩

instance (handoff : SteadyStateObservationHandoffV1) (row : SteadyRow) :
    Decidable (handoff.Resends row) :=
  decidable_of_iff (row.observation = handoff.observation ∧
      row.custody.handoffId = handoff.handoffId ∧
      row.custody.producerPrincipalId = handoff.producerPrincipalId ∧
      row.custody.producerKeyId = handoff.producerKeyId ∧
      row.custody.targetRuntimeId = handoff.targetRuntimeId)
    ⟨fun ⟨h₁, h₂, h₃, h₄, h₅⟩ => ⟨h₁, h₂, h₃, h₄, h₅⟩, fun ⟨h₁, h₂, h₃, h₄, h₅⟩ => ⟨h₁, h₂, h₃, h₄, h₅⟩⟩

def ExternalRow.audit (w : CanonicalPlatform) (row : ExternalRow) :
    Except CanonicalStoreError Unit := do
  invalid (w.validateWorldObservation row.observation)
  invalid (w.validateExternalCustody row.custody)

def SteadyRow.audit (w : CanonicalPlatform) (row : SteadyRow) : Except CanonicalStoreError Unit := do
  invalid (w.validateSteadyObservation row.observation)
  invalid (w.validateSteadyCustody row.custody)

/-- The row a handoff asks for. -/
def ExternalObservationHandoffV1.row (w : CanonicalPlatform)
    (handoff : ExternalObservationHandoffV1) (receivedAt : Instant) : ExternalRow :=
  ⟨handoff.observation, .named w handoff receivedAt⟩

def SteadyStateObservationHandoffV1.row (w : CanonicalPlatform)
    (handoff : SteadyStateObservationHandoffV1) (receivedAt : Instant) : SteadyRow :=
  ⟨handoff.observation, .named w handoff receivedAt⟩

/-- The external table asked to take the row of a handoff. -/
def offerExternal (w : CanonicalPlatform) (handoff : ExternalObservationHandoffV1)
    (receivedAt : Instant) (table : BTreeMap String ExternalRow) :
    Except CanonicalStoreError (ExternalRow × BTreeMap String ExternalRow) :=
  externalRegister.offer (ExternalRow.audit w)
    (fun row => handoff.Resends row ∧
      row.custody.observationId = handoff.observation.observationId)
    (.externalObservationConflict
      "attempt, occurrence, handoff, or source receipt is already bound")
    (fun table => refuseIf ((BTreeMap.valuesOf table).any fun row =>
      row.custody.custodyId == (handoff.row w receivedAt).custody.custodyId)
      (.sql .constraintViolation))
    (handoff.row w receivedAt) table

def offerSteady (w : CanonicalPlatform) (handoff : SteadyStateObservationHandoffV1)
    (receivedAt : Instant) (table : BTreeMap String SteadyRow) :
    Except CanonicalStoreError (SteadyRow × BTreeMap String SteadyRow) :=
  steadyRegister.offer (SteadyRow.audit w) handoff.Resends
    (.externalObservationConflict
      "steady-state observation, handoff, or evidence receipt is already bound")
    (fun table => refuseIf ((BTreeMap.valuesOf table).any fun row =>
      row.custody.custodyId == (handoff.row w receivedAt).custody.custodyId)
      (.sql .constraintViolation))
    (handoff.row w receivedAt) table

section Offers

variable {w : CanonicalPlatform} {receivedAt : Instant} {s : Store}

theorem externalTransaction_eq (handoff : ExternalObservationHandoffV1) :
    externalTransaction w handoff (.named w handoff receivedAt) s =
      (fun out => (out.1.custody, { s with external := out.2 })) <$>
        offerExternal w handoff receivedAt s.external := by
  have hquery : (fun row : ExternalRow =>
      row.observation.observationId == handoff.observation.observationId ||
        row.custody.handoffId == handoff.handoffId ||
        row.observation.attemptId == handoff.observation.attemptId ||
        row.observation.executorEvidenceReceipt == handoff.observation.executorEvidenceReceipt ||
        (row.observation.campaignId == handoff.observation.campaignId &&
          row.observation.occurrenceId == handoff.observation.occurrenceId)) =
      fun row => (externalRegister.identities row).any
        (· ∈ externalRegister.identities (handoff.row w receivedAt)) := by
    funext row
    rw [Bool.eq_iff_iff]
    simp [externalRegister, ExternalRow.identities, externalIdentities,
      ExternalObservationHandoffV1.row, ExternalObservationCustodyProvenanceV1.named]
    tauto
  rw [externalTransaction, offerExternal, Register.offer, hquery]
  cases hfind : (BTreeMap.valuesOf s.external).find? fun row =>
      (externalRegister.identities row).any
        (· ∈ externalRegister.identities (handoff.row w receivedAt)) with
  | none =>
    rw [map_bind]
    rfl
  | some existing =>
    simp only [ExternalRow.audit, map_bind, bind_assoc]
    refine bind_congr fun _ => bind_congr fun _ => ?_
    by_cases hsame : handoff.Resends existing ∧
        existing.custody.observationId = handoff.observation.observationId
    · rw [if_pos hsame, if_pos ⟨hsame.1.observation, hsame.1.handoffId, hsame.2,
        hsame.1.producerPrincipalId, hsame.1.producerKeyId, hsame.1.targetRuntimeId⟩]
      rfl
    · rw [if_neg hsame, if_neg fun h => hsame
        ⟨⟨h.1, h.2.1, h.2.2.2.1, h.2.2.2.2.1, h.2.2.2.2.2⟩, h.2.2.1⟩]
      rfl

theorem steadyTransaction_eq (handoff : SteadyStateObservationHandoffV1) :
    steadyTransaction w handoff (.named w handoff receivedAt) s =
      (fun out => (out.1.custody, { s with steady := out.2 })) <$>
        offerSteady w handoff receivedAt s.steady := by
  have hquery : (fun row : SteadyRow =>
      row.observation.observationId == handoff.observation.observationId ||
        row.custody.handoffId == handoff.handoffId ||
        row.observation.evidenceReceipt == handoff.observation.evidenceReceipt) =
      fun row => (steadyRegister.identities row).any
        (· ∈ steadyRegister.identities (handoff.row w receivedAt)) := by
    funext row
    rw [Bool.eq_iff_iff]
    simp [steadyRegister, SteadyRow.identities, steadyIdentities,
      SteadyStateObservationHandoffV1.row, SteadyStateObservationCustodyV1.named]
    tauto
  rw [steadyTransaction, offerSteady, Register.offer, hquery]
  cases hfind : (BTreeMap.valuesOf s.steady).find? fun row =>
      (steadyRegister.identities row).any
        (· ∈ steadyRegister.identities (handoff.row w receivedAt)) with
  | none =>
    rw [map_bind]
    rfl
  | some existing =>
    simp only [SteadyRow.audit, map_bind, bind_assoc]
    refine bind_congr fun _ => bind_congr fun _ => ?_
    by_cases hsame : handoff.Resends existing
    · rw [if_pos hsame, if_pos ⟨hsame.observation, hsame.handoffId, hsame.producerPrincipalId,
        hsame.producerKeyId, hsame.targetRuntimeId⟩]
      rfl
    · rw [if_neg hsame, if_neg fun h => hsame ⟨h.1, h.2.1, h.2.2.1, h.2.2.2.1, h.2.2.2.2⟩]
      rfl

end Offers

/-! ## The journal -/

/-- The retained row was taken from the handoff, in time. -/
structure ExternalRow.AcceptedFrom (w : CanonicalPlatform) (row : ExternalRow)
    (handoff : ExternalObservationHandoffV1) : Prop where
  minted : row = handoff.row w row.custody.receivedAt
  timely : handoff.observation.observedAtUnixMs ≤ timestampMillis handoff.createdAt
  received : handoff.createdAt ≤ row.custody.receivedAt
  custodyValid : w.validateExternalCustody row.custody = .ok ()

structure SteadyRow.AcceptedFrom (w : CanonicalPlatform) (row : SteadyRow)
    (handoff : SteadyStateObservationHandoffV1) : Prop where
  minted : row = handoff.row w row.custody.receivedAt
  timely : handoff.observation.observedAtUnixMs ≤ timestampMillis handoff.createdAt
  received : handoff.createdAt ≤ row.custody.receivedAt
  custodyValid : w.validateSteadyCustody row.custody = .ok ()

theorem ExternalRow.AcceptedFrom.resends {w : CanonicalPlatform} {row : ExternalRow}
    {handoff : ExternalObservationHandoffV1} (h : row.AcceptedFrom w handoff) :
    handoff.Resends row := by
  rw [h.minted]
  exact ⟨rfl, rfl, rfl, rfl, rfl⟩

theorem SteadyRow.AcceptedFrom.resends {w : CanonicalPlatform} {row : SteadyRow}
    {handoff : SteadyStateObservationHandoffV1} (h : row.AcceptedFrom w handoff) :
    handoff.Resends row := by
  rw [h.minted]
  exact ⟨rfl, rfl, rfl, rfl, rfl⟩

/-- Every identity has at most one row, and every row comes from a verified handoff. -/
structure CustodyJournal (w : CanonicalPlatform) (s : Store) : Prop where
  external : externalRegister.Exclusive s.external
  steady : steadyRegister.Exclusive s.steady
  externalAccepted : ∀ row ∈ BTreeMap.valuesOf s.external,
    ∃ verified : VerifiedExternalObservationHandoffV1 w, row.AcceptedFrom w verified.handoff
  steadyAccepted : ∀ row ∈ BTreeMap.valuesOf s.steady,
    ∃ verified : VerifiedSteadyStateObservationHandoffV1 w, row.AcceptedFrom w verified.handoff

theorem CustodyJournal.empty (w : CanonicalPlatform) : CustodyJournal w Store.empty where
  external := .empty
  steady := .empty
  externalAccepted := by simp [Store.empty, BTreeMap.valuesOf]
  steadyAccepted := by simp [Store.empty, BTreeMap.valuesOf]

/-- What one action of a client does to the journal. -/
structure CustodyMove (w : CanonicalPlatform) (s s' : Store) : Prop where
  external : externalRegister.Step s.external s'.external
  steady : steadyRegister.Step s.steady s'.steady
  externalEntered : ∀ row ∈ BTreeMap.valuesOf s'.external, row ∈ BTreeMap.valuesOf s.external ∨
    ∃ verified : VerifiedExternalObservationHandoffV1 w, row.AcceptedFrom w verified.handoff
  steadyEntered : ∀ row ∈ BTreeMap.valuesOf s'.steady, row ∈ BTreeMap.valuesOf s.steady ∨
    ∃ verified : VerifiedSteadyStateObservationHandoffV1 w, row.AcceptedFrom w verified.handoff

theorem CustodyMove.refl (w : CanonicalPlatform) (s : Store) : CustodyMove w s s :=
  ⟨.stay, .stay, fun _ h => .inl h, fun _ h => .inl h⟩

theorem CustodyJournal.move {w : CanonicalPlatform} {s s' : Store} (h : CustodyJournal w s)
    (hmove : CustodyMove w s s') : CustodyJournal w s' where
  external := h.external.step hmove.external
  steady := h.steady.step hmove.steady
  externalAccepted := by
    intro row hrow
    rcases hmove.externalEntered row hrow with hold | hnew
    · exact h.externalAccepted row hold
    · exact hnew
  steadyAccepted := by
    intro row hrow
    rcases hmove.steadyEntered row hrow with hold | hnew
    · exact h.steadyAccepted row hold
    · exact hnew

/-! ## What a call answers -/

section Answers

variable {w : CanonicalPlatform} {s s' : Store} {receivedAt : Instant}

/-- A call is answered when it is in time, its receipt is valid and the table takes its row. -/
theorem run_recordExternalObservation {handoff : ExternalObservationHandoffV1}
    {out : ExternalObservationCustodyProvenanceV1} :
    (recordExternalObservation w handoff receivedAt).run s = (.ok out, s') ↔
      handoff.createdAt ≤ receivedAt ∧
      handoff.observation.observedAtUnixMs ≤ timestampMillis handoff.createdAt ∧
      w.validateExternalCustody (.named w handoff receivedAt) = .ok () ∧
      ∃ row table, offerExternal w handoff receivedAt s.external = .ok (row, table) ∧
        row.custody = out ∧ { s with external := table } = s' := by
  simp only [recordExternalObservation, Call.run_check_bind_eq_ok, refuseIf_eq_ok,
    Bool.or_eq_false_iff, decide_eq_false_iff_not, not_lt, invalid, mapErr_eq_ok,
    externalMint_eq_ok, Call.run_commit_eq_ok]
  constructor
  · rintro ⟨_, ⟨htime, hsource⟩, custody, ⟨rfl, hvalid⟩, htransaction⟩
    rw [externalTransaction_eq, map_eq_ok] at htransaction
    obtain ⟨⟨row, table⟩, hoffer, hout⟩ := htransaction
    exact ⟨htime, hsource, hvalid, row, table, hoffer, congrArg Prod.fst hout,
      congrArg Prod.snd hout⟩
  · rintro ⟨htime, hsource, hvalid, row, table, hoffer, rfl, rfl⟩
    refine ⟨(), ⟨htime, hsource⟩, _, ⟨rfl, hvalid⟩, ?_⟩
    rw [externalTransaction_eq, hoffer]
    rfl

theorem run_recordSteadyStateObservation {handoff : SteadyStateObservationHandoffV1}
    {out : SteadyStateObservationCustodyV1} :
    (recordSteadyStateObservation w handoff receivedAt).run s = (.ok out, s') ↔
      handoff.createdAt ≤ receivedAt ∧
      handoff.observation.observedAtUnixMs ≤ timestampMillis handoff.createdAt ∧
      w.validateSteadyCustody (.named w handoff receivedAt) = .ok () ∧
      ∃ row table, offerSteady w handoff receivedAt s.steady = .ok (row, table) ∧
        row.custody = out ∧ { s with steady := table } = s' := by
  simp only [recordSteadyStateObservation, Call.run_check_bind_eq_ok, refuseIf_eq_ok,
    Bool.or_eq_false_iff, decide_eq_false_iff_not, not_lt, invalid, mapErr_eq_ok,
    steadyMint_eq_ok, Call.run_commit_eq_ok]
  constructor
  · rintro ⟨_, ⟨htime, hsource⟩, custody, ⟨rfl, hvalid⟩, htransaction⟩
    rw [steadyTransaction_eq, map_eq_ok] at htransaction
    obtain ⟨⟨row, table⟩, hoffer, hout⟩ := htransaction
    exact ⟨htime, hsource, hvalid, row, table, hoffer, congrArg Prod.fst hout,
      congrArg Prod.snd hout⟩
  · rintro ⟨htime, hsource, hvalid, row, table, hoffer, rfl, rfl⟩
    refine ⟨(), ⟨htime, hsource⟩, _, ⟨rfl, hvalid⟩, ?_⟩
    rw [steadyTransaction_eq, hoffer]
    rfl

theorem move_of_offerExternal {verified : VerifiedExternalObservationHandoffV1 w} {row : ExternalRow}
    {table : BTreeMap String ExternalRow} (htime : verified.handoff.createdAt ≤ receivedAt)
    (hsource : verified.handoff.observation.observedAtUnixMs ≤
      timestampMillis verified.handoff.createdAt)
    (hvalid : w.validateExternalCustody (.named w verified.handoff receivedAt) = .ok ())
    (h : offerExternal w verified.handoff receivedAt s.external = .ok (row, table)) :
    CustodyMove w s { s with external := table } where
  external := Register.step_of_offer h
  steady := .stay
  externalEntered := by
    intro other hother
    rcases Register.offer_cases h with ⟨-, -, rfl⟩ | ⟨-, -, rfl⟩
    · exact .inl hother
    · rcases Register.mem_values_enter hother with rfl | hold
      · exact .inr ⟨verified, ⟨rfl, hsource, htime, hvalid⟩⟩
      · exact .inl hold
  steadyEntered := fun _ h => .inl h

theorem move_of_offerSteady {verified : VerifiedSteadyStateObservationHandoffV1 w} {row : SteadyRow}
    {table : BTreeMap String SteadyRow} (htime : verified.handoff.createdAt ≤ receivedAt)
    (hsource : verified.handoff.observation.observedAtUnixMs ≤
      timestampMillis verified.handoff.createdAt)
    (hvalid : w.validateSteadyCustody (.named w verified.handoff receivedAt) = .ok ())
    (h : offerSteady w verified.handoff receivedAt s.steady = .ok (row, table)) :
    CustodyMove w s { s with steady := table } where
  external := .stay
  steady := Register.step_of_offer h
  externalEntered := fun _ h => .inl h
  steadyEntered := by
    intro other hother
    rcases Register.offer_cases h with ⟨-, -, rfl⟩ | ⟨-, -, rfl⟩
    · exact .inl hother
    · rcases Register.mem_values_enter hother with rfl | hold
      · exact .inr ⟨verified, ⟨rfl, hsource, htime, hvalid⟩⟩
      · exact .inl hold

/-- An answer is the receipt of a retained row that the handoff sends again. -/
theorem externalAnswered {handoff : ExternalObservationHandoffV1}
    {out : ExternalObservationCustodyProvenanceV1} (hjournal : CustodyJournal w s)
    (h : (recordExternalObservation w handoff receivedAt).run s = (.ok out, s')) :
    ∃ row, s'.external[handoff.observation.observationId]? = some row ∧ row.custody = out ∧
      handoff.Resends row := by
  obtain ⟨-, -, -, row, table, hoffer, hout, rfl⟩ := run_recordExternalObservation.mp h
  refine ⟨row, ?_, hout, ?_⟩
  · rcases Register.offer_cases hoffer with ⟨hrow, hsame, rfl⟩ | ⟨-, rfl, rfl⟩
    · obtain ⟨k, hk⟩ := BTreeMap.mem_valuesOf.mp hrow
      have hkey : row.observation.observationId = k := hjournal.external.keyed k row hk
      rw [← hsame.1.observation, hkey]
      exact hk
    · exact Std.ExtTreeMap.getElem?_insert_self
  · rcases Register.offer_cases hoffer with ⟨-, hsame, -⟩ | ⟨-, rfl, -⟩
    · exact hsame.1
    · exact ⟨rfl, rfl, rfl, rfl, rfl⟩

theorem steadyAnswered {handoff : SteadyStateObservationHandoffV1}
    {out : SteadyStateObservationCustodyV1} (hjournal : CustodyJournal w s)
    (h : (recordSteadyStateObservation w handoff receivedAt).run s = (.ok out, s')) :
    ∃ row, s'.steady[handoff.observation.observationId]? = some row ∧ row.custody = out ∧
      handoff.Resends row := by
  obtain ⟨-, -, -, row, table, hoffer, hout, rfl⟩ := run_recordSteadyStateObservation.mp h
  refine ⟨row, ?_, hout, ?_⟩
  · rcases Register.offer_cases hoffer with ⟨hrow, hsame, rfl⟩ | ⟨-, rfl, rfl⟩
    · obtain ⟨k, hk⟩ := BTreeMap.mem_valuesOf.mp hrow
      have hkey : row.observation.observationId = k := hjournal.steady.keyed k row hk
      rw [← hsame.observation, hkey]
      exact hk
    · exact Std.ExtTreeMap.getElem?_insert_self
  · rcases Register.offer_cases hoffer with ⟨-, hsame, -⟩ | ⟨-, rfl, -⟩
    · exact hsame
    · exact ⟨rfl, rfl, rfl, rfl, rfl⟩

theorem identities_of_externalResends {handoff : ExternalObservationHandoffV1} {row : ExternalRow}
    (h : handoff.Resends row) :
    externalRegister.identities row = externalRegister.identities (handoff.row w receivedAt) := by
  simp only [externalRegister, ExternalRow.identities, ExternalObservationHandoffV1.row,
    ExternalObservationCustodyProvenanceV1.named, h.observation, h.handoffId]

theorem identities_of_steadyResends {handoff : SteadyStateObservationHandoffV1} {row : SteadyRow}
    (h : handoff.Resends row) :
    steadyRegister.identities row = steadyRegister.identities (handoff.row w receivedAt) := by
  simp only [steadyRegister, SteadyRow.identities, SteadyStateObservationHandoffV1.row,
    SteadyStateObservationCustodyV1.named, h.observation, h.handoffId]

/-- A handoff that shares an identity with a retained row and is not that row sent again. -/
theorem externalRefused {handoff : ExternalObservationHandoffV1} (hjournal : CustodyJournal w s)
    {row : ExternalRow} (hrow : row ∈ BTreeMap.valuesOf s.external)
    (hshared : ∃ id ∈ handoff.identities, id ∈ row.identities) (hother : ¬ handoff.Resends row) :
    ∃ e, (recordExternalObservation w handoff receivedAt).run s = (.error e, s) := by
  cases hrun : (recordExternalObservation w handoff receivedAt).run s with
  | mk result s' =>
    cases result with
    | error e =>
      have hatomic : Atomic (recordExternalObservation w handoff receivedAt) :=
        .bind (.check _) fun _ => .bind (.check _) fun _ => .commit _
      exact ⟨e, by rw [hatomic.run_error hrun]⟩
    | ok out =>
      obtain ⟨-, -, -, answer, table, hoffer, -⟩ := run_recordExternalObservation.mp hrun
      have hsame := Register.same_of_offer hjournal.external hrow hoffer hshared
        fun _ hsame => identities_of_externalResends hsame.1
      exact absurd hsame.1 hother

theorem steadyRefused {handoff : SteadyStateObservationHandoffV1} (hjournal : CustodyJournal w s)
    {row : SteadyRow} (hrow : row ∈ BTreeMap.valuesOf s.steady)
    (hshared : ∃ id ∈ handoff.identities, id ∈ row.identities) (hother : ¬ handoff.Resends row) :
    ∃ e, (recordSteadyStateObservation w handoff receivedAt).run s = (.error e, s) := by
  cases hrun : (recordSteadyStateObservation w handoff receivedAt).run s with
  | mk result s' =>
    cases result with
    | error e =>
      have hatomic : Atomic (recordSteadyStateObservation w handoff receivedAt) :=
        .bind (.check _) fun _ => .bind (.check _) fun _ => .commit _
      exact ⟨e, by rw [hatomic.run_error hrun]⟩
    | ok out =>
      obtain ⟨-, -, -, answer, table, hoffer, -⟩ := run_recordSteadyStateObservation.mp hrun
      have hsame := Register.same_of_offer hjournal.steady hrow hoffer hshared
        fun _ hsame => identities_of_steadyResends hsame
      exact absurd hsame hother

end Answers

section Resends

variable {w : CustodyPlatform} {s : Store} {receivedAt : Instant}

/-- A retained row sent again in time is answered with its own receipt. -/
theorem externalResent {handoff : ExternalObservationHandoffV1}
    (hjournal : CustodyJournal w.toCanonicalPlatform s) {row : ExternalRow}
    (hrow : row ∈ BTreeMap.valuesOf s.external) (hresends : handoff.Resends row)
    (htime : handoff.createdAt ≤ receivedAt)
    (hsource : handoff.observation.observedAtUnixMs ≤ timestampMillis handoff.createdAt) :
    (recordExternalObservation w.toCanonicalPlatform handoff receivedAt).run s =
      (.ok row.custody, s) := by
  obtain ⟨verified, haccepted⟩ := hjournal.externalAccepted row hrow
  have hnamed : ExternalObservationCustodyProvenanceV1.named w.toCanonicalPlatform handoff
      row.custody.receivedAt = row.custody := by
    have hobservation := hresends.observation
    have hhandoff := hresends.handoffId
    have hprincipal := hresends.producerPrincipalId
    have hkey := hresends.producerKeyId
    have hruntime := hresends.targetRuntimeId
    rw [haccepted.minted] at hobservation hhandoff hprincipal hkey hruntime ⊢
    simp only [ExternalObservationHandoffV1.row, ExternalObservationCustodyProvenanceV1.named] at *
    rw [hobservation, hhandoff, hprincipal, hkey, hruntime]
  have hvalid := externalNamed_valid (hnamed ▸ haccepted.custodyValid) receivedAt
  have hobservationId : row.custody.observationId = handoff.observation.observationId := by
    rw [← hnamed]
    rfl
  have haudit : row.audit w.toCanonicalPlatform = .ok () := by
    have hobservation : row.observation = verified.handoff.observation := by
      rw [haccepted.minted]
      rfl
    simp [ExternalRow.audit, invalid, hobservation, verified.observationValid,
      haccepted.custodyValid, mapErr]
  refine run_recordExternalObservation.mpr ⟨htime, hsource, hvalid, row, s.external, ?_, rfl, rfl⟩
  exact Register.offer_resent hjournal.external hrow (identities_of_externalResends hresends) haudit
    ⟨hresends, hobservationId⟩

theorem steadyResent {handoff : SteadyStateObservationHandoffV1}
    (hjournal : CustodyJournal w.toCanonicalPlatform s) {row : SteadyRow}
    (hrow : row ∈ BTreeMap.valuesOf s.steady) (hresends : handoff.Resends row)
    (htime : handoff.createdAt ≤ receivedAt)
    (hsource : handoff.observation.observedAtUnixMs ≤ timestampMillis handoff.createdAt) :
    (recordSteadyStateObservation w.toCanonicalPlatform handoff receivedAt).run s =
      (.ok row.custody, s) := by
  obtain ⟨verified, haccepted⟩ := hjournal.steadyAccepted row hrow
  have hnamed : SteadyStateObservationCustodyV1.named w.toCanonicalPlatform handoff
      row.custody.receivedAt = row.custody := by
    have hobservation := hresends.observation
    have hhandoff := hresends.handoffId
    have hprincipal := hresends.producerPrincipalId
    have hkey := hresends.producerKeyId
    have hruntime := hresends.targetRuntimeId
    rw [haccepted.minted] at hobservation hhandoff hprincipal hkey hruntime ⊢
    simp only [SteadyStateObservationHandoffV1.row, SteadyStateObservationCustodyV1.named] at *
    rw [hobservation, hhandoff, hprincipal, hkey, hruntime]
  have hvalid := steadyNamed_valid (hnamed ▸ haccepted.custodyValid) receivedAt
  have haudit : row.audit w.toCanonicalPlatform = .ok () := by
    have hobservation : row.observation = verified.handoff.observation := by
      rw [haccepted.minted]
      rfl
    simp [SteadyRow.audit, invalid, hobservation, verified.observationValid,
      haccepted.custodyValid, mapErr]
  refine run_recordSteadyStateObservation.mpr ⟨htime, hsource, hvalid, row, s.steady, ?_, rfl, rfl⟩
  exact Register.offer_resent hjournal.steady hrow (identities_of_steadyResends hresends) haudit
    hresends

/-- The call of the journal that takes an external handoff, answered at one store. -/
structure ExternalAnswers (w : CanonicalPlatform) (s : Store)
    (verified : VerifiedExternalObservationHandoffV1 w) (receivedAt : Instant) : Prop where
  /-- An answer is the receipt of the retained row. -/
  receipt : ∀ out s', (recordExternalObservation w verified.handoff receivedAt).run s =
    (.ok out, s') → ∃ row, s'.external[verified.handoff.observation.observationId]? = some row ∧
      row.custody = out ∧ verified.handoff.Resends row
  /-- The handoff a row was taken from is answered with the first receipt. -/
  resent : ∀ row ∈ BTreeMap.valuesOf s.external, row.AcceptedFrom w verified.handoff →
    verified.handoff.createdAt ≤ receivedAt →
    (recordExternalObservation w verified.handoff receivedAt).run s = (.ok row.custody, s)
  /-- So is any other that compares equal with the row and whose source time is in order. -/
  equal : ∀ row ∈ BTreeMap.valuesOf s.external, verified.handoff.Resends row →
    verified.handoff.createdAt ≤ receivedAt →
    verified.handoff.observation.observedAtUnixMs ≤ timestampMillis verified.handoff.createdAt →
    (recordExternalObservation w verified.handoff receivedAt).run s = (.ok row.custody, s)
  /-- Every other handoff that shares an identity is refused. -/
  refused : ∀ row ∈ BTreeMap.valuesOf s.external,
    (∃ id ∈ verified.handoff.identities, id ∈ row.identities) → ¬ verified.handoff.Resends row →
    ∃ e, (recordExternalObservation w verified.handoff receivedAt).run s = (.error e, s)

structure SteadyAnswers (w : CanonicalPlatform) (s : Store)
    (verified : VerifiedSteadyStateObservationHandoffV1 w) (receivedAt : Instant) : Prop where
  receipt : ∀ out s', (recordSteadyStateObservation w verified.handoff receivedAt).run s =
    (.ok out, s') → ∃ row, s'.steady[verified.handoff.observation.observationId]? = some row ∧
      row.custody = out ∧ verified.handoff.Resends row
  resent : ∀ row ∈ BTreeMap.valuesOf s.steady, row.AcceptedFrom w verified.handoff →
    verified.handoff.createdAt ≤ receivedAt →
    (recordSteadyStateObservation w verified.handoff receivedAt).run s = (.ok row.custody, s)
  equal : ∀ row ∈ BTreeMap.valuesOf s.steady, verified.handoff.Resends row →
    verified.handoff.createdAt ≤ receivedAt →
    verified.handoff.observation.observedAtUnixMs ≤ timestampMillis verified.handoff.createdAt →
    (recordSteadyStateObservation w verified.handoff receivedAt).run s = (.ok row.custody, s)
  refused : ∀ row ∈ BTreeMap.valuesOf s.steady,
    (∃ id ∈ verified.handoff.identities, id ∈ row.identities) → ¬ verified.handoff.Resends row →
    ∃ e, (recordSteadyStateObservation w verified.handoff receivedAt).run s = (.error e, s)

theorem externalAnswers (hjournal : CustodyJournal w.toCanonicalPlatform s)
    (verified : VerifiedExternalObservationHandoffV1 w.toCanonicalPlatform) (receivedAt : Instant) :
    ExternalAnswers w.toCanonicalPlatform s verified receivedAt where
  receipt := fun _ _ hrun => externalAnswered hjournal hrun
  resent := fun _ hrow haccepted htime =>
    externalResent hjournal hrow haccepted.resends htime haccepted.timely
  equal := fun _ hrow hresends htime hsource => externalResent hjournal hrow hresends htime hsource
  refused := fun _ hrow hshared hother => externalRefused hjournal hrow hshared hother

theorem steadyAnswers (hjournal : CustodyJournal w.toCanonicalPlatform s)
    (verified : VerifiedSteadyStateObservationHandoffV1 w.toCanonicalPlatform)
    (receivedAt : Instant) : SteadyAnswers w.toCanonicalPlatform s verified receivedAt where
  receipt := fun _ _ hrun => steadyAnswered hjournal hrun
  resent := fun _ hrow haccepted htime =>
    steadyResent hjournal hrow haccepted.resends htime haccepted.timely
  equal := fun _ hrow hresends htime hsource => steadyResent hjournal hrow hresends htime hsource
  refused := fun _ hrow hshared hother => steadyRefused hjournal hrow hshared hother

end Resends

/-! ## Clients of the journal -/

/-- What a client asks of the journal. -/
inductive CustodyRequest (w : CanonicalPlatform) where
  | external (verified : VerifiedExternalObservationHandoffV1 w) (receivedAt : Instant)
  | steady (verified : VerifiedSteadyStateObservationHandoffV1 w) (receivedAt : Instant)

/-- What the journal gives it. -/
inductive CustodyReceipt where
  | external (custody : ExternalObservationCustodyProvenanceV1)
  | steady (custody : SteadyStateObservationCustodyV1)
  deriving DecidableEq, Repr

namespace CustodyRequest

variable {w : CanonicalPlatform}

def call : CustodyRequest w → Call Store CanonicalStoreError CustodyReceipt
  | external verified receivedAt => do
    let custody ← recordExternalObservation w verified.handoff receivedAt
    pure (.external custody)
  | steady verified receivedAt => do
    let custody ← recordSteadyStateObservation w verified.handoff receivedAt
    pure (.steady custody)

theorem moves (request : CustodyRequest w) : Moves (CustodyMove w) request.call := by
  cases request with
  | external verified receivedAt =>
    refine Moves.bind ?_ fun _ => .pure _
    refine .check_bind fun _ htime => .check_bind fun custody hmint => .commit ?_
    intro s out s' h
    simp only [refuseIf_eq_ok, Bool.or_eq_false_iff, decide_eq_false_iff_not, not_lt] at htime
    obtain ⟨rfl, hvalid⟩ := externalMint_eq_ok.mp (mapErr_eq_ok.mp hmint)
    rw [externalTransaction_eq, map_eq_ok] at h
    obtain ⟨⟨row, table⟩, hoffer, hout⟩ := h
    cases hout
    exact move_of_offerExternal htime.1 htime.2 hvalid hoffer
  | steady verified receivedAt =>
    refine Moves.bind ?_ fun _ => .pure _
    refine .check_bind fun _ htime => .check_bind fun custody hmint => .commit ?_
    intro s out s' h
    simp only [refuseIf_eq_ok, Bool.or_eq_false_iff, decide_eq_false_iff_not, not_lt] at htime
    obtain ⟨rfl, hvalid⟩ := steadyMint_eq_ok.mp (mapErr_eq_ok.mp hmint)
    rw [steadyTransaction_eq, map_eq_ok] at h
    obtain ⟨⟨row, table⟩, hoffer, hout⟩ := h
    cases hout
    exact move_of_offerSteady htime.1 htime.2 hvalid hoffer

theorem single (request : CustodyRequest w) : Single request.call := by
  cases request with
  | external verified receivedAt =>
    exact .bind_pure (.check_bind fun _ => .check_bind fun _ => .commit _)
  | steady verified receivedAt =>
    exact .bind_pure (.check_bind fun _ => .check_bind fun _ => .commit _)

end CustodyRequest

/-- The runs of any number of clients of one new journal. -/
def CustodyRun (w : CanonicalPlatform) (entries : List (Entry Store))
    (pool : Pool Store CanonicalStoreError CustodyReceipt) : Prop :=
  Reached (fun _ call => ∃ request : CustodyRequest w, call = request.call) Store.empty entries pool

/-- Every client promises to move the journal only so. -/
def CustodyClients (w : CanonicalPlatform) : Nat → Store → Store → Prop := fun _ => CustodyMove w

section Runs

variable {w : CanonicalPlatform} {entries : List (Entry Store)}
  {pool : Pool Store CanonicalStoreError CustodyReceipt}

theorem CustodyRun.sound (h : CustodyRun w entries pool) :
    (∀ s ∈ states Store.empty entries, CustodyJournal w s) ∧
      (states Store.empty entries).IsChain (CustodyMove w) := by
  have hpreserve : ∀ p s s', CustodyJournal w s → CustodyClients w p s s' → CustodyJournal w s' :=
    fun _ _ _ hs hmove => hs.move hmove
  have hobeys : ∀ (p : Nat) (call : Call Store CanonicalStoreError CustodyReceipt) (s : Store),
      (∃ request : CustodyRequest w, call = request.call) → CustodyJournal w s →
      Obeys (CustodyClients w) p s call fun _ _ => True := by
    rintro p call s ⟨request, rfl⟩ hs
    have hkept : Obeys (CustodyClients w) p s request.call fun s' _ => CustodyJournal w s' :=
      .of_moves request.moves (CustodyMove.refl w) (fun _ _ _ hmove => hmove) hpreserve hs
    exact hkept.mono fun _ _ _ => trivial
  obtain ⟨-, -, hjournal, hchain, -⟩ :=
    Reached.sound (CustodyJournal.empty w) hpreserve hobeys h
  exact ⟨hjournal, hchain.imp fun _ _ ⟨_, hmove⟩ => hmove⟩

/-- From one state of a run to a later one the journal only grows. -/
theorem journal_kept {s s' : Store} (hsteps : Relation.ReflTransGen (CustodyMove w) s s')
    (hs : CustodyJournal w s) : CustodyJournal w s' ∧
      (∀ (k : String) (row : ExternalRow), s.external[k]? = some row → s'.external[k]? = some row) ∧
      ∀ (k : String) (row : SteadyRow), s.steady[k]? = some row → s'.steady[k]? = some row := by
  induction hsteps with
  | refl => exact ⟨hs, fun _ _ h => h, fun _ _ h => h⟩
  | tail _ hmove ih =>
    obtain ⟨hjournal, hexternal, hsteady⟩ := ih
    exact ⟨hjournal.move hmove,
      fun k row hrow => hjournal.external.kept hmove.external (hexternal k row hrow),
      fun k row hrow => hjournal.steady.kept hmove.steady (hsteady k row hrow)⟩

/-- A finished call acted once, and answered what it answers alone there; or it never looked. -/
theorem CustodyRun.answered (h : CustodyRun w entries pool) {p : Nat} {request : CustodyRequest w}
    {result : Except CanonicalStoreError CustodyReceipt}
    (hstarted : pool.started[p]? = some request.call)
    (hdone : pool.calls[p]? = some (.done result)) :
    (stepsOf p entries = [] ∧ ∀ s, request.call.run s = (result, s)) ∨
      ∃ s s', stepsOf p entries = [(s, s')] ∧ request.call.run s = (result, s') := by
  have hruns := Reached.runs h hstarted hdone
  have hlength := request.single _ _ hruns
  cases hsteps : stepsOf p entries with
  | nil =>
    rw [hsteps] at hruns
    exact .inl ⟨rfl, hruns.run_nil⟩
  | cons step rest =>
    rw [hsteps] at hruns hlength
    have hrest : rest = [] := List.length_eq_zero_iff.mp (by simp at hlength; exact hlength ▸ rfl)
    subst hrest
    exact .inr ⟨step.1, step.2, rfl, hruns.run_single⟩

end Runs

/-- For every interleaving of any number of clients: in every state each identity has at most one
row and each row was taken from a verified handoff; rows never change; a finished call acted once and answered there as it does alone; an answer is
the receipt of the row that binds the handoff's observation; a handoff sent again, at any time behind
its creation, is answered with the first receipt and changes nothing; and a handoff that shares an
identity with a retained row it does not resend is refused and changes nothing. -/
theorem external_custody_journal {w : CustodyPlatform} {entries : List (Entry Store)}
    {pool : Pool Store CanonicalStoreError CustodyReceipt}
    (h : CustodyRun w.toCanonicalPlatform entries pool) :
    (∀ s ∈ states Store.empty entries, CustodyJournal w.toCanonicalPlatform s) ∧
    (∀ (i j : Nat) (s s' : Store), i ≤ j → (states Store.empty entries)[i]? = some s →
      (states Store.empty entries)[j]? = some s' →
      (∀ (k : String) (row : ExternalRow), s.external[k]? = some row → s'.external[k]? = some row) ∧
      ∀ (k : String) (row : SteadyRow), s.steady[k]? = some row → s'.steady[k]? = some row) ∧
    (∀ (p : Nat) (request : CustodyRequest w.toCanonicalPlatform)
      (result : Except CanonicalStoreError CustodyReceipt), pool.started[p]? = some request.call →
      pool.calls[p]? = some (.done result) →
      (stepsOf p entries = [] ∧ ∀ s, request.call.run s = (result, s)) ∨
        ∃ s s', stepsOf p entries = [(s, s')] ∧ request.call.run s = (result, s')) ∧
    (∀ s ∈ states Store.empty entries, ∀ verified receivedAt,
      ExternalAnswers w.toCanonicalPlatform s verified receivedAt) ∧
    ∀ s ∈ states Store.empty entries, ∀ verified receivedAt,
      SteadyAnswers w.toCanonicalPlatform s verified receivedAt := by
  obtain ⟨hjournal, hchain⟩ := h.sound
  refine ⟨hjournal, ?_, ?_, ?_, ?_⟩
  · intro i j s s' hij hi hj
    exact (journal_kept (chain_between hchain hij hi hj)
      (hjournal s (List.mem_of_getElem? hi))).2
  · intro p request result hstarted hdone
    exact h.answered hstarted hdone
  · intro s hs verified receivedAt
    exact externalAnswers (hjournal s hs) verified receivedAt
  · intro s hs verified receivedAt
    exact steadyAnswers (hjournal s hs) verified receivedAt

end Nightshift.Canonical
