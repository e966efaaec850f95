import Nightshift.AgSynchronization
import Nightshift.PostureClean

/-!
# Observations the store records

The record a claimed cycle assembles takes its version from the parts that are
there; the store derives the parts again from the version. The two agree. What
qualified the delivered artifacts is the cover of these artifacts, what composed
the outside evidence is the composition of this observation, and a posture is
current only on current support.
-/

namespace Interleave.Runs

/-- A sequence that ended well ended well in both parts. -/
theorem bind_eq_ok {σ ε α β : Type} {call : Call σ ε α} {f : α → Call σ ε β}
    {steps : List (σ × σ)} {b : β} (h : Runs (call >>= f) steps (.ok b)) :
    ∃ a, (∃ before, Runs call before (.ok a)) ∧ ∃ after, Runs (f a) after (.ok b) := by
  rcases h.of_bind with ⟨e, -, hresult⟩ | ⟨a, before, after, hfirst, hsecond, -⟩
  · cases hresult
  · exact ⟨a, ⟨before, hfirst⟩, after, hsecond⟩

theorem check_eq_ok {σ ε α : Type} {result : Except ε α} {steps : List (σ × σ)} {a : α}
    (h : Runs (Call.check result) steps (.ok a)) : result = .ok a :=
  h.of_done.2.symm

theorem pure_eq_ok {σ ε α : Type} {steps : List (σ × σ)} {a b : α}
    (h : Runs (pure a : Call σ ε α) steps (.ok b)) : b = a := by
  cases h.of_done.2
  rfl

end Interleave.Runs

namespace Nightshift.Canonical

open Checked Diagnostic PresentEvidence Interleave

/-! ## Continuity verdicts -/

def continuityApplicabilitySchemaV1 : String := "nightshift.continuity_applicability.v1"

namespace ContinuityApplicabilityV1

variable (w : CanonicalPlatform) (canonical : ContinuityApplicabilityV1 → Bytes)

def validate (verdict : ContinuityApplicabilityV1) : Except String Unit := do
  refuseIf (verdict.schema != continuityApplicabilitySchemaV1)
    "unsupported continuity applicability schema"
  requireDigest "applicability_id" verdict.applicabilityId
  requireDigest "diagnostic_artifact_id" verdict.diagnosticArtifactId
  forEach
    [("continuity subject_ref", verdict.subjectRef),
      ("continuity predecessor_ref", verdict.predecessorRef),
      ("continuity successor_ref", verdict.successorRef),
      ("continuity acquisition_id", verdict.acquisitionId),
      ("continuity provider_intake_ref", verdict.providerIntakeRef)]
    fun (name, value) => PresentEvidence.requireToken name value
  refuseIf (verdict.applicabilityId != w.sha256 (canonical verdict))
    "continuity applicability identity mismatch"

/-- `ContinuityApplicabilityV1::new` -/
def mint (proof : ContinuityAcquisitionProofV1) (diagnosticArtifactId providerIntakeRef : String)
    (status : ContinuityApplicabilityStatusV1) (reason : ContinuityApplicabilityReasonV1) :
    Except String ContinuityApplicabilityV1 := do
  let open_ : ContinuityApplicabilityV1 :=
    { schema := continuityApplicabilitySchemaV1
      applicabilityId := ""
      status, reason, diagnosticArtifactId
      subjectRef := proof.carrier.edge.subjectRef
      relation := proof.carrier.edge.relation
      predecessorRef := proof.carrier.edge.predecessorRef
      successorRef := proof.carrier.edge.successorRef
      authorityOccurrenceRef := proof.carrier.authorityOccurrenceRef
      commitmentOccurrenceRef := proof.carrier.commitmentOccurrenceRef
      acquisitionId := proof.acquisitionId
      providerIntakeRef }
  let verdict := { open_ with applicabilityId := w.sha256 (canonical open_) }
  verdict.validate w canonical
  .ok verdict

variable {w canonical}

theorem mint_eq_ok {proof : ContinuityAcquisitionProofV1} {artifactId intakeRef : String}
    {status : ContinuityApplicabilityStatusV1} {reason : ContinuityApplicabilityReasonV1}
    {verdict : ContinuityApplicabilityV1}
    (h : mint w canonical proof artifactId intakeRef status reason = .ok verdict) :
    verdict.validate w canonical = .ok () ∧ verdict =
      { schema := continuityApplicabilitySchemaV1
        applicabilityId := verdict.applicabilityId
        status, reason
        diagnosticArtifactId := artifactId
        subjectRef := proof.carrier.edge.subjectRef
        relation := proof.carrier.edge.relation
        predecessorRef := proof.carrier.edge.predecessorRef
        successorRef := proof.carrier.edge.successorRef
        authorityOccurrenceRef := proof.carrier.authorityOccurrenceRef
        commitmentOccurrenceRef := proof.carrier.commitmentOccurrenceRef
        acquisitionId := proof.acquisitionId
        providerIntakeRef := intakeRef } := by
  simp only [mint, bind_eq_ok, Except.ok.injEq] at h
  obtain ⟨_, hvalid, rfl⟩ := h
  exact ⟨hvalid, rfl⟩

end ContinuityApplicabilityV1

namespace ContinuityAuthorityVerifierV1

/-- The status and reason of the verdict, in the order the verifier decides them. -/
def judge (proof : ContinuityAcquisitionProofV1) (bindsAcquisition : Bool)
    (diagnosticSubjectRef diagnosticProviderIntakeRef : String)
    (establishedPredecessorRef establishedSubstrateRef : Option String) :
    ContinuityApplicabilityStatusV1 × ContinuityApplicabilityReasonV1 :=
  if proof.carrier.edge.subjectRef != diagnosticSubjectRef then (.refused, .subjectMismatch)
  else if proof.intakeId != diagnosticProviderIntakeRef then (.refused, .intakeMismatch)
  else if !bindsAcquisition then (.refused, .acquisitionBindingMismatch)
  else match establishedPredecessorRef, establishedSubstrateRef with
  | some predecessorRef, some substrateRef =>
    if predecessorRef != proof.carrier.edge.predecessorRef then (.refused, .edgeMismatch)
    else if substrateRef != proof.carrier.edge.successorRef then
      (.refused, .observationSubstrateMismatch)
    else (.applicable, .exactAuthenticatedPrerequisite)
  | _, _ => (.unresolved, .observationSubstrateAbsent)

/-- An applicable verdict is about the subject and the intake of its proof. -/
theorem judge_applicable {proof : ContinuityAcquisitionProofV1} {bindsAcquisition : Bool}
    {subjectRef intakeRef : String} {predecessorRef substrateRef : Option String}
    (h : (judge proof bindsAcquisition subjectRef intakeRef predecessorRef substrateRef).1 =
      .applicable) : proof.intakeId = intakeRef := by
  unfold judge at h
  split at h
  · cases h
  · split at h
    · cases h
    · rename_i hintake
      simpa using hintake

end ContinuityAuthorityVerifierV1

/-- What the platform's continuity authority is: its proofs are checked by a signature test, its
verdicts are minted as here, and its caller may have established the predecessor and the substrate
of the observation independently. -/
structure ContinuityOffice (w : CanonicalPlatform) where
  /-- `serde_jcs::to_vec` after the identity member was removed. -/
  canonical : ContinuityApplicabilityV1 → Bytes
  /-- `verify_proof` -/
  verifyProof : ContinuityAuthorityVerifierV1 → ContinuityAcquisitionProofV1 → Except String Unit
  /-- The commitment names the acquisition and the digest of its basis. -/
  bindsAcquisition : ContinuityAcquisitionProofV1 → Bool
  validates : ∀ verdict, w.validateContinuityApplicability verdict = verdict.validate w canonical
  evaluates : ∀ verifier proof artifactId subjectRef intakeRef, ∃ predecessorRef substrateRef,
    w.evaluateContinuity verifier proof artifactId subjectRef intakeRef = do
      verifyProof verifier proof
      let (status, reason) := ContinuityAuthorityVerifierV1.judge proof (bindsAcquisition proof)
        subjectRef intakeRef predecessorRef substrateRef
      ContinuityApplicabilityV1.mint w canonical proof artifactId intakeRef status reason

/-- What the composition of decision-relative evidence checks last and takes over unchanged. -/
structure DecisionOffice (w : CanonicalPlatform) : Prop where
  composes : ∀ reference profile qualification custody steady steadyCustody admittedAt campaignId
    occurrenceId subjectId subjectDigest scopeDigest composition,
    w.composeDecision reference profile qualification custody steady steadyCustody admittedAt
      campaignId occurrenceId subjectId subjectDigest scopeDigest = .ok composition →
    w.validateDecisionComposition composition = .ok () ∧ composition.subjectId = subjectId ∧
      composition.scopeDigest = scopeDigest ∧ composition.admittedAt = admittedAt

/-! ## What qualified the artifacts covers them -/

section Cover

variable {w : CanonicalPlatform}

/-- An applicable continuity verdict is the verdict on its proof. -/
theorem checkContinuity_of_evaluate (office : ContinuityOffice w)
    {verifier : ContinuityAuthorityVerifierV1} {proof : ContinuityAcquisitionProofV1}
    {artifactId subjectRef intakeRef : String} {verdict : ContinuityApplicabilityV1}
    (h : w.evaluateContinuity verifier proof artifactId subjectRef intakeRef = .ok verdict)
    (happlicable : verdict.status = .applicable) :
    checkContinuity w (artifactId, proof) verdict = .ok () ∧ proof.intakeId = intakeRef := by
  obtain ⟨predecessorRef, substrateRef, hevaluates⟩ :=
    office.evaluates verifier proof artifactId subjectRef intakeRef
  rw [hevaluates] at h
  generalize hjudge : ContinuityAuthorityVerifierV1.judge proof (office.bindsAcquisition proof)
    subjectRef intakeRef predecessorRef substrateRef = judged at h
  obtain ⟨status, reason⟩ := judged
  obtain ⟨_, -, hminted⟩ := bind_eq_ok.mp h
  obtain ⟨hvalid, hverdict⟩ := ContinuityApplicabilityV1.mint_eq_ok hminted
  have hstatus : verdict.status = status := congrArg ContinuityApplicabilityV1.status hverdict
  obtain rfl : status = .applicable := hstatus.symm.trans happlicable
  have hintake := ContinuityAuthorityVerifierV1.judge_applicable (congrArg Prod.fst hjudge)
  refine ⟨?_, hintake⟩
  simp only [checkContinuity, office.validates, hvalid, ok_bind, refuseIf_eq_ok]
  rw [hverdict]
  simp [hintake]

theorem mint_origin_eq_ok {requirement : SubstrateOriginRequirementV1}
    {proof : SubstrateOriginAcquisitionProofV1} {artifactId intakeRef : String}
    {predecessor : Option SubstrateOriginApplicabilityV1}
    {status : SubstrateOriginApplicabilityStatusV1} {reason : SubstrateOriginApplicabilityReasonV1}
    {verdict : SubstrateOriginApplicabilityV1}
    (h : SubstrateOriginApplicabilityV1.mint w requirement proof artifactId intakeRef predecessor
      status reason = .ok verdict) :
    verdict.validate w = .ok () ∧ verdict =
      { schema := originApplicabilitySchemaV1
        applicabilityId := verdict.applicabilityId
        status, reason
        profileId := requirement.profileId
        diagnosticArtifactId := artifactId
        subjectRef := requirement.subjectRef
        predecessorApplicabilityId := predecessor.map (·.applicabilityId)
        predecessorCoordinateRef := predecessor.map (·.observedCoordinateRef)
        observedCoordinateRef := proof.coordinateRef
        attestationOccurrenceRef := proof.attestationOccurrenceRef
        acquisitionId := proof.acquisitionId
        providerIntakeRef := intakeRef
        authorityOccurrenceRef := proof.continuityCarrier.map (·.authorityOccurrenceRef) } := by
  simp only [SubstrateOriginApplicabilityV1.mint, bind_eq_ok, Except.ok.injEq] at h
  obtain ⟨_, hvalid, rfl⟩ := h
  exact ⟨hvalid, rfl⟩

/-- An applicable origin verdict is about the required subject and the intake of its proof. -/
theorem judge_origin_applicable {verifier : SubstrateOriginVerifierV1}
    {proof : SubstrateOriginAcquisitionProofV1} {subjectRef intakeRef : String}
    {predecessor : Option SubstrateOriginApplicabilityV1}
    {continuityVerifier : Option ContinuityAuthorityVerifierV1}
    {reason : SubstrateOriginApplicabilityReasonV1}
    (h : verifier.judge w proof subjectRef intakeRef predecessor continuityVerifier =
      .ok (.applicable, reason)) :
    proof.subjectRef = verifier.requirement.subjectRef ∧ proof.intakeId = intakeRef := by
  unfold SubstrateOriginVerifierV1.judge at h
  split at h
  · cases h
  · rename_i hsubject
    split at h
    · cases h
    · rename_i hintake
      simp only [Bool.or_eq_true, bne_iff_ne, ne_eq, not_or, not_not] at hsubject hintake
      exact ⟨hsubject.2, hintake⟩

/-- An applicable origin verdict is the verdict on its proof. -/
theorem checkOrigin_of_evaluate {verifier : SubstrateOriginVerifierV1}
    {proof : SubstrateOriginAcquisitionProofV1} {artifactId subjectRef intakeRef : String}
    {predecessor : Option SubstrateOriginApplicabilityV1}
    {continuityVerifier : Option ContinuityAuthorityVerifierV1}
    {verdict : SubstrateOriginApplicabilityV1}
    (h : verifier.evaluate w proof artifactId subjectRef intakeRef predecessor continuityVerifier =
      .ok verdict) (happlicable : verdict.status = .applicable) :
    checkOrigin w (artifactId, proof) verdict = .ok () ∧ proof.intakeId = intakeRef := by
  simp only [SubstrateOriginVerifierV1.evaluate, bind_eq_ok] at h
  obtain ⟨_, -, _, -, ⟨status, reason⟩, hjudge, hminted⟩ := h
  obtain ⟨hvalid, hverdict⟩ := mint_origin_eq_ok hminted
  have hstatus : verdict.status = status := congrArg SubstrateOriginApplicabilityV1.status hverdict
  obtain rfl : status = .applicable := hstatus.symm.trans happlicable
  obtain ⟨hsubject, hintake⟩ := judge_origin_applicable hjudge
  refine ⟨?_, hintake⟩
  simp only [checkOrigin, hvalid, ok_bind, refuseIf_eq_ok]
  rw [hverdict]
  simp [hsubject, hintake]

theorem soleIntake_eq_ok {artifact : DiagnosticExecution} {message intake : String}
    (h : soleIntake artifact message = .ok intake) : artifact.providerIntakeIds = [intake] := by
  unfold soleIntake at h
  split at h
  · rename_i hsole
    cases h
    exact hsole
  · cases h

/-- An accepted answer names the artifact that was asked for. -/
theorem artifactId_of_validateAnswer {provenance : NqAdmissionProvenance}
    {query : NqAdmissionQueryV1} (h : provenance.validateAnswer w query = .ok ()) :
    provenance.validate w = .ok () ∧ provenance.validateQueryBinding query = .ok () ∧
      provenance.artifactId = query.artifactId := by
  simp only [NqAdmissionProvenance.validateAnswer, bind_eq_ok] at h
  obtain ⟨_, -, _, hvalid, hbinding⟩ := h
  refine ⟨hvalid, hbinding, ?_⟩
  cases provenance with
  | v1 value =>
    simp only [NqAdmissionProvenance.validateQueryBinding, bind_eq_ok, refuseIf_eq_ok,
      NqAdmissionProvenanceV1.bindsQuery, Bool.not_eq_false', Bool.and_eq_true, beq_iff_eq]
      at hbinding
    exact hbinding.choose_spec.1.1.1.1.1.1.2
  | v2 value continuity =>
    simp only [NqAdmissionProvenance.validateQueryBinding, refuseIf_eq_ok, Bool.or_eq_false_iff,
      NqAdmissionProvenanceV1.bindsQuery, Bool.not_eq_false', Bool.and_eq_true, beq_iff_eq]
      at hbinding
    exact hbinding.1.1.1.1.1.1.2
  | v3 value origin =>
    simp only [NqAdmissionProvenance.validateQueryBinding, refuseIf_eq_ok, Bool.or_eq_false_iff,
      NqAdmissionProvenanceV1.bindsQuery, Bool.not_eq_false', Bool.and_eq_true, beq_iff_eq]
      at hbinding
    exact hbinding.1.1.1.1.1.1.2

/-- The verdicts go with the proofs among the answers, in their order. -/
structure Covering (w : CanonicalPlatform) (items : List (NqAdmissionQueryV1 × DiagnosticExecution))
    (answers : List NqAdmissionProvenance) (continuity : List ContinuityApplicabilityV1)
    (origins : List SubstrateOriginApplicabilityV1) : Prop where
  answered : List.Forall₂ (fun item answer =>
    checkCovered w (item.1.artifactId, item) answer = .ok ()) items answers
  continuity : List.Forall₂ (fun item verdict => checkContinuity w item verdict = .ok ())
    (continuityProofs answers) continuity
  origins : List.Forall₂ (fun item verdict => checkOrigin w item verdict = .ok ())
    (originProofs answers) origins

theorem Covering.nil : Covering w [] [] [] [] := ⟨.nil, .nil, .nil⟩

theorem Covering.append {items items' : List (NqAdmissionQueryV1 × DiagnosticExecution)}
    {answers answers' : List NqAdmissionProvenance}
    {continuity continuity' : List ContinuityApplicabilityV1}
    {origins origins' : List SubstrateOriginApplicabilityV1}
    (h : Covering w items answers continuity origins)
    (h' : Covering w items' answers' continuity' origins') :
    Covering w (items ++ items') (answers ++ answers') (continuity ++ continuity')
      (origins ++ origins') where
  answered := List.rel_append h.answered h'.answered
  continuity := by
    rw [continuityProofs, List.filterMap_append]
    exact List.rel_append h.continuity h'.continuity
  origins := by
    rw [originProofs, List.filterMap_append]
    exact List.rel_append h.origins h'.origins

variable {port : NqAdmissionPortV1} {history : BTreeMap String SubstrateOriginApplicabilityV1}

/-- One answered query adds its answer, and the verdict on its proof if it carries one. -/
theorem qualifyOne_eq_ok (office : ContinuityOffice w) {qualified qualified' : QualifiedNqAdmissionsV1}
    {query : NqAdmissionQueryV1} {artifact : DiagnosticExecution}
    (h : qualifyOne w port history qualified query artifact = .ok qualified') :
    ∃ answer continuity origins, qualified' =
      ⟨qualified.provenance ++ [answer], qualified.continuity ++ continuity,
        qualified.substrateOrigins ++ origins⟩ ∧
      Covering w [(query, artifact)] [answer] continuity origins := by
  simp only [qualifyOne, bind_eq_ok] at h
  obtain ⟨answer, -, h⟩ := h
  cases answer with
  | v1 value =>
    simp only [bind_eq_ok, Except.ok.injEq] at h
    obtain ⟨_, hanswer, _, -, rfl⟩ := h
    obtain ⟨-, -, hid⟩ := artifactId_of_validateAnswer hanswer
    refine ⟨.v1 value, [], [], by simp, ?_, .nil, .nil⟩
    refine .cons ?_ .nil
    simp [checkCovered, hid, hanswer, refuseIf]
  | v2 value proof =>
    simp only [bind_eq_ok, refuseIf_eq_ok, bne_eq_false_iff_eq, Except.ok.injEq] at h
    obtain ⟨_, -, verifier, -, _, hanswer, intake, hintake, verdict, hverdict, _, happlicable, rfl⟩ := h
    obtain ⟨hvalid, hbinding, hid⟩ := artifactId_of_validateAnswer hanswer
    obtain ⟨hchecked, hsame⟩ := checkContinuity_of_evaluate office hverdict happlicable
    have hsole := soleIntake_eq_ok hintake
    refine ⟨.v2 value proof, [verdict], [], by simp, ?_, .cons hchecked .nil, .nil⟩
    refine .cons ?_ .nil
    simp [checkCovered, hid, hvalid, hbinding, refuseIf, hsole, hsame]
  | v3 value proof =>
    simp only [bind_eq_ok, refuseIf_eq_ok, bne_eq_false_iff_eq, Except.ok.injEq] at h
    obtain ⟨verifier, -, _, hanswer, intake, hintake, verdict, hverdict, _, happlicable, rfl⟩ := h
    obtain ⟨hvalid, hbinding, hid⟩ := artifactId_of_validateAnswer hanswer
    obtain ⟨hchecked, hsame⟩ := checkOrigin_of_evaluate hverdict happlicable
    have hsole := soleIntake_eq_ok hintake
    refine ⟨.v3 value proof, [], [verdict], by simp, ?_, .nil, .cons hchecked .nil⟩
    refine .cons ?_ .nil
    simp [checkCovered, hid, hvalid, hbinding, refuseIf, hsole, hsame]

theorem foldlM_qualifyOne (office : ContinuityOffice w)
    {items : List (NqAdmissionQueryV1 × DiagnosticExecution)}
    {qualified qualified' : QualifiedNqAdmissionsV1}
    (h : items.foldlM (fun q item => qualifyOne w port history q item.1 item.2) qualified =
      .ok qualified') :
    ∃ answers continuity origins, qualified' =
      ⟨qualified.provenance ++ answers, qualified.continuity ++ continuity,
        qualified.substrateOrigins ++ origins⟩ ∧
      Covering w items answers continuity origins := by
  induction items generalizing qualified with
  | nil =>
    obtain rfl := foldlM_nil_eq_ok.mp h
    exact ⟨[], [], [], by simp, .nil⟩
  | cons item rest ih =>
    obtain ⟨next, hfirst, hrest⟩ := foldlM_cons_eq_ok.mp h
    obtain ⟨answer, continuity, origins, rfl, hone⟩ := qualifyOne_eq_ok office hfirst
    obtain ⟨answers, continuities, origins', rfl, hothers⟩ := ih hrest
    exact ⟨answer :: answers, continuity ++ continuities, origins ++ origins', by simp,
      hone.append hothers⟩

/-- The asked queries are the expected admissions, each under the identity of its artifact. -/
theorem expectedAdmissions_of_queries {inputs : DiagnosticInputs}
    {queries : BTreeMap String (NqAdmissionQueryV1 × DiagnosticExecution)}
    (h : admissionQueries w inputs = .ok queries) :
    expectedAdmissions w inputs = .ok queries ∧
      ∀ entry ∈ queries.toList, entry.1 = entry.2.1.artifactId := by
  constructor
  · refine foldlM_mono (fun queries artifact _ queries' hstep => ?_) h
    simp only [bind_eq_ok] at hstep ⊢
    obtain ⟨query, hquery, _, -, hinserted⟩ := hstep
    exact ⟨query, hquery, hinserted⟩
  · have hkeyed : ∀ (k : String) item, queries[k]? = some item → k = item.1.artifactId := by
      refine foldlM_invariant
        (fun queries : BTreeMap String (NqAdmissionQueryV1 × DiagnosticExecution) =>
          ∀ (k : String) item, queries[k]? = some item → k = item.1.artifactId) ?_ ?_ h
      · intro k item hitem
        simp at hitem
      · intro queries artifact queries' _ hkeyed hstep k item hitem
        simp only [bind_eq_ok, Except.ok.injEq] at hstep
        obtain ⟨query, -, _, -, rfl⟩ := hstep
        rw [Std.ExtTreeMap.getElem?_insert] at hitem
        split at hitem
        · rename_i hkey
          cases hitem
          exact (Std.LawfulEqOrd.compare_eq_iff_eq.mp hkey).symm
        · exact hkeyed k item hitem
    intro entry hentry
    exact hkeyed _ _ (Std.ExtTreeMap.mem_toList_iff_getElem?_eq_some.mp hentry)

theorem forEach_zip {α β ε : Type} {xs : List α} {ys : List β} {check : α × β → Except ε Unit}
    (h : List.Forall₂ (fun x y => check (x, y) = .ok ()) xs ys) :
    forEach (xs.zip ys) check = .ok () :=
  forEach_eq_ok.mpr fun _ hpair => (List.forall₂_iff_zip.mp h).2 hpair

/-- What qualified the delivered inputs is their cover. -/
theorem validateAdmissionCover_of_qualify (office : ContinuityOffice w) {inputs : DiagnosticInputs}
    {qualified : QualifiedNqAdmissionsV1}
    (h : qualifyDeliveredInputsWithOriginHistory w port inputs history = .ok qualified) :
    validateAdmissionCover w inputs qualified.provenance qualified.continuity
      qualified.substrateOrigins = .ok () := by
  simp only [qualifyDeliveredInputsWithOriginHistory, bind_eq_ok] at h
  obtain ⟨queries, hqueries, h⟩ := h
  obtain ⟨answers, continuity, origins, rfl, hcovering⟩ := foldlM_qualifyOne office h
  obtain ⟨hexpected, hkeyed⟩ := expectedAdmissions_of_queries hqueries
  have hanswered : List.Forall₂ (fun entry answer => checkCovered w entry answer = .ok ())
      queries.toList answers := by
    have hvalues := hcovering.answered
    rw [BTreeMap.valuesOf, List.forall₂_map_left_iff] at hvalues
    refine List.forall₂_iff_zip.mpr ⟨hvalues.length_eq, fun {entry answer} hpair => ?_⟩
    have hentry := hkeyed entry (List.of_mem_zip hpair).1
    have hchecked := (List.forall₂_iff_zip.mp hvalues).2 hpair
    rwa [← hentry] at hchecked
  have hsize : queries.size = answers.length := by
    rw [← Std.ExtTreeMap.length_toList]
    exact hanswered.length_eq
  simp only [validateAdmissionCover, hexpected, ok_bind, List.nil_append]
  rw [forEach_zip hanswered,
    forEach_zip hcovering.continuity,
    forEach_zip hcovering.origins]
  simp [refuseIf, hsize, hcovering.continuity.length_eq, hcovering.origins.length_eq]

/-- An origin verdict that was qualified is applicable. -/
theorem origins_applicable (office : ContinuityOffice w) {inputs : DiagnosticInputs}
    {qualified : QualifiedNqAdmissionsV1}
    (h : qualifyDeliveredInputsWithOriginHistory w port inputs history = .ok qualified) :
    ∀ verdict ∈ qualified.substrateOrigins, verdict.status = .applicable := by
  simp only [qualifyDeliveredInputsWithOriginHistory, bind_eq_ok] at h
  obtain ⟨queries, -, h⟩ := h
  obtain ⟨answers, continuity, origins, rfl, hcovering⟩ := foldlM_qualifyOne office h
  obtain ⟨hlength, hchecked⟩ := List.forall₂_iff_get.mp hcovering.origins
  intro verdict hverdict
  obtain ⟨i, hi, rfl⟩ := List.mem_iff_getElem.mp hverdict
  have hchecked := hchecked i (hlength ▸ hi) hi
  simp only [checkOrigin, bind_eq_ok, refuseIf_eq_ok, Bool.or_eq_false_iff,
    bne_eq_false_iff_eq] at hchecked
  obtain ⟨_, -, hbound⟩ := hchecked
  exact hbound.1.1.1.1.1.1.2

end Cover

/-! ## A posture is current on current support -/

section Posture

variable {w : DiagnosticPlatform} {support : QualifiedSupportV1}

theorem standing_of_deliveredVerdict {entry : InventoryEntry} {evaluatedAt : Instant}
    {artifact : DiagnosticExecution} {verdict : Verdict}
    (h : deliveredVerdict w entry evaluatedAt artifact (some support) = .ok verdict)
    (hcurrent : verdict.standing = .current) : support.standing = .current := by
  simp only [deliveredVerdict, bind_eq_ok] at h
  obtain ⟨_, -, _, -, _, -, _, -, h⟩ := h
  obtain rfl := Except.ok.inj h
  unfold supportVerdict at hcurrent
  cases hstanding : support.standing <;> simp only [hstanding] at hcurrent <;>
    first | rfl | cases hcurrent

/-- With an authority's support at hand, only current support makes an assessment current. -/
theorem standing_of_assessEntry {entry : InventoryEntry} {evaluatedAt : Instant}
    {inputs : List DiagnosticInput}
    (h : (assessEntry w entry evaluatedAt inputs (some support)).standing = .current) :
    support.standing = .current := by
  unfold assessEntry at h
  split at h
  · cases h
  · split at h
    · cases h
    · split at h
      · unfold assessDelivered at h
        rename_i artifact _
        cases hverdict : deliveredVerdict w entry evaluatedAt artifact (some support) with
        | error verdict =>
          simp only [hverdict] at h
          exact absurd h (deliveredVerdict_error hverdict)
        | ok verdict =>
          simp only [hverdict] at h
          exact standing_of_deliveredVerdict hverdict h
      all_goals cases h
    · cases h

variable {policy : PosturePolicy} {inputs : DiagnosticInputs} {recurrence : RecurrenceEvidence}
  {evaluatedAt : Instant} {posture : OperationalPosture}

/-- A complete posture established its mandatory entries, and there is one. -/
theorem standing_of_complete {u : Unit} (hpolicy : policy.validate w = .ok u)
    (h : completenessOf (assessmentsOf w policy inputs evaluatedAt (some support)) = .complete) :
    support.standing = .current := by
  simp only [PosturePolicy.validate, bind_eq_ok, refuseIf_eq_ok, Bool.not_eq_false',
    List.any_eq_true] at hpolicy
  obtain ⟨_, -, _, -, _, -, _, -, _, -, _, -, _, ⟨entry, hentry, hmandatory⟩, -⟩ := hpolicy
  have hestablished : (mandatoryOf (assessmentsOf w policy inputs evaluatedAt (some support))).all
      artifactEstablished = true := by
    unfold completenessOf at h
    split at h
    · assumption
    · cases h
  have hassessed := List.all_eq_true.mp hestablished
    (assessEntry w entry evaluatedAt inputs.inputs (some support)) (by
      refine List.mem_filter.mpr ⟨List.mem_map_of_mem hentry, ?_⟩
      rwa [assessEntry_requirement])
  simp only [artifactEstablished, Bool.and_eq_true, beq_iff_eq] at hassessed
  exact standing_of_assessEntry hassessed.1

/-- What an evaluated posture retains of its evaluation. -/
theorem evaluatePostureWithSupport_eq_ok
    (h : evaluatePostureWithSupport w policy inputs recurrence evaluatedAt support = .ok posture) :
    posture.policy = policy ∧ posture.inputEvidence = inputs ∧
      posture.presentSupport = some support ∧ posture.evaluatedAt = w.toRfc3339 evaluatedAt ∧
      support.validateShape w = .ok () ∧
      posture.current = (support.standing == .current && posture.completeness == .complete &&
        posture.coverage == .complete && posture.recurrenceAxis == .current) := by
  simp only [evaluatePostureWithSupport, evaluatePostureInternal, bind_eq_ok,
    Except.ok.injEq] at h
  obtain ⟨_, hshape, _, -, _, hpolicy, _, -, _, -, rfl⟩ := h
  refine ⟨rfl, rfl, rfl, rfl, hshape, ?_⟩
  simp only [OperationalPosture.sealIdentity]
  cases hcomplete : completenessOf (assessmentsOf w policy inputs evaluatedAt (some support)) with
  | complete => simp [standing_of_complete hpolicy hcomplete]
  | incomplete =>
    have hdiffers : (CompletenessAxis.incomplete == CompletenessAxis.complete) = false := rfl
    simp [hdiffers]

end Posture

/-! ## One cycle up to its record -/

/-- What `run_cycle_inner` has in hand when it assembles the record of a claimed cycle: each part is
the answer of its own call, whatever other processes did between the calls, and the support was
accepted for the query. -/
structure Observing (w : RuntimePlatform) (runtime : CanonicalRuntime) (draws : Draws)
    (request : CanonicalCycleRequestV1) where
  external : Option ComposedExternalEvidenceV1
  decision : Option ComposedDecisionRelativeEvidenceV1
  qualified : QualifiedNqAdmissionsV1
  claimed : ObservationCycleV1
  lease : LiveCycleLeaseV1
  query : PresentEvidenceQueryV1
  support : QualifiedSupportV1
  posture : OperationalPosture
  accepted : request.validate w = .ok ()
  composed : ∃ steps, Runs (composeExternalEvidence w runtime request) steps (.ok external)
  decided : ∃ steps, Runs (composeDecisionExternalEvidence w runtime request) steps (.ok decision)
  qualifies : ∃ steps, Runs (qualifySources w runtime request) steps (.ok qualified)
  claims : ∃ steps, Runs (claimSlot w.toCanonicalPlatform draws.cycleUuid draws.processNonce
    request.slot request.schedulerClockId request.evaluatedAt) steps (.ok (claimed, lease))
  asked : (supportQuery draws request claimed.cycleId).sealQuery w.toDiagnosticPlatform = .ok query
  answered : runtime.presentEvidence query = .ok support
  supported : support.validateFor w.toDiagnosticPlatform query = .ok ()
  evaluated : evaluatePostureWithSupport w.toDiagnosticPlatform request.policy request.inputs
    request.recurrence request.evaluatedAt support = .ok posture

namespace Observing

variable {w : RuntimePlatform} {runtime : CanonicalRuntime} {draws : Draws}
  {request : CanonicalCycleRequestV1}

/-- The record of the cycle. -/
def record (o : Observing w runtime draws request) : ObservationRecordV1 :=
  observationRecord request o.qualified o.external o.decision o.support o.posture

end Observing

section Parts

variable {w : RuntimePlatform} {runtime : CanonicalRuntime} {draws : Draws}
  {request : CanonicalCycleRequestV1} {steps : List (World × World)}

theorem runs_refusing_eq_ok {α : Type} {result : Except String α} {a : α}
    (h : Runs (refusing result) steps (.ok a)) : result = .ok a :=
  mapErr_eq_ok.mp h.check_eq_ok

/-- A composition as the record's validator wants it. -/
structure Binds (request : CanonicalCycleRequestV1) (subjectId scopeDigest : String)
    (admittedAt : Instant) (observationId : Except String String) : Prop where
  observation : observationId = .ok request.observationId
  subject : subjectId = request.policy.subject.id
  scope : scopeDigest = request.policy.subject.scope.digest
  admitted : admittedAt = request.evaluatedAt

theorem compose_eq_ok {w : CanonicalPlatform} {reference : ExternalEvidenceReferenceV1}
    {profile : ExternalEvidenceProfileV1} {observation : LocalComposeWorldObservationV1}
    {custody : ExternalObservationCustodyProvenanceV1} {admittedAt : Instant}
    {campaignId occurrenceId subjectId subjectDigest scopeDigest : String}
    {composition : ComposedExternalEvidenceV1}
    (h : ComposedExternalEvidenceV1.compose w reference profile observation custody admittedAt
      campaignId occurrenceId subjectId subjectDigest scopeDigest = .ok composition) :
    composition.validate w = .ok () ∧ composition.subjectId = subjectId ∧
      composition.scopeDigest = scopeDigest ∧ composition.admittedAt = admittedAt := by
  simp only [ComposedExternalEvidenceV1.compose, bind_eq_ok, Except.ok.injEq] at h
  obtain ⟨_, -, _, -, _, -, _, -, _, -, _, -, _, -, _, -, _, -, _, -, _, -, _, -, _, -, _, -, _, -,
    _, -, _, hvalid, rfl⟩ := h
  exact ⟨hvalid, rfl, rfl, rfl⟩

theorem composeFrom_eq_ok {profile : ExternalEvidenceProfileV1}
    {reference : ExternalEvidenceReferenceV1} {row : ExternalRow}
    {composition : ComposedExternalEvidenceV1}
    (h : Runs (composeFrom w profile request reference) steps (.ok (row, composition))) :
    composition.validate w.toCanonicalPlatform = .ok () ∧
      Binds request composition.subjectId composition.scopeDigest composition.admittedAt
        (composition.canonicalObservationId w.toCanonicalPlatform) := by
  obtain ⟨_, -, _, h⟩ := Runs.bind_eq_ok h
  obtain ⟨_, -, _, h⟩ := Runs.bind_eq_ok h
  obtain ⟨row', -, _, h⟩ := Runs.bind_eq_ok h
  obtain ⟨proposal, -, _, h⟩ := Runs.bind_eq_ok h
  obtain ⟨_, -, _, h⟩ := Runs.bind_eq_ok h
  obtain ⟨composition', ⟨_, hcomposed⟩, _, h⟩ := Runs.bind_eq_ok h
  obtain ⟨_, -, _, h⟩ := Runs.bind_eq_ok h
  obtain ⟨_, -, _, h⟩ := Runs.bind_eq_ok h
  obtain ⟨_, -, _, h⟩ := Runs.bind_eq_ok h
  obtain ⟨observationId, ⟨_, hid⟩, _, h⟩ := Runs.bind_eq_ok h
  obtain ⟨_, ⟨_, hsame⟩, _, h⟩ := Runs.bind_eq_ok h
  cases Runs.pure_eq_ok h
  obtain ⟨hvalid, hsubject, hscope, hadmitted⟩ := compose_eq_ok (runs_refusing_eq_ok hcomposed)
  have hid := runs_refusing_eq_ok hid
  have hsame := runs_refusing_eq_ok hsame
  simp only [refuseIf_eq_ok, bne_eq_false_iff_eq] at hsame
  exact ⟨hvalid, hid.trans (by rw [hsame]), hsubject, hscope, hadmitted⟩

/-- Outside evidence is composed exactly for the requests that refer to it. -/
theorem composeExternalEvidence_eq_ok {external : Option ComposedExternalEvidenceV1}
    (h : Runs (composeExternalEvidence w runtime request) steps (.ok external)) :
    external.isSome = request.externalEvidence.isSome ∧ ∀ composition, external = some composition →
      composition.validate w.toCanonicalPlatform = .ok () ∧
        Binds request composition.subjectId composition.scopeDigest composition.admittedAt
          (composition.canonicalObservationId w.toCanonicalPlatform) := by
  unfold composeExternalEvidence at h
  cases hreference : request.externalEvidence with
  | none =>
    rw [hreference] at h
    obtain rfl := h.pure_eq_ok
    simp
  | some reference =>
    rw [hreference] at h
    obtain ⟨profile, -, _, h⟩ := h.bind_eq_ok
    obtain ⟨⟨row, composition⟩, ⟨_, hcomposed⟩, _, h⟩ := h.bind_eq_ok
    obtain ⟨_, -, _, h⟩ := h.bind_eq_ok
    obtain ⟨_, -, _, h⟩ := h.bind_eq_ok
    obtain rfl := h.pure_eq_ok
    refine ⟨rfl, fun other hother => ?_⟩
    cases hother
    exact composeFrom_eq_ok hcomposed

theorem composeDecisionFrom_eq_ok (office : DecisionOffice w.toCanonicalPlatform)
    {profile : SteadyStateEvidenceProfileV1} {reference : DecisionRelativeEvidenceReferenceV1}
    {composition : ComposedDecisionRelativeEvidenceV1}
    (h : Runs (composeDecisionFrom w runtime profile request reference) steps (.ok composition)) :
    w.validateDecisionComposition composition = .ok () ∧
      Binds request composition.subjectId composition.scopeDigest composition.admittedAt
        (w.decisionObservationId composition) := by
  obtain ⟨_, -, _, h⟩ := h.bind_eq_ok
  obtain ⟨_, -, _, h⟩ := h.bind_eq_ok
  obtain ⟨qualification, -, _, h⟩ := h.bind_eq_ok
  obtain ⟨proposal, -, _, h⟩ := h.bind_eq_ok
  obtain ⟨_, -, _, h⟩ := h.bind_eq_ok
  obtain ⟨_, -, _, h⟩ := h.bind_eq_ok
  obtain ⟨steady, -, _, h⟩ := h.bind_eq_ok
  obtain ⟨composition', ⟨_, hcomposed⟩, _, h⟩ := h.bind_eq_ok
  obtain ⟨_, -, _, h⟩ := h.bind_eq_ok
  obtain ⟨_, -, _, h⟩ := h.bind_eq_ok
  obtain ⟨_, -, _, h⟩ := h.bind_eq_ok
  obtain ⟨_, -, _, h⟩ := h.bind_eq_ok
  obtain ⟨observationId, ⟨_, hid⟩, _, h⟩ := h.bind_eq_ok
  obtain ⟨_, ⟨_, hsame⟩, _, h⟩ := h.bind_eq_ok
  obtain ⟨_, -, _, h⟩ := h.bind_eq_ok
  obtain ⟨_, -, _, h⟩ := h.bind_eq_ok
  cases h.pure_eq_ok
  obtain ⟨hvalid, hsubject, hscope, hadmitted⟩ :=
    office.composes _ _ _ _ _ _ _ _ _ _ _ _ _ (runs_refusing_eq_ok hcomposed)
  have hid := runs_refusing_eq_ok hid
  have hsame := runs_refusing_eq_ok hsame
  simp only [refuseIf_eq_ok, bne_eq_false_iff_eq] at hsame
  exact ⟨hvalid, hid.trans (by rw [hsame]), hsubject, hscope, hadmitted⟩

/-- Decision-relative evidence is composed exactly for the requests that refer to it. -/
theorem composeDecisionExternalEvidence_eq_ok (office : DecisionOffice w.toCanonicalPlatform)
    {decision : Option ComposedDecisionRelativeEvidenceV1}
    (h : Runs (composeDecisionExternalEvidence w runtime request) steps (.ok decision)) :
    decision.isSome = request.decisionExternalEvidence.isSome ∧
      ∀ composition, decision = some composition →
        w.validateDecisionComposition composition = .ok () ∧
          Binds request composition.subjectId composition.scopeDigest composition.admittedAt
            (w.decisionObservationId composition) := by
  unfold composeDecisionExternalEvidence at h
  cases hreference : request.decisionExternalEvidence with
  | none =>
    rw [hreference] at h
    obtain rfl := h.pure_eq_ok
    simp
  | some reference =>
    rw [hreference] at h
    obtain ⟨profile, -, _, h⟩ := h.bind_eq_ok
    obtain ⟨composition, ⟨_, hcomposed⟩, _, h⟩ := h.bind_eq_ok
    obtain rfl := h.pure_eq_ok
    refine ⟨rfl, fun other hother => ?_⟩
    cases hother
    exact composeDecisionFrom_eq_ok office hcomposed

/-- The sources are qualified against some origin history of the policy subject. -/
theorem qualifySources_eq_ok {qualified : QualifiedNqAdmissionsV1}
    (h : Runs (qualifySources w runtime request) steps (.ok qualified)) :
    ∃ history, qualifyDeliveredInputsWithOriginHistory w.toCanonicalPlatform runtime.nqAdmission
      request.inputs history = .ok qualified := by
  obtain ⟨head, -, _, h⟩ := h.bind_eq_ok
  exact ⟨_, mapErr_eq_ok.mp h.check_eq_ok⟩

/-- A lease is a lease of the claimed cycle. -/
theorem lease_of_claimSlot {w : CanonicalPlatform} {uuid clock : String} {processNonce : Nat}
    {slot : RecurrenceSlotV1} {now : Instant} {claimed : ObservationCycleV1}
    {lease : LiveCycleLeaseV1} {steps : List (Store × Store)}
    (h : Runs (claimSlot w uuid processNonce slot clock now) steps (.ok (claimed, lease))) :
    lease.cycleId = claimed.cycleId := by
  obtain ⟨_, -, _, h⟩ := h.bind_eq_ok
  obtain ⟨_, -, _, h⟩ := h.bind_eq_ok
  obtain ⟨_, -, _, h⟩ := h.bind_eq_ok
  obtain ⟨_, -, _, h⟩ := h.bind_eq_ok
  cases h.pure_eq_ok
  rfl

/-- An accepted request refers to at most one kind of outside evidence, and names its observation
by a digest. -/
theorem validate_request_eq_ok {u : Unit} (h : request.validate w = .ok u) :
    requireDigest "observation_id" request.observationId = .ok () ∧
      (request.decisionExternalEvidence.isSome → request.externalEvidence.isSome = false) := by
  simp only [CanonicalCycleRequestV1.validate, bind_eq_ok, forEach_eq_ok] at h
  obtain ⟨_, -, _, -, _, hid, _, -, _, -, _, -, _, -, _, -, _, -, _, hdecision, -⟩ := h
  refine ⟨hid, fun hsome => ?_⟩
  obtain ⟨reference, hreference⟩ := Option.isSome_iff_exists.mp hsome
  have hreferred := hdecision reference (by simp [hreference])
  simp only [CanonicalCycleRequestV1.checkDecisionReference, bind_eq_ok,
    refuseIf_eq_ok] at hreferred
  obtain ⟨_, -, _, hsole, -⟩ := hreferred
  exact hsole

theorem sealQuery_eq_ok {w : DiagnosticPlatform} {open_ query : PresentEvidenceQueryV1}
    (h : open_.sealQuery w = .ok query) : query.observationCycleId = open_.observationCycleId ∧
      query.observationId = open_.observationId ∧
      query.diagnosticInputsId = open_.diagnosticInputsId := by
  simp only [PresentEvidenceQueryV1.sealQuery, bind_eq_ok, Except.ok.injEq] at h
  obtain ⟨_, -, rfl⟩ := h
  exact ⟨rfl, rfl, rfl⟩

end Parts

/-! ## The record is valid -/

namespace ObservationRecordV1

variable {w : CanonicalPlatform} {record : ObservationRecordV1}

/-- A record whose parts are all in order, whatever version it has. -/
structure PartsValid (w : CanonicalPlatform) (record : ObservationRecordV1) : Prop where
  cover : record.checkCover w = .ok ()
  applicable : ∀ verdict ∈ record.substrateOriginApplicability, verdict.status = .applicable
  external : ∀ composition ∈ record.externalEvidence, record.checkExternal w composition = .ok ()
  decision : ∀ composition ∈ record.decisionExternalEvidence, ∀ message,
    record.checkDecision w composition message = .ok ()
  sole : record.decisionExternalEvidence.isSome → record.externalEvidence.isSome = false

/-- The version that goes with the parts that are there. -/
def versionOf (record : ObservationRecordV1) : String :=
  if !record.substrateOriginApplicability.isEmpty then observationRecordSchemaV6
  else if !record.continuityApplicability.isEmpty then observationRecordSchemaV5
  else if record.decisionExternalEvidence.isSome then observationRecordSchemaV4
  else if record.externalEvidence.isSome then observationRecordSchemaV3
  else observationRecordSchemaV2

theorem PartsValid.checkEither (h : PartsValid w record) (decisionMessage bothMessage : String) :
    record.checkEither w decisionMessage bothMessage = .ok () := by
  unfold ObservationRecordV1.checkEither
  cases hexternal : record.externalEvidence with
  | none =>
    cases hdecision : record.decisionExternalEvidence with
    | none => rfl
    | some decision => exact h.decision decision hdecision decisionMessage
  | some external =>
    cases hdecision : record.decisionExternalEvidence with
    | none => exact h.external external hexternal
    | some decision =>
      have hsole := h.sole (by simp [hdecision])
      simp [hexternal] at hsole

theorem PartsValid.any_not_applicable (h : PartsValid w record) :
    record.substrateOriginApplicability.any (·.status != .applicable) = false := by
  refine List.any_eq_false.mpr fun verdict hverdict => ?_
  simp [h.applicable verdict hverdict]

/-- Valid parts are admissible in the version that goes with them. -/
theorem PartsValid.checkSchema (h : PartsValid w record) (hversion : record.schema = record.versionOf) :
    record.checkSchema w = .ok () := by
  have hcover := h.cover
  have heither := h.checkEither
  have happlicable := h.any_not_applicable
  unfold ObservationRecordV1.checkSchema
  rw [hversion, versionOf]
  cases horigins : record.substrateOriginApplicability.isEmpty with
  | false =>
    simp [observationRecordSchemaV1, observationRecordSchemaV2, observationRecordSchemaV3,
      observationRecordSchemaV4, observationRecordSchemaV5, observationRecordSchemaV6, refuseIf,
      hcover, heither, happlicable]
  | true =>
    cases hcontinuity : record.continuityApplicability.isEmpty with
    | false =>
      simp [observationRecordSchemaV1, observationRecordSchemaV2, observationRecordSchemaV3,
        observationRecordSchemaV4, observationRecordSchemaV5, refuseIf, hcover, heither]
    | true =>
      cases hdecision : record.decisionExternalEvidence with
      | some decision =>
        have hchecked := h.decision decision hdecision
        have hsole := h.sole (by simp [hdecision])
        simp [observationRecordSchemaV1, observationRecordSchemaV2, observationRecordSchemaV3,
          observationRecordSchemaV4, refuseIf, hcover, hsole, okOr, hchecked]
      | none =>
        cases hexternal : record.externalEvidence with
        | some external =>
          have hchecked := h.external external hexternal
          simp [observationRecordSchemaV1, observationRecordSchemaV2, observationRecordSchemaV3,
            refuseIf, hcover, okOr, hchecked]
        | none =>
          simp [observationRecordSchemaV1, observationRecordSchemaV2, refuseIf, hcover]

end ObservationRecordV1

namespace Observing

variable {w : RuntimePlatform} {runtime : CanonicalRuntime} {draws : Draws}
  {request : CanonicalCycleRequestV1}

theorem parts_valid (continuity : ContinuityOffice w.toCanonicalPlatform)
    (decisions : DecisionOffice w.toCanonicalPlatform) (o : Observing w runtime draws request) :
    o.record.PartsValid w.toCanonicalPlatform := by
  obtain ⟨hpolicy, hinputs, -, htime, -, -⟩ := evaluatePostureWithSupport_eq_ok o.evaluated
  obtain ⟨_, hqualifies⟩ := o.qualifies
  obtain ⟨history, hqualified⟩ := qualifySources_eq_ok hqualifies
  obtain ⟨_, hcomposed⟩ := o.composed
  obtain ⟨hexternal, hbinds⟩ := composeExternalEvidence_eq_ok hcomposed
  obtain ⟨_, hdecided⟩ := o.decided
  obtain ⟨hdecision, hbindsDecision⟩ := composeDecisionExternalEvidence_eq_ok decisions hdecided
  obtain ⟨-, hsole⟩ := validate_request_eq_ok o.accepted
  constructor
  case cover =>
    have hcover := validateAdmissionCover_of_qualify continuity hqualified
    rw [← hinputs] at hcover
    exact mapErr_eq_ok.mpr hcover
  case applicable => exact origins_applicable continuity hqualified
  case external =>
    intro composition hcomposition
    obtain ⟨hvalid, hbound⟩ := hbinds composition hcomposition
    simp only [ObservationRecordV1.checkExternal, invalid, hvalid, hbound.observation, mapErr,
      ok_bind, ObservationRecordV1.checkComposition, refuseIf_eq_ok]
    simp [record, observationRecord, hpolicy, htime, hbound.subject, hbound.scope, hbound.admitted]
  case decision =>
    intro composition hcomposition message
    obtain ⟨hvalid, hbound⟩ := hbindsDecision composition hcomposition
    simp only [ObservationRecordV1.checkDecision, invalid, hvalid, hbound.observation, mapErr,
      ok_bind, ObservationRecordV1.checkComposition, refuseIf_eq_ok]
    simp [record, observationRecord, hpolicy, htime, hbound.subject, hbound.scope, hbound.admitted]
  case sole =>
    intro hsome
    have hreferred := hsole (hdecision ▸ hsome)
    exact hexternal.trans hreferred

/-- The support answers the query of the claimed cycle on the inputs of the posture. -/
theorem support_bound (o : Observing w runtime draws request) :
    o.support.observationCycleId = o.lease.cycleId ∧
      o.support.observationId = request.observationId ∧
      o.support.diagnosticInputsId = request.inputs.inputsId := by
  obtain ⟨_, hclaims⟩ := o.claims
  have hlease := lease_of_claimSlot hclaims
  obtain ⟨hcycle, hobservation, hinputs⟩ := sealQuery_eq_ok o.asked
  have hsupported := o.supported
  simp only [QualifiedSupportV1.validateFor, bind_eq_ok, refuseIf_eq_ok, Bool.or_eq_false_iff,
    bne_eq_false_iff_eq] at hsupported
  obtain ⟨_, -, _, -, _, ⟨⟨⟨⟨⟨⟨⟨-, hcycle'⟩, -⟩, hobservation'⟩, hinputs'⟩, -⟩, -⟩, -⟩, -⟩ := hsupported
  exact ⟨hcycle'.trans (hcycle.trans hlease.symm), hobservation'.trans hobservation,
    hinputs'.trans hinputs⟩

theorem record_valid (continuity : ContinuityOffice w.toCanonicalPlatform)
    (decisions : DecisionOffice w.toCanonicalPlatform) (o : Observing w runtime draws request) :
    o.record.validateForCycle w.toCanonicalPlatform o.lease.cycleId = .ok () := by
  obtain ⟨-, hinputs, hsupport, -, hshape, hcurrent⟩ := evaluatePostureWithSupport_eq_ok o.evaluated
  obtain ⟨hcycle, hobservation, hinputsId⟩ := o.support_bound
  obtain ⟨hdigest, -⟩ := validate_request_eq_ok o.accepted
  have hschema := (o.parts_valid continuity decisions).checkSchema rfl
  have hid : requireDigest "observation_id" o.record.observationId = .ok () := hdigest
  have hvalid : o.record.support.validateShape w.toDiagnosticPlatform = .ok () := hshape
  simp only [ObservationRecordV1.validateForCycle, hschema, hid, hvalid, invalid, mapErr, ok_bind,
    bind_eq_ok, refuseIf_eq_ok, exists_const]
  constructor
  · simp [record, observationRecord, hcycle, hobservation, hinputsId, hinputs, hsupport]
  · simp [record, observationRecord, hcurrent]

end Observing

/-- The record a claimed cycle assembles passes its validation, in every version and under every
interleaving with other processes, so recording it goes on to the transition of the cycle at once
but for the sources of its composition. -/
theorem observation_is_recordable {w : RuntimePlatform}
    (continuity : ContinuityOffice w.toCanonicalPlatform)
    (decisions : DecisionOffice w.toCanonicalPlatform) {runtime : CanonicalRuntime} {draws : Draws}
    {request : CanonicalCycleRequestV1} (o : Observing w runtime draws request) :
    o.record.validateForCycle w.toCanonicalPlatform o.lease.cycleId = .ok () ∧
      ∀ expectedDigest temporal now,
        recordObservation w.toCanonicalPlatform o.lease expectedDigest o.record
          (attentionFor o.record temporal) temporal now =
        (do
          Call.forEach o.record.externalEvidence.toList
            (validateExternalCompositionSource w.toCanonicalPlatform)
          transition w.toCanonicalPlatform o.lease.cycleId (some o.lease) expectedDigest
            "observation_recorded" now
            (Mutate.recordObservation o.record (attentionFor o.record temporal) temporal)) := by
  have hvalid := o.record_valid continuity decisions
  refine ⟨hvalid, fun expectedDigest temporal now => ?_⟩
  have hattention : refuseIf ((attentionFor o.record temporal).sourcePostureId !=
      o.record.posture.postureId)
      (CanonicalStoreError.invalid "attention record does not bind the exact posture") = .ok () := by
    simp [attentionFor, refuseIf]
  unfold recordObservation
  rw [hvalid, hattention]
  rfl

end Nightshift.Canonical

/-! ## One observation on the bench -/

namespace Nightshift.ObservationBench

open Canonical Diagnostic PresentEvidence Interleave Checked
open CanonicalBench (digest now)

/-- The bench platform with a continuity authority whose caller has established nothing. -/
def platform : RuntimePlatform :=
  { RuntimeBench.platform with
    validateContinuityApplicability := fun verdict =>
      verdict.validate CanonicalBench.platform fun _ => []
    evaluateContinuity := fun _ proof artifactId subjectRef intakeRef =>
      let (status, reason) := ContinuityAuthorityVerifierV1.judge proof true subjectRef intakeRef
        none none
      ContinuityApplicabilityV1.mint CanonicalBench.platform (fun _ => []) proof artifactId
        intakeRef status reason }

def continuity : ContinuityOffice platform.toCanonicalPlatform where
  canonical := fun _ => []
  verifyProof := fun _ _ => .ok ()
  bindsAcquisition := fun _ => true
  validates := fun _ => rfl
  evaluates := fun _ _ _ _ _ => ⟨none, none, rfl⟩

theorem decisions : DecisionOffice platform.toCanonicalPlatform where
  composes := by
    intro _ _ _ _ _ _ _ _ _ _ _ _ _ h
    cases h

def slot : RecurrenceSlotV1 where
  schema := slotSchemaV1
  slotId := digest [1]
  policyId := placeholderDigest
  configurationVersion := "1"
  subjectId := "subject-1"
  scopeId := placeholderDigest
  schedulerClockId := "clock-1"
  nominalDueAt := now
  latestAdmissible := ⟨"clock-1", PostureBench.evaluatedAt⟩
  occurrence := 1
  trigger := .scheduled
  catchUpOf := none

def request : CanonicalCycleRequestV1 where
  schema := cycleRequestSchemaV1
  requestId := placeholderDigest
  slot
  schedulerClockId := "clock-1"
  evaluatedAt := PostureBench.evaluatedAt
  observationId := placeholderDigest
  policy := PostureBench.policy
  inputs := PostureBench.inputs
  recurrence := PostureBench.recurrence
  externalEvidence := none
  decisionExternalEvidence := none
  temporalPolicy := none
  proposal := none
  authoringContext := none

def draws : Draws := ⟨"1", 1, "1"⟩

/-- The configured source admits the one delivered artifact. -/
def provenance : NqAdmissionProvenance := .v1
  { schema := nqAdmissionProvenanceSchemaV1
    provenanceId := placeholderDigest
    source := ⟨"local_nq_store", "node-1"⟩
    artifact := ⟨placeholderDigest, nqDiagnosticExecutionSchema, placeholderDigest, 71⟩
    origin := ⟨"run-1", none, "2026-01-01T00:00:05Z", "2026-01-01T00:00:05Z"⟩
    provider := ⟨"intake-1", placeholderDigest, placeholderDigest, "admission-1", placeholderDigest,
      placeholderDigest⟩
    disposition := .acquisitionFailure
    judgment := none
    nonclaims := nqAdmissionNonclaims }

def support : QualifiedSupportV1 :=
  { CanonicalBench.support "cycle:1" with requestNonce := "support-query:1" }

def runtime : CanonicalRuntime where
  nqAdmission := ⟨fun _ => .ok provenance, none, none⟩
  presentEvidence := fun _ => .ok support
  ag := RuntimeBench.answering .standingRequired
  externalEvidenceProfile := none
  decisionEvidenceProfile := none

def claimed : ObservationCycleV1 :=
  initialCycle platform.toCanonicalPlatform "1" slot .late .observing PostureBench.evaluatedAt none

def query : PresentEvidenceQueryV1 :=
  { supportQuery draws request claimed.cycleId with
    schema := supportQuerySchemaV1
    queryId := placeholderDigest }

/-- The calls of the cycle, each run alone on an empty store. -/
theorem closed_calls :
    request.validate platform = .ok () ∧
      ((qualifySources platform runtime request).run ⟨Store.empty, []⟩).1 =
        .ok ⟨[provenance], [], []⟩ ∧
      ((claimSlot platform.toCanonicalPlatform draws.cycleUuid draws.processNonce request.slot
        request.schedulerClockId request.evaluatedAt).run Store.empty).1 =
        .ok (claimed, ⟨claimed.cycleId, slot.slotId, 1⟩) ∧
      (supportQuery draws request claimed.cycleId).sealQuery platform.toDiagnosticPlatform =
        .ok query ∧
      support.validateFor platform.toDiagnosticPlatform query = .ok () ∧
      (evaluatePostureWithSupport platform.toDiagnosticPlatform request.policy request.inputs
        request.recurrence request.evaluatedAt support).toOption.isSome = true := by
  decide +kernel

/-- The bench cycle records a version 2 observation. -/
theorem bench_observation_is_recordable : ∃ o : Observing platform runtime draws request,
    o.record.schema = observationRecordSchemaV2 ∧ o.record.sourceAdmissions = [provenance] ∧
      o.record.validateForCycle platform.toCanonicalPlatform "cycle:1" = .ok () := by
  obtain ⟨haccepted, hqualifies, hclaims, hasked, hsupported, hevaluates⟩ := closed_calls
  obtain ⟨posture, hevaluated⟩ := Option.isSome_iff_exists.mp hevaluates
  obtain ⟨qualifySteps, hqualified, -⟩ := Runs.of_run (qualifySources platform runtime request)
    ⟨Store.empty, []⟩
  obtain ⟨claimSteps, hclaimed, -⟩ := Runs.of_run (claimSlot platform.toCanonicalPlatform
    draws.cycleUuid draws.processNonce request.slot request.schedulerClockId request.evaluatedAt)
    Store.empty
  rw [hqualifies] at hqualified
  rw [hclaims] at hclaimed
  refine ⟨{
    external := none
    decision := none
    qualified := ⟨[provenance], [], []⟩
    claimed
    lease := ⟨claimed.cycleId, slot.slotId, 1⟩
    query
    support
    posture
    accepted := haccepted
    composed := ⟨[], .done _⟩
    decided := ⟨[], .done _⟩
    qualifies := ⟨qualifySteps, hqualified⟩
    claims := ⟨claimSteps, hclaimed⟩
    asked := hasked
    answered := rfl
    supported := hsupported
    evaluated := toOption_eq_some.mp hevaluated }, rfl, rfl, ?_⟩
  exact (observation_is_recordable continuity decisions _).1

end Nightshift.ObservationBench
