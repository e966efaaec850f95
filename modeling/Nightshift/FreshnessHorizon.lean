import Nightshift.CanonicalBench

/-!
# Freshness horizons

The deadline of a positive answer is a checked sum; that of a negative one is the
plain sum of the caller's instant and the window, behind a guard on one instant only.
Here the store is any store, sound or not.
-/

namespace Nightshift.Canonical

open Checked Diagnostic Interleave

variable (w : CanonicalPlatform)

/-- The cycles that the store reads for a citation. -/
def citedIn (s : Store) (observationId : String) :
    Except CanonicalStoreError (List ObservationCycleV1) :=
  ((findCyclesByObservationId w observationId).run s).1

/-- The latest qualified cycle that the store reads for a family. -/
def latestIn (s : Store) (family : ObservationFamilyKeyV1) :
    Except CanonicalStoreError (Option ObservationCycleV1) :=
  ((latestQualifiedObservationInFamily w family).run s).1

/-- The cycle carries authentic evidence, evaluated at an instant. -/
structure Attests (s : Store) (request : AgObservationRequestV1) (cycle : ObservationCycleV1)
    (record : ObservationRecordV1) (evaluated : Nat) : Prop where
  observation : cycle.observation = some record
  backed : (evidenceOf w s).backs record = true
  bound : crossBound request cycle.slot record cycle.intent = true
  instant : evaluatedMs w record.posture = some evaluated

/-- The citation is refused: its cycle is unreadable, or not one, or carries no authentic
evidence, or is inside its window with a lineage that is unreadable. -/
def Refuted (s : Store) (request : AgObservationRequestV1)
    (config : ObservationResolverConfigV1) : Prop :=
  match citedIn w s request.observation with
  | .error (.invalid _) => True
  | .error _ => False
  | .ok [cycle] => ∀ record evaluated, Attests w s request cycle record evaluated →
      evaluated + config.defaultTtlMs < u64Bound ∧
        request.nowUnixMs < deadline config record evaluated ∧
        ∃ message, latestIn w s cycle.slot.family = .error (.invalid message)
  | .ok _ => True

variable {w} {s : Store} {request : AgObservationRequestV1} {config : ObservationResolverConfigV1}

theorem Attests.unique {cycle : ObservationCycleV1} {record record' : ObservationRecordV1}
    {evaluated evaluated' : Nat} (h : Attests w s request cycle record evaluated)
    (h' : Attests w s request cycle record' evaluated') :
    record = record' ∧ evaluated = evaluated' := by
  obtain rfl := Option.some.inj (h.observation.symm.trans h'.observation)
  exact ⟨rfl, Option.some.inj (h.instant.symm.trans h'.instant)⟩

/-- A positive classification stands on authentic evidence and the exact deadline. -/
structure Attested (w : CanonicalPlatform) (s : Store) (request : AgObservationRequestV1)
    (config : ObservationResolverConfigV1) (status : AgObservationStatusV1) (freshUntil : Nat)
    (record : ObservationRecordV1) (evaluated : Nat) : Prop where
  cited : ∃ cycle, citedIn w s request.observation = .ok [cycle] ∧
    Attests w s request cycle record evaluated
  representable : evaluated + config.defaultTtlMs < u64Bound
  deadline : freshUntil = deadline config record evaluated
  positive : status ≠ .absent ∧ status ≠ .contradictory
  live : status = .current → request.nowUnixMs < freshUntil

/-- What a classification may come to. -/
inductive Classifies (w : CanonicalPlatform) (s : Store) (request : AgObservationRequestV1)
    (config : ObservationResolverConfigV1) :
    Except ObservationResolverError Classification → Prop
  | refuted {classification : Classification} (h : Refuted w s request config)
      (hstatus : classification.status = .absent ∨ classification.status = .contradictory) :
    Classifies w s request config (.ok classification)
  | attested {classification : Classification} {record : ObservationRecordV1} {evaluated : Nat}
      (hrefuted : ¬ Refuted w s request config)
      (h : Attested w s request config classification.status classification.freshUntilUnixMs record
        evaluated) : Classifies w s request config (.ok classification)
  | failed {error : ObservationResolverError} (h : ¬ Refuted w s request config) :
    Classifies w s request config (.error error)

theorem run_classifyLineage_any (cycle : ObservationCycleV1) (fresh : Classification) :
    (classifyLineage w cycle fresh).run s = (match latestIn w s cycle.slot.family with
      | .error (.invalid _) => .ok (sentinel w .contradictory)
      | .error error => .error (.store error)
      | .ok latest => .ok
          (if latest.any fun latest => cycle.slot.orderKey.precedes latest.slot.orderKey then
            { fresh with status := .superseded }
          else fresh), s) := by
  have hstore := (readOnly_latestQualifiedObservationInFamily w cycle.slot.family).run_store s
  simp only [classifyLineage, Call.run_bind, Call.run_outcome, hstore, latestIn]
  cases ((latestQualifiedObservationInFamily w cycle.slot.family).run s).1 with
  | error error => cases error <;> rfl
  | ok latest =>
    simp only
    split <;> rfl

/-- Authentic evidence is answered by its window and then by its lineage. -/
theorem classifies_attested {cycle : ObservationCycleV1} {record : ObservationRecordV1}
    {evaluated : Nat} (hcited : citedIn w s request.observation = .ok [cycle])
    (h : Attests w s request cycle record evaluated) :
    ∃ result, (classifyFreshness w request config cycle record).run s = (result, s) ∧
      Classifies w s request config result := by
  have hattests : ∃ cycle, citedIn w s request.observation = .ok [cycle] ∧
      Attests w s request cycle record evaluated := ⟨cycle, hcited, h⟩
  have hrefuted (hlive : evaluated + config.defaultTtlMs < u64Bound →
      request.nowUnixMs < deadline config record evaluated →
      ∀ message, latestIn w s cycle.slot.family ≠ .error (.invalid message)) :
      ¬ Refuted w s request config := by
    unfold Refuted
    rw [hcited]
    intro hrefuted
    obtain ⟨hrepresentable, hnow, message, hlatest⟩ := hrefuted record evaluated h
    exact hlive hrepresentable hnow message hlatest
  simp only [classifyFreshness, h.instant, Call.run_bind, Call.run_check]
  cases hfresh : freshClassification w config record evaluated with
  | error error =>
    refine ⟨.error error, rfl, .failed (hrefuted fun hrepresentable => ?_)⟩
    simp [freshClassification, checkedAdd, hrepresentable, okOr] at hfresh
  | ok fresh =>
    obtain ⟨hrepresentable, hcurrent, huntil⟩ := freshClassification_eq_ok hfresh
    simp only
    by_cases hstale : fresh.freshUntilUnixMs ≤ request.nowUnixMs
    · rw [if_pos hstale]
      refine ⟨.ok { fresh with status := .stale }, rfl, .attested (hrefuted fun _ hnow => ?_)
        ⟨hattests, hrepresentable, huntil, by simp, by simp⟩⟩
      omega
    · rw [if_neg hstale, run_classifyLineage_any]
      have hlive := not_le.mp hstale
      cases hlatest : latestIn w s cycle.slot.family with
      | error error =>
        cases error with
        | invalid message =>
          refine ⟨_, rfl, .refuted ?_ (.inr rfl)⟩
          unfold Refuted
          rw [hcited]
          intro record' evaluated' h'
          obtain ⟨rfl, rfl⟩ := h.unique h'
          exact ⟨hrepresentable, huntil ▸ hlive, message, hlatest⟩
        | _ =>
          refine ⟨_, rfl, .failed (hrefuted fun _ _ message heq => ?_)⟩
          rw [hlatest] at heq
          cases heq
      | ok latest =>
        have hunrefuted : ¬ Refuted w s request config := by
          refine hrefuted fun _ _ message heq => ?_
          rw [hlatest] at heq
          cases heq
        refine ⟨_, rfl, @Classifies.attested w s request config _ record evaluated hunrefuted ?_⟩
        split
        · exact ⟨hattests, hrepresentable, huntil, by simp, by simp⟩
        · exact ⟨hattests, hrepresentable, huntil, by simp [hcurrent], fun _ => hlive⟩

/-- Without authentic evidence a cited cycle is refused. -/
theorem refuted_of_unattested {cycle : ObservationCycleV1}
    (hcited : citedIn w s request.observation = .ok [cycle])
    (h : ∀ record evaluated, ¬ Attests w s request cycle record evaluated) :
    Refuted w s request config := by
  unfold Refuted
  rw [hcited]
  exact fun record evaluated hattests => absurd hattests (h record evaluated)

theorem classifies_cycle {cycle : ObservationCycleV1}
    (hcited : citedIn w s request.observation = .ok [cycle]) :
    ∃ result, (classifyCycle w request config cycle).run s = (result, s) ∧
      Classifies w s request config result := by
  have hsentinel (h : ∀ record evaluated, ¬ Attests w s request cycle record evaluated) :
      Classifies w s request config (.ok (sentinel w .contradictory)) :=
    .refuted (refuted_of_unattested hcited h) (.inr rfl)
  cases hobservation : cycle.observation with
  | none =>
    refine ⟨.ok (sentinel w .contradictory), by simp [classifyCycle, hobservation], hsentinel ?_⟩
    intro record evaluated hattests
    rw [hattests.observation] at hobservation
    cases hobservation
  | some record =>
    have hsame {record' : ObservationRecordV1} {evaluated : Nat}
        (h : Attests w s request cycle record' evaluated) : record' = record :=
      Option.some.inj (h.observation.symm.trans hobservation)
    have hexternal := run_reproduces (s := s) record.externalEvidence
      (readOnly_validateExternalCompositionSource w)
    have hdecision := run_reproduces (s := s) record.decisionExternalEvidence
      (readOnly_validateDecisionCompositionSource (w := w))
    have hbacks : (evidenceOf w s).backs record = (record.externalEvidence.all
        (fun a => ((validateExternalCompositionSource w a).run s).1.toBool) &&
        record.decisionExternalEvidence.all
          fun a => ((validateDecisionCompositionSource w a).run s).1.toBool) := rfl
    by_cases hbacked : (evidenceOf w s).backs record = true
    · by_cases hbound : crossBound request cycle.slot record cycle.intent = true
      · have hrun : (classifyCycle w request config cycle).run s =
            (classifyFreshness w request config cycle record).run s := by
          rw [hbacks, Bool.and_eq_true] at hbacked
          simp [classifyCycle, hobservation, Call.run_bind, hexternal, hdecision, hbacked.1,
            hbacked.2, hbound]
        rw [hrun]
        cases hinstant : evaluatedMs w record.posture with
        | none =>
          refine ⟨.ok (sentinel w .contradictory), by simp [classifyFreshness, hinstant], hsentinel ?_⟩
          intro record' evaluated hattests
          obtain rfl := hsame hattests
          rw [hattests.instant] at hinstant
          cases hinstant
        | some evaluated =>
          exact classifies_attested hcited ⟨hobservation, hbacked, hbound, hinstant⟩
      · refine ⟨.ok (sentinel w .contradictory), ?_, hsentinel ?_⟩
        · rw [hbacks, Bool.and_eq_true] at hbacked
          simp [classifyCycle, hobservation, Call.run_bind, hexternal, hdecision, hbacked.1,
            hbacked.2, hbound]
        · intro record' evaluated hattests
          obtain rfl := hsame hattests
          exact hbound hattests.bound
    · refine ⟨.ok (sentinel w .contradictory), ?_, hsentinel ?_⟩
      · rw [hbacks, Bool.and_eq_true, not_and_or] at hbacked
        by_cases hfirst : (record.externalEvidence.all
            fun a => ((validateExternalCompositionSource w a).run s).1.toBool) = true
        · have hsecond := hbacked.resolve_left (not_not_intro hfirst)
          simp [classifyCycle, hobservation, Call.run_bind, hexternal, hdecision, hfirst, hsecond]
        · simp [classifyCycle, hobservation, Call.run_bind, hexternal, hfirst]
      · intro record' evaluated hattests
        obtain rfl := hsame hattests
        exact hbacked hattests.backed

/-- Every classification is refuted, attested or failed, in any store. -/
theorem classifies (w : CanonicalPlatform) (s : Store) (request : AgObservationRequestV1)
    (config : ObservationResolverConfigV1) :
    ∃ result, (classify w request config).run s = (result, s) ∧
      Classifies w s request config result := by
  have hstore := (readOnly_findCyclesByObservationId w request.observation).run_store s
  simp only [classify, Call.run_bind, Call.run_outcome, hstore]
  cases hcited : ((findCyclesByObservationId w request.observation).run s).1 with
  | error error =>
    have hcited' : citedIn w s request.observation = .error error := hcited
    cases error with
    | invalid message =>
      refine ⟨.ok (sentinel w .contradictory), rfl, .refuted ?_ (.inr rfl)⟩
      unfold Refuted
      rw [hcited']
      trivial
    | _ =>
      refine ⟨_, rfl, .failed ?_⟩
      unfold Refuted
      rw [hcited']
      exact id
  | ok cycles =>
    have hcited' : citedIn w s request.observation = .ok cycles := hcited
    rcases cycles with _ | ⟨cycle, _ | ⟨other, rest⟩⟩
    · refine ⟨.ok (sentinel w .absent), rfl, .refuted ?_ (.inl rfl)⟩
      unfold Refuted
      rw [hcited']
      trivial
    · exact classifies_cycle hcited'
    · refine ⟨.ok (sentinel w .contradictory), rfl, .refuted ?_ (.inr rfl)⟩
      unfold Refuted
      rw [hcited']
      trivial

/-! ## Horizons -/

/-- The horizons of a response are exact: a negative one is fresh for the whole window, a
positive one up to the deadline of its evidence, and a current one is inside it. -/
structure ExactHorizon (w : CanonicalPlatform) (s : Store) (request : AgObservationRequestV1)
    (config : ObservationResolverConfigV1) (response : AgObservationResolutionV2) : Prop where
  resolved : response.resolvedAtUnixMs = request.nowUnixMs
  negative : response.status = .absent ∨ response.status = .contradictory →
    response.freshUntilUnixMs = request.nowUnixMs + config.defaultTtlMs ∧
      response.resolvedAtUnixMs < response.freshUntilUnixMs
  positive : response.status ≠ .absent ∧ response.status ≠ .contradictory →
    ∃ record evaluated, Attested w s request config response.status response.freshUntilUnixMs
      record evaluated
  current : response.status = .current → response.resolvedAtUnixMs < response.freshUntilUnixMs ∧
    ∃ record evaluated, Attested w s request config response.status response.freshUntilUnixMs
      record evaluated ∧ response.freshUntilUnixMs ≤ evaluated + config.defaultTtlMs

/-- Every response the resolver gives has exact horizons. -/
def HorizonsExact (w : CanonicalPlatform) (s : Store) (request : AgObservationRequestV1)
    (config : ObservationResolverConfigV1) : Prop :=
  ∀ response s', (resolveObservation w request config).run s = (.ok response, s') →
    ExactHorizon w s request config response

theorem deadline_le (config : ObservationResolverConfigV1) (record : ObservationRecordV1)
    (evaluated : Nat) : deadline config record evaluated ≤ evaluated + config.defaultTtlMs := by
  unfold deadline
  cases evidenceHorizon record with
  | none => exact le_rfl
  | some horizon => exact min_le_left _ _

/-- The resolver answers a checked request with the response of its classification. -/
theorem run_resolveObservation_any : (resolveObservation w request config).run s = (do
    mapErr .configuration config.validate
    mapErr .request (request.validate w)
    refuseIf (request.nowUnixMs == maximumU64)
      (.request "now_unix_ms leaves no representable freshness window")
    let classification ← ((classify w request config).run s).1
    .ok (respond w request config classification), s) := by
  obtain ⟨result, hclassify, -⟩ := classifies w s request config
  refine Call.run_check_bind fun _ => Call.run_check_bind fun _ => Call.run_check_bind fun _ => ?_
  rw [Call.run_bind, hclassify]
  cases result with
  | error error => rfl
  | ok classification =>
    simp only [ok_bind, respond]
    by_cases hnegative : classification.status = .absent ∨
        classification.status = .contradictory <;> simp [hnegative]

theorem exactHorizon_of_attested {classification : Classification} {record : ObservationRecordV1}
    {evaluated : Nat} (h : Attested w s request config classification.status
      classification.freshUntilUnixMs record evaluated) :
    ExactHorizon w s request config (respond w request config classification) := by
  have hnegative : ¬ (classification.status = .absent ∨ classification.status = .contradictory) :=
    not_or.mpr h.positive
  unfold respond
  rw [if_neg hnegative]
  refine ⟨rfl, fun hstatus => absurd hstatus hnegative, fun _ => ⟨record, evaluated, h⟩, ?_⟩
  intro hcurrent
  refine ⟨h.live hcurrent, record, evaluated, h, ?_⟩
  rw [h.deadline]
  exact deadline_le config record evaluated

/-- A negative response is exact exactly when its sum fits. -/
theorem exactHorizon_negative_iff {classification : Classification}
    (hstatus : classification.status = .absent ∨ classification.status = .contradictory)
    (hwindow : 0 < config.defaultTtlMs) :
    ExactHorizon w s request config (respond w request config classification) ↔
      request.nowUnixMs + config.defaultTtlMs < u64Bound := by
  have hpositive : 0 < u64Bound := by decide
  unfold respond
  rw [if_pos hstatus]
  constructor
  · intro h
    have hexact : (request.nowUnixMs + config.defaultTtlMs) % u64Bound =
        request.nowUnixMs + config.defaultTtlMs := (h.negative hstatus).1
    rw [← hexact]
    exact Nat.mod_lt _ hpositive
  · intro hfits
    have hexact : (request.nowUnixMs + config.defaultTtlMs) % u64Bound =
        request.nowUnixMs + config.defaultTtlMs := Nat.mod_eq_of_lt hfits
    refine ⟨rfl, fun _ => ⟨hexact, ?_⟩, fun hnot => absurd hstatus (not_or.mpr hnot), ?_⟩
    · simp only [negative, hexact]
      omega
    · intro hcurrent
      have hsame : classification.status = .current := hcurrent
      rw [hsame] at hstatus
      simp at hstatus

/-- In any store, for any request and configuration: every response has exact horizons
unless a valid request of another instant than the last one cites refuted evidence and its
window passes the end of the range. -/
theorem resolveObservation_horizons_iff (w : CanonicalPlatform) (s : Store)
    (request : AgObservationRequestV1) (config : ObservationResolverConfigV1) :
    HorizonsExact w s request config ↔ ¬ (config.validate = .ok () ∧ request.validate w = .ok () ∧
      request.nowUnixMs ≠ maximumU64 ∧ u64Bound ≤ request.nowUnixMs + config.defaultTtlMs ∧
      Refuted w s request config) := by
  obtain ⟨result, hclassify, hclassifies⟩ := classifies w s request config
  have hwindow (hconfig : config.validate = .ok ()) : 0 < config.defaultTtlMs := by
    simp only [ObservationResolverConfigV1.validate, bind_eq_ok, refuseIf_eq_ok,
      beq_eq_false_iff_ne] at hconfig
    obtain ⟨_, -, hpositive⟩ := hconfig
    exact Nat.pos_of_ne_zero hpositive
  constructor
  · rintro hexact ⟨hconfig, hrequest, hnow, hwraps, hrefuted⟩
    cases hclassifies with
    | @refuted classification _ hstatus =>
      have hrun : (resolveObservation w request config).run s =
          (.ok (respond w request config classification), s) := by
        rw [run_resolveObservation_any, hclassify, hconfig, hrequest]
        simp [mapErr, refuseIf, hnow]
      have hfits := (exactHorizon_negative_iff hstatus (hwindow hconfig)).mp (hexact _ _ hrun)
      omega
    | attested hunrefuted _ => exact hunrefuted hrefuted
    | failed hunrefuted => exact hunrefuted hrefuted
  · intro hcondition response s' hrun
    rw [run_resolveObservation_any, hclassify] at hrun
    simp only [Prod.mk.injEq, bind_eq_ok, mapErr_eq_ok, refuseIf_eq_ok, beq_eq_false_iff_ne,
      Except.ok.injEq] at hrun
    obtain ⟨⟨_, hconfig, _, hrequest, _, hnow, classification, rfl, rfl⟩, -⟩ := hrun
    cases hclassifies with
    | refuted hrefuted hstatus =>
      rw [exactHorizon_negative_iff hstatus (hwindow hconfig)]
      by_contra hwraps
      exact hcondition ⟨hconfig, hrequest, hnow, not_lt.mp hwraps, hrefuted⟩
    | attested _ hattested => exact exactHorizon_of_attested hattested

end Nightshift.Canonical

namespace Nightshift.CanonicalBench

open Nightshift.Canonical

/-- Two milliseconds before the end of the range an absent observation is answered with a
window of two milliseconds that is fresh until zero. -/
theorem absent_horizon_wraps :
    ¬ HorizonsExact platform Store.empty (citation 18446744073709551614) ⟨"resolver-1", 2⟩ := by
  intro hexact
  have hrun : ((resolveObservation platform (citation 18446744073709551614)
      ⟨"resolver-1", 2⟩).run Store.empty).1.toOption.map (fun response =>
        (response.status, response.resolvedAtUnixMs, response.freshUntilUnixMs)) =
      some (.absent, 18446744073709551614, 0) := by decide +kernel
  cases h : (resolveObservation platform (citation 18446744073709551614)
      ⟨"resolver-1", 2⟩).run Store.empty with
  | mk result s' =>
    rw [h] at hrun
    cases result with
    | error error => cases hrun
    | ok response =>
      simp only [Except.toOption, Option.map_some, Option.some.injEq, Prod.mk.injEq] at hrun
      obtain ⟨hstatus, hresolved, hfresh⟩ := hrun
      have hlater := ((hexact response s' h).negative (.inl hstatus)).2
      omega

end Nightshift.CanonicalBench
