import Nightshift.CanonicalHistory
import Nightshift.ObservationResolver

/-!
# What a resolution means

A resolution is a function of what the store says of the cited cycles, of the
custody its compositions rebuild from, and of whether a later cycle of the
family has recorded an observation. The order in which cycles were written
is no part of it, and none of it is ever taken back.
-/

namespace Nightshift.Canonical

open Checked Diagnostic PresentEvidence Interleave

/-! ## The order of a family -/

/-- The key as an element of the lexicographic product it is compared in. -/
def ObservationOrderKeyV1.lex (key : ObservationOrderKeyV1) : ℕ ×ₗ ℤ ×ₗ String :=
  toLex (key.occurrence, toLex (key.nominalDueAt, key.slotId))

theorem precedes_iff {a b : ObservationOrderKeyV1} : a.precedes b = true ↔ a.lex < b.lex := by
  simp [ObservationOrderKeyV1.precedes, ObservationOrderKeyV1.lex, Prod.Lex.toLex_lt_toLex]

/-- The later of two is the one that nothing before it precedes. -/
theorem newer_spec (latest : Option ObservationCycleV1) (cycle : ObservationCycleV1) :
    ∃ chosen, newer latest cycle = some chosen ∧ (chosen = cycle ∨ latest = some chosen) ∧
      cycle.slot.orderKey.lex ≤ chosen.slot.orderKey.lex ∧
      ∀ current, latest = some current →
        current.slot.orderKey.lex ≤ chosen.slot.orderKey.lex := by
  cases latest with
  | none => exact ⟨cycle, rfl, .inl rfl, le_refl _, by simp⟩
  | some current =>
    by_cases hlt : current.slot.orderKey.precedes cycle.slot.orderKey = true
    · refine ⟨cycle, by simp [newer, hlt], .inl rfl, le_refl _, ?_⟩
      intro current' hcurrent
      cases hcurrent
      exact le_of_lt (precedes_iff.mp hlt)
    · refine ⟨current, by simp [newer, hlt], .inr rfl, ?_, ?_⟩
      · rw [precedes_iff, not_lt] at hlt
        exact hlt
      · intro current' hcurrent
        cases hcurrent
        exact le_refl _

theorem foldl_newer_spec (cycles : List ObservationCycleV1) (latest : Option ObservationCycleV1) :
    (∀ chosen, cycles.foldl newer latest = some chosen → chosen ∈ cycles ∨ latest = some chosen) ∧
      ∀ cycle, cycle ∈ cycles ∨ latest = some cycle → ∃ chosen,
        cycles.foldl newer latest = some chosen ∧
          cycle.slot.orderKey.lex ≤ chosen.slot.orderKey.lex := by
  induction cycles generalizing latest with
  | nil =>
    refine ⟨fun _ h => .inr h, ?_⟩
    rintro cycle (hnone | hcycle)
    · cases hnone
    · exact ⟨cycle, hcycle, le_refl _⟩
  | cons first rest ih =>
    obtain ⟨chosen, hchosen, hfrom, hfirst, hlatest⟩ := newer_spec latest first
    obtain ⟨hmem, hmax⟩ := ih (newer latest first)
    rw [List.foldl_cons]
    constructor
    · intro final hfinal
      rcases hmem final hfinal with hin | heq
      · exact .inl (List.mem_cons_of_mem _ hin)
      · rw [hchosen] at heq
        cases heq
        rcases hfrom with rfl | hfrom
        · exact .inl List.mem_cons_self
        · exact .inr hfrom
    · intro cycle hcycle
      have hthrough : ∀ {key}, key ≤ chosen.slot.orderKey.lex → ∃ final,
          rest.foldl newer (newer latest first) = some final ∧
            key ≤ final.slot.orderKey.lex := by
        intro key hkey
        obtain ⟨final, hfinal, hle⟩ := hmax chosen (.inr hchosen)
        exact ⟨final, hfinal, hkey.trans hle⟩
      rcases hcycle with hcycle | hcycle
      · rcases List.mem_cons.mp hcycle with rfl | hin
        · exact hthrough hfirst
        · exact hmax cycle (.inl hin)
      · exact hthrough (hlatest cycle hcycle)

/-- The latest qualified cycle is later than a key exactly when some qualified cycle is, whatever
the order of the list. -/
theorem latestQualified_precedes {family : ObservationFamilyKeyV1}
    {cycles : List ObservationCycleV1} {key : ObservationOrderKeyV1} :
    ((latestQualified family cycles).any fun latest => key.precedes latest.slot.orderKey) = true ↔
      ∃ cycle ∈ cycles, cycle.slot.family = family ∧ cycle.observation.isSome = true ∧
        key.precedes cycle.slot.orderKey = true := by
  obtain ⟨hmem, hmax⟩ := foldl_newer_spec
    (cycles.filter fun cycle => cycle.slot.family == family && cycle.observation.isSome) none
  rw [Option.any_eq_true]
  constructor
  · rintro ⟨latest, hlatest, hprecedes⟩
    rcases hmem latest hlatest with hin | hnone
    · simp only [List.mem_filter, Bool.and_eq_true, beq_iff_eq] at hin
      exact ⟨latest, hin.1, hin.2.1, hin.2.2, hprecedes⟩
    · cases hnone
  · rintro ⟨cycle, hcycle, hfamily, hobservation, hprecedes⟩
    obtain ⟨latest, hlatest, hle⟩ := hmax cycle (.inl (by simp [hcycle, hfamily, hobservation]))
    refine ⟨latest, hlatest, ?_⟩
    rw [precedes_iff] at hprecedes ⊢
    exact lt_of_lt_of_le hprecedes hle

/-! ## Reading a well-formed store -/

section Reads

variable {w : CanonicalPlatform} {s : Store}

theorem run_validateAll (h : Wf w s) (rows : List (String × CycleRow))
    (hrows : ∀ entry ∈ rows, s.cycles[entry.1]? = some entry.2) :
    (validateAll w (rows.map (·.2.snapshot))).run s = (.ok (rows.map (·.2.snapshot)), s) := by
  have hvalid : Checked.forEach (rows.map (·.2.snapshot)) (·.validate w) = .ok () := by
    rw [forEach_eq_ok]
    intro cycle hcycle
    obtain ⟨entry, hentry, rfl⟩ := List.mem_map.mp hcycle
    exact (h.backed _ _ (hrows entry hentry)).valid
  have hclaims : (Call.forEach (rows.map (·.2.snapshot)) (validateClaims w)).run s =
      (.ok (), s) := by
    refine Call.run_forEach ?_
    intro cycle hcycle
    obtain ⟨entry, hentry, rfl⟩ := List.mem_map.mp hcycle
    exact run_validateClaims h (hrows entry hentry)
  simp [validateAll, Call.run_bind, hvalid, hclaims]

theorem run_listCycles (h : Wf w s) : (listCycles w).run s =
    (.ok ((s.cycles.toList.insertionSort writtenBefore).map (·.2.snapshot)), s) := by
  have hall := run_validateAll h (s.cycles.toList.insertionSort writtenBefore) (by
    intro entry hentry
    rw [List.mem_insertionSort] at hentry
    exact Std.ExtTreeMap.mem_toList_iff_getElem?_eq_some.mp hentry)
  simp [listCycles, Call.run_bind, hall]

/-- The rows that carry an observation identity, by cycle. -/
def rowsCiting (s : Store) (observationId : String) : List (String × CycleRow) :=
  s.cycles.toList.filter (·.2.observationId == some observationId)

theorem mem_rowsCiting {observationId : String} {entry : String × CycleRow} :
    entry ∈ rowsCiting s observationId ↔
      s.cycles[entry.1]? = some entry.2 ∧ entry.2.observationId = some observationId := by
  obtain ⟨c, row⟩ := entry
  simp [rowsCiting, Std.ExtTreeMap.mem_toList_iff_getElem?_eq_some]

theorem run_findCyclesByObservationId (h : Wf w s) (observationId : String) :
    (findCyclesByObservationId w observationId).run s =
      (.ok ((rowsCiting s observationId).map (·.2.snapshot)), s) := by
  have hall := run_validateAll h (rowsCiting s observationId)
    fun entry hentry => (mem_rowsCiting.mp hentry).1
  simp only [findCyclesByObservationId, Call.run_bind, Call.run_read]
  exact hall

/-- Some cycle of the slot's family with a recorded observation is later than the slot. -/
def supersededIn (s : Store) (slot : RecurrenceSlotV1) : Bool :=
  s.cycles.toList.any fun entry => entry.2.snapshot.slot.family == slot.family &&
    entry.2.snapshot.observation.isSome && slot.orderKey.precedes entry.2.snapshot.slot.orderKey

theorem supersededIn_iff {slot : RecurrenceSlotV1} : supersededIn s slot = true ↔
    ∃ (c : String) (row : CycleRow), s.cycles[c]? = some row ∧
      row.snapshot.slot.family = slot.family ∧ row.snapshot.observation.isSome = true ∧
      slot.orderKey.precedes row.snapshot.slot.orderKey = true := by
  simp only [supersededIn, List.any_eq_true, Bool.and_eq_true, beq_iff_eq, Prod.exists,
    Std.ExtTreeMap.mem_toList_iff_getElem?_eq_some, and_assoc]

theorem run_latestQualified (h : Wf w s) (slot : RecurrenceSlotV1) :
    ∃ latest, (latestQualifiedObservationInFamily w slot.family).run s = (.ok latest, s) ∧
      (latest.any fun latest => slot.orderKey.precedes latest.slot.orderKey) =
        supersededIn s slot := by
  refine ⟨_, by simp only [latestQualifiedObservationInFamily, Call.run_bind, run_listCycles h]; rfl,
    ?_⟩
  rw [Bool.eq_iff_iff, latestQualified_precedes, supersededIn_iff]
  constructor
  · rintro ⟨cycle, hcycle, hrest⟩
    obtain ⟨⟨c, row⟩, hentry, rfl⟩ := List.mem_map.mp hcycle
    rw [List.mem_insertionSort, Std.ExtTreeMap.mem_toList_iff_getElem?_eq_some] at hentry
    exact ⟨c, row, hentry, hrest⟩
  · rintro ⟨c, row, hrow, hrest⟩
    refine ⟨row.snapshot, List.mem_map.mpr ⟨(c, row), ?_, rfl⟩, hrest⟩
    rw [List.mem_insertionSort, Std.ExtTreeMap.mem_toList_iff_getElem?_eq_some]
    exact hrow

theorem readOnly_steadyStateObservationForComposition (observationId : String) :
    ReadOnly (steadyStateObservationForComposition w observationId) := by
  refine (Moves.check _).bind fun _ => (Moves.read _).bind fun row => ?_
  cases row with
  | none => exact .pure _
  | some row =>
    exact (Moves.check _).bind fun _ => (Moves.check _).bind fun _ =>
      (Moves.check _).bind fun _ => .pure _

theorem readOnly_validateDecisionCompositionSource
    (composition : ComposedDecisionRelativeEvidenceV1) :
    ReadOnly (validateDecisionCompositionSource w composition) := by
  refine (Moves.check _).bind fun _ => ?_
  refine (readOnly_externalObservationForComposition w _).bind fun _ => ?_
  refine (Moves.check _).bind fun _ => ?_
  refine (readOnly_steadyStateObservationForComposition _).bind fun _ => ?_
  exact (Moves.check _).bind fun _ => (Moves.check _).bind fun _ => .check _

end Reads

/-! ## The answer -/

/-- What the resolver reads of a cited cycle. -/
structure CitedFacts where
  slot : RecurrenceSlotV1
  observation : Option ObservationRecordV1
  intent : Option TypedCoarseIntentV2

def factsOf (cycle : ObservationCycleV1) : CitedFacts := ⟨cycle.slot, cycle.observation, cycle.intent⟩

/-- What the resolver can find out in a store. -/
structure Evidence where
  cited : String → List CitedFacts
  externalReproduces : ComposedExternalEvidenceV1 → Bool
  decisionReproduces : ComposedDecisionRelativeEvidenceV1 → Bool
  superseded : RecurrenceSlotV1 → Bool

section Answers

variable (w : CanonicalPlatform)

/-- The external custody of a store rebuilds a composition. -/
def externalReproduces (s : Store) (composition : ComposedExternalEvidenceV1) : Bool :=
  ((validateExternalCompositionSource w composition).run s).1.toBool

def decisionReproduces (s : Store) (composition : ComposedDecisionRelativeEvidenceV1) : Bool :=
  ((validateDecisionCompositionSource w composition).run s).1.toBool

def evidenceOf (s : Store) : Evidence where
  cited := fun observationId => (rowsCiting s observationId).map (factsOf ·.2.snapshot)
  externalReproduces := externalReproduces w s
  decisionReproduces := decisionReproduces w s
  superseded := supersededIn s

/-- The compositions of a record still reproduce. -/
def Evidence.backs (evidence : Evidence) (record : ObservationRecordV1) : Bool :=
  record.externalEvidence.all evidence.externalReproduces &&
    record.decisionExternalEvidence.all evidence.decisionReproduces

/-- The answer for one cited cycle. -/
def answerCycle (request : AgObservationRequestV1) (config : ObservationResolverConfigV1)
    (evidence : Evidence) (facts : CitedFacts) :
    Except ObservationResolverError Classification :=
  match facts.observation with
  | none => .ok (sentinel w .contradictory)
  | some record =>
    if !(evidence.backs record && crossBound request facts.slot record facts.intent) then
      .ok (sentinel w .contradictory)
    else match evaluatedMs w record.posture with
      | none => .ok (sentinel w .contradictory)
      | some evaluated => do
        let fresh ← freshClassification w config record evaluated
        if fresh.freshUntilUnixMs ≤ request.nowUnixMs then .ok { fresh with status := .stale }
        else if evidence.superseded facts.slot then .ok { fresh with status := .superseded }
        else .ok fresh

def answer (request : AgObservationRequestV1) (config : ObservationResolverConfigV1)
    (evidence : Evidence) : Except ObservationResolverError Classification :=
  match evidence.cited request.observation with
  | [] => .ok (sentinel w .absent)
  | [facts] => answerCycle w request config evidence facts
  | _ => .ok (sentinel w .contradictory)

end Answers

section Refinement

variable {w : CanonicalPlatform} {s : Store}

theorem run_reproduces {α : Type} (composition : Option α)
    {validateSource : α → Call Store CanonicalStoreError Unit}
    (h : ∀ a, ReadOnly (validateSource a)) :
    (reproduces composition validateSource).run s =
      (.ok (composition.all fun a => ((validateSource a).run s).1.toBool), s) := by
  cases composition with
  | none => rfl
  | some a =>
    have hstore := (h a).run_store s
    simp only [reproduces, Call.run_bind, Call.run_outcome, Option.all_some]
    cases hresult : ((validateSource a).run s).1 with
    | ok u => simp [hstore, Except.toBool]
    | error e => simp [hstore, Except.toBool]

theorem run_classifyLineage (h : Wf w s) (cycle : ObservationCycleV1) (fresh : Classification) :
    (classifyLineage w cycle fresh).run s =
      (.ok (if supersededIn s cycle.slot then { fresh with status := .superseded } else fresh),
        s) := by
  obtain ⟨latest, hrun, hsuperseded⟩ := run_latestQualified h cycle.slot
  simp only [classifyLineage, Call.run_bind, Call.run_outcome, hrun, hsuperseded]
  split <;> rfl

theorem run_classifyFreshness (h : Wf w s) (request : AgObservationRequestV1)
    (config : ObservationResolverConfigV1) (cycle : ObservationCycleV1)
    (record : ObservationRecordV1) (hobservation : cycle.observation = some record)
    (hbacked : (evidenceOf w s).backs record = true)
    (hbound : crossBound request cycle.slot record cycle.intent = true) :
    (classifyFreshness w request config cycle record).run s =
      (answerCycle w request config (evidenceOf w s) (factsOf cycle), s) := by
  simp only [answerCycle, factsOf, hobservation, hbacked, hbound, classifyFreshness, Bool.and_self,
    Bool.not_true, Bool.false_eq_true, if_false]
  cases evaluatedMs w record.posture with
  | none => rfl
  | some evaluated =>
    cases hfresh : freshClassification w config record evaluated with
    | error e => simp [Call.run_bind, hfresh]
    | ok fresh =>
      simp only [Call.run_bind, Call.run_check, hfresh, ok_bind]
      split
      · rfl
      · rw [run_classifyLineage h]
        simp only [evidenceOf]
        by_cases hsuperseded : supersededIn s cycle.slot = true <;> simp [hsuperseded]

theorem run_classifyCycle (h : Wf w s) (request : AgObservationRequestV1)
    (config : ObservationResolverConfigV1) (cycle : ObservationCycleV1) :
    (classifyCycle w request config cycle).run s =
      (answerCycle w request config (evidenceOf w s) (factsOf cycle), s) := by
  cases hobservation : cycle.observation with
  | none => simp [classifyCycle, answerCycle, factsOf, hobservation]
  | some record =>
    have hexternal := run_reproduces (s := s) record.externalEvidence
      (readOnly_validateExternalCompositionSource w)
    have hdecision := run_reproduces (s := s) record.decisionExternalEvidence
      (readOnly_validateDecisionCompositionSource (w := w))
    have hbacks : (evidenceOf w s).backs record = (record.externalEvidence.all
        (fun a => ((validateExternalCompositionSource w a).run s).1.toBool) &&
        record.decisionExternalEvidence.all
          fun a => ((validateDecisionCompositionSource w a).run s).1.toBool) := rfl
    by_cases hbacked : (evidenceOf w s).backs record = true
    · by_cases hbound : crossBound request cycle.slot record cycle.intent = true
      · rw [← run_classifyFreshness h request config cycle record hobservation hbacked hbound]
        rw [hbacks, Bool.and_eq_true] at hbacked
        simp [classifyCycle, hobservation, Call.run_bind, hexternal, hdecision, hbacked.1,
          hbacked.2, hbound]
      · simp only [answerCycle, factsOf, hobservation, hbound, Bool.and_false, Bool.not_false,
          if_true]
        rw [hbacks, Bool.and_eq_true] at hbacked
        simp [classifyCycle, hobservation, Call.run_bind, hexternal, hdecision, hbacked.1,
          hbacked.2, hbound]
    · simp only [answerCycle, factsOf, hobservation, hbacked, Bool.false_and, Bool.not_false,
        if_true]
      rw [hbacks, Bool.and_eq_true, not_and_or] at hbacked
      by_cases hfirst : (record.externalEvidence.all
          fun a => ((validateExternalCompositionSource w a).run s).1.toBool) = true
      · have hsecond := hbacked.resolve_left (not_not_intro hfirst)
        simp [classifyCycle, hobservation, Call.run_bind, hexternal, hdecision, hfirst, hsecond]
      · simp [classifyCycle, hobservation, Call.run_bind, hexternal, hfirst]

theorem run_classify (h : Wf w s) (request : AgObservationRequestV1)
    (config : ObservationResolverConfigV1) :
    (classify w request config).run s = (answer w request config (evidenceOf w s), s) := by
  simp only [classify, Call.run_bind, Call.run_outcome, run_findCyclesByObservationId h, answer,
    evidenceOf]
  cases hrows : rowsCiting s request.observation with
  | nil => simp
  | cons entry rest =>
    cases rest with
    | nil =>
      simp only [List.map_cons, List.map_nil]
      exact run_classifyCycle h request config entry.2.snapshot
    | cons other rest => simp

end Refinement

/-! ## What the answer depends on -/

section Dependence

variable {w : CanonicalPlatform}

/-- Two stores say the same of every cycle, as far as a resolution goes, and hold the same
custody; when and in which order the cycles were written is left open. -/
structure SameFacts (s s' : Store) : Prop where
  cycles : ∀ c : String, (s.cycles[c]?).map (factsOf ·.snapshot) =
    (s'.cycles[c]?).map (factsOf ·.snapshot)
  external : s.external = s'.external
  steady : s.steady = s'.steady

/-- The facts of the cycles in key order. -/
def factsList (s : Store) : List (String × CitedFacts) :=
  (s.cycles.map fun _ row => factsOf row.snapshot).toList

theorem SameFacts.factsList_eq {s s' : Store} (h : SameFacts s s') : factsList s = factsList s' := by
  have hmap : (s.cycles.map fun _ row => factsOf row.snapshot) =
      s'.cycles.map fun _ row => factsOf row.snapshot := by
    refine Std.ExtTreeMap.ext_getElem? ?_
    intro c
    rw [Std.ExtTreeMap.getElem?_map, Std.ExtTreeMap.getElem?_map]
    exact h.cycles c
  rw [factsList, hmap, factsList]

theorem factsList_eq_map (s : Store) :
    factsList s = s.cycles.toList.map fun entry => (entry.1, factsOf entry.2.snapshot) := by
  rw [factsList, Std.ExtTreeMap.toList_map]

/-- The cited facts are those whose observation has the identity. -/
theorem cited_eq {s : Store} (h : Wf w s) (observationId : String) :
    (evidenceOf w s).cited observationId = ((factsList s).filter fun entry =>
      entry.2.observation.map (·.observationId) == some observationId).map (·.2) := by
  rw [factsList_eq_map, List.filter_map, List.map_map]
  have hcolumn : ∀ entry ∈ s.cycles.toList,
      (entry.2.observationId == some observationId) =
        ((factsOf entry.2.snapshot).observation.map (·.observationId) == some observationId) := by
    rintro ⟨c, row⟩ hentry
    rw [Std.ExtTreeMap.mem_toList_iff_getElem?_eq_some] at hentry
    simp only
    rw [(h.backed c row hentry).columns]
    rfl
  rw [show (evidenceOf w s).cited observationId =
    (rowsCiting s observationId).map (factsOf ·.2.snapshot) from rfl, rowsCiting,
    List.filter_congr hcolumn]
  rfl

theorem supersededIn_eq (s : Store) (slot : RecurrenceSlotV1) : supersededIn s slot =
    (factsList s).any fun entry => entry.2.slot.family == slot.family &&
      entry.2.observation.isSome && slot.orderKey.precedes entry.2.slot.orderKey := by
  rw [factsList_eq_map, List.any_map]
  rfl

theorem sees_externalObservationForComposition (observationId : String) :
    Sees (fun s : Store => (s.external, s.steady))
      (externalObservationForComposition w observationId) := by
  refine (Sees.check _).bind fun _ => (Sees.read ?_).bind fun row => ?_
  · intro s s' hview
    rw [(Prod.mk.inj hview).1]
  · cases row with
    | none => exact .pure _
    | some row =>
      exact (Sees.check _).bind fun _ => (Sees.check _).bind fun _ =>
        (Sees.check _).bind fun _ => .pure _

theorem sees_steadyStateObservationForComposition (observationId : String) :
    Sees (fun s : Store => (s.external, s.steady))
      (steadyStateObservationForComposition w observationId) := by
  refine (Sees.check _).bind fun _ => (Sees.read ?_).bind fun row => ?_
  · intro s s' hview
    rw [(Prod.mk.inj hview).2]
  · cases row with
    | none => exact .pure _
    | some row =>
      exact (Sees.check _).bind fun _ => (Sees.check _).bind fun _ =>
        (Sees.check _).bind fun _ => .pure _

theorem sees_validateExternalCompositionSource (composition : ComposedExternalEvidenceV1) :
    Sees (fun s : Store => (s.external, s.steady))
      (validateExternalCompositionSource w composition) := by
  refine (Sees.check _).bind fun _ => ?_
  refine (sees_externalObservationForComposition _).bind fun _ => ?_
  exact (Sees.check _).bind fun _ => (Sees.check _).bind fun _ => .check _

theorem sees_validateDecisionCompositionSource
    (composition : ComposedDecisionRelativeEvidenceV1) :
    Sees (fun s : Store => (s.external, s.steady))
      (validateDecisionCompositionSource w composition) := by
  refine (Sees.check _).bind fun _ => ?_
  refine (sees_externalObservationForComposition _).bind fun _ => (Sees.check _).bind fun _ => ?_
  refine (sees_steadyStateObservationForComposition _).bind fun _ => ?_
  exact (Sees.check _).bind fun _ => (Sees.check _).bind fun _ => .check _

theorem evidenceOf_eq {s s' : Store} (hs : Wf w s) (hs' : Wf w s') (h : SameFacts s s') :
    evidenceOf w s = evidenceOf w s' := by
  have hview : (s.external, s.steady) = (s'.external, s'.steady) := by rw [h.external, h.steady]
  have hcited : (evidenceOf w s).cited = (evidenceOf w s').cited := by
    funext observationId
    rw [cited_eq hs, cited_eq hs', h.factsList_eq]
  have hexternal : externalReproduces w s = externalReproduces w s' := by
    funext composition
    rw [externalReproduces, (sees_validateExternalCompositionSource composition).2 s s' hview]
    rfl
  have hdecision : decisionReproduces w s = decisionReproduces w s' := by
    funext composition
    rw [decisionReproduces, (sees_validateDecisionCompositionSource composition).2 s s' hview]
    rfl
  have hsuperseded : supersededIn s = supersededIn s' := by
    funext slot
    rw [supersededIn_eq, supersededIn_eq, h.factsList_eq]
  unfold evidenceOf at hcited ⊢
  simp only [Evidence.mk.injEq]
  exact ⟨hcited, hexternal, hdecision, hsuperseded⟩

end Dependence

/-! ## Resolutions -/

section Resolutions

variable {w : CanonicalPlatform} {s : Store} {request : AgObservationRequestV1}
  {config : ObservationResolverConfigV1}

/-- The resolver answers a request with a status. -/
def Resolves (w : CanonicalPlatform) (request : AgObservationRequestV1)
    (config : ObservationResolverConfigV1) (s : Store) (status : AgObservationStatusV1) : Prop :=
  ∃ resolution, (resolveObservation w request config).run s = (.ok resolution, s) ∧
    resolution.status = status

/-- The resolution of a classification that was reached. -/
def respond (w : CanonicalPlatform) (request : AgObservationRequestV1)
    (config : ObservationResolverConfigV1) (classification : Classification) :
    AgObservationResolutionV2 :=
  if classification.status = .absent ∨ classification.status = .contradictory then
    negative w request config classification.status
  else
    { schema := agObservationResolutionSchemaV2
      key := request.key
      observation := request.observation
      currentness := classification.currentness
      normalizedPreconditions := classification.basis.digest w
      basis := classification.basis
      resolverId := config.resolverId
      subject := request.subject
      status := classification.status
      resolvedAtUnixMs := request.nowUnixMs
      freshUntilUnixMs := classification.freshUntilUnixMs }

theorem respond_status (classification : Classification) :
    (respond w request config classification).status = classification.status := by
  unfold respond
  split <;> rfl

/-- The resolver is the answer, behind its own checks. -/
theorem run_resolveObservation (h : Wf w s) : (resolveObservation w request config).run s =
    (do
      mapErr .configuration config.validate
      mapErr .request (request.validate w)
      refuseIf (request.nowUnixMs == maximumU64)
        (.request "now_unix_ms leaves no representable freshness window")
      let classification ← answer w request config (evidenceOf w s)
      .ok (respond w request config classification), s) := by
  have hclassify := run_classify h request config
  simp only [resolveObservation, Call.run_bind, Call.run_check]
  cases mapErr ObservationResolverError.configuration config.validate with
  | error e => rfl
  | ok _ =>
    cases mapErr ObservationResolverError.request (request.validate w) with
    | error e => rfl
    | ok _ =>
      cases refuseIf (request.nowUnixMs == maximumU64) (ObservationResolverError.request
          "now_unix_ms leaves no representable freshness window") with
      | error e => rfl
      | ok _ =>
        cases hanswer : answer w request config (evidenceOf w s) with
        | error e =>
          rw [hanswer] at hclassify
          simp only [hclassify]
          rfl
        | ok classification =>
          rw [hanswer] at hclassify
          simp only [hclassify, ok_bind, respond]
          by_cases hnegative : classification.status = .absent ∨
              classification.status = .contradictory <;> simp [hnegative]

theorem resolves_iff (h : Wf w s) (hconfig : config.validate = .ok ())
    (hrequest : request.validate w = .ok ()) (status : AgObservationStatusV1) :
    Resolves w request config s status ↔ request.nowUnixMs ≠ maximumU64 ∧
      ∃ classification, answer w request config (evidenceOf w s) = .ok classification ∧
        classification.status = status := by
  simp only [Resolves, run_resolveObservation h, hconfig, hrequest, mapErr, ok_bind, Prod.mk.injEq,
    and_true, bind_eq_ok, refuseIf_eq_ok, beq_eq_false_iff_ne, Except.ok.injEq, exists_and_left]
  constructor
  · rintro ⟨resolution, ⟨hnow, _, classification, hanswer, rfl⟩, hstatus⟩
    exact ⟨hnow, classification, hanswer, by rw [← hstatus, respond_status]⟩
  · rintro ⟨hnow, classification, hanswer, hstatus⟩
    exact ⟨_, ⟨hnow, (), classification, hanswer, rfl⟩, by rw [respond_status, hstatus]⟩

theorem resolves_of_run (h : Wf w s) {status : AgObservationStatusV1}
    (hrun : (·.status) <$> ((resolveObservation w request config).run s).1 = .ok status) :
    Resolves w request config s status := by
  obtain ⟨resolution, hresult, hstatus⟩ := map_eq_ok.mp hrun
  refine ⟨resolution, Prod.ext hresult ?_, hstatus⟩
  rw [run_resolveObservation h]

/-- The health of authentic evidence with a deadline. -/
def healthAt (freshUntil now : Nat) (superseded : Bool) : AgObservationStatusV1 :=
  if freshUntil ≤ now then .stale else if superseded then .superseded else .current

/-- The deadline of a record evaluated at an instant. -/
def deadline (config : ObservationResolverConfigV1) (record : ObservationRecordV1)
    (evaluated : Nat) : Nat :=
  (evidenceHorizon record).elim (evaluated + config.defaultTtlMs)
    (min (evaluated + config.defaultTtlMs))

theorem lt_deadline_iff {record : ObservationRecordV1} {evaluated now : Nat} :
    now < deadline config record evaluated ↔ now < evaluated + config.defaultTtlMs ∧
      ∀ horizon, evidenceHorizon record = some horizon → now < horizon := by
  unfold deadline
  cases evidenceHorizon record with
  | none => simp
  | some horizon => simp

/-- One authentic cycle is cited, and its deadline can be represented. -/
structure Authentic (w : CanonicalPlatform) (request : AgObservationRequestV1)
    (config : ObservationResolverConfigV1) (evidence : Evidence) (facts : CitedFacts)
    (record : ObservationRecordV1) (evaluated : Nat) : Prop where
  cited : evidence.cited request.observation = [facts]
  observation : facts.observation = some record
  backed : evidence.backs record = true
  bound : crossBound request facts.slot record facts.intent = true
  instant : evaluatedMs w record.posture = some evaluated
  representable : evaluated + config.defaultTtlMs < u64Bound

theorem freshClassification_eq_ok {record : ObservationRecordV1} {evaluated : Nat}
    {fresh : Classification} (h : freshClassification w config record evaluated = .ok fresh) :
    evaluated + config.defaultTtlMs < u64Bound ∧ fresh.status = .current ∧
      fresh.freshUntilUnixMs = deadline config record evaluated := by
  simp only [freshClassification, bind_eq_ok, okOr_eq_ok, checkedAdd] at h
  obtain ⟨sum, hsum, h⟩ := h
  split at hsum
  · cases hsum
    cases h
    exact ⟨‹_›, rfl, rfl⟩
  · cases hsum

/-- The three answers about authentic evidence, and when each of them is given. -/
theorem answer_status_iff {evidence : Evidence} {status : AgObservationStatusV1}
    (hstatus : status ≠ .absent ∧ status ≠ .contradictory) :
    (∃ classification, answer w request config evidence = .ok classification ∧
      classification.status = status) ↔
      ∃ facts record evaluated, Authentic w request config evidence facts record evaluated ∧
        status = healthAt (deadline config record evaluated) request.nowUnixMs
          (evidence.superseded facts.slot) := by
  constructor
  · rintro ⟨classification, hanswer, rfl⟩
    unfold answer at hanswer
    split at hanswer
    · cases hanswer
      exact absurd rfl hstatus.1
    · rename_i facts hcited
      unfold answerCycle at hanswer
      split at hanswer
      · cases hanswer
        exact absurd rfl hstatus.2
      · rename_i record hobservation
        split at hanswer
        · cases hanswer
          exact absurd rfl hstatus.2
        · rename_i hauthentic
          simp only [Bool.not_eq_true', Bool.not_eq_false, Bool.and_eq_true] at hauthentic
          split at hanswer
          · cases hanswer
            exact absurd rfl hstatus.2
          · rename_i evaluated hevaluated
            obtain ⟨fresh, hfresh, hanswer⟩ := bind_eq_ok.mp hanswer
            obtain ⟨hrepresentable, hcurrent, huntil⟩ := freshClassification_eq_ok hfresh
            refine ⟨facts, record, evaluated, ⟨hcited, hobservation, hauthentic.1, hauthentic.2,
              hevaluated, hrepresentable⟩, ?_⟩
            rw [huntil] at hanswer
            unfold healthAt
            split at hanswer
            · cases hanswer
              simp [*]
            · split at hanswer
              · cases hanswer
                simp [*]
              · cases hanswer
                simp [*]
    · cases hanswer
      exact absurd rfl hstatus.2
  · rintro ⟨facts, record, evaluated, hauthentic, rfl⟩
    have hfresh : ∃ fresh, freshClassification w config record evaluated = .ok fresh := by
      simp [freshClassification, checkedAdd, hauthentic.representable, okOr]
    obtain ⟨fresh, hfresh⟩ := hfresh
    obtain ⟨-, hcurrent, huntil⟩ := freshClassification_eq_ok hfresh
    simp only [answer, hauthentic.cited, answerCycle, hauthentic.observation, hauthentic.backed,
      hauthentic.bound, hauthentic.instant, hfresh, huntil, ok_bind, Bool.and_self, Bool.not_true,
      Bool.false_eq_true, if_false, healthAt]
    split
    · exact ⟨_, rfl, rfl⟩
    · split
      · exact ⟨_, rfl, rfl⟩
      · exact ⟨_, rfl, hcurrent⟩

end Resolutions

/-! ## Current evidence -/

/-- What it takes for a citation to be current, in terms of the tables. -/
structure CurrentEvidence (w : CanonicalPlatform) (request : AgObservationRequestV1)
    (config : ObservationResolverConfigV1) (s : Store) (c : String) (row : CycleRow)
    (record : ObservationRecordV1) (intent : TypedCoarseIntentV2) (evaluated : Nat) : Prop where
  found : s.cycles[c]? = some row
  observation : row.snapshot.observation = some record
  cited : record.observationId = request.observation
  unique : ∀ (c' : String) (row' : CycleRow) (record' : ObservationRecordV1),
    s.cycles[c']? = some row' → row'.snapshot.observation = some record' →
    record'.observationId = request.observation → c' = c
  external : ∀ composition, record.externalEvidence = some composition →
    (validateExternalCompositionSource w composition).run s = (.ok (), s)
  decision : ∀ composition, record.decisionExternalEvidence = some composition →
    (validateDecisionCompositionSource w composition).run s = (.ok (), s)
  supportSubject : record.support.subjectId = row.snapshot.slot.subjectId
  postureSubject : record.posture.policy.subject.id = row.snapshot.slot.subjectId
  standing : record.support.standing ≠ .contradictory
  exact : row.snapshot.intent = some intent
  intentSubject : intent.subjectId = row.snapshot.slot.subjectId
  requestedSubject : intent.subjectDigest = request.subject
  instant : evaluatedMs w record.posture = some evaluated
  fresh : request.nowUnixMs < evaluated + config.defaultTtlMs
  horizon : ∀ horizon, evidenceHorizon record = some horizon → request.nowUnixMs < horizon
  latest : ∀ (c' : String) (row' : CycleRow), s.cycles[c']? = some row' →
    row'.snapshot.slot.family = row.snapshot.slot.family →
    row'.snapshot.observation.isSome = true →
    row.snapshot.slot.orderKey.precedes row'.snapshot.slot.orderKey = false

section Current

variable {w : CanonicalPlatform} {s : Store} {request : AgObservationRequestV1}
  {config : ObservationResolverConfigV1}

theorem toBool_run_iff {call : Call Store CanonicalStoreError Unit} (h : ReadOnly call) :
    (call.run s).1.toBool = true ↔ call.run s = (.ok (), s) := by
  have hstore := h.run_store s
  rcases hrun : call.run s with ⟨result, t⟩
  rw [hrun] at hstore
  cases result with
  | ok u => simp [Except.toBool, ← hstore]
  | error e => simp [Except.toBool]

theorem backs_iff {record : ObservationRecordV1} : (evidenceOf w s).backs record = true ↔
    (∀ composition, record.externalEvidence = some composition →
      (validateExternalCompositionSource w composition).run s = (.ok (), s)) ∧
    ∀ composition, record.decisionExternalEvidence = some composition →
      (validateDecisionCompositionSource w composition).run s = (.ok (), s) := by
  simp only [Evidence.backs, evidenceOf, externalReproduces, decisionReproduces, Bool.and_eq_true,
    Option.all_eq_true, toBool_run_iff (readOnly_validateExternalCompositionSource w _),
    toBool_run_iff (readOnly_validateDecisionCompositionSource _)]

theorem crossBound_iff {slot : RecurrenceSlotV1} {record : ObservationRecordV1}
    {intent : Option TypedCoarseIntentV2} : crossBound request slot record intent = true ↔
      record.support.subjectId = slot.subjectId ∧
      record.posture.policy.subject.id = slot.subjectId ∧
      record.observationId = request.observation ∧ record.support.standing ≠ .contradictory ∧
      ∃ exact, intent = some exact ∧ exact.subjectId = slot.subjectId ∧
        exact.subjectDigest = request.subject := by
  simp only [crossBound, Bool.and_eq_true, beq_iff_eq, bne_iff_ne, ne_eq, Option.any_eq_true,
    and_assoc]

/-- Exactly one row carries the identity. -/
theorem cited_singleton_iff (h : Wf w s) {observationId : String} {facts : CitedFacts} :
    (evidenceOf w s).cited observationId = [facts] ↔
      ∃ (c : String) (row : CycleRow) (record : ObservationRecordV1), s.cycles[c]? = some row ∧
        facts = factsOf row.snapshot ∧ row.snapshot.observation = some record ∧
        record.observationId = observationId ∧
        ∀ (c' : String) (row' : CycleRow) (record' : ObservationRecordV1),
          s.cycles[c']? = some row' → row'.snapshot.observation = some record' →
          record'.observationId = observationId → c' = c := by
  have hmem : ∀ (c : String) (row : CycleRow), (c, row) ∈ rowsCiting s observationId ↔
      s.cycles[c]? = some row ∧ ∃ record, row.snapshot.observation = some record ∧
        record.observationId = observationId := by
    intro c row
    rw [mem_rowsCiting]
    refine and_congr_right fun hrow => ?_
    rw [(h.backed c row hrow).columns]
    simp only [Store.cycleRow, Option.map_eq_some_iff]
  have hdistinct : (rowsCiting s observationId).Nodup := by
    have hkeys : s.cycles.toList.Pairwise (· ≠ ·) := by
      refine Std.ExtTreeMap.distinct_keys_toList.imp ?_
      rintro a b hab rfl
      simp at hab
    exact List.Nodup.filter _ hkeys
  have hcited : (evidenceOf w s).cited observationId =
      (rowsCiting s observationId).map (factsOf ·.2.snapshot) := rfl
  rw [hcited]
  constructor
  · intro hone
    obtain ⟨⟨c, row⟩, hlist, hfacts⟩ := List.map_eq_singleton_iff.mp hone
    have hin : (c, row) ∈ rowsCiting s observationId := by simp [hlist]
    obtain ⟨hrow, record, hrecord, hid⟩ := (hmem c row).mp hin
    refine ⟨c, row, record, hrow, hfacts.symm, hrecord, hid, ?_⟩
    intro c' row' record' hrow' hrecord' hid'
    have hin := (hmem c' row').mpr ⟨hrow', record', hrecord', hid'⟩
    rw [hlist, List.mem_singleton] at hin
    exact congrArg Prod.fst hin
  · rintro ⟨c, row, record, hrow, rfl, hrecord, hid, hunique⟩
    have hlist : rowsCiting s observationId = [(c, row)] := by
      refine List.perm_singleton.mp ((List.perm_ext_iff_of_nodup hdistinct
        (List.nodup_singleton _)).mpr ?_)
      rintro ⟨c', row'⟩
      rw [hmem, List.mem_singleton]
      constructor
      · rintro ⟨hrow', record', hrecord', hid'⟩
        obtain rfl := hunique c' row' record' hrow' hrecord' hid'
        rw [hrow] at hrow'
        cases hrow'
        rfl
      · intro heq
        cases heq
        exact ⟨hrow, record, hrecord, hid⟩
    rw [hlist]
    rfl

/-- The resolver answers `Current` exactly for current evidence with a deadline it can represent. -/
theorem resolves_current_iff (h : Wf w s) (hconfig : config.validate = .ok ())
    (hrequest : request.validate w = .ok ()) : Resolves w request config s .current ↔
      ∃ c row record intent evaluated,
        CurrentEvidence w request config s c row record intent evaluated ∧
          evaluated + config.defaultTtlMs < u64Bound := by
  rw [resolves_iff h hconfig hrequest, answer_status_iff (by simp)]
  constructor
  · rintro ⟨-, facts, record, evaluated, hauthentic, hhealth⟩
    obtain ⟨c, row, record', hrow, rfl, hrecord, hid, hunique⟩ :=
      (cited_singleton_iff h).mp hauthentic.cited
    have hsame : record' = record := Option.some.inj (hrecord.symm.trans hauthentic.observation)
    subst hsame
    obtain ⟨hexternal, hdecision⟩ := backs_iff.mp hauthentic.backed
    obtain ⟨hsupport, hposture, -, hstanding, intent, hintent, hintentSubject, hsubject⟩ :=
      crossBound_iff.mp hauthentic.bound
    have hlive : request.nowUnixMs < deadline config record' evaluated ∧
        supersededIn s row.snapshot.slot = false := by
      unfold healthAt at hhealth
      split at hhealth
      · cases hhealth
      · split at hhealth
        · cases hhealth
        · rename_i hdeadline hsuperseded
          exact ⟨not_le.mp hdeadline, by simpa [evidenceOf, factsOf] using hsuperseded⟩
    obtain ⟨hfresh, hhorizon⟩ := lt_deadline_iff.mp hlive.1
    refine ⟨c, row, record', intent, evaluated, ⟨hrow, hrecord, hid, hunique, hexternal, hdecision,
      hsupport, hposture, hstanding, hintent, hintentSubject, hsubject, hauthentic.instant, hfresh,
      hhorizon, ?_⟩, hauthentic.representable⟩
    intro c' row' hrow' hfamily hobserved
    by_contra hlater
    rw [Bool.not_eq_false] at hlater
    have hsuperseded := supersededIn_iff.mpr ⟨c', row', hrow', hfamily, hobserved, hlater⟩
    rw [hlive.2] at hsuperseded
    cases hsuperseded
  · rintro ⟨c, row, record, intent, evaluated, he, hrepresentable⟩
    refine ⟨?_, factsOf row.snapshot, record, evaluated, ⟨?_, he.observation,
      backs_iff.mpr ⟨he.external, he.decision⟩, ?_, he.instant, hrepresentable⟩, ?_⟩
    · have hfresh := he.fresh
      unfold maximumU64
      omega
    · exact (cited_singleton_iff h).mpr
        ⟨c, row, record, he.found, rfl, he.observation, he.cited, he.unique⟩
    · exact crossBound_iff.mpr ⟨he.supportSubject, he.postureSubject, he.cited, he.standing,
        intent, he.exact, he.intentSubject, he.requestedSubject⟩
    · have hdeadline := lt_deadline_iff.mpr ⟨he.fresh, he.horizon⟩
      have hlatest : supersededIn s row.snapshot.slot = false := by
        rw [Bool.eq_false_iff, ne_eq, supersededIn_iff]
        rintro ⟨c', row', hrow', hfamily, hobserved, hlater⟩
        rw [he.latest c' row' hrow' hfamily hobserved] at hlater
        cases hlater
      simp only [healthAt, evidenceOf, factsOf, hlatest, not_le.mpr hdeadline, if_false,
        Bool.false_eq_true]

end Current

/-! ## Evidence is never revived -/

section Monotone

variable {w : CanonicalPlatform} {request : AgObservationRequestV1}
  {config : ObservationResolverConfigV1}

/-- Evidence that went stale or was superseded is not current in any later state. -/
theorem not_current_later {s s' : Store} (hs : Wf w s)
    (hsteps : Relation.ReflTransGen (Promise w) s s') (hconfig : config.validate = .ok ())
    (hrequest : request.validate w = .ok ()) {now : Nat} (hnow : request.nowUnixMs ≤ now)
    (hended : Resolves w request config s .stale ∨ Resolves w request config s .superseded) :
    ¬ Resolves w { request with nowUnixMs := now } config s' .current := by
  intro hcurrent
  have hs' := hs.steps hsteps
  have hrequest' : ({ request with nowUnixMs := now } : AgObservationRequestV1).validate w =
      .ok () := hrequest
  obtain ⟨c', row', record', intent, evaluated', he, -⟩ :=
    (resolves_current_iff hs' hconfig hrequest').mp hcurrent
  have hcited : ∃ facts record evaluated,
      Authentic w request config (evidenceOf w s) facts record evaluated ∧
      (deadline config record evaluated ≤ request.nowUnixMs ∨ supersededIn s facts.slot = true) := by
    rcases hended with hstale | hsuperseded
    · rw [resolves_iff hs hconfig hrequest, answer_status_iff (by simp)] at hstale
      obtain ⟨-, facts, record, evaluated, hauthentic, hhealth⟩ := hstale
      refine ⟨facts, record, evaluated, hauthentic, ?_⟩
      unfold healthAt at hhealth
      split at hhealth
      · exact .inl ‹_›
      · split at hhealth <;> cases hhealth
    · rw [resolves_iff hs hconfig hrequest, answer_status_iff (by simp)] at hsuperseded
      obtain ⟨-, facts, record, evaluated, hauthentic, hhealth⟩ := hsuperseded
      refine ⟨facts, record, evaluated, hauthentic, ?_⟩
      unfold healthAt at hhealth
      split at hhealth
      · cases hhealth
      · split at hhealth
        · exact .inr ‹_›
        · cases hhealth
  obtain ⟨facts, record, evaluated, hauthentic, hended⟩ := hcited
  obtain ⟨c, row, record₀, hrow, rfl, hrecord, hid, -⟩ :=
    (cited_singleton_iff hs).mp hauthentic.cited
  have hsame : record₀ = record := Option.some.inj (hrecord.symm.trans hauthentic.observation)
  subst hsame
  -- The cited cycle still carries its record, so it is the one that is cited now.
  obtain ⟨later, hlater, hretains, -⟩ := row_of_steps hs hsteps hrow
  have hkept := hretains.observation record₀ hrecord
  obtain rfl := he.unique c later record₀ hlater hkept hid
  have hrow' : row' = later := Option.some.inj (he.found.symm.trans hlater)
  subst hrow'
  have hrecord' : record' = record₀ := Option.some.inj (he.observation.symm.trans hkept)
  subst hrecord'
  rcases hended with hdeadline | hsuperseded
  · have hevaluated : evaluated' = evaluated :=
      Option.some.inj (he.instant.symm.trans hauthentic.instant)
    subst hevaluated
    have hfresh : now < deadline config record' evaluated' :=
      lt_deadline_iff.mpr ⟨he.fresh, he.horizon⟩
    omega
  · obtain ⟨c₁, row₁, hrow₁, hfamily, hobserved, hprecedes⟩ := supersededIn_iff.mp hsuperseded
    obtain ⟨record₁, hrecord₁⟩ := Option.isSome_iff_exists.mp hobserved
    obtain ⟨row₂, hrow₂, hretains₁, -⟩ := row_of_steps hs hsteps hrow₁
    have hstill := he.latest c₁ row₂ hrow₂
      (by rw [hretains₁.slot, hretains.slot]; exact hfamily)
      (by rw [hretains₁.observation record₁ hrecord₁]; rfl)
    rw [hretains₁.slot, hretains.slot] at hstill
    rw [show (factsOf row.snapshot).slot = row.snapshot.slot from rfl, hstill] at hprecedes
    cases hprecedes

end Monotone

end Nightshift.Canonical
