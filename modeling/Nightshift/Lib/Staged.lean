import Nightshift.Lib.Interleave

/-!
# Staged pools

What is left of a call is often one of a few known calls. When every process
stands at a stage, an invariant of the store and the stages together is carried
through every interleaving by looking at one action of one stage at a time.
-/

namespace Interleave

variable {σ ε α κ : Type}

/-- Every pool is the image of a list of stages that keep an invariant with the store. -/
theorem Reached.staged {start : Nat → Call σ ε α → Prop} {s₀ : σ} {rest : κ → Call σ ε α}
    {Inv : σ → List κ → Prop} (hinit : Inv s₀ [])
    (hstart : ∀ s stages call, Inv s stages → start stages.length call →
      ∃ stage, rest stage = call ∧ Inv s (stages ++ [stage]))
    (hact : ∀ s stages p stage update next, Inv s stages → stages[p]? = some stage →
      rest stage = .act update next →
      ∃ stage', rest stage' = next s ∧ Inv (update s) (stages.set p stage'))
    {entries : List (Entry σ)} {pool : Pool σ ε α} (h : Reached start s₀ entries pool) :
    ∃ stages, pool.calls = stages.map rest ∧ Inv pool.store stages := by
  induction h with
  | init => exact ⟨[], rfl, hinit⟩
  | @start entries pool call _ hcall ih =>
    obtain ⟨stages, hcalls, hinv⟩ := ih
    have hlength : pool.calls.length = stages.length := by rw [hcalls, List.length_map]
    obtain ⟨stage, hrest, hinv'⟩ := hstart _ stages call hinv (hlength ▸ hcall)
    exact ⟨stages ++ [stage], by simp [hcalls, hrest], hinv'⟩
  | @act entries pool p update next _ hp ih =>
    obtain ⟨stages, hcalls, hinv⟩ := ih
    rw [hcalls, List.getElem?_map] at hp
    obtain ⟨stage, hstage, hrest⟩ := Option.map_eq_some_iff.mp hp
    obtain ⟨stage', hrest', hinv'⟩ := hact _ stages p stage update next hinv hstage hrest
    exact ⟨stages.set p stage', by rw [hcalls, List.map_set, hrest'], hinv'⟩

/-- A stage that is not the one acting stays. -/
theorem stage_of_set {stages : List κ} {p q : Nat} {stage stage' : κ}
    (h : (stages.set p stage')[q]? = some stage) :
    (q = p ∧ stage = stage') ∨ (q ≠ p ∧ stages[q]? = some stage) := by
  by_cases hq : p = q
  · subst hq
    rw [List.getElem?_set] at h
    simp only [if_true] at h
    split at h
    · cases h
      exact .inl ⟨rfl, rfl⟩
    · cases h
  · rw [List.getElem?_set_ne hq] at h
    exact .inr ⟨fun heq => hq heq.symm, h⟩

end Interleave
