import Nightshift.Lib.Interleave

/-!
# The trail of one process

What a process does next may rest on what it has done itself, long before and
with others acting in between. A call is followed along its own actions: each
action is judged by the trail of the earlier ones, at any state the trail admits.
-/

namespace Interleave

section Tracks

variable {σ τ ε ε' α β : Type}

/-- With the trail `past` behind it the call only acts as `J` allows, at whatever states `Adm`
admits, and ends as `Q` says of its whole trail. -/
inductive Tracks (Adm : List (σ × σ) → σ → Prop) (J : List (σ × σ) → σ → σ → Prop) :
    List (σ × σ) → Call σ ε α → (List (σ × σ) → Except ε α → Prop) → Prop
  | done {past : List (σ × σ)} {result : Except ε α} {Q : List (σ × σ) → Except ε α → Prop} :
      Q past result → Tracks Adm J past (.done result) Q
  | act {past : List (σ × σ)} {update : σ → σ} {next : σ → Call σ ε α}
      {Q : List (σ × σ) → Except ε α → Prop} :
      (∀ s, Adm past s → J past s (update s)) →
      (∀ s, Adm past s → Tracks Adm J (past ++ [(s, update s)]) (next s) Q) →
      Tracks Adm J past (.act update next) Q

namespace Tracks

variable {Adm : List (σ × σ) → σ → Prop} {J : List (σ × σ) → σ → σ → Prop} {past : List (σ × σ)}

theorem mono {call : Call σ ε α} {Q Q' : List (σ × σ) → Except ε α → Prop}
    (h : Tracks Adm J past call Q) (hQ : ∀ past' result, Q past' result → Q' past' result) :
    Tracks Adm J past call Q' := by
  induction h with
  | done hq => exact .done (hQ _ _ hq)
  | act hj _ ih => exact .act hj fun s hs => ih s hs hQ

theorem bind {call : Call σ ε α} {f : α → Call σ ε β} {Q : List (σ × σ) → Except ε α → Prop}
    {Q' : List (σ × σ) → Except ε β → Prop} (h : Tracks Adm J past call Q)
    (hok : ∀ past' a, Q past' (.ok a) → Tracks Adm J past' (f a) Q')
    (herror : ∀ past' e, Q past' (.error e) → Q' past' (.error e)) :
    Tracks Adm J past (call >>= f) Q' := by
  induction h with
  | @done past result Q hq =>
    cases result with
    | ok a => exact hok past a hq
    | error e => exact .done (herror past e hq)
  | act hj _ ih => exact .act hj fun s hs => ih s hs hok herror

/-- A check that passes goes on; one that fails ends the call. -/
theorem check_bind {result : Except ε α} {f : α → Call σ ε β}
    {Q : List (σ × σ) → Except ε β → Prop}
    (hok : ∀ a, result = .ok a → Tracks Adm J past (f a) Q)
    (herror : ∀ e, Q past (.error e)) : Tracks Adm J past (Call.check result >>= f) Q := by
  cases result with
  | ok a => exact hok a rfl
  | error e => exact .done (herror e)

theorem commit {transaction : σ → Except ε (α × σ)} {Q : List (σ × σ) → Except ε α → Prop}
    (hok : ∀ s, Adm past s → ∀ a s', transaction s = .ok (a, s') →
      J past s s' ∧ Q (past ++ [(s, s')]) (.ok a))
    (herror : ∀ s, Adm past s → ∀ e, transaction s = .error e →
      J past s s ∧ Q (past ++ [(s, s)]) (.error e)) :
    Tracks Adm J past (Call.commit transaction) Q := by
  refine .act ?_ ?_
  · intro s hs
    cases ht : transaction s with
    | ok out => exact (hok s hs out.1 out.2 ht).1
    | error e => exact (herror s hs e ht).1
  · intro s hs
    cases ht : transaction s with
    | ok out => exact .done (hok s hs out.1 out.2 ht).2
    | error e => exact .done (herror s hs e ht).2

theorem attempt {call : Call σ ε α} {Q : List (σ × σ) → Except ε α → Prop}
    (h : Tracks Adm J past call Q) :
    Tracks Adm J past (Call.attempt call : Call σ ε' Unit)
      fun past' _ => ∃ result, Q past' result := by
  induction h with
  | done hq => exact .done ⟨_, hq⟩
  | act hj _ ih => exact .act hj ih

theorem mapErr {f : ε → ε'} {call : Call σ ε α} {Q : List (σ × σ) → Except ε' α → Prop}
    (h : Tracks Adm J past call fun past' result => Q past' (Checked.mapErr f result)) :
    Tracks Adm J past (call.mapErr f) Q := by
  generalize hQ : (fun past' result => Q past' (Checked.mapErr f result)) = Q' at h
  induction h with
  | done hq => subst hQ; exact .done hq
  | act hj _ ih => exact .act hj fun s hs => ih s hs hQ

/-- A call that makes only moves of `T` keeps what every such move keeps of the trail. -/
theorem of_moves {K : List (σ × σ) → Prop} {T : σ → σ → Prop} {call : Call σ ε α}
    (h : Moves T call)
    (hstep : ∀ past s s', K past → Adm past s → s' = s ∨ T s s' →
      J past s s' ∧ K (past ++ [(s, s')])) (hK : K past) :
    Tracks Adm J past call fun past' _ => K past' := by
  induction h generalizing past with
  | done result => exact .done hK
  | @act update next hact _ ih =>
    refine .act ?_ ?_
    · intro s hs
      exact (hstep past s (update s) hK hs (hact s)).1
    · intro s hs
      exact ih s (hstep past s (update s) hK hs (hact s)).2

/-- What is known of every move of a call goes with what its trail allows. -/
theorem and_moves {T : σ → σ → Prop} {call : Call σ ε α} {Q : List (σ × σ) → Except ε α → Prop}
    (h : Tracks Adm J past call Q) (hmoves : Moves T call) :
    Tracks Adm (fun past s s' => J past s s' ∧ (s' = s ∨ T s s')) past call Q := by
  induction h with
  | done hq => exact .done hq
  | act hj _ ih =>
    cases hmoves with
    | act hact hrest =>
      refine .act (fun s hs => ⟨hj s hs, hact s⟩) fun s hs => ih s hs (hrest s)

theorem weaken {J' : List (σ × σ) → σ → σ → Prop} {call : Call σ ε α}
    {Q : List (σ × σ) → Except ε α → Prop} (h : Tracks Adm J past call Q)
    (hJ : ∀ past s s', Adm past s → J past s s' → J' past s s') : Tracks Adm J' past call Q := by
  induction h with
  | done hq => exact .done hq
  | act hj _ ih => exact .act (fun s hs => hJ _ s _ hs (hj s hs)) ih

/-- A call on one component is followed by the trail of that component. -/
theorem within {view : τ → σ} {put : σ → τ → τ} (hview : ∀ s t, view (put s t) = s)
    {Adm' : List (τ × τ) → τ → Prop} {J' : List (τ × τ) → τ → τ → Prop} {past : List (τ × τ)}
    {call : Call σ ε α} {Q : List (σ × σ) → Except ε α → Prop}
    (h : Tracks Adm J (past.map (Prod.map view view)) call Q)
    (hAdm : ∀ past t, Adm' past t → Adm (past.map (Prod.map view view)) (view t))
    (hJ : ∀ past t s, Adm' past t → J (past.map (Prod.map view view)) (view t) s →
      J' past t (put s t)) :
    Tracks Adm' J' past (call.within view put)
      fun past' result => Q (past'.map (Prod.map view view)) result := by
  generalize hpast : past.map (Prod.map view view) = past₀ at h
  induction h generalizing past with
  | done hq =>
    subst hpast
    exact .done hq
  | @act past₀ update next Q hj _ ih =>
    subst hpast
    refine .act ?_ ?_
    · intro t ht
      exact hJ past t _ ht (hj (view t) (hAdm past t ht))
    · intro t ht
      refine ih (view t) (hAdm past t ht) ?_
      simp [hview]

end Tracks

end Tracks

/-! ## Calls on one component -/

section Within

variable {σ τ ε α : Type} {view : τ → σ} {put : σ → τ → τ}

theorem Moves.within {T : σ → σ → Prop} {T' : τ → τ → Prop} {call : Call σ ε α} (h : Moves T call)
    (hsame : ∀ t, put (view t) t = t) (hT : ∀ t s, T (view t) s → T' t (put s t)) :
    Moves T' (call.within view put) := by
  induction h with
  | done result => exact .done result
  | @act update next hact _ ih =>
    refine .act ?_ fun t => ih (view t)
    intro t
    rcases hact (view t) with heq | hmove
    · left
      rw [heq, hsame]
    · exact .inr (hT t _ hmove)

end Within

/-! ## Trails under an invariant -/

section Admits

variable {σ ε α : Type} {Inv : σ → Prop} {G : σ → σ → Prop} {past : List (σ × σ)}

/-- The state keeps the invariant, and comes by steps of `G` from every state the trail left. -/
def Admits (Inv : σ → Prop) (G : σ → σ → Prop) (past : List (σ × σ)) (s : σ) : Prop :=
  Inv s ∧ ∀ step ∈ past, Inv step.2 ∧ Relation.ReflTransGen G step.2 s

theorem later_of_steps {s s' : σ} (h : Relation.ReflTransGen G s s') (p : Nat) :
    Later (fun _ : Nat => G) p s s' := by
  induction h with
  | refl => exact .refl
  | tail _ hstep ih => exact ih.tail ⟨p + 1, by omega, hstep⟩

theorem Tracks.of_obeys_behind {p : Nat} {s : σ} {call : Call σ ε α}
    {Q : σ → Except ε α → Prop} (h : Obeys (fun _ => G) p s call Q)
    (hs : ∃ step ∈ past, step.2 = s) :
    Tracks (Admits Inv G) (fun _ => G) past call fun _ _ => True := by
  induction h generalizing past with
  | done => exact .done trivial
  | @act s update next Q hg _ ih =>
    obtain ⟨step, hstep, rfl⟩ := hs
    have hlater : ∀ t, Admits Inv G past t → Later (fun _ => G) p step.2 t :=
      fun t ht => later_of_steps (ht.2 step hstep).2 p
    refine .act (fun t ht => hg t (hlater t ht)) ?_
    intro t ht
    exact ih t (hlater t ht) ⟨(t, update t), List.mem_append_right _ (List.mem_singleton_self _), rfl⟩

/-- A call that keeps a promise from every state of the invariant on keeps it along its trail. -/
theorem Tracks.of_obeys {p : Nat} {call : Call σ ε α} {Q : σ → Except ε α → Prop}
    (h : ∀ s, Inv s → Obeys (fun _ => G) p s call Q) :
    Tracks (Admits Inv G) (fun _ => G) past call fun _ _ => True := by
  cases call with
  | done result => exact .done trivial
  | act update next =>
    refine .act ?_ ?_
    · intro t ht
      cases h t ht.1 with
      | act hg _ => exact hg t .refl
    · intro t ht
      cases h t ht.1 with
      | act _ hrest =>
        exact of_obeys_behind (hrest t .refl)
          ⟨(t, update t), List.mem_append_right _ (List.mem_singleton_self _), rfl⟩

end Admits

/-! ## Trails in a pool -/

section Pools

variable {σ ε α : Type} {start : Nat → Call σ ε α → Prop} {s₀ : σ} {Inv : σ → Prop}
  {G : σ → σ → Prop} {J : Nat → List (σ × σ) → σ → σ → Prop}

theorem stepsOf_append_self (entries : List (Entry σ)) (p : Nat) (s s' : σ) :
    stepsOf p (entries ++ [⟨p, s, s'⟩]) = stepsOf p entries ++ [(s, s')] := by
  simp [stepsOf]

theorem stepsOf_append_other {entries : List (Entry σ)} {p q : Nat} (hne : q ≠ p) (s s' : σ) :
    stepsOf p (entries ++ [⟨q, s, s'⟩]) = stepsOf p entries := by
  simp [stepsOf, hne]

/-- What holds of a pool whose calls are tracked. -/
structure Tracked (Inv : σ → Prop) (G : σ → σ → Prop) (J : Nat → List (σ × σ) → σ → σ → Prop)
    (s₀ : σ) (entries : List (Entry σ)) (pool : Pool σ ε α) : Prop where
  inv : ∀ s ∈ states s₀ entries, Inv s
  chain : (states s₀ entries).IsChain G
  accounted : ∀ i entry, entries[i]? = some entry →
    J entry.process (stepsOf entry.process (entries.take i)) entry.before entry.after
  reaches : ∀ entry ∈ entries, Relation.ReflTransGen G entry.after pool.store
  rests : ∀ p rest, pool.calls[p]? = some rest →
    Tracks (Admits Inv G) (J p) (stepsOf p entries) rest fun _ _ => True

/-- Whatever the interleaving, each action was allowed by the trail of its process, and every
action is a step of `G` that keeps the invariant. -/
theorem Reached.tracked {entries : List (Entry σ)} {pool : Pool σ ε α}
    (hinit : Inv s₀) (hpreserve : ∀ s s', Inv s → G s s' → Inv s')
    (hJ : ∀ p past s s', Admits Inv G past s → J p past s s' → G s s')
    (hstart : ∀ p call, start p call → Tracks (Admits Inv G) (J p) [] call fun _ _ => True)
    (h : Reached start s₀ entries pool) : Tracked Inv G J s₀ entries pool := by
  induction h with
  | init =>
    exact ⟨by simpa [states] using hinit, .singleton _, by simp, by simp, by simp⟩
  | @start entries pool call hreached hcall ih =>
    refine ⟨ih.inv, ih.chain, ih.accounted, ih.reaches, ?_⟩
    intro p rest hrest
    rw [List.getElem?_append] at hrest
    split at hrest
    · exact ih.rests p rest hrest
    · have hlt := (List.getElem?_eq_some_iff.mp hrest).1
      have hlen : p = pool.calls.length := by simp at hlt; omega
      have hsub : p - pool.calls.length = 0 := by omega
      rw [hsub] at hrest
      cases hrest
      have hsteps : stepsOf p entries = [] := by
        simp only [stepsOf, List.map_eq_nil_iff, List.filter_eq_nil_iff, beq_iff_eq]
        intro entry hentry heq
        have := hreached.process_lt entry hentry
        omega
      rw [hsteps]
      exact hstart p _ (hlen ▸ hcall)
  | @act entries pool p update next hreached hp ih =>
    have hlast := hreached.getLast_states
    have hadm : Admits Inv G (stepsOf p entries) pool.store := by
      refine ⟨ih.inv _ (List.mem_of_getLast? hlast), ?_⟩
      intro step hstep
      obtain ⟨entry, hentry, -, rfl⟩ := mem_stepsOf.mp hstep
      refine ⟨ih.inv _ (List.mem_cons_of_mem _ ?_), ih.reaches entry hentry⟩
      exact List.mem_map_of_mem (f := (·.after)) hentry
    obtain ⟨hj, hrest⟩ : J p (stepsOf p entries) pool.store (update pool.store) ∧
        Tracks (Admits Inv G) (J p) (stepsOf p entries ++ [(pool.store, update pool.store)])
          (next pool.store) fun _ _ => True := by
      cases ih.rests p _ hp with
      | act hj hrest => exact ⟨hj pool.store hadm, hrest pool.store hadm⟩
    have hg := hJ p _ _ _ hadm hj
    constructor
    case inv =>
      intro s hs
      rw [states_append] at hs
      rcases List.mem_append.mp hs with hold | hnew
      · exact ih.inv s hold
      · rw [List.mem_singleton.mp hnew]
        exact hpreserve _ _ hadm.1 hg
    case chain =>
      rw [states_append]
      refine List.isChain_append.mpr ⟨ih.chain, .singleton _, ?_⟩
      intro x hx y hy
      rw [hlast] at hx
      cases hx
      cases hy
      exact hg
    case accounted =>
      intro i entry hi
      rw [List.getElem?_append] at hi
      split at hi
      · rename_i hlt
        rw [List.take_append_of_le_length (by omega)]
        exact ih.accounted i entry hi
      · have hlt := (List.getElem?_eq_some_iff.mp hi).1
        have heq : i = entries.length := by simp at hlt; omega
        subst heq
        simp only [Nat.sub_self, List.getElem?_cons_zero, Option.some.injEq] at hi
        subst hi
        rw [List.take_append_of_le_length (Nat.le_refl _), List.take_length]
        exact hj
    case reaches =>
      intro entry hentry
      rcases List.mem_append.mp hentry with hold | hnew
      · exact (ih.reaches entry hold).tail hg
      · rw [List.mem_singleton.mp hnew]
    case rests =>
      intro q rest hq
      by_cases hpq : p = q
      · subst hpq
        rw [List.getElem?_set_self (List.getElem?_eq_some_iff.mp hp).1] at hq
        cases hq
        rw [stepsOf_append_self]
        exact hrest
      · rw [List.getElem?_set_ne hpq] at hq
        rw [stepsOf_append_other hpq]
        exact ih.rests q rest hq

/-- An own action of the past is an earlier entry of the run. -/
theorem exists_entry_of_mem_stepsOf {p i : Nat} {entries : List (Entry σ)} {step : σ × σ}
    (h : step ∈ stepsOf p (entries.take i)) :
    ∃ k entry, k < i ∧ entries[k]? = some entry ∧ entry.process = p ∧
      (entry.before, entry.after) = step := by
  obtain ⟨entry, hentry, hprocess, hstep⟩ := mem_stepsOf.mp h
  obtain ⟨k, hk, rfl⟩ := List.mem_take_iff_getElem.mp hentry
  exact ⟨k, _, by omega, List.getElem?_eq_getElem (by omega), hprocess, hstep⟩

end Pools

end Interleave
