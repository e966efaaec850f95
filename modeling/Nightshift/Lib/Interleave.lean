import Nightshift.Lib.Checked
import Mathlib.Data.List.Chain
import Mathlib.Logic.Relation

/-!
# Calls over a shared store

A call is a sequence of atomic actions on a store that other calls act on in
between. Reading is an action that leaves the store alone, a transaction either
commits or leaves the store alone, and a call that is never scheduled again has
crashed. A pool holds the store and every call in flight.

Each process `p` promises that its own actions stay inside a relation `G p`, and
may count on the same promise of every other process. A call obeys its promise
from a state on when every action it can take at a later state does.
-/

namespace Interleave

inductive Call (σ ε α : Type) where
  | done (result : Except ε α)
  | act (update : σ → σ) (next : σ → Call σ ε α)

namespace Call

variable {σ τ ε ε' α β : Type}

protected def bind : Call σ ε α → (α → Call σ ε β) → Call σ ε β
  | done (.ok a), f => f a
  | done (.error e), _ => done (.error e)
  | act update next, f => act update fun s => (next s).bind f

instance : Monad (Call σ ε) where
  pure a := done (.ok a)
  bind := Call.bind

/-- A computation that does not touch the store. -/
def check (result : Except ε α) : Call σ ε α := done result

/-- One atomic read. -/
def read (f : σ → α) : Call σ ε α := act id fun s => done (.ok (f s))

/-- One transaction: it commits its store, or it is rolled back. -/
def commit (transaction : σ → Except ε (α × σ)) : Call σ ε α :=
  act
    (fun s => match transaction s with
      | .ok (_, s') => s'
      | .error _ => s)
    fun s => done (match transaction s with
      | .ok (a, _) => .ok a
      | .error e => .error e)

/-- `let _ = call;` -/
def attempt : Call σ ε α → Call σ ε' Unit
  | done _ => done (.ok ())
  | act update next => act update fun s => (next s).attempt

/-- `match call`: the result is looked at and not passed on. -/
def outcome : Call σ ε α → Call σ ε' (Except ε α)
  | done result => done (.ok result)
  | act update next => act update fun s => (next s).outcome

/-- `call.map(|_| ())` -/
def ignore (call : Call σ ε α) : Call σ ε Unit := call >>= fun _ => pure ()

/-- `call.map_err(f)` -/
def mapErr (f : ε → ε') : Call σ ε α → Call σ ε' α
  | done result => done (Checked.mapErr f result)
  | act update next => act update fun s => (next s).mapErr f

/-- A call on one component of a larger store. -/
def within (view : τ → σ) (put : σ → τ → τ) : Call σ ε α → Call τ ε α
  | done result => done result
  | act update next => act (fun t => put (update (view t)) t) fun t => (next (view t)).within view put

/-- A `for` loop over a list. -/
def forEach (xs : List α) (body : α → Call σ ε Unit) : Call σ ε Unit :=
  match xs with
  | [] => pure ()
  | x :: rest => do
    body x
    forEach rest body

/-- The call with nobody else acting on the store. -/
def run : Call σ ε α → σ → Except ε α × σ
  | done result, s => (result, s)
  | act update next, s => (next s).run (update s)

@[simp] theorem run_done (result : Except ε α) (s : σ) : (done result).run s = (result, s) := rfl

@[simp] theorem run_check (result : Except ε α) (s : σ) : (check result).run s = (result, s) := rfl

@[simp] theorem run_pure (a : α) (s : σ) : (pure a : Call σ ε α).run s = (.ok a, s) := rfl

@[simp] theorem run_read (f : σ → α) (s : σ) : (read f : Call σ ε α).run s = (.ok (f s), s) := rfl

theorem run_bind (call : Call σ ε α) (f : α → Call σ ε β) (s : σ) :
    (call >>= f).run s = match call.run s with
      | (.ok a, s') => (f a).run s'
      | (.error e, s') => (.error e, s') := by
  induction call generalizing s with
  | done result => cases result <;> rfl
  | act update next ih => exact ih s (update s)

theorem run_commit_eq_ok {transaction : σ → Except ε (α × σ)} {s s' : σ} {a : α} :
    (commit transaction).run s = (.ok a, s') ↔ transaction s = .ok (a, s') := by
  cases ht : transaction s with
  | ok out => simp [commit, run, ht, Prod.ext_iff]
  | error e => simp [commit, run, ht]

theorem run_check_bind_eq_ok {result : Except ε α} {f : α → Call σ ε β} {s s' : σ} {b : β} :
    (check result >>= f).run s = (.ok b, s') ↔ ∃ a, result = .ok a ∧ (f a).run s = (.ok b, s') := by
  cases result <;> simp [run_bind]

/-- A check in front of a call that only answers. -/
theorem run_check_bind {result : Except ε α} {f : α → Call σ ε β} {g : α → Except ε β} {s : σ}
    (h : ∀ a, (f a).run s = (g a, s)) : (check result >>= f).run s = (result >>= g, s) := by
  cases result with
  | ok a => exact h a
  | error e => rfl

@[simp] theorem run_bind_ok {call : Call σ ε α} {f : α → Call σ ε β} {s s' : σ} {a : α}
    (h : call.run s = (.ok a, s')) : (call >>= f).run s = (f a).run s' := by
  rw [run_bind, h]

@[simp] theorem run_bind_error {call : Call σ ε α} {f : α → Call σ ε β} {s s' : σ} {e : ε}
    (h : call.run s = (.error e, s')) : (call >>= f).run s = (.error e, s') := by
  rw [run_bind, h]

theorem run_outcome (call : Call σ ε α) (s : σ) :
    (call.outcome : Call σ ε' (Except ε α)).run s = (.ok (call.run s).1, (call.run s).2) := by
  induction call generalizing s with
  | done result => rfl
  | act update next ih => exact ih s (update s)

theorem run_mapErr (f : ε → ε') (call : Call σ ε α) (s : σ) :
    (call.mapErr f).run s = (Checked.mapErr f (call.run s).1, (call.run s).2) := by
  induction call generalizing s with
  | done result => rfl
  | act update next ih => exact ih s (update s)

/-- A call on one component, alone, changes that component only. -/
theorem run_within {view : τ → σ} {put : σ → τ → τ} (hview : ∀ s t, view (put s t) = s)
    (hput : ∀ s s' t, put s (put s' t) = put s t) (hself : ∀ t, put (view t) t = t)
    (call : Call σ ε α) (t : τ) :
    (call.within view put).run t = ((call.run (view t)).1, put (call.run (view t)).2 t) := by
  induction call generalizing t with
  | done result =>
    have := hself t
    simp [within, run, this]
  | act update next ih =>
    have hrest := ih (view t) (put (update (view t)) t)
    rw [hview, hput] at hrest
    exact hrest

theorem read_bind (f : σ → α) (g : α → Call σ ε β) :
    (read f : Call σ ε α) >>= g = act id fun s => g (f s) := rfl

/-- A transaction that never fails. -/
theorem commit_bind_of_ok {transaction : σ → Except ε (α × σ)} {a : α} {update : σ → σ}
    (h : ∀ s, transaction s = .ok (a, update s)) (g : α → Call σ ε β) :
    commit transaction >>= g = act update fun _ => g a := by
  have hupdate : (fun s => match transaction s with
      | .ok (_, s') => s'
      | .error _ => s) = update := by
    funext s
    rw [h s]
  have hnext : (fun s => (done (match transaction s with
      | .ok (a, _) => .ok a
      | .error e => .error e) : Call σ ε α).bind g) = fun _ => g a := by
    funext s
    rw [h s]
    rfl
  exact congrArg₂ act hupdate hnext

/-- A loop whose bodies all pass leaves the store as it found it when they do. -/
theorem run_forEach {xs : List α} {body : α → Call σ ε Unit} {s : σ}
    (h : ∀ x ∈ xs, (body x).run s = (.ok (), s)) : (forEach xs body).run s = (.ok (), s) := by
  induction xs with
  | nil => rfl
  | cons x rest ih =>
    rw [forEach, run_bind_ok (h x List.mem_cons_self)]
    exact ih fun y hy => h y (List.mem_cons_of_mem _ hy)

end Call

/-! ## The actions of one call -/

section Runs

variable {σ ε α β : Type}

/-- A call taken to its result, with the states around each of its own actions. Between two
actions the store may be moved by anyone. -/
inductive Runs : Call σ ε α → List (σ × σ) → Except ε α → Prop
  | done (result : Except ε α) : Runs (.done result) [] result
  | act {update : σ → σ} {next : σ → Call σ ε α} {steps : List (σ × σ)} {result : Except ε α}
      (s : σ) : Runs (next s) steps result → Runs (.act update next) ((s, update s) :: steps) result

theorem Runs.of_done {result result' : Except ε α} {steps : List (σ × σ)}
    (h : Runs (.done result) steps result') : steps = [] ∧ result' = result := by
  cases h
  exact ⟨rfl, rfl⟩

/-- A sequence failed in its first part, or ran its second part behind a result. -/
theorem Runs.of_bind {call : Call σ ε α} {f : α → Call σ ε β} {steps : List (σ × σ)}
    {result : Except ε β} (h : Runs (call >>= f) steps result) :
    (∃ e, Runs call steps (.error e) ∧ result = .error e) ∨
      ∃ a before after, Runs call before (.ok a) ∧ Runs (f a) after result ∧
        steps = before ++ after := by
  induction call generalizing steps with
  | done first =>
    cases first with
    | ok a => exact .inr ⟨a, [], steps, .done _, h, rfl⟩
    | error e =>
      obtain ⟨rfl, rfl⟩ := h.of_done
      exact .inl ⟨e, .done _, rfl⟩
  | act update next ih =>
    cases h with
    | act s hrest =>
      rcases ih s hrest with ⟨e, hfirst, hresult⟩ | ⟨a, before, after, hfirst, hsecond, rfl⟩
      · exact .inl ⟨e, .act s hfirst, hresult⟩
      · exact .inr ⟨a, (s, update s) :: before, after, .act s hfirst, hsecond, rfl⟩

theorem Runs.of_read {f : σ → α} {steps : List (σ × σ)} {result : Except ε α}
    (h : Runs (Call.read f) steps result) : ∃ s, steps = [(s, s)] ∧ result = .ok (f s) := by
  cases h with
  | act s hrest =>
    obtain ⟨rfl, rfl⟩ := hrest.of_done
    exact ⟨s, rfl, rfl⟩

/-- A transaction committed what it computed, or failed and left its state alone. -/
theorem Runs.of_commit {transaction : σ → Except ε (α × σ)} {steps : List (σ × σ)}
    {result : Except ε α} (h : Runs (Call.commit transaction) steps result) :
    (∃ s a s', transaction s = .ok (a, s') ∧ steps = [(s, s')] ∧ result = .ok a) ∨
      ∃ s e, transaction s = .error e ∧ steps = [(s, s)] ∧ result = .error e := by
  cases h with
  | act s hrest =>
    obtain ⟨rfl, rfl⟩ := hrest.of_done
    cases ht : transaction s with
    | ok out => exact .inl ⟨s, out.1, out.2, ht, by simp [ht], by simp⟩
    | error e => exact .inr ⟨s, e, ht, by simp [ht], by simp⟩

/-- A call that took no action ends the same way on every store. -/
theorem Runs.run_nil {call : Call σ ε α} {result : Except ε α} (h : Runs call [] result) (s : σ) :
    call.run s = (result, s) := by
  cases h
  rfl

/-- A call that took one action ends as it does alone at the store it acted on. -/
theorem Runs.run_single {call : Call σ ε α} {result : Except ε α} {s s' : σ}
    (h : Runs call [(s, s')] result) : call.run s = (result, s') := by
  cases h with
  | act _ hrest => exact hrest.run_nil _

/-- A call run alone is one of its runs, and if none of its actions moved the store, nor did it. -/
theorem Runs.of_run (call : Call σ ε α) (s : σ) : ∃ steps, Runs call steps (call.run s).1 ∧
    ((∀ step ∈ steps, step.2 = step.1) → (call.run s).2 = s) := by
  induction call generalizing s with
  | done result => exact ⟨[], .done _, fun _ => rfl⟩
  | act update next ih =>
    obtain ⟨steps, hruns, hstill⟩ := ih s (update s)
    refine ⟨(s, update s) :: steps, .act s hruns, ?_⟩
    intro hall
    have hfirst : update s = s := hall _ List.mem_cons_self
    have hrest := hstill fun step hstep => hall step (List.mem_cons_of_mem _ hstep)
    rw [Call.run, hrest, hfirst]

/-- A call that acts at most once. -/
def Single (call : Call σ ε α) : Prop :=
  ∀ steps result, Runs call steps result → steps.length ≤ 1

theorem Single.commit (transaction : σ → Except ε (α × σ)) : Single (Call.commit transaction) := by
  intro steps result hruns
  rcases hruns.of_commit with ⟨_, _, _, -, rfl, -⟩ | ⟨_, _, -, rfl, -⟩ <;> simp

theorem Single.check_bind {result : Except ε α} {f : α → Call σ ε β} (h : ∀ a, Single (f a)) :
    Single (Call.check result >>= f) := by
  intro steps out hruns
  rcases hruns.of_bind with ⟨e, hfirst, -⟩ | ⟨a, before, after, hfirst, hsecond, rfl⟩
  · obtain ⟨rfl, -⟩ := hfirst.of_done
    simp
  · obtain ⟨rfl, -⟩ := hfirst.of_done
    exact h a after out hsecond

theorem Single.bind_pure {call : Call σ ε α} {f : α → β} (h : Single call) :
    Single (call >>= fun a => pure (f a)) := by
  intro steps out hruns
  rcases hruns.of_bind with ⟨e, hfirst, -⟩ | ⟨a, before, after, hfirst, hsecond, rfl⟩
  · exact h steps _ hfirst
  · obtain ⟨rfl, -⟩ := hsecond.of_done
    rw [List.append_nil]
    exact h before _ hfirst

end Runs

/-! ## Where a call acts -/

section Moves

variable {σ ε ε' α β : Type} {T T' : σ → σ → Prop}

/-- At whatever state it is scheduled, each action of the call leaves the store alone or is a
move of `T`. -/
inductive Moves (T : σ → σ → Prop) : Call σ ε α → Prop
  | done (result : Except ε α) : Moves T (.done result)
  | act {update : σ → σ} {next : σ → Call σ ε α} :
      (∀ s, update s = s ∨ T s (update s)) → (∀ s, Moves T (next s)) → Moves T (.act update next)

/-- A call that only reads. -/
def ReadOnly : Call σ ε α → Prop := Moves fun _ _ => False

namespace Moves

theorem mono {call : Call σ ε α} (h : Moves T call) (hT : ∀ s s', T s s' → T' s s') :
    Moves T' call := by
  induction h with
  | done result => exact .done result
  | act hact _ ih => exact .act (fun s => (hact s).imp_right (hT s _)) ih

theorem bind {call : Call σ ε α} {f : α → Call σ ε β} (h : Moves T call)
    (hf : ∀ a, Moves T (f a)) : Moves T (call >>= f) := by
  induction h with
  | done result =>
    cases result with
    | ok a => exact hf a
    | error e => exact .done _
  | act hact _ ih => exact .act hact ih

theorem check (result : Except ε α) : Moves T (Call.check result) := .done result

theorem check_bind {result : Except ε α} {f : α → Call σ ε β}
    (h : ∀ a, result = .ok a → Moves T (f a)) : Moves T (Call.check result >>= f) := by
  cases result with
  | ok a => exact h a rfl
  | error e => exact .done _

theorem pure (a : α) : Moves T (Pure.pure a : Call σ ε α) := .done _

theorem read (f : σ → α) : Moves T (Call.read f : Call σ ε α) :=
  .act (fun _ => .inl rfl) fun _ => .done _

theorem commit {transaction : σ → Except ε (α × σ)}
    (h : ∀ s a s', transaction s = .ok (a, s') → T s s') : Moves T (Call.commit transaction) := by
  refine .act ?_ fun _ => .done _
  intro s
  cases ht : transaction s with
  | ok out => exact .inr (h s out.1 out.2 ht)
  | error e => exact .inl rfl

theorem ignore {call : Call σ ε α} (h : Moves T call) : Moves T call.ignore :=
  h.bind fun _ => .pure _

theorem outcome {call : Call σ ε α} (h : Moves T call) :
    Moves T (call.outcome : Call σ ε' (Except ε α)) := by
  induction h with
  | done result => exact .done _
  | act hact _ ih => exact .act hact ih

theorem mapErr {f : ε → ε'} {call : Call σ ε α} (h : Moves T call) :
    Moves T (call.mapErr f) := by
  induction h with
  | done result => exact .done _
  | act hact _ ih => exact .act hact ih

theorem forEach {xs : List α} {body : α → Call σ ε Unit} (h : ∀ x ∈ xs, Moves T (body x)) :
    Moves T (Call.forEach xs body) := by
  induction xs with
  | nil => exact .pure ()
  | cons x rest ih =>
    exact (h x List.mem_cons_self).bind fun _ => ih fun y hy => h y (List.mem_cons_of_mem _ hy)

theorem runs {call : Call σ ε α} (h : Moves T call) {steps : List (σ × σ)}
    {result : Except ε α} (hruns : Runs call steps result) :
    ∀ step ∈ steps, step.2 = step.1 ∨ T step.1 step.2 := by
  induction h generalizing steps with
  | done result =>
    obtain ⟨rfl, -⟩ := hruns.of_done
    simp
  | act hact _ ih =>
    cases hruns with
    | act s hrest =>
      intro step hstep
      rcases List.mem_cons.mp hstep with rfl | hin
      · exact hact s
      · exact ih s hrest step hin

end Moves

theorem ReadOnly.moves {call : Call σ ε α} (h : ReadOnly call) : Moves T call :=
  h.mono fun _ _ hfalse => hfalse.elim

theorem ReadOnly.runs {call : Call σ ε α} (h : ReadOnly call) {steps : List (σ × σ)}
    {result : Except ε α} (hruns : Runs call steps result) : ∀ step ∈ steps, step.2 = step.1 := by
  intro step hstep
  exact (Moves.runs h hruns step hstep).resolve_right id

theorem ReadOnly.run_store {call : Call σ ε α} (h : ReadOnly call) (s : σ) :
    (call.run s).2 = s := by
  induction h generalizing s with
  | done result => rfl
  | @act update next hact _ ih =>
    have hsame : update s = s := (hact s).resolve_right id
    rw [Call.run, ih s (update s), hsame]

/-- A call that only reads, and reads only what the view shows. -/
def Sees {τ : Type} (view : σ → τ) (call : Call σ ε α) : Prop :=
  ReadOnly call ∧ ∀ s s', view s = view s' → (call.run s).1 = (call.run s').1

namespace Sees

variable {τ : Type} {view : σ → τ}

theorem check (result : Except ε α) : Sees view (Call.check result) := ⟨.check result, fun _ _ _ => rfl⟩

theorem pure (a : α) : Sees view (Pure.pure a : Call σ ε α) := ⟨.pure a, fun _ _ _ => rfl⟩

theorem read {f : σ → α} (h : ∀ s s', view s = view s' → f s = f s') :
    Sees view (Call.read f : Call σ ε α) := by
  refine ⟨.read f, ?_⟩
  intro s s' hview
  simp [h s s' hview]

theorem bind {call : Call σ ε α} {f : α → Call σ ε β} (h : Sees view call)
    (hf : ∀ a, Sees view (f a)) : Sees view (call >>= f) := by
  refine ⟨Moves.bind h.1 fun a => (hf a).1, ?_⟩
  intro s s' hview
  have hfirst := h.2 s s' hview
  have hs := h.1.run_store s
  have hs' := h.1.run_store s'
  rw [Call.run_bind, Call.run_bind]
  rcases hrun : call.run s with ⟨result, t⟩
  rcases hrun' : call.run s' with ⟨result', t'⟩
  rw [hrun] at hfirst hs
  rw [hrun'] at hfirst hs'
  simp only at hfirst hs hs'
  subst hfirst hs hs'
  cases result with
  | ok a => exact (hf a).2 _ _ hview
  | error e => rfl

end Sees

/-- A call that fails has left every state it met alone. -/
def Atomic (call : Call σ ε α) : Prop :=
  ∀ steps e, Runs call steps (.error e) → ∀ step ∈ steps, step.2 = step.1

namespace Atomic

theorem readOnly {call : Call σ ε α} (h : ReadOnly call) : Atomic call :=
  fun _ _ hruns => h.runs hruns

theorem commit (transaction : σ → Except ε (α × σ)) : Atomic (Call.commit transaction) := by
  intro steps e hruns
  rcases hruns.of_commit with ⟨_, _, _, -, -, hresult⟩ | ⟨s, _, -, rfl, -⟩
  · cases hresult
  · simp

/-- Reads, and then a call that is atomic. -/
theorem bind {call : Call σ ε α} {f : α → Call σ ε β} (h : ReadOnly call)
    (hf : ∀ a, Atomic (f a)) : Atomic (call >>= f) := by
  intro steps e hruns
  rcases hruns.of_bind with ⟨_, hfirst, -⟩ | ⟨a, before, after, hfirst, hsecond, rfl⟩
  · exact h.runs hfirst
  · intro step hstep
    rcases List.mem_append.mp hstep with hin | hin
    · exact h.runs hfirst step hin
    · exact hf a after e hsecond step hin

theorem bind_pure {call : Call σ ε α} {f : α → β} (h : Atomic call) :
    Atomic (call >>= fun a => pure (f a)) := by
  intro steps e hruns
  rcases hruns.of_bind with ⟨e', hfirst, -⟩ | ⟨a, before, after, -, hsecond, -⟩
  · exact h steps e' hfirst
  · obtain ⟨-, hresult⟩ := hsecond.of_done
    cases hresult

theorem ignore {call : Call σ ε α} (h : Atomic call) : Atomic call.ignore := h.bind_pure

theorem run_error {call : Call σ ε α} (h : Atomic call) {s s' : σ} {e : ε}
    (hrun : call.run s = (.error e, s')) : s' = s := by
  obtain ⟨steps, hruns, hstill⟩ := Runs.of_run call s
  rw [hrun] at hruns hstill
  exact hstill (h steps e hruns)

end Atomic

/-- A call that succeeds has made a move of `T`. -/
def Commits (T : σ → σ → Prop) (call : Call σ ε α) : Prop :=
  ∀ steps a, Runs call steps (.ok a) → ∃ step ∈ steps, T step.1 step.2

namespace Commits

theorem commit {transaction : σ → Except ε (α × σ)}
    (h : ∀ s a s', transaction s = .ok (a, s') → T s s') :
    Commits T (Call.commit transaction) := by
  intro steps a hruns
  rcases hruns.of_commit with ⟨s, a', s', ht, rfl, -⟩ | ⟨_, _, -, -, hresult⟩
  · exact ⟨(s, s'), List.mem_singleton_self _, h s a' s' ht⟩
  · cases hresult

theorem bind {call : Call σ ε α} {f : α → Call σ ε β} (h : ∀ a, Commits T (f a)) :
    Commits T (call >>= f) := by
  intro steps b hruns
  rcases hruns.of_bind with ⟨_, -, hresult⟩ | ⟨a, before, after, -, hsecond, rfl⟩
  · cases hresult
  · obtain ⟨step, hstep, hT⟩ := h a after b hsecond
    exact ⟨step, List.mem_append_right _ hstep, hT⟩

theorem ignore {call : Call σ ε α} (h : Commits T call) : Commits T call.ignore := by
  intro steps u hruns
  rcases hruns.of_bind with ⟨_, -, hresult⟩ | ⟨a, before, after, hfirst, -, rfl⟩
  · cases hresult
  · obtain ⟨step, hstep, hT⟩ := h before a hfirst
    exact ⟨step, List.mem_append_left _ hstep, hT⟩

end Commits

end Moves

/-! ## Promises -/

section Promises

variable {σ ι : Type}

/-- Some process acts. -/
def Any (G : ι → σ → σ → Prop) (s s' : σ) : Prop := ∃ q, G q s s'

/-- The others act, any number of times. -/
def Later (G : ι → σ → σ → Prop) (p : ι) : σ → σ → Prop :=
  Relation.ReflTransGen fun s s' => ∃ q, q ≠ p ∧ G q s s'

theorem Later.any {G : ι → σ → σ → Prop} {p : ι} {s s' : σ} (h : Later G p s s') :
    Relation.ReflTransGen (Any G) s s' := by
  induction h with
  | refl => exact .refl
  | tail _ hstep ih =>
    obtain ⟨q, -, hq⟩ := hstep
    exact ih.tail ⟨q, hq⟩

theorem Later.inv {Inv : σ → Prop} {G : ι → σ → σ → Prop} {p : ι} {s s' : σ}
    (h : Later G p s s') (hpreserve : ∀ q s s', Inv s → G q s s' → Inv s') (hs : Inv s) :
    Inv s' := by
  induction h with
  | refl => exact hs
  | tail _ hstep ih =>
    obtain ⟨q, -, hq⟩ := hstep
    exact hpreserve q _ _ ih hq

variable {ε ε' α β : Type} {G : ι → σ → σ → Prop} {p : ι}

/-- From `s` on the call keeps the promise of `p`, and ends as `Q` says. -/
inductive Obeys (G : ι → σ → σ → Prop) (p : ι) :
    σ → Call σ ε α → (σ → Except ε α → Prop) → Prop
  | done {s : σ} {result : Except ε α} {Q : σ → Except ε α → Prop} :
      Q s result → Obeys G p s (.done result) Q
  | act {s : σ} {update : σ → σ} {next : σ → Call σ ε α} {Q : σ → Except ε α → Prop} :
      (∀ s', Later G p s s' → G p s' (update s')) →
      (∀ s', Later G p s s' → Obeys G p (update s') (next s') Q) →
      Obeys G p s (.act update next) Q

namespace Obeys

theorem mono {s : σ} {call : Call σ ε α} {Q Q' : σ → Except ε α → Prop}
    (h : Obeys G p s call Q) (hQ : ∀ s' result, Q s' result → Q' s' result) :
    Obeys G p s call Q' := by
  induction h with
  | done hq => exact .done (hQ _ _ hq)
  | act hg _ ih => exact .act hg fun s' hs => ih s' hs hQ

theorem bind {s : σ} {call : Call σ ε α} {f : α → Call σ ε β} {Q : σ → Except ε α → Prop}
    {Q' : σ → Except ε β → Prop} (h : Obeys G p s call Q)
    (hok : ∀ s' a, Q s' (.ok a) → Obeys G p s' (f a) Q')
    (herror : ∀ s' e, Q s' (.error e) → Q' s' (.error e)) : Obeys G p s (call >>= f) Q' := by
  induction h with
  | @done s result Q hq =>
    cases result with
    | ok a => exact hok s a hq
    | error e => exact .done (herror s e hq)
  | act hg _ ih => exact .act hg fun s' hs => ih s' hs hok herror

theorem check {s : σ} {result : Except ε α} {Q : σ → Except ε α → Prop} (h : Q s result) :
    Obeys G p s (Call.check result) Q := .done h

theorem read {s : σ} {f : σ → α} {Q : σ → Except ε α → Prop} (hrefl : ∀ s, G p s s)
    (h : ∀ s', Later G p s s' → Q s' (.ok (f s'))) : Obeys G p s (Call.read f) Q :=
  .act (fun s' _ => hrefl s') fun s' hs => .done (h s' hs)

theorem commit {s : σ} {transaction : σ → Except ε (α × σ)} {Q : σ → Except ε α → Prop}
    (hrefl : ∀ s, G p s s)
    (hok : ∀ s', Later G p s s' → ∀ a s'', transaction s' = .ok (a, s'') →
      G p s' s'' ∧ Q s'' (.ok a))
    (herror : ∀ s', Later G p s s' → ∀ e, transaction s' = .error e → Q s' (.error e)) :
    Obeys G p s (Call.commit transaction) Q := by
  refine .act ?_ ?_
  · intro s' hs
    cases ht : transaction s' with
    | ok out => exact (hok s' hs out.1 out.2 ht).1
    | error e => exact hrefl s'
  · intro s' hs
    cases ht : transaction s' with
    | ok out => exact .done (hok s' hs out.1 out.2 ht).2
    | error e => exact .done (herror s' hs e ht)

theorem attempt {s : σ} {call : Call σ ε α} {Q : σ → Except ε α → Prop}
    (h : Obeys G p s call Q) :
    Obeys G p s (Call.attempt call : Call σ ε' Unit) fun s' _ => ∃ result, Q s' result := by
  induction h with
  | done hq => exact .done ⟨_, hq⟩
  | act hg _ ih => exact .act hg ih

theorem mapErr {f : ε → ε'} {s : σ} {call : Call σ ε α} {Q : σ → Except ε' α → Prop}
    (h : Obeys G p s call fun s' result => Q s' (Checked.mapErr f result)) :
    Obeys G p s (call.mapErr f) Q := by
  generalize hQ : (fun s' result => Q s' (Checked.mapErr f result)) = Q' at h
  induction h with
  | done hq => subst hQ; exact .done hq
  | act hg _ ih => exact .act hg fun s' hs => ih s' hs hQ

/-- A loop keeps an assertion that every body keeps. -/
theorem forEach {s : σ} {xs : List α} {body : α → Call σ ε Unit} {K : σ → Prop} (hs : K s)
    (h : ∀ x ∈ xs, ∀ s, K s → Obeys G p s (body x) fun s' _ => K s') :
    Obeys G p s (Call.forEach xs body) fun s' _ => K s' := by
  induction xs generalizing s with
  | nil => exact .done hs
  | cons x rest ih =>
    refine bind (h x List.mem_cons_self s hs) ?_ fun _ _ hk => hk
    intro s' _ hk
    exact ih hk fun y hy => h y (List.mem_cons_of_mem _ hy)

/-- A call whose moves are promised ones, wherever the invariant holds. -/
theorem of_moves {Inv : σ → Prop} {T : σ → σ → Prop} {s : σ} {call : Call σ ε α}
    (h : Moves T call) (hrefl : ∀ s, G p s s) (hT : ∀ s s', Inv s → T s s' → G p s s')
    (hpreserve : ∀ q s s', Inv s → G q s s' → Inv s') (hs : Inv s) :
    Obeys G p s call fun s' _ => Inv s' := by
  induction h generalizing s with
  | done result => exact .done hs
  | @act update next hact _ ih =>
    have hg : ∀ s', Later G p s s' → G p s' (update s') := by
      intro s' hlater
      rcases hact s' with heq | hmove
      · rw [heq]
        exact hrefl s'
      · exact hT s' _ (hlater.inv hpreserve hs) hmove
    exact .act hg fun s' hlater => ih s' (hpreserve p _ _ (hlater.inv hpreserve hs) (hg s' hlater))

end Obeys

end Promises

/-! ## Pools -/

section Pools

variable {σ ε α : Type}

/-- The store, the calls as they were started and what is left of each; a call is known by its
place. -/
structure Pool (σ ε α : Type) where
  store : σ
  started : List (Call σ ε α)
  calls : List (Call σ ε α)

/-- One action of one process. -/
structure Entry (σ : Type) where
  process : Nat
  before : σ
  after : σ

/-- The pools of every interleaving from `s₀`, with the actions taken on the way. -/
inductive Reached (start : Nat → Call σ ε α → Prop) (s₀ : σ) : List (Entry σ) → Pool σ ε α → Prop
  | init : Reached start s₀ [] ⟨s₀, [], []⟩
  | start {entries : List (Entry σ)} {pool : Pool σ ε α} (call : Call σ ε α) :
      Reached start s₀ entries pool → start pool.calls.length call →
      Reached start s₀ entries ⟨pool.store, pool.started ++ [call], pool.calls ++ [call]⟩
  | act {entries : List (Entry σ)} {pool : Pool σ ε α} (p : Nat) (update : σ → σ)
      (next : σ → Call σ ε α) :
      Reached start s₀ entries pool → pool.calls[p]? = some (.act update next) →
      Reached start s₀ (entries ++ [⟨p, pool.store, update pool.store⟩])
        ⟨update pool.store, pool.started, pool.calls.set p (next pool.store)⟩

/-- The stores passed on the way, the first and the last one included. -/
def states (s₀ : σ) (entries : List (Entry σ)) : List σ := s₀ :: entries.map (·.after)

/-- The actions of one process. -/
def stepsOf (p : Nat) (entries : List (Entry σ)) : List (σ × σ) :=
  (entries.filter (·.process == p)).map fun entry => (entry.before, entry.after)

/-- The value of a view at the next state, when it is a new one. -/
def noteChange {β : Type} [DecidableEq β] (view : σ → Option β) (seen : List β) (s : σ) : List β :=
  match view s with
  | some b => if seen.getLast? = some b then seen else seen ++ [b]
  | none => seen

/-- The values a view of the store had, one for each change. -/
def changes {β : Type} [DecidableEq β] (view : σ → Option β) (history : List σ) : List β :=
  history.foldl (noteChange view) []

theorem changes_append {β : Type} [DecidableEq β] (view : σ → Option β) (history : List σ)
    (s : σ) : changes view (history ++ [s]) = noteChange view (changes view history) s := by
  simp [changes]

variable {start : Nat → Call σ ε α → Prop} {s₀ : σ}

/-! ### What a run is -/

theorem states_append (s₀ : σ) (entries : List (Entry σ)) (entry : Entry σ) :
    states s₀ (entries ++ [entry]) = states s₀ entries ++ [entry.after] := by
  simp [states]

theorem Reached.getLast_states {entries : List (Entry σ)} {pool : Pool σ ε α}
    (h : Reached start s₀ entries pool) : (states s₀ entries).getLast? = some pool.store := by
  induction h with
  | init => rfl
  | start call _ _ ih => exact ih
  | act p update next _ _ _ => simp [states_append]

theorem Reached.length_started {entries : List (Entry σ)} {pool : Pool σ ε α}
    (h : Reached start s₀ entries pool) : pool.started.length = pool.calls.length := by
  induction h with
  | init => rfl
  | start call _ _ ih => simp [ih]
  | act p update next _ _ ih => simp [ih]

theorem Reached.started_by {entries : List (Entry σ)} {pool : Pool σ ε α}
    (h : Reached start s₀ entries pool) {p : Nat} {call : Call σ ε α}
    (hp : pool.started[p]? = some call) : start p call := by
  induction h with
  | init => simp at hp
  | @start entries pool call' hreached hstart ih =>
    rw [List.getElem?_append] at hp
    split at hp
    · exact ih hp
    · rename_i hge
      have hlen := hreached.length_started
      have hlt := (List.getElem?_eq_some_iff.mp hp).1
      have heq : p = pool.calls.length := by simp at hlt; omega
      have hsub : p - pool.started.length = 0 := by omega
      rw [hsub] at hp
      cases hp
      exact heq ▸ hstart
  | act _ _ _ _ _ ih => exact ih hp

theorem Reached.process_lt {entries : List (Entry σ)} {pool : Pool σ ε α}
    (h : Reached start s₀ entries pool) : ∀ entry ∈ entries, entry.process < pool.calls.length := by
  induction h with
  | init => simp
  | start call _ _ ih =>
    intro entry hentry
    have := ih entry hentry
    simp
    omega
  | act p update next _ hp ih =>
    have hlt := (List.getElem?_eq_some_iff.mp hp).1
    intro entry hentry
    simp only [List.length_set]
    rcases List.mem_append.mp hentry with hold | hnew
    · exact ih entry hold
    · rw [List.mem_singleton.mp hnew]
      exact hlt

/-- What is left of a call completes the actions it has taken to a run of the call it was. -/
theorem Reached.completes {entries : List (Entry σ)} {pool : Pool σ ε α}
    (h : Reached start s₀ entries pool) {p : Nat} {call rest : Call σ ε α}
    (hstarted : pool.started[p]? = some call) (hrest : pool.calls[p]? = some rest)
    {steps : List (σ × σ)} {result : Except ε α} (hruns : Runs rest steps result) :
    Runs call (stepsOf p entries ++ steps) result := by
  induction h generalizing rest steps with
  | init => simp at hstarted
  | @start entries pool call' hreached hstart ih =>
    have hlen := hreached.length_started
    rw [List.getElem?_append] at hstarted hrest
    by_cases hp : p < pool.calls.length
    · rw [if_pos (by omega)] at hstarted
      rw [if_pos hp] at hrest
      exact ih hstarted hrest hruns
    · rw [if_neg (by omega)] at hstarted
      rw [if_neg hp] at hrest
      rw [hlen, hrest] at hstarted
      cases hstarted
      have hnone : stepsOf p entries = [] := by
        simp only [stepsOf, List.map_eq_nil_iff, List.filter_eq_nil_iff]
        intro entry hentry
        have := hreached.process_lt entry hentry
        simp
        omega
      rw [hnone]
      exact hruns
  | @act entries pool q update next hreached hq ih =>
    by_cases hpq : q = p
    · subst hpq
      rw [List.getElem?_set_self (List.getElem?_eq_some_iff.mp hq).1] at hrest
      cases hrest
      have hsteps : stepsOf q (entries ++ [⟨q, pool.store, update pool.store⟩]) =
          stepsOf q entries ++ [(pool.store, update pool.store)] := by simp [stepsOf]
      rw [hsteps, List.append_assoc]
      exact ih hstarted hq (.act pool.store hruns)
    · rw [List.getElem?_set_ne hpq] at hrest
      have hsteps : stepsOf p (entries ++ [⟨q, pool.store, update pool.store⟩]) = stepsOf p entries := by
        simp [stepsOf, hpq]
      rw [hsteps]
      exact ih hstarted hrest hruns

/-- A finished call ran as its own actions say. -/
theorem Reached.runs {entries : List (Entry σ)} {pool : Pool σ ε α}
    (h : Reached start s₀ entries pool) {p : Nat} {call : Call σ ε α} {result : Except ε α}
    (hstarted : pool.started[p]? = some call) (hdone : pool.calls[p]? = some (.done result)) :
    Runs call (stepsOf p entries) result := by
  have := h.completes hstarted hdone (.done result)
  rwa [List.append_nil] at this

theorem mem_stepsOf {p : Nat} {entries : List (Entry σ)} {step : σ × σ} :
    step ∈ stepsOf p entries ↔
      ∃ entry ∈ entries, entry.process = p ∧ (entry.before, entry.after) = step := by
  simp [stepsOf, and_assoc]

/-- The `i`-th action goes from one state of the run to the next. -/
theorem Reached.states_get {entries : List (Entry σ)} {pool : Pool σ ε α}
    (h : Reached start s₀ entries pool) {i : Nat} {entry : Entry σ} (hi : entries[i]? = some entry) :
    (states s₀ entries)[i]? = some entry.before ∧ (states s₀ entries)[i + 1]? = some entry.after := by
  induction h with
  | init => simp at hi
  | start call _ _ ih => exact ih hi
  | @act entries pool p update next hreached _ ih =>
    have hlast := hreached.getLast_states
    have hlen : (states s₀ entries).length = entries.length + 1 := by simp [states]
    rw [List.getLast?_eq_getElem?, hlen, Nat.add_sub_cancel] at hlast
    rw [states_append, List.getElem?_append, List.getElem?_append, hlen]
    rw [List.getElem?_append] at hi
    split at hi
    · rename_i hlt
      rw [if_pos (by omega), if_pos (by omega)]
      exact ih hi
    · have hlt := (List.getElem?_eq_some_iff.mp hi).1
      have heq : i = entries.length := by simp at hlt; omega
      subst heq
      simp only [Nat.sub_self, List.getElem?_cons_zero, Option.some.injEq] at hi
      subst hi
      simp [hlast]

/-- Between two states of a chain there are only steps of it. -/
theorem chain_between {R : σ → σ → Prop} {history : List σ} (h : history.IsChain R) {i j : Nat}
    (hij : i ≤ j) {s s' : σ} (hi : history[i]? = some s) (hj : history[j]? = some s') :
    Relation.ReflTransGen R s s' := by
  rcases Nat.lt_or_eq_of_le hij with hlt | rfl
  · have hpairs : history.Pairwise (Relation.ReflTransGen R) :=
      List.isChain_iff_pairwise.mp (h.imp fun _ _ hstep => .single hstep)
    obtain ⟨hi', rfl⟩ := List.getElem?_eq_some_iff.mp hi
    obtain ⟨hj', rfl⟩ := List.getElem?_eq_some_iff.mp hj
    exact List.pairwise_iff_getElem.mp hpairs i j hi' hj' hlt
  · rw [hi] at hj
    cases hj
    exact .refl

/-! ### Promises kept by a pool -/

variable {G : Nat → σ → σ → Prop}

/-- The rest of a call in flight, known from a state behind which only the others acted. -/
def Kept (G : Nat → σ → σ → Prop) (pool : Pool σ ε α) (p : Nat) (call : Call σ ε α) : Prop :=
  ∃ s, Later G p s pool.store ∧ Obeys G p s call fun _ _ => True

/-- Whatever the interleaving, every action is a promised one and keeps the invariant. -/
theorem Reached.sound {Inv : σ → Prop} {entries : List (Entry σ)} {pool : Pool σ ε α}
    (hinit : Inv s₀) (hpreserve : ∀ p s s', Inv s → G p s s' → Inv s')
    (hstart : ∀ p call s, start p call → Inv s → Obeys G p s call fun _ _ => True)
    (h : Reached start s₀ entries pool) :
    Inv pool.store ∧ (∀ entry ∈ entries, G entry.process entry.before entry.after) ∧
      (∀ s ∈ states s₀ entries, Inv s) ∧ (states s₀ entries).IsChain (Any G) ∧
      ∀ p call, pool.calls[p]? = some call → Kept G pool p call := by
  induction h with
  | init => exact ⟨hinit, by simp, by simpa [states] using hinit, .singleton _, by simp⟩
  | @start entries pool call hreached hcall ih =>
    obtain ⟨hinv, hentries, hstates, hchain, hkept⟩ := ih
    refine ⟨hinv, hentries, hstates, hchain, ?_⟩
    intro p call' hp
    rw [List.getElem?_append] at hp
    split at hp
    · exact hkept p call' hp
    · have hlt := (List.getElem?_eq_some_iff.mp hp).1
      have hlen : p = pool.calls.length := by simp at hlt; omega
      have hsub : p - pool.calls.length = 0 := by omega
      rw [hsub] at hp
      cases hp
      exact ⟨pool.store, .refl, hstart p _ _ (hlen ▸ hcall) hinv⟩
  | @act entries pool p update next hreached hp ih =>
    obtain ⟨hinv, hentries, hstates, hchain, hkept⟩ := ih
    obtain ⟨s, hlater, hobeys⟩ := hkept p _ hp
    cases hobeys with
    | act hact hrest =>
      have hg := hact pool.store hlater
      have hinv' := hpreserve p _ _ hinv hg
      refine ⟨hinv', ?_, ?_, ?_, ?_⟩
      · intro entry hentry
        rcases List.mem_append.mp hentry with hold | hnew
        · exact hentries entry hold
        · rw [List.mem_singleton.mp hnew]
          exact hg
      · intro s' hs'
        rw [states_append] at hs'
        rcases List.mem_append.mp hs' with hold | hnew
        · exact hstates s' hold
        · rw [List.mem_singleton.mp hnew]
          exact hinv'
      · rw [states_append]
        refine List.isChain_append.mpr ⟨hchain, .singleton _, ?_⟩
        intro x hx y hy
        rw [hreached.getLast_states] at hx
        cases hx
        cases hy
        exact ⟨p, hg⟩
      · intro q call hq
        by_cases hqp : p = q
        · subst hqp
          rw [List.getElem?_set_self (List.getElem?_eq_some_iff.mp hp).1] at hq
          cases hq
          exact ⟨_, .refl, hrest pool.store hlater⟩
        · rw [List.getElem?_set_ne hqp] at hq
          obtain ⟨s', hlater', hobeys'⟩ := hkept q call hq
          exact ⟨s', hlater'.tail ⟨p, hqp, hg⟩, hobeys'⟩

/-! ### Schedules -/

/-- What a scheduler does next. -/
inductive Choice (σ ε α : Type) where
  | start (call : Call σ ε α)
  | act (p : Nat)

/-- A call that has ended, or was never started, has no action. -/
def choose (run : List (Entry σ) × Pool σ ε α) : Choice σ ε α → List (Entry σ) × Pool σ ε α
  | .start call => (run.1, ⟨run.2.store, run.2.started ++ [call], run.2.calls ++ [call]⟩)
  | .act p =>
    match run.2.calls[p]? with
    | some (.act update next) => (run.1 ++ [⟨p, run.2.store, update run.2.store⟩],
        ⟨update run.2.store, run.2.started, run.2.calls.set p (next run.2.store)⟩)
    | _ => run

def play (s₀ : σ) (schedule : List (Choice σ ε α)) : List (Entry σ) × Pool σ ε α :=
  schedule.foldl choose ([], ⟨s₀, [], []⟩)

theorem Reached.choose {run : List (Entry σ) × Pool σ ε α} (h : Reached start s₀ run.1 run.2)
    {choice : Choice σ ε α} (hstart : ∀ p call, choice = .start call → start p call) :
    Reached start s₀ (choose run choice).1 (choose run choice).2 := by
  cases choice with
  | start call => exact .start call h (hstart _ call rfl)
  | act p =>
    simp only [Interleave.choose]
    split
    · rename_i update next hp
      exact .act p update next h hp
    · exact h

/-- Every schedule is a run. -/
theorem reached_play (schedule : List (Choice σ ε α))
    (hstart : ∀ p call, Choice.start call ∈ schedule → start p call) :
    Reached start s₀ (play s₀ schedule).1 (play s₀ schedule).2 := by
  have hfrom : ∀ (rest : List (Choice σ ε α)) (run : List (Entry σ) × Pool σ ε α),
      (∀ p call, Choice.start call ∈ rest → start p call) → Reached start s₀ run.1 run.2 →
      Reached start s₀ (rest.foldl Interleave.choose run).1
        (rest.foldl Interleave.choose run).2 := by
    intro rest
    induction rest with
    | nil => exact fun _ _ h => h
    | cons choice rest ih =>
      intro run hrest h
      refine ih _ (fun p call hmem => hrest p call (List.mem_cons_of_mem _ hmem)) ?_
      exact h.choose fun p call hc => hrest p call (hc ▸ List.mem_cons_self)
  exact hfrom schedule _ hstart .init

theorem started_choose_act (run : List (Entry σ) × Pool σ ε α) (p : Nat) :
    (choose run (.act p)).2.started = run.2.started := by
  simp only [choose]
  split <;> rfl

theorem started_play (schedule : List (Choice σ ε α)) :
    (play s₀ schedule).2.started = schedule.filterMap fun
      | .start call => some call
      | .act _ => none := by
  have hfrom : ∀ (rest : List (Choice σ ε α)) (run : List (Entry σ) × Pool σ ε α),
      (rest.foldl choose run).2.started = run.2.started ++ rest.filterMap fun
        | .start call => some call
        | .act _ => none := by
    intro rest
    induction rest with
    | nil => simp
    | cons choice rest ih =>
      intro run
      rw [List.foldl_cons, ih]
      cases choice with
      | start call => simp [choose]
      | act p => simp [started_choose_act]
  simpa [play] using hfrom schedule ([], ⟨s₀, [], []⟩)

/-- The same when what may start depends on the place it starts at. -/
theorem reached_play_started (schedule : List (Choice σ ε α))
    (hstart : ∀ p call, (play s₀ schedule).2.started[p]? = some call → start p call) :
    Reached start s₀ (play s₀ schedule).1 (play s₀ schedule).2 := by
  induction schedule using List.reverseRecOn with
  | nil => exact .init
  | append_singleton schedule choice ih =>
    simp only [play, List.foldl_append, List.foldl_cons, List.foldl_nil] at hstart ⊢
    cases choice with
    | start call =>
      have hreached : Reached start s₀ (play s₀ schedule).1 (play s₀ schedule).2 := by
        refine ih fun p call' hp => hstart p call' ?_
        exact List.getElem?_append_left (List.getElem?_eq_some_iff.mp hp).1 ▸ hp
      refine .start call hreached (hstart _ call ?_)
      change ((play s₀ schedule).2.started ++ [call])[(play s₀ schedule).2.calls.length]? = some call
      rw [← hreached.length_started]
      exact List.getElem?_concat_length
    | act p =>
      have hreached : Reached start s₀ (play s₀ schedule).1 (play s₀ schedule).2 := by
        refine ih fun q call' hq => hstart q call' ?_
        rw [started_choose_act]
        exact hq
      exact hreached.choose (by simp)

/-- What the call at a place has returned. -/
def Pool.result? (pool : Pool σ ε α) (p : Nat) : Option (Except ε α) :=
  match pool.calls[p]? with
  | some (.done result) => some result
  | _ => none

theorem Pool.calls_of_result? {pool : Pool σ ε α} {p : Nat} {result : Except ε α}
    (h : pool.result? p = some result) : pool.calls[p]? = some (.done result) := by
  unfold Pool.result? at h
  split at h
  · rename_i hp
    cases h
    exact hp
  · cases h

end Pools

end Interleave
