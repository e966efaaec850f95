import Mathlib.Data.List.Basic

/-!
# Checked computations

Fallible code is read as a computation in `Except`. A guard refuses or passes
without a value, a loop is a monadic fold, and each of them has one exact
inversion lemma, so that a successful run can be taken apart guard by guard.
-/

namespace Checked

variable {ε : Type} {α β γ : Type}

/-- An early return: refuse with `e` when the condition holds. -/
def refuseIf (c : Bool) (e : ε) : Except ε Unit := if c then .error e else .ok ()

/-- `Option::ok_or`. -/
def okOr (o : Option α) (e : ε) : Except ε α :=
  match o with
  | some a => .ok a
  | none => .error e

/-- `Result::map_err`. -/
def mapErr {ε' : Type} (f : ε → ε') : Except ε α → Except ε' α
  | .ok a => .ok a
  | .error e => .error (f e)

@[simp] theorem refuseIf_eq_ok {c : Bool} {e : ε} {u : Unit} :
    refuseIf c e = .ok u ↔ c = false := by
  cases c <;> simp [refuseIf]

@[simp] theorem okOr_eq_ok {o : Option α} {e : ε} {a : α} :
    okOr o e = .ok a ↔ o = some a := by
  cases o <;> simp [okOr]

@[simp] theorem mapErr_eq_ok {ε' : Type} {f : ε → ε'} {x : Except ε α} {a : α} :
    mapErr f x = .ok a ↔ x = .ok a := by
  cases x <;> simp [mapErr]

@[simp] theorem bind_eq_ok {x : Except ε α} {f : α → Except ε β} {b : β} :
    (x >>= f) = .ok b ↔ ∃ a, x = .ok a ∧ f a = .ok b := by
  cases x <;> simp [bind, Except.bind]

@[simp] theorem pure_eq_ok {a b : α} : (pure a : Except ε α) = .ok b ↔ a = b := by
  simp [pure, Except.pure]

@[simp] theorem map_eq_ok {x : Except ε α} {f : α → β} {b : β} :
    (f <$> x) = .ok b ↔ ∃ a, x = .ok a ∧ f a = b := by
  cases x <;> simp [Functor.map, Except.map]

@[simp] theorem throw_ne_ok {e : ε} {a : α} : (throw e : Except ε α) ≠ .ok a := by
  simp [throw, throwThe, MonadExceptOf.throw]

@[simp] theorem ok_bind (a : α) (f : α → Except ε β) : (Except.ok a >>= f) = f a := rfl

@[simp] theorem error_bind (e : ε) (f : α → Except ε β) :
    (Except.error e >>= f) = Except.error e := rfl

@[simp] theorem toOption_eq_some {x : Except ε α} {a : α} :
    x.toOption = some a ↔ x = .ok a := by
  cases x <;> simp [Except.toOption]

theorem refuseIf_eq_error {c : Bool} {e e' : ε} :
    refuseIf c e = .error e' ↔ c = true ∧ e = e' := by
  cases c <;> simp [refuseIf]

theorem okOr_eq_error {o : Option α} {e e' : ε} : okOr o e = .error e' ↔ o = none ∧ e = e' := by
  cases o <;> simp [okOr]

theorem mapErr_eq_error {ε' : Type} {f : ε → ε'} {x : Except ε α} {e' : ε'} :
    mapErr f x = .error e' ↔ ∃ e, x = .error e ∧ f e = e' := by
  cases x <;> simp [mapErr]

/-- A sequence fails in its first part, or in its second part behind a result. -/
theorem bind_eq_error {x : Except ε α} {f : α → Except ε β} {e : ε} :
    (x >>= f) = .error e ↔ x = .error e ∨ ∃ a, x = .ok a ∧ f a = .error e := by
  cases x <;> simp [bind, Except.bind]

/-- A `for` loop whose body only checks. -/
def forEach (xs : List α) (check : α → Except ε Unit) : Except ε Unit :=
  match xs with
  | [] => .ok ()
  | x :: rest => check x >>= fun _ => forEach rest check

@[simp] theorem forEach_nil (check : α → Except ε Unit) : forEach [] check = .ok () := rfl

@[simp] theorem forEach_cons (x : α) (xs : List α) (check : α → Except ε Unit) :
    forEach (x :: xs) check = (check x >>= fun _ => forEach xs check) := rfl

/-- A checking loop passes exactly when every element passes. -/
theorem forEach_eq_ok {xs : List α} {check : α → Except ε Unit} {u : Unit} :
    forEach xs check = .ok u ↔ ∀ x ∈ xs, check x = .ok () := by
  induction xs with
  | nil => simp
  | cons x rest ih =>
    simp only [forEach_cons, bind_eq_ok, ih, List.forall_mem_cons]
    constructor
    · rintro ⟨_, hx, hrest⟩
      exact ⟨hx, hrest⟩
    · rintro ⟨hx, hrest⟩
      exact ⟨(), hx, hrest⟩

/-- A checking loop fails with the error of one of its elements. -/
theorem exists_of_forEach_eq_error {xs : List α} {check : α → Except ε Unit} {e : ε}
    (h : forEach xs check = .error e) : ∃ x ∈ xs, check x = .error e := by
  induction xs with
  | nil => cases h
  | cons x rest ih =>
    rcases bind_eq_error.mp h with hx | ⟨_, -, hrest⟩
    · exact ⟨x, List.mem_cons_self, hx⟩
    · obtain ⟨y, hy, hcheck⟩ := ih hrest
      exact ⟨y, List.mem_cons_of_mem _ hy, hcheck⟩

/-- A fold over an appended list runs the prefix and then the suffix. -/
theorem foldlM_append_eq_ok {f : β → α → Except ε β} {xs ys : List α} {b d : β} :
    (xs ++ ys).foldlM f b = .ok d ↔
      ∃ c, xs.foldlM f b = .ok c ∧ ys.foldlM f c = .ok d := by
  simp [List.foldlM_append]

theorem foldlM_cons_eq_ok {f : β → α → Except ε β} {x : α} {xs : List α} {b d : β} :
    (x :: xs).foldlM f b = .ok d ↔ ∃ c, f b x = .ok c ∧ xs.foldlM f c = .ok d := by
  simp [List.foldlM_cons]

theorem foldlM_nil_eq_ok {f : β → α → Except ε β} {b d : β} :
    ([] : List α).foldlM f b = .ok d ↔ b = d := by
  simp [List.foldlM_nil]

/-- A fold whose steps all succeed is the fold of their results. -/
theorem foldlM_eq_ok_foldl {f : β → α → Except ε β} {g : β → α → β} {xs : List α} {b : β}
    (h : ∀ c, ∀ x ∈ xs, f c x = .ok (g c x)) : xs.foldlM f b = .ok (xs.foldl g b) := by
  induction xs generalizing b with
  | nil => exact foldlM_nil_eq_ok.mpr rfl
  | cons x xs ih =>
    refine foldlM_cons_eq_ok.mpr ⟨g b x, h b x List.mem_cons_self, ?_⟩
    exact ih fun c y hy => h c y (List.mem_cons_of_mem _ hy)

/-- A fold that repeats the successful steps of another one ends where it ends. -/
theorem foldlM_mono {f g : β → α → Except ε β} {xs : List α} {b d : β}
    (hstep : ∀ c, ∀ x ∈ xs, ∀ c', f c x = .ok c' → g c x = .ok c') (h : xs.foldlM f b = .ok d) :
    xs.foldlM g b = .ok d := by
  induction xs generalizing b with
  | nil => exact h
  | cons x xs ih =>
    obtain ⟨c, hx, hrest⟩ := foldlM_cons_eq_ok.mp h
    refine foldlM_cons_eq_ok.mpr ⟨c, hstep b x List.mem_cons_self c hx, ?_⟩
    exact ih (fun c y hy => hstep c y (List.mem_cons_of_mem _ hy)) hrest

/-- A list whose elements all succeed is mapped to their results. -/
theorem mapM_eq_ok_map {f : α → Except ε β} {g : α → β} {xs : List α}
    (h : ∀ x ∈ xs, f x = .ok (g x)) : xs.mapM f = .ok (xs.map g) := by
  induction xs with
  | nil => rfl
  | cons x xs ih =>
    rw [List.mapM_cons, h x List.mem_cons_self, ok_bind,
      ih fun y hy => h y (List.mem_cons_of_mem _ hy)]
    rfl

/-- A refused fold accepted the elements before the one it stopped at. -/
theorem exists_of_foldlM_eq_error {f : β → α → Except ε β} {xs : List α} {b : β} {e : ε}
    (h : xs.foldlM f b = .error e) :
    ∃ ys x zs c, xs = ys ++ x :: zs ∧ ys.foldlM f b = .ok c ∧ f c x = .error e := by
  induction xs generalizing b with
  | nil => cases h
  | cons x xs ih =>
    rw [List.foldlM_cons] at h
    rcases bind_eq_error.mp h with hx | ⟨c, hx, hrest⟩
    · exact ⟨[], x, xs, b, rfl, rfl, hx⟩
    · obtain ⟨ys, y, zs, d, hsplit, hys, hy⟩ := ih hrest
      exact ⟨x :: ys, y, zs, d, by rw [hsplit, List.cons_append],
        foldlM_cons_eq_ok.mpr ⟨c, hx, hys⟩, hy⟩

/-- A fold stopped before and behind one of its elements. -/
theorem foldlM_getElem?_eq_ok {f : β → α → Except ε β} {xs : List α} {i : Nat} {x : α} {b d : β}
    (hx : xs[i]? = some x) (h : xs.foldlM f b = .ok d) :
    ∃ c c', (xs.take i).foldlM f b = .ok c ∧ f c x = .ok c' ∧
      (xs.drop (i + 1)).foldlM f c' = .ok d := by
  obtain ⟨hlt, rfl⟩ := List.getElem?_eq_some_iff.mp hx
  rw [← List.take_append_drop i xs, List.drop_eq_getElem_cons hlt] at h
  obtain ⟨c, hbefore, h⟩ := foldlM_append_eq_ok.mp h
  obtain ⟨c', hstep, hafter⟩ := foldlM_cons_eq_ok.mp h
  exact ⟨c, c', hbefore, hstep, hafter⟩

/-- A fold that ended took a step at each of its elements. -/
theorem exists_of_mem_foldlM {f : β → α → Except ε β} {xs : List α} {b d : β} {x : α}
    (hx : x ∈ xs) (h : xs.foldlM f b = .ok d) : ∃ c c', f c x = .ok c' := by
  obtain ⟨i, hi⟩ := List.getElem?_of_mem hx
  obtain ⟨c, c', -, hstep, -⟩ := foldlM_getElem?_eq_ok hi h
  exact ⟨c, c', hstep⟩

theorem mapM_append_eq_ok {f : α → Except ε β} {xs ys : List α} {zs : List β} :
    (xs ++ ys).mapM f = .ok zs ↔
      ∃ zs₁ zs₂, xs.mapM f = .ok zs₁ ∧ ys.mapM f = .ok zs₂ ∧ zs = zs₁ ++ zs₂ := by
  rw [List.mapM_append]
  simp only [bind_eq_ok, pure_eq_ok]
  constructor
  · rintro ⟨zs₁, h₁, zs₂, h₂, rfl⟩
    exact ⟨zs₁, zs₂, h₁, h₂, rfl⟩
  · rintro ⟨zs₁, zs₂, h₁, h₂, rfl⟩
    exact ⟨zs₁, h₁, zs₂, h₂, rfl⟩

@[simp] theorem mapM_nil_eq_ok {f : α → Except ε β} {zs : List β} :
    ([] : List α).mapM f = .ok zs ↔ zs = [] := by
  rw [List.mapM_nil, pure_eq_ok, eq_comm]

theorem mapM_cons_eq_ok {f : α → Except ε β} {x : α} {xs : List α} {zs : List β} :
    (x :: xs).mapM f = .ok zs ↔ ∃ z rest, f x = .ok z ∧ xs.mapM f = .ok rest ∧ zs = z :: rest := by
  rw [List.mapM_cons]
  simp only [bind_eq_ok, pure_eq_ok]
  constructor
  · rintro ⟨z, hz, rest, hrest, rfl⟩
    exact ⟨z, rest, hz, hrest, rfl⟩
  · rintro ⟨z, rest, hz, hrest, rfl⟩
    exact ⟨z, hz, rest, hrest, rfl⟩

/-- Every result of a mapped list comes from an element of it. -/
theorem mem_of_mapM_eq_ok {f : α → Except ε β} {xs : List α} {zs : List β}
    (h : xs.mapM f = .ok zs) {z : β} (hz : z ∈ zs) : ∃ x ∈ xs, f x = .ok z := by
  induction xs generalizing zs with
  | nil =>
    rw [mapM_nil_eq_ok.mp h] at hz
    cases hz
  | cons x xs ih =>
    obtain ⟨y, rest, hy, hrest, rfl⟩ := mapM_cons_eq_ok.mp h
    rcases List.mem_cons.mp hz with rfl | hz
    · exact ⟨x, List.mem_cons_self, hy⟩
    · obtain ⟨x', hx', hfx⟩ := ih hrest hz
      exact ⟨x', List.mem_cons_of_mem _ hx', hfx⟩

theorem length_of_mapM_eq_ok {f : α → Except ε β} {xs : List α} {zs : List β}
    (h : xs.mapM f = .ok zs) : zs.length = xs.length := by
  induction xs generalizing zs with
  | nil => rw [mapM_nil_eq_ok.mp h]; rfl
  | cons x xs ih =>
    obtain ⟨z, rest, -, hrest, rfl⟩ := mapM_cons_eq_ok.mp h
    rw [List.length_cons, List.length_cons, ih hrest]

/-- A mapped list has the result of each element at its place. -/
theorem getElem?_of_mapM_eq_ok {f : α → Except ε β} {xs : List α} {zs : List β}
    (h : xs.mapM f = .ok zs) {i : Nat} {x : α} (hx : xs[i]? = some x) :
    ∃ z, f x = .ok z ∧ zs[i]? = some z := by
  induction xs generalizing zs i with
  | nil => cases hx
  | cons y xs ih =>
    obtain ⟨z, rest, hz, hrest, rfl⟩ := mapM_cons_eq_ok.mp h
    cases i with
    | zero =>
      obtain rfl := Option.some.inj hx
      exact ⟨z, hz, rfl⟩
    | succ i => exact ih hrest hx

/-- An invariant of every step of a fold is an invariant of the fold. The
step may also use that the element really occurs in the list. -/
theorem foldlM_invariant {f : β → α → Except ε β} (P : β → Prop) {xs : List α} {b d : β}
    (hb : P b) (hstep : ∀ c x c', x ∈ xs → P c → f c x = .ok c' → P c')
    (h : xs.foldlM f b = .ok d) : P d := by
  induction xs generalizing b with
  | nil => exact foldlM_nil_eq_ok.mp h ▸ hb
  | cons x rest ih =>
    obtain ⟨c, hx, hrest⟩ := foldlM_cons_eq_ok.mp h
    have hc : P c := hstep b x c List.mem_cons_self hb hx
    exact ih hc (fun c y c' hy => hstep c y c' (List.mem_cons_of_mem _ hy)) hrest

end Checked
