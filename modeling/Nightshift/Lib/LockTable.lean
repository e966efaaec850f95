import Mathlib

/-!
# Exclusive locks in whole sets

A holder takes all the locks of its set at once and gives all of them back at
once. A table of that kind is determined by its live holders, and no two live
holders share a lock.
-/

namespace LockTable

variable {κ η : Type*}

/-- Who holds each lock. -/
abbrev Table (κ η : Type*) := κ → Option η

/-- What one step does to the locks. -/
inductive Move (η : Type*)
  | stay
  | take (holder : η)
  | drop (holder : η)

def take [DecidableEq κ] (table : Table κ η) (locks : List κ) (holder : η) : Table κ η :=
  fun lock => if lock ∈ locks then some holder else table lock

def drop [DecidableEq η] (table : Table κ η) (holder : η) : Table κ η :=
  fun lock => if table lock = some holder then none else table lock

namespace Move

def table [DecidableEq κ] [DecidableEq η] (locks : η → List κ) (table : Table κ η) : Move η → Table κ η
  | stay => table
  | take holder => LockTable.take table (locks holder) holder
  | drop holder => LockTable.drop table holder

def live (live : Set η) : Move η → Set η
  | stay => live
  | take holder => insert holder live
  | drop holder => live \ {holder}

/-- Taken locks were free or the taker's own. -/
def Free (locks : η → List κ) (table : Table κ η) : Move η → Prop
  | take holder => ∀ lock ∈ locks holder, table lock = none ∨ table lock = some holder
  | _ => True

end Move

/-- The live holders hold their whole sets, and nobody else holds anything. -/
structure Whole (locks : η → List κ) (live : Set η) (table : Table κ η) : Prop where
  held : ∀ lock holder, table lock = some holder → holder ∈ live ∧ lock ∈ locks holder
  whole : ∀ holder ∈ live, ∀ lock ∈ locks holder, table lock = some holder

namespace Whole

variable {locks : η → List κ} {live : Set η} {table table' : Table κ η}

theorem empty (locks : η → List κ) : Whole locks (∅ : Set η) (fun _ => none) :=
  ⟨by simp, by simp⟩

/-- Nobody but the holder of a set has any of it. -/
theorem take [DecidableEq κ] (h : Whole locks live table) {holder : η}
    (hfree : ∀ lock ∈ locks holder, table lock = none ∨ table lock = some holder) :
    Whole locks (insert holder live) (LockTable.take table (locks holder) holder) := by
  constructor
  · intro lock other hlock
    by_cases hmem : lock ∈ locks holder
    · rw [LockTable.take, if_pos hmem] at hlock
      obtain rfl := Option.some.inj hlock
      exact ⟨Set.mem_insert _ _, hmem⟩
    · rw [LockTable.take, if_neg hmem] at hlock
      obtain ⟨hlive, hin⟩ := h.held lock other hlock
      exact ⟨Set.mem_insert_of_mem _ hlive, hin⟩
  · intro other hother lock hlock
    by_cases hmem : lock ∈ locks holder
    · rw [LockTable.take, if_pos hmem]
      rcases Set.mem_insert_iff.mp hother with rfl | hlive
      · rfl
      · -- a live holder of the lock leaves it neither free nor taken
        rcases hfree lock hmem with hnone | hsome
        · rw [h.whole other hlive lock hlock] at hnone
          cases hnone
        · rw [← hsome, h.whole other hlive lock hlock]
    · rw [LockTable.take, if_neg hmem]
      rcases Set.mem_insert_iff.mp hother with rfl | hlive
      · exact absurd hlock hmem
      · exact h.whole other hlive lock hlock

theorem drop [DecidableEq η] (h : Whole locks live table) (holder : η) :
    Whole locks (live \ {holder}) (LockTable.drop table holder) := by
  constructor
  · intro lock other hlock
    by_cases hheld : table lock = some holder
    · rw [LockTable.drop, if_pos hheld] at hlock
      cases hlock
    · rw [LockTable.drop, if_neg hheld] at hlock
      obtain ⟨hlive, hin⟩ := h.held lock other hlock
      refine ⟨⟨hlive, ?_⟩, hin⟩
      rintro rfl
      exact hheld hlock
  · rintro other ⟨hlive, hne⟩ lock hlock
    have hother := h.whole other hlive lock hlock
    rw [LockTable.drop, if_neg, hother]
    intro hheld
    exact hne (Option.some.inj (hother.symm.trans hheld))

/-- A move that takes free locks only keeps every set whole. -/
theorem move [DecidableEq κ] [DecidableEq η] (h : Whole locks live table) (m : Move η) (hfree : m.Free locks table) :
    Whole locks (m.live live) (m.table locks table) := by
  cases m with
  | stay => exact h
  | take holder => exact h.take hfree
  | drop holder => exact h.drop holder

/-- The live holders determine the table. -/
theorem unique (h : Whole locks live table) (h' : Whole locks live table') : table' = table := by
  funext lock
  cases hlock : table lock with
  | some holder =>
    obtain ⟨hlive, hin⟩ := h.held lock holder hlock
    exact h'.whole holder hlive lock hin
  | none =>
    cases hother : table' lock with
    | none => rfl
    | some holder =>
      obtain ⟨hlive, hin⟩ := h'.held lock holder hother
      rw [h.whole holder hlive lock hin] at hlock
      cases hlock

/-- Two live holders share no lock. -/
theorem disjoint (h : Whole locks live table) {a b : η} (ha : a ∈ live) (hb : b ∈ live) {lock : κ}
    (hlocka : lock ∈ locks a) (hlockb : lock ∈ locks b) : a = b :=
  Option.some.inj ((h.whole a ha lock hlocka).symm.trans (h.whole b hb lock hlockb))

end Whole

/-- Freeing the whole set of its holder drops that holder. -/
theorem Whole.free_eq_drop [DecidableEq κ] [DecidableEq η] {locks : η → List κ} {live : Set η}
    {table : Table κ η} (h : Whole locks live table) {holder : η}
    (hheld : ∀ lock ∈ locks holder, table lock = some holder) :
    (fun lock => if lock ∈ locks holder then none else table lock) = LockTable.drop table holder := by
  funext lock
  by_cases hmem : lock ∈ locks holder
  · simp [LockTable.drop, hmem, hheld lock hmem]
  · have hother : table lock ≠ some holder := fun hlock => hmem (h.held lock holder hlock).2
    simp [LockTable.drop, hmem, hother]

/-- A filter that passes over every live holder but one drops that holder. -/
theorem drop_eq_filter [DecidableEq η] {locks : η → List κ} {live : Set η} {table : Table κ η}
    (h : Whole locks live table) {holder : η} {keep : η → Bool}
    (hkeep : ∀ other ∈ live, keep other = false ↔ other = holder) :
    (fun lock => (table lock).filter keep) = drop table holder := by
  funext lock
  cases hlock : table lock with
  | none => simp [drop, hlock]
  | some other =>
    have hother := hkeep other (h.held lock other hlock).1
    by_cases heq : other = holder
    · subst heq
      simp [drop, hlock, hother.mpr rfl]
    · have hkept : keep other = true := by simpa [heq] using hother
      simp [drop, hlock, heq, hkept]

end LockTable
