import Mathlib

/-!
# Cadences

A time line cut into cells of one length from an origin on. From the origin every
instant lies in exactly one cell, and the cell is found by a floor division; it
does not matter whether the elapsed time is first cut down to whole units, as
long as the length of a cell is a whole number of them.
-/

namespace Cadence

variable {origin length instant : Int}

/-- Where a cell starts. -/
def start (origin length : Int) (k : Nat) : Int := origin + length * k

/-- The instants of a cell, its start among them and the next start not. -/
def cell (origin length : Int) (k : Nat) : Set Int :=
  Set.Ico (start origin length k) (start origin length (k + 1))

@[simp] theorem start_zero (origin length : Int) : start origin length 0 = origin := by
  simp [start]

theorem start_succ (origin length : Int) (k : Nat) :
    start origin length (k + 1) = start origin length k + length := by
  simp only [start, Int.natCast_succ, Int.mul_add, Int.mul_one]
  omega

theorem origin_le_start (hlength : 0 < length) (k : Nat) : origin ≤ start origin length k := by
  have hoffset : 0 ≤ length * k := Int.mul_nonneg (Int.le_of_lt hlength) (Int.natCast_nonneg k)
  simp only [start]
  omega

theorem mem_cell {k : Nat} : instant ∈ cell origin length k ↔
    start origin length k ≤ instant ∧ instant < start origin length (k + 1) :=
  Iff.rfl

/-- The cell of an instant is the floor of the elapsed time. -/
theorem mem_cell_iff (hlength : 0 < length) (hlate : origin ≤ instant) {k : Nat} :
    instant ∈ cell origin length k ↔ k = ((instant - origin) / length).toNat := by
  have hfloor : 0 ≤ (instant - origin) / length :=
    Int.ediv_nonneg (by omega) (Int.le_of_lt hlength)
  have hlower : length * k ≤ instant - origin ↔ (k : Int) ≤ (instant - origin) / length := by
    rw [Int.le_ediv_iff_mul_le hlength, Int.mul_comm]
  have hupper : instant - origin < length * (k + 1) ↔ (instant - origin) / length < k + 1 := by
    rw [Int.ediv_lt_iff_lt_mul hlength, Int.mul_comm]
  simp only [mem_cell, start, Int.natCast_succ]
  constructor
  · rintro ⟨hstart, hnext⟩
    have := hlower.mp (by omega)
    have := hupper.mp (by omega)
    omega
  · intro hk
    have := hlower.mpr (by omega)
    have := hupper.mpr (by omega)
    omega

theorem existsUnique_cell (hlength : 0 < length) (hlate : origin ≤ instant) :
    ∃! k, instant ∈ cell origin length k :=
  ⟨_, (mem_cell_iff hlength hlate).mpr rfl, fun _ h => (mem_cell_iff hlength hlate).mp h⟩

theorem not_mem_cell_of_early (hlength : 0 < length) (hearly : instant < origin) (k : Nat) :
    instant ∉ cell origin length k := by
  intro hmem
  have hstart : origin ≤ start origin length k := origin_le_start hlength k
  have hlate := (mem_cell.mp hmem).1
  omega

/-- Whole units are cut off the elapsed time before it is divided, and the cell is the same. -/
theorem mem_cell_iff_units {unit count k : Nat} (hunit : 0 < unit) (hcount : 0 < count)
    (hlate : origin ≤ instant) :
    instant ∈ cell origin (unit * count : Nat) k ↔
      k = (instant - origin).toNat / unit / count := by
  have hlength : (0 : Int) < (unit * count : Nat) := by
    exact_mod_cast Nat.mul_pos hunit hcount
  obtain ⟨elapsed, helapsed⟩ := Int.eq_ofNat_of_zero_le (Int.sub_nonneg.mpr hlate)
  rw [mem_cell_iff hlength hlate, helapsed, Nat.div_div_eq_div_mul, Int.toNat_natCast,
    ← Int.natCast_ediv, Int.toNat_natCast]

end Cadence
