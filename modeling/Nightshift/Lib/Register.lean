import Nightshift.Lib.Checked
import Nightshift.Lib.OrderedMap

/-!
# Registers

A table whose rows each bind several identities, and that takes a new row only
when it binds none that is bound already. Every identity then has one row, no row
is ever replaced, and a search for the identities of a row finds that row.
-/

/-- What the rows of a table are kept under, and the identities they bind. -/
structure Register (κ ρ ι : Type) where
  key : ρ → κ
  identities : ρ → List ι
  /-- The key is itself bound as an identity. -/
  primary : κ → ι
  primary_mem : ∀ row, primary (key row) ∈ identities row

namespace Register

variable {κ ρ ι : Type} [Ord κ] [Std.TransOrd κ] [Std.LawfulEqOrd κ] [DecidableEq κ]
  (reg : Register κ ρ ι)

/-- The row binds nothing that a row of the table binds. -/
def Unbound (table : BTreeMap κ ρ) (row : ρ) : Prop :=
  ∀ other ∈ BTreeMap.valuesOf table, ∀ id ∈ reg.identities row, id ∉ reg.identities other

/-- A row enters the table, or nothing happens. -/
inductive Step (table : BTreeMap κ ρ) : BTreeMap κ ρ → Prop
  | stay : Step table table
  | enter (row : ρ) : reg.Unbound table row → Step table (table.insert (reg.key row) row)

/-- Offer a row to the table. A row that binds an identity of the offered one is audited, and is the
answer if it counts as the offered row sent again; a table that is closed to the offered row, or
binds one of its identities otherwise, refuses. -/
def offer {ε : Type} [DecidableEq ι] (audit : ρ → Except ε Unit) (same : ρ → Prop) [DecidablePred same] (conflict : ε)
    (open_ : BTreeMap κ ρ → Except ε Unit) (row : ρ) (table : BTreeMap κ ρ) :
    Except ε (ρ × BTreeMap κ ρ) :=
  match (BTreeMap.valuesOf table).find? fun other =>
      (reg.identities other).any (· ∈ reg.identities row) with
  | some existing => do
    audit existing
    if same existing then .ok (existing, table) else .error conflict
  | none => do
    open_ table
    .ok (row, table.insert (reg.key row) row)

/-- Rows are kept under their keys, and no identity is bound by two of them. -/
structure Exclusive (table : BTreeMap κ ρ) : Prop where
  keyed : ∀ k row, table[k]? = some row → reg.key row = k
  once : ∀ a ∈ BTreeMap.valuesOf table, ∀ b ∈ BTreeMap.valuesOf table,
    ∀ id ∈ reg.identities a, id ∈ reg.identities b → a = b

variable {reg} {table table' : BTreeMap κ ρ} {row : ρ}

omit [DecidableEq κ] in
theorem Unbound.key_free (h : reg.Unbound table row) (hkeyed : ∀ k row, table[k]? = some row →
    reg.key row = k) : table[reg.key row]? = none := by
  cases hfound : table[reg.key row]? with
  | none => rfl
  | some other =>
    have hkey := hkeyed _ other hfound
    refine absurd ?_ (h other (BTreeMap.mem_valuesOf.mpr ⟨_, hfound⟩) _ (reg.primary_mem row))
    rw [← hkey]
    exact reg.primary_mem other

theorem mem_values_enter {other : ρ}
    (h : other ∈ BTreeMap.valuesOf (table.insert (reg.key row) row)) :
    other = row ∨ other ∈ BTreeMap.valuesOf table := by
  obtain ⟨k, hk⟩ := BTreeMap.mem_valuesOf.mp h
  rw [BTreeMap.getElem?_insert_eq] at hk
  split at hk
  · cases hk
    exact .inl rfl
  · exact .inr (BTreeMap.mem_valuesOf.mpr ⟨k, hk⟩)

namespace Exclusive

omit [Std.LawfulEqOrd κ] [DecidableEq κ] in
theorem empty : reg.Exclusive (∅ : BTreeMap κ ρ) where
  keyed := by simp
  once := by simp [BTreeMap.valuesOf]

theorem enter (h : reg.Exclusive table) (hfree : reg.Unbound table row) :
    reg.Exclusive (table.insert (reg.key row) row) where
  keyed := by
    intro k other hother
    rw [BTreeMap.getElem?_insert_eq] at hother
    split at hother
    · rename_i hk
      cases hother
      exact hk
    · exact h.keyed k other hother
  once := by
    intro a ha b hb id hida hidb
    rcases mem_values_enter ha with hnew | hold
    · rw [hnew] at hida ⊢
      rcases mem_values_enter hb with hnew' | hold'
      · exact hnew'.symm
      · exact absurd hidb (hfree b hold' id hida)
    · rcases mem_values_enter hb with hnew' | hold'
      · rw [hnew'] at hidb
        exact absurd hida (hfree a hold id hidb)
      · exact h.once a hold b hold' id hida hidb

theorem step (h : reg.Exclusive table) (hstep : reg.Step table table') :
    reg.Exclusive table' := by
  cases hstep with
  | stay => exact h
  | enter row hfree => exact h.enter hfree

/-- A row once in the table stays under its key. -/
theorem kept (h : reg.Exclusive table) (hstep : reg.Step table table') {k : κ}
    (hrow : table[k]? = some row) : table'[k]? = some row := by
  cases hstep with
  | stay => exact hrow
  | enter new hfree =>
    rw [BTreeMap.getElem?_insert_eq]
    split
    · rename_i hk
      rw [← hk, hfree.key_free h.keyed] at hrow
      cases hrow
    · exact hrow

omit [Std.LawfulEqOrd κ] [DecidableEq κ] in
/-- A search for what a row binds finds that row, wherever it looks first. -/
theorem find?_eq (h : reg.Exclusive table) (hrow : row ∈ BTreeMap.valuesOf table) {p : ρ → Bool}
    (hp : ∀ other, p other = true ↔ ∃ id ∈ reg.identities row, id ∈ reg.identities other) :
    (BTreeMap.valuesOf table).find? p = some row := by
  cases hfind : (BTreeMap.valuesOf table).find? p with
  | none =>
    have hself : p row = true := (hp row).mpr ⟨_, reg.primary_mem row, reg.primary_mem row⟩
    exact absurd hself (List.find?_eq_none.mp hfind row hrow)
  | some other =>
    obtain ⟨id, hid, hother⟩ := (hp other).mp (List.find?_some hfind)
    have heq := h.once row hrow other (List.mem_of_find?_eq_some hfind) id hid hother
    rw [heq]

end Exclusive

section Offer

variable {ε : Type} [DecidableEq ι] {audit : ρ → Except ε Unit} {same : ρ → Prop}
  [DecidablePred same] {conflict : ε} {open_ : BTreeMap κ ρ → Except ε Unit} {out : ρ}

omit [Std.LawfulEqOrd κ] [DecidableEq κ] in
/-- An offer is answered with a retained row, or enters. -/
theorem offer_cases (h : reg.offer audit same conflict open_ row table = .ok (out, table')) :
    (out ∈ BTreeMap.valuesOf table ∧ same out ∧ table' = table) ∨
      (reg.Unbound table row ∧ out = row ∧ table' = table.insert (reg.key row) row) := by
  unfold offer at h
  split at h
  · rename_i existing hfind
    obtain ⟨_, -, h⟩ := Checked.bind_eq_ok.mp h
    split at h
    · rename_i hsame
      cases h
      exact .inl ⟨List.mem_of_find?_eq_some hfind, hsame, rfl⟩
    · cases h
  · rename_i hfind
    obtain ⟨_, -, h⟩ := Checked.bind_eq_ok.mp h
    cases h
    refine .inr ⟨?_, rfl, rfl⟩
    intro other hother id hid hbound
    have hnone := List.find?_eq_none.mp hfind other hother
    simp only [List.any_eq_true, decide_eq_true_eq, not_exists, not_and] at hnone
    exact hnone id hbound hid

omit [Std.LawfulEqOrd κ] [DecidableEq κ] in
theorem step_of_offer (h : reg.offer audit same conflict open_ row table = .ok (out, table')) :
    reg.Step table table' := by
  rcases offer_cases h with ⟨-, -, rfl⟩ | ⟨hfree, -, rfl⟩
  · exact .stay
  · exact .enter row hfree

omit [Std.LawfulEqOrd κ] [DecidableEq κ] in
/-- A retained row that is the offered row sent again is the answer. -/
theorem offer_resent (h : reg.Exclusive table) {existing : ρ}
    (hexisting : existing ∈ BTreeMap.valuesOf table)
    (hids : reg.identities existing = reg.identities row) (haudit : audit existing = .ok ())
    (hsame : same existing) :
    reg.offer audit same conflict open_ row table = .ok (existing, table) := by
  have hfind := h.find?_eq hexisting (p := fun other =>
      (reg.identities other).any (· ∈ reg.identities row)) (by
    intro other
    rw [hids]
    simp only [List.any_eq_true, decide_eq_true_eq]
    exact ⟨fun ⟨id, hid, hrow⟩ => ⟨id, hrow, hid⟩, fun ⟨id, hrow, hid⟩ => ⟨id, hid, hrow⟩⟩)
  rw [offer, hfind]
  simp [haudit, hsame]

omit [Std.LawfulEqOrd κ] [DecidableEq κ] in
/-- An offer that shares an identity with a retained row is only answered when it is that row sent
again, whichever row the search meets first. -/
theorem same_of_offer (h : reg.Exclusive table) {existing : ρ}
    (hexisting : existing ∈ BTreeMap.valuesOf table)
    (hoffer : reg.offer audit same conflict open_ row table = .ok (out, table'))
    (hshared : ∃ id ∈ reg.identities row, id ∈ reg.identities existing)
    (hids : ∀ other, same other → reg.identities other = reg.identities row) : same existing := by
  obtain ⟨id, hid, hbound⟩ := hshared
  rcases offer_cases hoffer with ⟨hout, hsame, -⟩ | ⟨hfree, -, -⟩
  · have heq := h.once existing hexisting out hout id hbound (by rwa [hids _ hsame])
    rwa [heq]
  · exact absurd hbound (hfree existing hexisting id hid)

end Offer

end Register
