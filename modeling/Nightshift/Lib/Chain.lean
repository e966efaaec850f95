import Mathlib.Data.Finset.Card
import Mathlib.Data.Finset.Dedup
import Mathlib.Data.Finset.Range
import Mathlib.Data.List.Pairwise
import Mathlib.Data.List.Perm.Basic

/-!
# Keyed chains

An append-only history in which every record stands at one position of the
lane its key names, and names the record just before it. The positions of a
lane are then an initial segment of the naturals, whatever the interleaving of
the lanes.
-/

namespace Chain

variable {ρ κ δ : Type}

/-- How a record is read: its lane, its position there, the record it names
and the name it goes by. -/
structure Reading (ρ κ δ : Type) where
  key : ρ → κ
  position : ρ → Nat
  predecessor : ρ → Option δ
  name : ρ → δ

/-- Two records at one coordinate. -/
def SamePlace (c : Reading ρ κ δ) (r s : ρ) : Prop :=
  c.key r = c.key s ∧ c.position r = c.position s

instance (c : Reading ρ κ δ) : Std.Symm fun r s => ¬ SamePlace c r s :=
  ⟨fun _ _ hrs hsr => hrs ⟨hsr.1.symm, hsr.2.symm⟩⟩

/-- The first record of a lane names nothing and every later one names the
record just before it; no coordinate is taken twice. -/
structure Chained (c : Reading ρ κ δ) (history : List ρ) : Prop where
  distinct : history.Pairwise fun r s => ¬ SamePlace c r s
  root : ∀ r ∈ history, c.position r = 0 → c.predecessor r = none
  linked : ∀ r ∈ history, ∀ n, c.position r = n + 1 →
    ∃ p ∈ history, c.key p = c.key r ∧ c.position p = n ∧ c.predecessor r = some (c.name p)

/-- What a new record must show to extend the chain. -/
structure Extends (c : Reading ρ κ δ) (history : List ρ) (r : ρ) : Prop where
  fresh : ∀ p ∈ history, ¬ SamePlace c p r
  root : c.position r = 0 → c.predecessor r = none
  linked : ∀ n, c.position r = n + 1 →
    ∃ p ∈ history, c.key p = c.key r ∧ c.position p = n ∧ c.predecessor r = some (c.name p)

/-- The positions of a lane, in the order of the history. -/
def positions [DecidableEq κ] (c : Reading ρ κ δ) (key : κ) (history : List ρ) : List Nat :=
  (history.filter fun r => c.key r = key).map c.position

variable {c : Reading ρ κ δ} {history : List ρ} {r s : ρ}

theorem chained_nil : Chained c [] where
  distinct := List.Pairwise.nil
  root := by simp
  linked := by simp

theorem Chained.append (h : Chained c history) (hr : Extends c history r) :
    Chained c (history ++ [r]) where
  distinct := by
    rw [List.pairwise_append]
    refine ⟨h.distinct, List.pairwise_singleton _ _, ?_⟩
    intro p hp s hs
    rw [List.mem_singleton.mp hs]
    exact hr.fresh p hp
  root := by
    intro s hs hzero
    rcases List.mem_append.mp hs with hs | hs
    · exact h.root s hs hzero
    · rw [List.mem_singleton.mp hs] at hzero ⊢
      exact hr.root hzero
  linked := by
    intro s hs n hn
    rcases List.mem_append.mp hs with hs | hs
    · obtain ⟨p, hp, hrest⟩ := h.linked s hs n hn
      exact ⟨p, List.mem_append_left _ hp, hrest⟩
    · rw [List.mem_singleton.mp hs] at hn ⊢
      obtain ⟨p, hp, hrest⟩ := hr.linked n hn
      exact ⟨p, List.mem_append_left _ hp, hrest⟩

/-- A coordinate determines the record that holds it. -/
theorem Chained.unique (h : Chained c history) (hr : r ∈ history) (hs : s ∈ history)
    (hplace : SamePlace c r s) : r = s := by
  by_contra hne
  exact h.distinct.forall hr hs hne hplace

/-- The record after another one in its lane names it. -/
theorem Chained.names (h : Chained c history) (hr : r ∈ history) (hs : s ∈ history)
    (hkey : c.key s = c.key r) (hnext : c.position r = c.position s + 1) :
    c.predecessor r = some (c.name s) := by
  obtain ⟨p, hp, hpkey, hppos, hpred⟩ := h.linked r hr _ hnext
  have hps : p = s := h.unique hp hs ⟨hpkey.trans hkey.symm, hppos⟩
  rw [hpred, hps]

/-- Distinct naturals with every smaller one among them are `0..n-1`. -/
theorem perm_range_of_closed {ns : List Nat} (hnodup : ns.Nodup)
    (hclosed : ∀ n, n + 1 ∈ ns → n ∈ ns) : ns.Perm (List.range ns.length) := by
  have hbelow : ∀ m n, m ≤ n → n ∈ ns → m ∈ ns := by
    intro m n hmn
    induction n, hmn using Nat.le_induction with
    | base => exact id
    | succ n _ ih => exact fun hn => ih (hclosed n hn)
  have hsub : ns.toFinset ⊆ Finset.range ns.length := by
    intro n hn
    have hrange : Finset.range (n + 1) ⊆ ns.toFinset := by
      intro m hm
      rw [Finset.mem_range] at hm
      rw [List.mem_toFinset] at hn ⊢
      exact hbelow m n (by omega) hn
    have hcard := Finset.card_le_card hrange
    rw [Finset.card_range, List.toFinset_card_of_nodup hnodup] at hcard
    rw [Finset.mem_range]
    omega
  have heq : ns.toFinset = Finset.range ns.length := by
    refine Finset.eq_of_subset_of_card_le hsub ?_
    rw [Finset.card_range, List.toFinset_card_of_nodup hnodup]
  rw [List.perm_ext_iff_of_nodup hnodup List.nodup_range]
  intro n
  rw [← List.mem_toFinset, heq, Finset.mem_range, List.mem_range]

section

variable [DecidableEq κ]

theorem mem_positions {key : κ} {n : Nat} :
    n ∈ positions c key history ↔ ∃ r ∈ history, c.key r = key ∧ c.position r = n := by
  simp [positions, and_assoc]

/-- The positions of every lane are exactly `0..n-1`. -/
theorem Chained.positions_perm (h : Chained c history) (key : κ) :
    (positions c key history).Perm (List.range (positions c key history).length) := by
  apply perm_range_of_closed
  · unfold positions
    rw [List.nodup_iff_pairwise_ne, List.pairwise_map, List.pairwise_filter]
    refine h.distinct.imp ?_
    intro r s hne hr hs hpos
    simp only [decide_eq_true_eq] at hr hs
    exact hne ⟨hr.trans hs.symm, hpos⟩
  · intro n hn
    obtain ⟨r, hr, hkey, hpos⟩ := mem_positions.mp hn
    obtain ⟨p, hp, hpkey, hppos, -⟩ := h.linked r hr n hpos
    exact mem_positions.mpr ⟨p, hp, hpkey.trans hkey, hppos⟩

end

end Chain
