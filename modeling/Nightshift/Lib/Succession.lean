import Mathlib.Data.Finset.Card
import Mathlib.Data.List.Chain
import Mathlib.Dynamics.PeriodicPts.Lemmas
import Mathlib.Logic.Relation

/-!
# Succession by predecessor names

A finite set whose members each name at most one predecessor. If every name is a
member's and none is used twice, the members fall apart into lines that start
at a root and cycles that have none. Counting one root and one unnamed member
leaves a single line, but any number of cycles beside it.
-/

namespace Succession

variable {ν : Type} {members : Finset ν} {names : ν → Option ν} {ids : List ν}

/-- Every name is a member's, and no two members name the same. -/
structure Unforked (members : Finset ν) (names : ν → Option ν) : Prop where
  closed : ∀ a ∈ members, ∀ p, names a = some p → p ∈ members
  single : ∀ a ∈ members, ∀ b ∈ members, ∀ p,
    names a = some p → names b = some p → a = b

def Named (members : Finset ν) (names : ν → Option ν) (a : ν) : Prop :=
  ∃ b ∈ members, names b = some a

/-- `a` stands behind itself. -/
def OnCycle (names : ν → Option ν) : ν → Prop := fun a =>
  Relation.TransGen (fun a b => names b = some a) a a

/-- A line of members from a root, each but the first naming the one before it. -/
structure Line (members : Finset ν) (names : ν → Option ν) (ids : List ν) : Prop where
  members : ∀ a ∈ ids, a ∈ members
  distinct : ids.Nodup
  root : ∀ a ∈ ids.head?, names a = none
  linked : ids.IsChain fun a b => names b = some a

/-! ## Along a line -/

theorem Line.succ (h : Line members names ids) {i : Nat} {a b : ν}
    (ha : ids[i]? = some a) (hb : ids[i + 1]? = some b) : names b = some a := by
  obtain ⟨hi, hb⟩ := List.getElem?_eq_some_iff.mp hb
  obtain ⟨_, ha⟩ := List.getElem?_eq_some_iff.mp ha
  have hlink := List.isChain_iff_getElem.mp h.linked i hi
  rwa [ha, hb] at hlink

/-- What the members of a line name: the member before, or nothing. -/
theorem Line.names_eq (h : Line members names ids) {i : Nat} {a : ν}
    (ha : ids[i]? = some a) : names a = if i = 0 then none else ids[i - 1]? := by
  cases i with
  | zero =>
    rw [if_pos rfl]
    exact h.root a (by rw [List.head?_eq_getElem?, ha]; rfl)
  | succ i =>
    rw [if_neg (by omega), Nat.add_sub_cancel]
    have hi : i < ids.length := by
      have := (List.getElem?_eq_some_iff.mp ha).1
      omega
    rw [List.getElem?_eq_getElem hi]
    exact h.succ (List.getElem?_eq_getElem hi) ha

/-- A member of a line is named by the next one only. -/
theorem Line.next (h : Line members names ids) {i : Nat} {a b : ν} (ha : ids[i]? = some a)
    (hb : b ∈ ids) (hnames : names b = some a) : ids[i + 1]? = some b := by
  obtain ⟨j, hj⟩ := List.getElem?_of_mem hb
  have hbefore := h.names_eq hj
  rw [hnames] at hbefore
  split at hbefore
  case isTrue => cases hbefore
  case isFalse hzero =>
    obtain ⟨hi, ha⟩ := List.getElem?_eq_some_iff.mp ha
    obtain ⟨hj', ha'⟩ := List.getElem?_eq_some_iff.mp hbefore.symm
    have hij : i = j - 1 := (h.distinct.getElem_inj_iff).mp (ha.trans ha'.symm)
    rw [show i + 1 = j by omega]
    exact hj

/-- The end of a line takes one more member that names it. -/
theorem Line.extend (h : Line members names ids) {a b : ν} (hlast : ids.getLast? = some a)
    (hb : b ∈ members) (hnames : names b = some a) : Line members names (ids ++ [b]) := by
  have hlast' : ids[ids.length - 1]? = some a := by rw [← List.getLast?_eq_getElem?, hlast]
  have hfresh : b ∉ ids := by
    intro hmem
    have hnext := h.next hlast' hmem hnames
    have hlt := (List.getElem?_eq_some_iff.mp hnext).1
    omega
  refine ⟨?_, ?_, ?_, ?_⟩
  · intro x hx
    rcases List.mem_append.mp hx with hx | hx
    · exact h.members x hx
    · rw [List.mem_singleton.mp hx]
      exact hb
  · exact List.nodup_append.mpr ⟨h.distinct, List.nodup_singleton b, by
      rintro x hx y hy rfl
      exact hfresh (List.mem_singleton.mp hy ▸ hx)⟩
  · intro x hx
    refine h.root x ?_
    cases ids with
    | nil => cases hlast
    | cons first rest => exact hx
  · refine List.isChain_append.mpr ⟨h.linked, .singleton b, ?_⟩
    intro x hx y hy
    rw [hlast] at hx
    cases hx
    cases hy
    exact hnames

theorem Line.length_le (h : Line members names ids) : ids.length ≤ members.card := by
  classical
  rw [← List.toFinset_card_of_nodup h.distinct]
  refine Finset.card_le_card ?_
  intro a ha
  exact h.members a (List.mem_toFinset.mp ha)

/-- A line that starts at a root goes on to a member that nothing names. -/
theorem Line.exists_end (h : Line members names ids) (hne : ids ≠ []) :
    ∃ longer last, Line members names longer ∧ ids <+: longer ∧ longer.getLast? = some last ∧
      ¬ Named members names last := by
  generalize hroom : members.card - ids.length = room
  induction room generalizing ids with
  | zero =>
    have hlast : ids.getLast? = some (ids.getLast hne) := List.getLast?_eq_some_getLast hne
    refine ⟨ids, _, h, List.prefix_rfl, hlast, ?_⟩
    rintro ⟨b, hb, hnames⟩
    have hlength := (h.extend hlast hb hnames).length_le
    rw [List.length_append, List.length_singleton] at hlength
    omega
  | succ room ih =>
    have hlast : ids.getLast? = some (ids.getLast hne) := List.getLast?_eq_some_getLast hne
    by_cases hnamed : Named members names (ids.getLast hne)
    · obtain ⟨b, hb, hnames⟩ := hnamed
      have hroom' : members.card - (ids ++ [b]).length = room := by
        rw [List.length_append, List.length_singleton]
        omega
      obtain ⟨longer, last, hline, hprefix, hend⟩ :=
        ih (h.extend hlast hb hnames) (by simp) hroom'
      exact ⟨longer, last, hline, (List.prefix_append ids [b]).trans hprefix, hend⟩
    · exact ⟨ids, _, h, List.prefix_rfl, hlast, hnamed⟩

/-! ## Cycles -/

/-- One step back, and nowhere from a root. -/
def back (names : ν → Option ν) (a : ν) : ν := (names a).getD a

theorem back_eq {a p : ν} (h : names a = some p) : back names a = p := by simp [back, h]

theorem OnCycle.mem_periodicPts {a : ν} (h : OnCycle names a) :
    a ∈ Function.periodicPts (back names) := by
  have hsteps : ∀ x y, Relation.TransGen (fun a b => names b = some a) x y →
      ∃ n > 0, (back names)^[n] y = x := by
    intro x y hxy
    induction hxy with
    | single hstep => exact ⟨1, Nat.one_pos, back_eq hstep⟩
    | tail _ hstep ih =>
      obtain ⟨n, -, hn⟩ := ih
      refine ⟨n + 1, n.succ_pos, ?_⟩
      rw [Function.iterate_succ_apply, back_eq hstep, hn]
  obtain ⟨n, hpos, hn⟩ := hsteps a a h
  exact Function.mk_mem_periodicPts hpos hn

/-- Two members of cycles that name the same are the same. -/
theorem OnCycle.single {a b p : ν} (ha : OnCycle names a) (hb : OnCycle names b)
    (hap : names a = some p) (hbp : names b = some p) : a = b := by
  have hinjective := (Function.bijOn_periodicPts (f := back names)).injOn
  refine hinjective ha.mem_periodicPts hb.mem_periodicPts ?_
  rw [back_eq hap, back_eq hbp]

/-- What a member of a cycle names is on the cycle. -/
theorem OnCycle.predecessor {a : ν} (h : OnCycle names a) :
    ∃ p, names a = some p ∧ OnCycle names p := by
  obtain ⟨p, hap, hpa⟩ := Relation.TransGen.tail'_iff.mp h
  exact ⟨p, hpa, Relation.TransGen.head' hpa hap⟩

/-- Along a cycle of members some member names each one. -/
theorem OnCycle.named (hclosed : ∀ a ∈ members, ∀ p, names a = some p → p ∈ members) {a : ν}
    (ha : a ∈ members) (h : OnCycle names a) : Named members names a := by
  obtain ⟨n, hpos, hperiod⟩ := h.mem_periodicPts
  obtain ⟨k, rfl⟩ := Nat.exists_eq_succ_of_ne_zero hpos.ne'
  have hwalk : ∀ k, (back names)^[k] a ∈ members ∧ OnCycle names ((back names)^[k] a) := by
    intro k
    induction k with
    | zero => exact ⟨ha, h⟩
    | succ k ih =>
      obtain ⟨p, hp, hcycle⟩ := ih.2.predecessor
      rw [Function.iterate_succ_apply', back_eq hp]
      exact ⟨hclosed _ ih.1 p hp, hcycle⟩
  obtain ⟨hmember, hcycle⟩ := hwalk k
  obtain ⟨p, hp, -⟩ := hcycle.predecessor
  have hround : (back names)^[k + 1] a = a := hperiod
  rw [Function.iterate_succ_apply', back_eq hp] at hround
  exact ⟨_, hmember, hround ▸ hp⟩

/-- A finite set that every member's name leads back into, each from one member
only, consists of cycles. -/
theorem onCycle_of_closed (rest : Set ν) (hfinite : rest.Finite)
    (hnames : ∀ a ∈ rest, ∃ p, names a = some p ∧ p ∈ rest)
    (hsingle : ∀ a ∈ rest, ∀ b ∈ rest, ∀ p, names a = some p → names b = some p → a = b)
    {a : ν} (ha : a ∈ rest) : OnCycle names a := by
  have hmaps : Set.MapsTo (back names) rest rest := by
    intro x hx
    obtain ⟨p, hxp, hp⟩ := hnames x hx
    rw [back_eq hxp]
    exact hp
  have hinjective : Function.Injective hmaps.restrict := by
    rintro ⟨x, hx⟩ ⟨y, hy⟩ hxy
    obtain ⟨p, hxp, -⟩ := hnames x hx
    obtain ⟨q, hyq, -⟩ := hnames y hy
    have hpq : p = q := by
      have hval : back names x = back names y := congrArg Subtype.val hxy
      rwa [back_eq hxp, back_eq hyq] at hval
    exact Subtype.ext (hsingle x hx y hy p hxp (hpq ▸ hyq))
  have := hfinite.to_subtype
  obtain ⟨n, hpos, hperiod⟩ := hinjective.mem_periodicPts ⟨a, ha⟩
  have hcircle : (back names)^[n] a = a := by
    have hval := congrArg Subtype.val hperiod
    rwa [hmaps.iterate_restrict] at hval
  have hstep (k : Nat) : names ((back names)^[k] a) = some ((back names)^[k + 1] a) := by
    obtain ⟨p, hp, -⟩ := hnames _ (hmaps.iterate k ha)
    rw [Function.iterate_succ_apply', back_eq hp, hp]
  have hwalk : ∀ k, Relation.TransGen (fun a b => names b = some a) ((back names)^[k + 1] a) a := by
    intro k
    induction k with
    | zero => exact .single (hstep 0)
    | succ k ih => exact .head (hstep (k + 1)) ih
  obtain ⟨k, rfl⟩ := Nat.exists_eq_succ_of_ne_zero hpos.ne'
  have hcycle := hwalk k
  rwa [hcircle] at hcycle

/-! ## One root and one end -/

/-- No member of a line is on a cycle: its names lead to the root. -/
theorem Line.not_onCycle (h : Line members names ids) : ∀ a ∈ ids, ¬ OnCycle names a := by
  have hplaces : ∀ (i : Nat) (a : ν), ids[i]? = some a → ¬ OnCycle names a := by
    intro i
    induction i with
    | zero =>
      intro a ha hcycle
      obtain ⟨p, hp, -⟩ := hcycle.predecessor
      rw [h.names_eq ha, if_pos rfl] at hp
      cases hp
    | succ i ih =>
      intro a ha hcycle
      obtain ⟨p, hp, hback⟩ := hcycle.predecessor
      rw [h.names_eq ha, if_neg (by omega), Nat.add_sub_cancel] at hp
      exact ih p hp hback
  intro a ha
  obtain ⟨i, hi⟩ := List.getElem?_of_mem ha
  exact hplaces i a hi

/-- A member beside the line names a member beside the line. -/
theorem Line.beside (h : Line members names ids) (hunforked : Unforked members names)
    {last : ν} (hlast : ids.getLast? = some last) (hend : ¬ Named members names last)
    (hroot : ∀ a ∈ members, names a = none → a ∈ ids) {a : ν} (ha : a ∈ members)
    (hbeside : a ∉ ids) : ∃ p, names a = some p ∧ p ∈ members ∧ p ∉ ids := by
  cases hnames : names a with
  | none => exact absurd (hroot a ha hnames) hbeside
  | some p =>
    refine ⟨p, rfl, hunforked.closed a ha p hnames, ?_⟩
    intro hp
    obtain ⟨i, hi⟩ := List.getElem?_of_mem hp
    by_cases hnext : i + 1 < ids.length
    · have hsucc := h.succ hi (List.getElem?_eq_getElem hnext)
      have heq := hunforked.single a ha _ (h.members _ (List.getElem_mem hnext)) p hnames hsucc
      exact hbeside (heq ▸ List.getElem_mem hnext)
    · have hlt := (List.getElem?_eq_some_iff.mp hi).1
      rw [List.getLast?_eq_getElem?, show ids.length - 1 = i by omega, hi] at hlast
      cases hlast
      exact hend ⟨a, ha, hnames⟩

/-- One line, with every other member on a cycle. -/
structure Laid (members : Finset ν) (names : ν → Option ν) (ids : List ν) (last : ν) : Prop where
  line : Line members names ids
  end_ : ids.getLast? = some last
  beside : ∀ a ∈ members, a ∉ ids → OnCycle names a ∧ ∃ p ∈ members, names a = some p

/-- One root and one unnamed member leave a line and cycles. -/
theorem Unforked.laid (hunforked : Unforked members names) {root last : ν} (hmem : root ∈ members)
    (hnone : names root = none) (hroot : ∀ a ∈ members, names a = none → a = root)
    (hend : ∀ a ∈ members, ¬ Named members names a → a = last) :
    ∃ ids, Laid members names ids last := by
  have hstart : Line members names [root] :=
    ⟨by simpa using hmem, List.nodup_singleton root, by simpa using hnone, .singleton root⟩
  obtain ⟨ids, final, hline, hprefix, hfinal, hunnamed⟩ := hstart.exists_end (by simp)
  have hlast : final = last :=
    hend final (hline.members final (List.mem_of_getLast? hfinal)) hunnamed
  have hin : ∀ a ∈ members, names a = none → a ∈ ids := by
    intro a ha hnone
    rw [hroot a ha hnone]
    exact hprefix.subset List.mem_cons_self
  have hbeside : ∀ a ∈ members, a ∉ ids → ∃ p, names a = some p ∧ p ∈ members ∧ p ∉ ids :=
    fun a ha hout => hline.beside hunforked hfinal hunnamed hin ha hout
  refine ⟨ids, hline, hlast ▸ hfinal, ?_⟩
  intro a ha hout
  have hfinite : {a | a ∈ members ∧ a ∉ ids}.Finite :=
    members.finite_toSet.subset fun _ hx => hx.1
  refine ⟨onCycle_of_closed {a | a ∈ members ∧ a ∉ ids} hfinite ?_ ?_ ⟨ha, hout⟩, ?_⟩
  · exact fun x hx => hbeside x hx.1 hx.2
  · exact fun x hx y hy => hunforked.single x hx.1 y hy.1
  · obtain ⟨p, hp, hmember, -⟩ := hbeside a ha hout
    exact ⟨p, hmember, hp⟩

variable {last : ν}

/-- A root heads the line. -/
theorem Laid.root (h : Laid members names ids last) :
    ∃ root ∈ members, names root = none ∧ ∀ a ∈ members, names a = none → a = root := by
  obtain ⟨first, hfirst⟩ : ∃ first, ids[0]? = some first := by
    have hlast := h.end_
    cases ids with
    | nil => cases hlast
    | cons first rest => exact ⟨first, rfl⟩
  refine ⟨first, h.line.members first (List.mem_of_getElem? hfirst), ?_, ?_⟩
  · rw [h.line.names_eq hfirst, if_pos rfl]
  · intro a ha hnone
    by_cases hin : a ∈ ids
    · obtain ⟨i, hi⟩ := List.getElem?_of_mem hin
      have hbefore := h.line.names_eq hi
      rw [hnone] at hbefore
      by_cases hzero : i = 0
      · subst hzero
        rw [hfirst] at hi
        cases hi
        rfl
      · rw [if_neg hzero] at hbefore
        have hlt := (List.getElem?_eq_some_iff.mp hi).1
        rw [List.getElem?_eq_getElem (by omega)] at hbefore
        cases hbefore
    · obtain ⟨-, p, -, hp⟩ := h.beside a ha hin
      rw [hp] at hnone
      cases hnone

/-- A line with cycles beside it is unforked. -/
theorem Laid.unforked (h : Laid members names ids last) : Unforked members names := by
  have hplace : ∀ a ∈ ids, ∀ p, names a = some p → p ∈ ids := by
    intro a ha p hp
    obtain ⟨i, hi⟩ := List.getElem?_of_mem ha
    have hbefore := h.line.names_eq hi
    rw [hp] at hbefore
    split at hbefore
    · cases hbefore
    · exact List.mem_of_getElem? hbefore.symm
  have hapart : ∀ a ∈ ids, ∀ b ∈ members, b ∉ ids → ∀ p, names a = some p → names b ≠ some p := by
    intro a ha b hb hout p hap hbp
    obtain ⟨q, hq, hcycle⟩ := (h.beside b hb hout).1.predecessor
    rw [hbp] at hq
    cases hq
    exact h.line.not_onCycle p (hplace a ha p hap) hcycle
  constructor
  · intro a ha p hp
    by_cases hin : a ∈ ids
    · exact h.line.members p (hplace a hin p hp)
    · obtain ⟨-, q, hq, hnames⟩ := h.beside a ha hin
      rw [hp] at hnames
      cases hnames
      exact hq
  · intro a ha b hb p hap hbp
    by_cases hina : a ∈ ids
    · by_cases hinb : b ∈ ids
      · obtain ⟨i, hi⟩ := List.getElem?_of_mem (hplace a hina p hap)
        have hnexta := h.line.next hi hina hap
        have hnextb := h.line.next hi hinb hbp
        rw [hnexta] at hnextb
        cases hnextb
        rfl
      · exact absurd hbp (hapart a hina b hb hinb p hap)
    · by_cases hinb : b ∈ ids
      · exact absurd hap (hapart b hinb a ha hina p hbp)
      · exact (h.beside a ha hina).1.single (h.beside b hb hinb).1 hap hbp

/-- The end of the line is the one member that nothing names. -/
theorem Laid.unnamed_iff (h : Laid members names ids last) {a : ν} (ha : a ∈ members) :
    ¬ Named members names a ↔ a = last := by
  have hlast : ids[ids.length - 1]? = some last := by rw [← List.getLast?_eq_getElem?, h.end_]
  constructor
  · intro hunnamed
    by_contra hne
    apply hunnamed
    by_cases hin : a ∈ ids
    · obtain ⟨i, hi⟩ := List.getElem?_of_mem hin
      have hlt := (List.getElem?_eq_some_iff.mp hi).1
      have hi' : i ≠ ids.length - 1 := by
        rintro rfl
        rw [hlast] at hi
        cases hi
        exact hne rfl
      have hnext : i + 1 < ids.length := by omega
      exact ⟨_, h.line.members _ (List.getElem_mem hnext),
        h.line.succ hi (List.getElem?_eq_getElem hnext)⟩
    · exact (h.beside a ha hin).1.named h.unforked.closed ha
  · rintro rfl ⟨b, hb, hnames⟩
    by_cases hin : b ∈ ids
    · have hnext := h.line.next hlast hin hnames
      have hlt := (List.getElem?_eq_some_iff.mp hnext).1
      omega
    · obtain ⟨p, hp, hcycle⟩ := (h.beside b hb hin).1.predecessor
      rw [hnames] at hp
      cases hp
      exact h.line.not_onCycle _ (List.mem_of_getElem? hlast) hcycle

end Succession
