import Mathlib

/-!
# Ordered maps and sets

Extensional ordered maps read as `BTreeMap` and `BTreeSet`: iteration is in key
order, equality is equality of all lookups, and every lookup after an update is
a case split on the key.
-/

abbrev BTreeMap (α β : Type) [Ord α] := Std.ExtTreeMap α β compare
abbrev BTreeSet (α : Type) [Ord α] := Std.ExtTreeSet α compare

instance instOrdPairs {α β : Type} [Ord α] [Ord β] : Ord (α × β) := lexOrd

namespace BTreeSet

variable {α : Type} [Ord α] [Std.TransOrd α]

/-- `iter().collect::<BTreeSet<_>>()`. -/
def collect (values : List α) : BTreeSet α := values.foldl (fun set value => set.insert value) ∅

theorem mem_foldl_insert [Std.LawfulEqOrd α] (values : List α) (s : BTreeSet α) (a : α) :
    a ∈ values.foldl (fun set value => set.insert value) s ↔ a ∈ s ∨ a ∈ values := by
  induction values generalizing s with
  | nil => simp
  | cons value values ih =>
    simp only [List.foldl_cons, ih, Std.ExtTreeSet.mem_insert, Std.LawfulEqOrd.compare_eq_iff_eq,
      List.mem_cons]
    constructor
    · rintro ((rfl | h) | h)
      · exact Or.inr (Or.inl rfl)
      · exact Or.inl h
      · exact Or.inr (Or.inr h)
    · rintro (h | rfl | h)
      · exact Or.inl (Or.inr h)
      · exact Or.inl (Or.inl rfl)
      · exact Or.inr h

@[simp] theorem mem_collect [Std.LawfulEqOrd α] {values : List α} {a : α} :
    a ∈ collect values ↔ a ∈ values := by
  simp [collect, mem_foldl_insert]

theorem contains_eq_false {s : BTreeSet α} {a : α} : s.contains a = false ↔ a ∉ s := by
  rw [← Std.ExtTreeSet.contains_iff_mem, Bool.not_eq_true]

/-- A set collects as many members as the list has exactly when none repeats. -/
theorem size_ofList_eq_length [Std.LawfulEqOrd α] [DecidableEq α] {values : List α} :
    (Std.ExtTreeSet.ofList values : BTreeSet α).size = values.length ↔ values.Nodup := by
  have hdistinct : (Std.ExtTreeSet.ofList values : BTreeSet α).toList.Nodup := by
    rw [List.nodup_iff_pairwise_ne]
    refine Std.ExtTreeSet.distinct_toList.imp fun {a b} hab heq => ?_
    exact hab (by rw [heq, Std.LawfulEqOrd.compare_eq_iff_eq])
  have hmembers : (Std.ExtTreeSet.ofList values : BTreeSet α).toList.toFinset =
      values.toFinset := by
    ext a
    simp [Std.ExtTreeSet.mem_toList, Std.ExtTreeSet.mem_ofList]
  rw [← Std.ExtTreeSet.length_toList, ← List.toFinset_card_of_nodup hdistinct, hmembers]
  exact Multiset.toFinset_card_eq_card_iff_nodup

end BTreeSet

namespace BTreeMap

variable {κ υ : Type} [Ord κ] [Std.TransOrd κ]

/-- Insert one value under every key of a list, as a `for` loop of `insert`. -/
def insertAll (m : BTreeMap κ υ) (keys : List κ) (f : κ → υ) : BTreeMap κ υ :=
  keys.foldl (fun acc key => acc.insert key (f key)) m

@[simp] theorem insertAll_nil (m : BTreeMap κ υ) (f : κ → υ) : insertAll m [] f = m := rfl

@[simp] theorem insertAll_cons (m : BTreeMap κ υ) (key : κ) (keys : List κ) (f : κ → υ) :
    insertAll m (key :: keys) f = insertAll (m.insert key (f key)) keys f := rfl

/-- A list of values, each under its own key. -/
def indexBy (key : υ → κ) (m : BTreeMap κ υ) (values : List υ) : BTreeMap κ υ :=
  values.foldl (fun acc v => acc.insert (key v) v) m

@[simp] theorem indexBy_nil (key : υ → κ) (m : BTreeMap κ υ) : indexBy key m [] = m := rfl

@[simp] theorem indexBy_cons (key : υ → κ) (m : BTreeMap κ υ) (v : υ) (values : List υ) :
    indexBy key m (v :: values) = indexBy key (m.insert (key v) v) values := rfl

/-- The values in key order. -/
def valuesOf (m : BTreeMap κ υ) : List υ := m.toList.map Prod.snd

variable [Std.LawfulEqOrd κ]

theorem mem_valuesOf {m : BTreeMap κ υ} {v : υ} : v ∈ valuesOf m ↔ ∃ k : κ, m[k]? = some v := by
  simp [valuesOf, Std.ExtTreeMap.mem_toList_iff_getElem?_eq_some]

theorem mem_keys_iff {m : BTreeMap κ υ} {k : κ} : k ∈ m.keys ↔ ∃ v, m[k]? = some v := by
  rw [Std.ExtTreeMap.mem_keys, ← Std.ExtTreeMap.isSome_getElem?_iff_mem, Option.isSome_iff_exists]

theorem nodup_keys_toList {m : BTreeMap κ υ} : (m.toList.map Prod.fst).Nodup := by
  rw [List.nodup_iff_pairwise_ne, List.pairwise_map]
  refine Std.ExtTreeMap.distinct_keys_toList.imp ?_
  intro a b hab heq
  exact hab (by rw [heq, Std.LawfulEqOrd.compare_eq_iff_eq])

/-- One binding alone passes a filter. -/
theorem filter_toList_eq_singleton {m : BTreeMap κ υ} {p : κ × υ → Bool} {k : κ} {v : υ} :
    m.toList.filter p = [(k, v)] ↔ m[k]? = some v ∧ p (k, v) = true ∧
      ∀ a b, m[a]? = some b → p (a, b) = true → a = k := by
  constructor
  · intro h
    have hmem : (k, v) ∈ m.toList.filter p := by rw [h]; exact List.mem_singleton_self _
    obtain ⟨hlist, hp⟩ := List.mem_filter.mp hmem
    refine ⟨Std.ExtTreeMap.mem_toList_iff_getElem?_eq_some.mp hlist, hp, ?_⟩
    intro a b hab hpab
    have hother : (a, b) ∈ m.toList.filter p :=
      List.mem_filter.mpr ⟨Std.ExtTreeMap.mem_toList_iff_getElem?_eq_some.mpr hab, hpab⟩
    rw [h, List.mem_singleton] at hother
    exact congrArg Prod.fst hother
  · rintro ⟨hk, hp, hall⟩
    have hmem : (k, v) ∈ m.toList.filter p :=
      List.mem_filter.mpr ⟨Std.ExtTreeMap.mem_toList_iff_getElem?_eq_some.mpr hk, hp⟩
    have hkeys : ((m.toList.filter p).map Prod.fst).Nodup :=
      (List.filter_sublist.map Prod.fst).nodup nodup_keys_toList
    have hsame : ∀ x ∈ m.toList.filter p, x.1 = k := by
      rintro ⟨a, b⟩ hx
      obtain ⟨hlist, hpx⟩ := List.mem_filter.mp hx
      exact hall a b (Std.ExtTreeMap.mem_toList_iff_getElem?_eq_some.mp hlist) hpx
    generalize m.toList.filter p = kept at hmem hkeys hsame
    match kept with
    | [] => cases hmem
    | [x] => rw [List.mem_singleton.mp hmem]
    | x :: y :: rest =>
      have hx := hsame x (by simp)
      have hy := hsame y (by simp)
      simp [hx, hy] at hkeys

variable [DecidableEq κ]

theorem getElem?_insert_eq (m : BTreeMap κ υ) (k a : κ) (v : υ) :
    (m.insert k v)[a]? = if k = a then some v else m[a]? := by
  rw [Std.ExtTreeMap.getElem?_insert]
  by_cases h : k = a <;> simp [h]

theorem getElem?_erase_eq (m : BTreeMap κ υ) (k a : κ) :
    (m.erase k)[a]? = if k = a then none else m[a]? := by
  rw [Std.ExtTreeMap.getElem?_erase]
  by_cases h : k = a <;> simp [h]

theorem getElem?_insertAll (m : BTreeMap κ υ) (keys : List κ) (f : κ → υ) (a : κ) :
    (insertAll m keys f)[a]? = if a ∈ keys then some (f a) else m[a]? := by
  induction keys generalizing m with
  | nil => simp
  | cons key keys ih =>
    rw [insertAll_cons, ih, getElem?_insert_eq]
    by_cases ha : a ∈ keys
    · simp [ha]
    · by_cases hk : key = a
      · subst hk; simp
      · simp [ha, hk, Ne.symm hk]

theorem getElem?_indexBy_eq_some {key : υ → κ} {values : List υ} (h : (values.map key).Nodup)
    {m : BTreeMap κ υ} {k : κ} {v : υ} :
    (indexBy key m values)[k]? = some v ↔
      (v ∈ values ∧ key v = k) ∨ (k ∉ values.map key ∧ m[k]? = some v) := by
  induction values generalizing m with
  | nil => simp
  | cons x values ih =>
    rw [List.map_cons, List.nodup_cons] at h
    rw [indexBy_cons, ih h.2, getElem?_insert_eq, List.map_cons, List.mem_cons, List.mem_cons]
    by_cases hk : key x = k
    · subst hk
      simp only [↓reduceIte, Option.some.injEq, h.1, not_false_eq_true, true_and,
        not_true_eq_false, false_and, or_false]
      constructor
      · rintro (⟨hv, hkey⟩ | rfl)
        · exact ⟨.inr hv, hkey⟩
        · exact ⟨.inl rfl, rfl⟩
      · rintro ⟨rfl | hv, hkey⟩
        · exact .inr rfl
        · exact absurd (List.mem_map.mpr ⟨v, hv, hkey⟩) h.1
    · have hne : ¬k = key x := fun heq => hk heq.symm
      simp only [hk, ↓reduceIte, hne, false_or]
      constructor
      · rintro (⟨hv, hkey⟩ | hold)
        · exact .inl ⟨.inr hv, hkey⟩
        · exact .inr hold
      · rintro (⟨rfl | hv, hkey⟩ | hold)
        · exact absurd hkey hk
        · exact .inl ⟨hv, hkey⟩
        · exact .inr hold

/-- The values of an index are the values it was made of. -/
theorem valuesOf_indexBy_perm {key : υ → κ} {values : List υ} (h : (values.map key).Nodup) :
    (valuesOf (indexBy key ∅ values)).Perm values := by
  have hget : ∀ {k : κ} {v : υ}, (indexBy key ∅ values)[k]? = some v ↔ v ∈ values ∧ key v = k := by
    intro k v
    simp [getElem?_indexBy_eq_some h]
  have hkeys : (valuesOf (indexBy key ∅ values)).map key =
      (indexBy key ∅ values).toList.map Prod.fst := by
    rw [valuesOf, List.map_map]
    refine List.map_congr_left fun entry hentry => ?_
    rw [Std.ExtTreeMap.mem_toList_iff_getElem?_eq_some] at hentry
    exact (hget.mp hentry).2
  have hnodup : (valuesOf (indexBy key ∅ values)).Nodup := by
    refine List.Nodup.of_map key ?_
    rw [hkeys]
    exact nodup_keys_toList
  rw [List.perm_ext_iff_of_nodup hnodup (List.Nodup.of_map key h)]
  intro v
  rw [mem_valuesOf]
  constructor
  · rintro ⟨k, hk⟩
    exact (hget.mp hk).1
  · intro hv
    exact ⟨key v, hget.mpr ⟨hv, rfl⟩⟩

end BTreeMap
