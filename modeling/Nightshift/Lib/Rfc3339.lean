import Mathlib.Tactic.Linarith

/-!
# RFC 3339 texts

Instants are whole nanoseconds since the epoch. A text has a precision and a
year of four digits: reading back what was written gives the instant cut to the
precision, and the text of any other year is refused.
-/

namespace Rfc3339

/-- The first instant of the year 0 and the one after the year 9999. -/
def firstInstant : Int := -62167219200000000000
def afterLast : Int := 253402300800000000000

def FourDigitYear (t : Int) : Prop := firstInstant ≤ t ∧ t < afterLast

instance (t : Int) : Decidable (FourDigitYear t) := inferInstanceAs (Decidable (_ ∧ _))

/-- Everything below the precision is dropped. -/
def cut (unit t : Int) : Int := t - t % unit

variable {unit : Int}

@[simp] theorem cut_one (t : Int) : cut 1 t = t := by simp [cut]

theorem cut_le (hunit : 0 < unit) (t : Int) : cut unit t ≤ t := by
  have := Int.emod_nonneg t hunit.ne'
  rw [cut]
  omega

theorem lt_cut_add (hunit : 0 < unit) (t : Int) : t < cut unit t + unit := by
  have := Int.emod_lt_of_pos t hunit
  rw [cut]
  omega

theorem cut_cut (t : Int) : cut unit (cut unit t) = cut unit t := by
  have hdvd : unit ∣ t - t % unit := Int.dvd_self_sub_emod
  rw [cut, cut, Int.emod_eq_zero_of_dvd hdvd, Int.sub_zero]

/-- Whole units pass through the cut. -/
theorem cut_sub_mul (t k : Int) : cut unit (t - k * unit) = cut unit t - k * unit := by
  have hmod : (t - k * unit) % unit = t % unit := by
    rw [Int.sub_emod, Int.mul_emod_left, Int.sub_zero, Int.emod_emod]
  rw [cut, cut, hmod]
  omega

/-- A multiple of the precision is below an instant as soon as it is below its cut. -/
theorem mul_le_cut (hunit : 0 < unit) {k t : Int} (h : k * unit ≤ t) : k * unit ≤ cut unit t := by
  have hk : k ≤ t / unit := (Int.le_ediv_iff_mul_le hunit).mpr h
  have hcut : cut unit t = t / unit * unit := by
    have := Int.ediv_mul_add_emod t unit
    rw [cut]
    omega
  rw [hcut]
  exact Int.mul_le_mul_of_nonneg_right hk hunit.le

/-- What a writer and a reader of one precision agree on. -/
structure Agrees (read : String → Except String Int) (write : Int → String) (unit : Int) : Prop where
  reads : ∀ t, FourDigitYear t → read (write t) = .ok (cut unit t)
  refuses : ∀ t, ¬FourDigitYear t → ∃ e, read (write t) = .error e
  coarse : ∀ t, write (cut unit t) = write t

/-! ## A writer that spells chosen instants

Every other instant of a four-digit year is counted out in strokes, so that the
reader can tell them all apart. -/

variable (table : List (Int × String))

def writeBy (unit t : Int) : String :=
  match table.find? fun entry => entry.1 == cut unit t with
  | some entry => entry.2
  | none =>
    if FourDigitYear t then
      String.ofList ('#' :: List.replicate (cut unit t - firstInstant).toNat '|')
    else "+"

def readBy (text : String) : Except String Int :=
  match table.find? fun entry => entry.2 == text with
  | some entry => .ok entry.1
  | none =>
    match text.toList with
    | '#' :: strokes => .ok (strokes.length + firstInstant)
    | _ => .error "input contains invalid characters"

/-- The chosen instants are whole, their years have four digits, and their texts
are distinct from each other and from the strokes. -/
structure Spells (table : List (Int × String)) (unit : Int) : Prop where
  whole : ∀ entry ∈ table, cut unit entry.1 = entry.1 ∧ FourDigitYear entry.1
  plain : ∀ entry ∈ table, entry.2.toList.head? ≠ some '#' ∧ entry.2 ≠ "+"
  distinct : ∀ entry ∈ table, ∀ other ∈ table, entry.2 = other.2 → entry = other

variable {table}

theorem find?_strokes (h : Spells table unit) {text : String}
    (htext : text.toList.head? = some '#' ∨ text = "+") :
    table.find? (fun entry => entry.2 == text) = none := by
  rw [List.find?_eq_none]
  intro entry hentry hsame
  have hplain := h.plain entry hentry
  rw [beq_iff_eq] at hsame
  subst hsame
  rcases htext with hhead | hplus
  · exact hplain.1 hhead
  · exact hplain.2 hplus

/-- A year has four digits exactly when the cut instant's has. -/
theorem fourDigitYear_cut (hunit : 0 < unit) (hfirst : unit ∣ firstInstant)
    (hlast : unit ∣ afterLast) (t : Int) : FourDigitYear (cut unit t) ↔ FourDigitYear t := by
  have hle := cut_le hunit t
  have hlt := lt_cut_add hunit t
  obtain ⟨first, hfirst⟩ := hfirst
  obtain ⟨last, hlast⟩ := hlast
  rw [Int.mul_comm] at hfirst hlast
  rw [FourDigitYear, FourDigitYear, hfirst, hlast]
  constructor
  · rintro ⟨hlow, hhigh⟩
    refine ⟨hlow.trans hle, ?_⟩
    by_contra hge
    have := mul_le_cut hunit (Int.not_lt.mp hge)
    omega
  · rintro ⟨hlow, hhigh⟩
    exact ⟨mul_le_cut hunit hlow, by omega⟩

theorem agrees_by (hunit : 0 < unit) (hfirst : unit ∣ firstInstant) (hlast : unit ∣ afterLast)
    (h : Spells table unit) : Agrees (readBy table) (writeBy table unit) unit := by
  refine ⟨fun t hyear => ?_, fun t hyear => ?_, fun t => ?_⟩
  · cases hfind : table.find? fun entry => entry.1 == cut unit t with
    | some entry =>
      have hentry := List.mem_of_find?_eq_some hfind
      have hinstant : entry.1 = cut unit t := by simpa using List.find?_some hfind
      have hread : table.find? (fun other => other.2 == entry.2) = some entry := by
        cases hback : table.find? fun other => other.2 == entry.2 with
        | some other =>
          have hother := List.mem_of_find?_eq_some hback
          have htext : other.2 = entry.2 := by simpa using List.find?_some hback
          rw [h.distinct other hother entry hentry htext]
        | none => simpa using List.find?_eq_none.mp hback entry hentry
      simp only [writeBy, hfind, readBy, hread, hinstant]
    | none =>
      have hlow : 0 ≤ cut unit t - firstInstant := by
        have := ((fourDigitYear_cut hunit hfirst hlast t).mpr hyear).1
        omega
      have hstrokes : table.find? (fun entry => entry.2 == String.ofList
          ('#' :: List.replicate (cut unit t - firstInstant).toNat '|')) = none :=
        find?_strokes h (.inl (by simp))
      simp only [writeBy, hfind, hyear, ↓reduceIte, readBy, hstrokes, String.toList_ofList,
        List.length_replicate]
      congr 1
      omega
  · have hnone : table.find? (fun entry => entry.1 == cut unit t) = none := by
      rw [List.find?_eq_none]
      intro entry hentry hsame
      rw [beq_iff_eq] at hsame
      have hwhole := (h.whole entry hentry).2
      rw [hsame, fourDigitYear_cut hunit hfirst hlast] at hwhole
      exact hyear hwhole
    have hplus : table.find? (fun entry => entry.2 == "+") = none := find?_strokes h (.inr rfl)
    refine ⟨"input contains invalid characters", ?_⟩
    simp only [writeBy, hnone, hyear, ↓reduceIte, readBy, hplus]
    rfl
  · simp only [writeBy, cut_cut, fourDigitYear_cut hunit hfirst hlast]

/-- A reader may read more texts than the writer writes. -/
theorem Agrees.of_eq {read read' : String → Except String Int} {write : Int → String}
    (h : Agrees read write unit) (hsame : ∀ t, read' (write t) = read (write t)) :
    Agrees read' write unit where
  reads t hyear := by rw [hsame, h.reads t hyear]
  refuses t hyear := by
    obtain ⟨e, he⟩ := h.refuses t hyear
    exact ⟨e, by rw [hsame, he]⟩
  coarse := h.coarse

/-- Texts outside the table that are no strokes are never written. -/
theorem writeBy_ne {text : String} (htable : ∀ entry ∈ table, entry.2 ≠ text)
    (hplain : text.toList.head? ≠ some '#' ∧ text ≠ "+") (t : Int) :
    writeBy table unit t ≠ text := by
  rw [writeBy]
  split
  next entry hfind => exact htable entry (List.mem_of_find?_eq_some hfind)
  next =>
    split
    · intro hsame
      apply hplain.1
      rw [← hsame, String.toList_ofList]
      rfl
    · exact hplain.2.symm

end Rfc3339
