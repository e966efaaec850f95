import Mathlib.Data.List.Basic

/-!
# JSON texts

The grammar of RFC 8259 over bytes, where a byte from 0x80 on is part of a
character above ASCII, and a scanner that finds the end of a value by counting
brackets outside strings.
-/

namespace JsonText

/-! ## The grammar -/

def isSpace (b : UInt8) : Bool := b == 0x20 || b == 0x0a || b == 0x0d || b == 0x09

def Blank (bytes : List UInt8) : Prop := ∀ b ∈ bytes, isSpace b = true

def isDigit (b : UInt8) : Bool := 0x30 ≤ b && b ≤ 0x39

def isHexDigit (b : UInt8) : Bool :=
  isDigit b || (0x41 ≤ b && b ≤ 0x46) || (0x61 ≤ b && b ≤ 0x66)

/-- Behind a backslash: `"`, `\`, `/`, `b`, `f`, `n`, `r` and `t`. -/
def simpleEscapes : List UInt8 := [0x22, 0x5c, 0x2f, 0x62, 0x66, 0x6e, 0x72, 0x74]

/-- What may stand between the quotes of a string. -/
inductive Body : List UInt8 → Prop where
  | nil : Body []
  | plain {b : UInt8} {body : List UInt8} (hb : 0x20 ≤ b ∧ b ≠ 0x22 ∧ b ≠ 0x5c) (h : Body body) :
      Body (b :: body)
  | escape {e : UInt8} {body : List UInt8} (he : e ∈ simpleEscapes) (h : Body body) :
      Body (0x5c :: e :: body)
  | unicode {p q r s : UInt8} {body : List UInt8}
      (hex : isHexDigit p = true ∧ isHexDigit q = true ∧ isHexDigit r = true ∧ isHexDigit s = true)
      (h : Body body) : Body (0x5c :: 0x75 :: p :: q :: r :: s :: body)

def Quoted (bytes : List UInt8) : Prop := ∃ body, Body body ∧ bytes = 0x22 :: (body ++ [0x22])

def Digits (bytes : List UInt8) : Prop := bytes ≠ [] ∧ ∀ b ∈ bytes, isDigit b = true

/-- A number: `-`, the integer without a leading zero, the fraction and the exponent. -/
structure Number (bytes : List UInt8) : Prop where
  parts : ∃ sign whole fraction power, bytes = sign ++ whole ++ fraction ++ power ∧
    (sign = [] ∨ sign = [0x2d]) ∧
    (whole = [0x30] ∨ Digits whole ∧ whole.head? ≠ some 0x30) ∧
    (fraction = [] ∨ ∃ digits, Digits digits ∧ fraction = 0x2e :: digits) ∧
    (power = [] ∨ ∃ mark sign' digits, (mark = 0x65 ∨ mark = 0x45) ∧
      (sign' = [] ∨ sign' = [0x2b] ∨ sign' = [0x2d]) ∧ Digits digits ∧
        power = mark :: (sign' ++ digits))

/-- `true`, `false` and `null`. -/
def literals : List (List UInt8) :=
  [[0x74, 0x72, 0x75, 0x65], [0x66, 0x61, 0x6c, 0x73, 0x65], [0x6e, 0x75, 0x6c, 0x6c]]

/-- A value of an array with the blanks around it. -/
structure Item where
  before : List UInt8
  value : List UInt8
  behind : List UInt8
  deriving DecidableEq, Repr

/-- A member of an object with the blanks around its name and its value. -/
structure Member where
  before : List UInt8
  quoted : List UInt8
  behindName : List UInt8
  beforeValue : List UInt8
  value : List UInt8
  behind : List UInt8
  deriving DecidableEq, Repr

def Item.text (item : Item) : List UInt8 := item.before ++ item.value ++ item.behind

def Member.text (m : Member) : List UInt8 :=
  m.before ++ m.quoted ++ m.behindName ++ 0x3a :: (m.beforeValue ++ m.value ++ m.behind)

def commaSeparated : List (List UInt8) → List UInt8
  | [] => []
  | [text] => text
  | text :: next :: texts => text ++ 0x2c :: commaSeparated (next :: texts)

/-- Between two texts stands a comma. -/
theorem length_le_commaSeparated (texts : List (List UInt8)) :
    texts.length ≤ (commaSeparated texts).length + 1 := by
  induction texts with
  | nil => exact Nat.zero_le _
  | cons text texts ih =>
    cases texts with
    | nil => exact Nat.le_add_left _ _
    | cons next texts =>
      simp only [commaSeparated, List.length_append, List.length_cons] at ih ⊢
      omega

def Item.Spaced (item : Item) : Prop := Blank item.before ∧ Blank item.behind

/-- The name is a string and the blanks are blank. -/
structure Member.Named (m : Member) : Prop where
  before : Blank m.before
  quoted : Quoted m.quoted
  behindName : Blank m.behindName
  beforeValue : Blank m.beforeValue
  behind : Blank m.behind

inductive Value : List UInt8 → Prop where
  | literal {v : List UInt8} (h : v ∈ literals) : Value v
  | number {v : List UInt8} (h : Number v) : Value v
  | string {v : List UInt8} (h : Quoted v) : Value v
  | array (blank : List UInt8) (items : List Item) (hblank : Blank blank)
      (hspaced : ∀ item ∈ items, item.Spaced) (h : ∀ item ∈ items, Value item.value) :
      Value (0x5b :: (blank ++ commaSeparated (items.map Item.text) ++ [0x5d]))
  | object (blank : List UInt8) (members : List Member) (hblank : Blank blank)
      (hnamed : ∀ m ∈ members, m.Named) (h : ∀ m ∈ members, Value m.value) :
      Value (0x7b :: (blank ++ commaSeparated (members.map Member.text) ++ [0x7d]))

/-- An object with the given members between two blanks. -/
structure IsObject (members : List Member) (blank : List UInt8) : Prop where
  blank : Blank blank
  named : ∀ m ∈ members, m.Named
  values : ∀ m ∈ members, Value m.value

def objectText (blank : List UInt8) (members : List Member) : List UInt8 :=
  0x7b :: (blank ++ commaSeparated (members.map Member.text) ++ [0x7d])

/-- The end of the text, or a blank, comma or closing bracket. -/
def Delimited (bytes : List UInt8) : Prop :=
  ∀ b ∈ bytes.head?, isSpace b = true ∨ b ∈ ([0x2c, 0x5d, 0x7d] : List UInt8)

/-- A scanner takes one value and stops behind it. -/
def Scans (scan : List UInt8 → Option Nat) : Prop :=
  ∀ v rest, Value v → Delimited rest → scan (v ++ rest) = some v.length

/-! ## Blanks -/

theorem dropWhile_blank {blank : List UInt8} (h : Blank blank) (rest : List UInt8) :
    (blank ++ rest).dropWhile isSpace = rest.dropWhile isSpace := by
  induction blank with
  | nil => rfl
  | cons b blank ih =>
    rw [List.cons_append, List.dropWhile_cons_of_pos (h b List.mem_cons_self)]
    exact ih fun c hc => h c (List.mem_cons_of_mem _ hc)

theorem delimited_blank {blank rest : List UInt8} (h : Blank blank) (hrest : Delimited rest) :
    Delimited (blank ++ rest) := by
  cases blank with
  | nil => exact hrest
  | cons b blank =>
    intro c hc
    obtain rfl : b = c := by simpa using hc
    exact .inl (h b List.mem_cons_self)

/-! ## The scanner -/

inductive Mode where
  | outside | inside | escaped

/-- The bytes behind the bracket that closes the given number of open ones and one more. -/
def closeFrom : Mode → Nat → List UInt8 → Option (List UInt8)
  | _, _, [] => none
  | .escaped, depth, _ :: rest => closeFrom .inside depth rest
  | .inside, depth, b :: rest =>
    if b = 0x5c then closeFrom .escaped depth rest
    else if b = 0x22 then closeFrom .outside depth rest
    else closeFrom .inside depth rest
  | .outside, depth, b :: rest =>
    if b = 0x22 then closeFrom .inside depth rest
    else if b = 0x5b ∨ b = 0x7b then closeFrom .outside (depth + 1) rest
    else if b = 0x5d ∨ b = 0x7d then
      if depth = 0 then some rest else closeFrom .outside (depth - 1) rest
    else closeFrom .outside depth rest

/-- The bytes behind the closing quote. -/
def behindString : Bool → List UInt8 → Option (List UInt8)
  | _, [] => none
  | true, _ :: rest => behindString false rest
  | false, b :: rest =>
    if b = 0x5c then behindString true rest
    else if b = 0x22 then some rest
    else behindString false rest

def isDelimiter (b : UInt8) : Bool := isSpace b || b == 0x2c || b == 0x5d || b == 0x7d

/-- The length of the value a text begins with. -/
def scan (bytes : List UInt8) : Option Nat :=
  match bytes with
  | 0x22 :: rest => (behindString false rest).map fun tail => bytes.length - tail.length
  | 0x5b :: rest | 0x7b :: rest =>
    (closeFrom .outside 0 rest).map fun tail => bytes.length - tail.length
  | _ => some (bytes.takeWhile fun b => !isDelimiter b).length

/-- The scanner comes out of such bytes as it went in. -/
def Passes (bytes : List UInt8) : Prop :=
  ∀ depth rest, closeFrom .outside depth (bytes ++ rest) = closeFrom .outside depth rest

def isPlain (b : UInt8) : Bool :=
  !(b == 0x22 || b == 0x5b || b == 0x7b || b == 0x5d || b == 0x7d)

theorem Passes.append {bytes more : List UInt8} (h : Passes bytes) (h' : Passes more) :
    Passes (bytes ++ more) := by
  intro depth rest
  rw [List.append_assoc, h, h']

theorem passes_plain {bytes : List UInt8} (h : ∀ b ∈ bytes, isPlain b = true) : Passes bytes := by
  induction bytes with
  | nil => exact fun _ _ => rfl
  | cons b bytes ih =>
    intro depth rest
    have hb := h b List.mem_cons_self
    simp only [isPlain, Bool.not_eq_true', Bool.or_eq_false_iff, beq_eq_false_iff_ne] at hb
    obtain ⟨⟨⟨⟨hquote, hopen⟩, hopen'⟩, hclose⟩, hclose'⟩ := hb
    rw [List.cons_append, closeFrom, if_neg hquote, if_neg (not_or.mpr ⟨hopen, hopen'⟩),
      if_neg (not_or.mpr ⟨hclose, hclose'⟩)]
    exact ih (fun c hc => h c (List.mem_cons_of_mem _ hc)) depth rest

theorem isPlain_of_isSpace {b : UInt8} (h : isSpace b = true) : isPlain b = true := by
  simp only [isSpace, Bool.or_eq_true, beq_iff_eq] at h
  rcases h with ((rfl | rfl) | rfl) | rfl <;> rfl

theorem passes_blank {blank : List UInt8} (h : Blank blank) : Passes blank :=
  passes_plain fun b hb => isPlain_of_isSpace (h b hb)

theorem hexDigit_ne {b : UInt8} (h : isHexDigit b = true) : b ≠ 0x5c ∧ b ≠ 0x22 := by
  constructor <;> rintro rfl <;> exact absurd h (by decide)

/-- A body is left by the quote behind it. -/
theorem closeFrom_body {body : List UInt8} (h : Body body) (depth : Nat) (rest : List UInt8) :
    closeFrom .inside depth (body ++ 0x22 :: rest) = closeFrom .outside depth rest := by
  induction h with
  | nil => rw [List.nil_append, closeFrom, if_neg (by decide), if_pos rfl]
  | plain hb _ ih => rw [List.cons_append, closeFrom, if_neg hb.2.2, if_neg hb.2.1, ih]
  | escape he _ ih => rw [List.cons_append, List.cons_append, closeFrom, if_pos rfl, closeFrom, ih]
  | unicode hex _ ih =>
    simp only [List.cons_append]
    rw [closeFrom, if_pos rfl, closeFrom, closeFrom, if_neg (hexDigit_ne hex.1).1,
      if_neg (hexDigit_ne hex.1).2, closeFrom, if_neg (hexDigit_ne hex.2.1).1,
      if_neg (hexDigit_ne hex.2.1).2, closeFrom, if_neg (hexDigit_ne hex.2.2.1).1,
      if_neg (hexDigit_ne hex.2.2.1).2, closeFrom, if_neg (hexDigit_ne hex.2.2.2).1,
      if_neg (hexDigit_ne hex.2.2.2).2, ih]

theorem behindString_body {body : List UInt8} (h : Body body) (rest : List UInt8) :
    behindString false (body ++ 0x22 :: rest) = some rest := by
  induction h with
  | nil => rw [List.nil_append, behindString, if_neg (by decide), if_pos rfl]
  | plain hb _ ih => rw [List.cons_append, behindString, if_neg hb.2.2, if_neg hb.2.1, ih]
  | escape he _ ih =>
    rw [List.cons_append, List.cons_append, behindString, if_pos rfl, behindString, ih]
  | unicode hex _ ih =>
    simp only [List.cons_append]
    rw [behindString, if_pos rfl, behindString, behindString, if_neg (hexDigit_ne hex.1).1,
      if_neg (hexDigit_ne hex.1).2, behindString, if_neg (hexDigit_ne hex.2.1).1,
      if_neg (hexDigit_ne hex.2.1).2, behindString, if_neg (hexDigit_ne hex.2.2.1).1,
      if_neg (hexDigit_ne hex.2.2.1).2, behindString, if_neg (hexDigit_ne hex.2.2.2).1,
      if_neg (hexDigit_ne hex.2.2.2).2, ih]

theorem passes_quoted {bytes : List UInt8} (h : Quoted bytes) : Passes bytes := by
  obtain ⟨body, hbody, rfl⟩ := h
  intro depth rest
  rw [List.cons_append, List.append_assoc, List.singleton_append, closeFrom, if_pos rfl,
    closeFrom_body hbody]

theorem passes_commaSeparated {texts : List (List UInt8)} (h : ∀ text ∈ texts, Passes text) :
    Passes (commaSeparated texts) := by
  induction texts with
  | nil => exact fun _ _ => rfl
  | cons text texts ih =>
    have htext := h text List.mem_cons_self
    cases texts with
    | nil => exact htext
    | cons next texts =>
      have hrest := ih fun t ht => h t (List.mem_cons_of_mem _ ht)
      have hcomma : Passes [0x2c] := passes_plain (by decide +kernel)
      exact htext.append (hcomma.append hrest)

/-- Brackets around passing bytes pass, one level deeper. -/
theorem passes_bracketed {opening closing : UInt8} {content : List UInt8}
    (hopening : opening = 0x5b ∨ opening = 0x7b) (hclosing : closing = 0x5d ∨ closing = 0x7d)
    (h : Passes content) : Passes (opening :: (content ++ [closing])) := by
  intro depth rest
  have hquote : opening ≠ 0x22 := by rcases hopening with rfl | rfl <;> decide
  have hquote' : closing ≠ 0x22 := by rcases hclosing with rfl | rfl <;> decide
  have hother : ¬(closing = 0x5b ∨ closing = 0x7b) := by rcases hclosing with rfl | rfl <;> decide
  rw [List.cons_append, List.append_assoc, List.singleton_append, closeFrom, if_neg hquote,
    if_pos hopening, h, closeFrom, if_neg hquote', if_neg hother, if_pos hclosing,
    if_neg (Nat.succ_ne_zero depth), Nat.add_sub_cancel]

def isScalarByte (b : UInt8) : Bool :=
  isDigit b || b == 0x2d || b == 0x2b || b == 0x2e || (0x41 ≤ b && b ≤ 0x5a) ||
    (0x61 ≤ b && b ≤ 0x7a)

/-- A literal or a number: its bytes are no quotes, brackets or delimiters. -/
structure Scalar (v : List UInt8) : Prop where
  nonempty : v ≠ []
  bytes : ∀ b ∈ v, isScalarByte b = true

theorem scalar_number {v : List UInt8} (h : Number v) : Scalar v := by
  obtain ⟨sign, whole, fraction, power, rfl, hsign, hwhole, hfraction, hpower⟩ := h.parts
  have hdigits : ∀ {digits : List UInt8}, Digits digits →
      ∀ b ∈ digits, isScalarByte b = true := by
    intro digits hdigits b hb
    simp [isScalarByte, hdigits.2 b hb]
  have hwholeBytes : whole ≠ [] ∧ ∀ b ∈ whole, isScalarByte b = true := by
    rcases hwhole with rfl | ⟨hwhole, -⟩
    · decide +kernel
    · exact ⟨hwhole.1, hdigits hwhole⟩
  constructor
  · simp [hwholeBytes.1]
  · intro b hb
    simp only [List.mem_append] at hb
    rcases hb with ((hb | hb) | hb) | hb
    · rcases hsign with rfl | rfl
      · cases hb
      · rw [List.mem_singleton.mp hb]
        decide
    · exact hwholeBytes.2 b hb
    · rcases hfraction with rfl | ⟨digits, hd, rfl⟩
      · cases hb
      · rcases List.mem_cons.mp hb with rfl | hb
        · decide
        · exact hdigits hd b hb
    · rcases hpower with rfl | ⟨mark, sign', digits, hmark, hsign', hd, rfl⟩
      · cases hb
      · rcases List.mem_cons.mp hb with rfl | hb
        · rcases hmark with rfl | rfl <;> decide
        · rcases List.mem_append.mp hb with hb | hb
          · rcases hsign' with rfl | rfl | rfl
            · cases hb
            · rw [List.mem_singleton.mp hb]
              decide
            · rw [List.mem_singleton.mp hb]
              decide
          · exact hdigits hd b hb

theorem scalar_literal {v : List UInt8} (h : v ∈ literals) : Scalar v := by
  have hall : ∀ v ∈ literals, v ≠ [] ∧ ∀ b ∈ v, isScalarByte b = true := by decide +kernel
  exact ⟨(hall v h).1, (hall v h).2⟩

theorem isPlain_of_isScalarByte {b : UInt8} (h : isScalarByte b = true) : isPlain b = true := by
  by_contra hplain
  simp only [isPlain, Bool.not_eq_true', Bool.not_eq_false, Bool.or_eq_true, beq_iff_eq] at hplain
  rcases hplain with (((rfl | rfl) | rfl) | rfl) | rfl <;> exact absurd h (by decide)

theorem isDelimiter_of_isScalarByte {b : UInt8} (h : isScalarByte b = true) :
    isDelimiter b = false := by
  by_contra hdelimiter
  simp only [isDelimiter, isSpace, Bool.not_eq_false, Bool.or_eq_true, beq_iff_eq] at hdelimiter
  rcases hdelimiter with (((((rfl | rfl) | rfl) | rfl) | rfl) | rfl) | rfl <;>
    exact absurd h (by decide)

theorem passes_scalar {v : List UInt8} (h : Scalar v) : Passes v :=
  passes_plain fun b hb => isPlain_of_isScalarByte (h.bytes b hb)

theorem passes_items {items : List Item} (hspaced : ∀ item ∈ items, item.Spaced)
    (h : ∀ item ∈ items, Passes item.value) :
    Passes (commaSeparated (items.map Item.text)) := by
  refine passes_commaSeparated fun text htext => ?_
  obtain ⟨item, hitem, rfl⟩ := List.mem_map.mp htext
  obtain ⟨hbefore, hbehind⟩ := hspaced item hitem
  exact ((passes_blank hbefore).append (h item hitem)).append (passes_blank hbehind)

theorem passes_members {members : List Member} (hnamed : ∀ m ∈ members, m.Named)
    (h : ∀ m ∈ members, Passes m.value) :
    Passes (commaSeparated (members.map Member.text)) := by
  refine passes_commaSeparated fun text htext => ?_
  obtain ⟨m, hm, rfl⟩ := List.mem_map.mp htext
  have hname := hnamed m hm
  have hcolon : Passes [0x3a] := passes_plain (by decide +kernel)
  have hvalue := ((passes_blank hname.beforeValue).append (h m hm)).append
    (passes_blank hname.behind)
  exact (((passes_blank hname.before).append (passes_quoted hname.quoted)).append
    (passes_blank hname.behindName)).append (hcolon.append hvalue)

theorem passes_value {v : List UInt8} (h : Value v) : Passes v := by
  induction h with
  | literal h => exact passes_scalar (scalar_literal h)
  | number h => exact passes_scalar (scalar_number h)
  | string h => exact passes_quoted h
  | array blank items hblank hspaced _ ih =>
    exact passes_bracketed (.inl rfl) (.inl rfl)
      ((passes_blank hblank).append (passes_items hspaced ih))
  | object blank members hblank hnamed _ ih =>
    exact passes_bracketed (.inr rfl) (.inr rfl)
      ((passes_blank hblank).append (passes_members hnamed ih))

theorem Value.ne_nil {v : List UInt8} (h : Value v) : v ≠ [] := by
  cases h with
  | literal h => exact (scalar_literal h).nonempty
  | number h => exact (scalar_number h).nonempty
  | string h =>
    obtain ⟨body, -, rfl⟩ := h
    exact List.cons_ne_nil _ _
  | array => exact List.cons_ne_nil _ _
  | object => exact List.cons_ne_nil _ _

/-- An object is told from the other values by its first byte. -/
theorem Value.head?_eq_brace_iff {v : List UInt8} (h : Value v) :
    v.head? = some 0x7b ↔ ∃ blank members, IsObject members blank ∧ v = objectText blank members := by
  have hscalar : Scalar v → v.head? ≠ some 0x7b := by
    intro hv hhead
    have hb := hv.bytes 0x7b (List.mem_of_mem_head? hhead)
    exact absurd hb (by decide)
  constructor
  · intro hhead
    cases h with
    | literal h => exact absurd hhead (hscalar (scalar_literal h))
    | number h => exact absurd hhead (hscalar (scalar_number h))
    | string h =>
      obtain ⟨body, -, rfl⟩ := h
      exact absurd hhead (by simp)
    | array => exact absurd hhead (by simp)
    | object blank members hblank hnamed h => exact ⟨blank, members, ⟨hblank, hnamed, h⟩, rfl⟩
  · rintro ⟨blank, members, -, rfl⟩
    rfl

/-! ## The scanner takes one value -/

theorem takeWhile_scalar {v rest : List UInt8} (h : Scalar v) (hrest : Delimited rest) :
    (v ++ rest).takeWhile (fun b => !isDelimiter b) = v := by
  have hall : ∀ b ∈ v, (!isDelimiter b) = true := fun b hb => by
    rw [isDelimiter_of_isScalarByte (h.bytes b hb)]
    rfl
  rw [List.takeWhile_append_of_pos hall]
  cases rest with
  | nil => simp
  | cons b rest =>
    have hb : isDelimiter b = true := by
      rcases hrest b (by simp) with hspace | hmark
      · simp [isDelimiter, hspace]
      · simp only [List.mem_cons, List.not_mem_nil, or_false] at hmark
        rcases hmark with rfl | rfl | rfl <;> rfl
    rw [List.takeWhile_cons_of_neg (by simp [hb]), List.append_nil]

theorem scan_scalar {v rest : List UInt8} (h : Scalar v) (hrest : Delimited rest) :
    scan (v ++ rest) = some v.length := by
  have htake := takeWhile_scalar h hrest
  have hbytes := h.bytes
  cases v with
  | nil => exact absurd rfl h.nonempty
  | cons b v =>
    have hb := isPlain_of_isScalarByte (hbytes b List.mem_cons_self)
    rw [List.cons_append] at htake ⊢
    rw [scan]
    · rw [htake]
    · rintro rest' hsame
      obtain rfl := (List.cons.inj hsame).1
      exact absurd hb (by decide)
    · rintro rest' hsame
      obtain rfl := (List.cons.inj hsame).1
      exact absurd hb (by decide)
    · rintro rest' hsame
      obtain rfl := (List.cons.inj hsame).1
      exact absurd hb (by decide)

/-- Behind the opening bracket of passing content the scanner stops at the closing one. -/
theorem closeFrom_content {closing : UInt8} {content rest : List UInt8}
    (hclosing : closing = 0x5d ∨ closing = 0x7d) (h : Passes content) :
    closeFrom .outside 0 (content ++ closing :: rest) = some rest := by
  have hquote : closing ≠ 0x22 := by rcases hclosing with rfl | rfl <;> decide
  have hother : ¬(closing = 0x5b ∨ closing = 0x7b) := by rcases hclosing with rfl | rfl <;> decide
  rw [h, closeFrom, if_neg hquote, if_neg hother, if_pos hclosing, if_pos rfl]

theorem scans_scan : Scans scan := by
  intro v rest hvalue hrest
  have hlength : (v ++ rest).length - rest.length = v.length := by
    rw [List.length_append, Nat.add_sub_cancel]
  cases hvalue with
  | literal h => exact scan_scalar (scalar_literal h) hrest
  | number h => exact scan_scalar (scalar_number h) hrest
  | string h =>
    obtain ⟨body, hbody, rfl⟩ := h
    have hshape : 0x22 :: (body ++ [0x22]) ++ rest = 0x22 :: (body ++ 0x22 :: rest) := by simp
    rw [← hlength, hshape, scan, behindString_body hbody rest, Option.map_some]
  | array blank items hblank hspaced h =>
    have hcontent := (passes_blank hblank).append
      (passes_items hspaced fun item hitem => passes_value (h item hitem))
    rw [← hlength, List.cons_append, List.append_assoc _ [0x5d] rest, List.singleton_append, scan,
      closeFrom_content (.inl rfl) hcontent, Option.map_some]
  | object blank members hblank hnamed h =>
    have hcontent := (passes_blank hblank).append
      (passes_members hnamed fun m hm => passes_value (h m hm))
    rw [← hlength, List.cons_append, List.append_assoc _ [0x7d] rest, List.singleton_append, scan,
      closeFrom_content (.inr rfl) hcontent, Option.map_some]

end JsonText
