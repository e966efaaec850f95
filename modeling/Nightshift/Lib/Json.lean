import Mathlib

/-!
# JSON values

What a parser returns: numbers are integers or IEEE doubles, as they were
written, and an object keeps its fields in the order of its map. An integer and
a double are different values even when they are the same number.
-/

namespace Json

inductive Value where
  | null
  | bool (b : Bool)
  | integer (n : Int)
  | float (bits : UInt64)
  | string (s : String)
  | array (items : List Value)
  | object (fields : List (String × Value))
  deriving Repr

/-! ## Equality -/

mutual

def Value.same : Value → Value → Bool
  | .null, .null => true
  | .bool a, .bool b => a == b
  | .integer a, .integer b => a == b
  | .float a, .float b => a == b
  | .string a, .string b => a == b
  | .array as, .array bs => sameItems as bs
  | .object as, .object bs => sameFields as bs
  | _, _ => false

def sameItems : List Value → List Value → Bool
  | [], [] => true
  | a :: as, b :: bs => a.same b && sameItems as bs
  | _, _ => false

def sameFields : List (String × Value) → List (String × Value) → Bool
  | [], [] => true
  | (k, a) :: as, (l, b) :: bs => k == l && a.same b && sameFields as bs
  | _, _ => false

end

mutual

theorem Value.same_iff (a b : Value) : a.same b = true ↔ a = b := by
  cases a <;> cases b <;> simp [Value.same]
  case array.array as bs => exact sameItems_iff as bs
  case object.object as bs => exact sameFields_iff as bs

theorem sameItems_iff (as bs : List Value) : sameItems as bs = true ↔ as = bs := by
  cases as with
  | nil => cases bs <;> simp [sameItems]
  | cons a as =>
    cases bs with
    | nil => simp [sameItems]
    | cons b bs => simp [sameItems, a.same_iff b, sameItems_iff as bs]

theorem sameFields_iff (as bs : List (String × Value)) : sameFields as bs = true ↔ as = bs := by
  cases as with
  | nil => cases bs <;> simp [sameFields]
  | cons a as =>
    cases bs with
    | nil => simp [sameFields]
    | cons b bs =>
      have hvalue := a.2.same_iff b.2
      have hrest := sameFields_iff as bs
      simp [sameFields, hvalue, hrest, Prod.ext_iff]

end

instance : DecidableEq Value := fun a b => decidable_of_iff (a.same b = true) (a.same_iff b)

/-! ## Readers -/

namespace Value

/-- The value of a key; nothing but an object has one. -/
def get (key : String) : Value → Option Value
  | object fields => fields.lookup key
  | _ => none

/-- The value at a path of keys. -/
def pointer (path : List String) (value : Value) : Option Value :=
  path.foldlM (fun value key => value.get key) value

def asStr : Value → Option String
  | string s => some s
  | _ => none

def asBool : Value → Option Bool
  | bool b => some b
  | _ => none

def asArray : Value → Option (List Value)
  | array items => some items
  | _ => none

/-- The integers a `u64` holds. -/
def asU64 : Value → Option Nat
  | integer n => if 0 ≤ n ∧ n < 2 ^ 64 then some n.toNat else none
  | _ => none

end Value

/-! ## The canonical form -/

/-- `\u00xx` behind the backslash. -/
def hexDigits (n : Nat) : List Char :=
  [n / 16 % 16, n % 16].map fun d => Char.ofNat (if d < 10 then 48 + d else 87 + d)

/-- A character inside a canonical string: two-letter escapes, `\u00xx` for the other control
characters, and everything else as it is. -/
def escapeChar (c : Char) : List Char :=
  match c.toNat with
  | 0x08 => ['\\', 'b']
  | 0x09 => ['\\', 't']
  | 0x0a => ['\\', 'n']
  | 0x0c => ['\\', 'f']
  | 0x0d => ['\\', 'r']
  | 0x22 => ['\\', '"']
  | 0x5c => ['\\', '\\']
  | n => if n < 0x20 then ['\\', 'u', '0', '0'] ++ hexDigits n else [c]

def quoted (s : String) : List Char := '"' :: (s.toList.flatMap escapeChar ++ ['"'])

/-- Canonical objects are ordered by the UTF-16 code units of their keys. -/
def utf16 (key : String) : List Nat :=
  key.toList.flatMap fun c =>
    let n := c.toNat
    if n < 0x10000 then [n] else [0xd800 + (n - 0x10000) / 0x400, 0xdc00 + (n - 0x10000) % 0x400]

/-- The parts with commas between them. -/
def separated : List (List Char) → List Char
  | [] => []
  | [part] => part
  | part :: rest => part ++ ',' :: separated rest

def objectText (fields : List (String × List Char)) : List Char :=
  let ordered := fields.insertionSort fun a b => utf16 a.1 ≤ utf16 b.1
  '{' :: (separated (ordered.map fun field => quoted field.1 ++ ':' :: field.2) ++ ['}'])

section Canonical

-- How a double is written is the parameter of the canonical form.
variable (floatText : UInt64 → List Char)

mutual

def Value.text : Value → List Char
  | .null => "null".toList
  | .bool b => (if b then "true" else "false").toList
  | .integer n => (toString n).toList
  | .float bits => floatText bits
  | .string s => quoted s
  | .array items => '[' :: (separated (itemsText items) ++ [']'])
  | .object fields => objectText (fieldsText fields)

def itemsText : List Value → List (List Char)
  | [] => []
  | item :: rest => item.text :: itemsText rest

def fieldsText : List (String × Value) → List (String × List Char)
  | [] => []
  | (key, value) :: rest => (key, value.text) :: fieldsText rest

end

theorem length_fieldsText (fields : List (String × Value)) :
    (fieldsText floatText fields).length = fields.length := by
  induction fields with
  | nil => rfl
  | cons field rest ih => rw [fieldsText, List.length_cons, ih, List.length_cons]

theorem map_fieldsText {α : Type} (f : String × List Char → α) (fields : List (String × Value)) :
    (fieldsText floatText fields).map f =
      fields.map fun field => f (field.1, field.2.text floatText) := by
  induction fields with
  | nil => rfl
  | cons field rest ih => rw [fieldsText, List.map_cons, ih, List.map_cons]

end Canonical

/-! ## Sizes -/

/-- The bytes a text takes in UTF-8. -/
def size (cs : List Char) : Nat := (cs.map Char.utf8Size).sum

@[simp] theorem size_nil : size [] = 0 := rfl

@[simp] theorem size_cons (c : Char) (cs : List Char) : size (c :: cs) = c.utf8Size + size cs := by
  simp [size]

@[simp] theorem size_append (cs ds : List Char) : size (cs ++ ds) = size cs + size ds := by
  simp [size]

/-- A step of a sum that is rewritten, and not unfolded, in a long object. -/
theorem sum_cons (n : Nat) (ns : List Nat) : (n :: ns).sum = n + ns.sum := by
  rw [List.sum_cons]

theorem length_le_size (cs : List Char) : cs.length ≤ size cs := by
  induction cs with
  | nil => exact Nat.le_refl 0
  | cons c cs ih =>
    have := c.utf8Size_pos
    rw [List.length_cons, size_cons]
    omega

theorem size_of_ascii {cs : List Char} (h : ∀ c ∈ cs, c.utf8Size = 1) : size cs = cs.length := by
  induction cs with
  | nil => rfl
  | cons c cs ih =>
    have hc := h c List.mem_cons_self
    have hrest := ih fun d hd => h d (List.mem_cons_of_mem _ hd)
    rw [size_cons, hc, hrest, List.length_cons]
    omega

theorem size_separated (parts : List (List Char)) :
    size (separated parts) = (parts.map size).sum + (parts.length - 1) := by
  induction parts with
  | nil => rfl
  | cons part rest ih =>
    cases rest with
    | nil => simp [separated]
    | cons second rest =>
      have hcomma : ','.utf8Size = 1 := by decide
      rw [separated, size_append, size_cons, ih, hcomma]
      · simp only [List.map_cons, List.sum_cons, List.length_cons]
        omega
      · simp

/-- The order of the fields makes no difference to the size. -/
theorem size_objectText (fields : List (String × List Char)) :
    size (objectText fields) =
      2 + (fields.length - 1) +
        (fields.map fun field => size (quoted field.1) + (1 + size field.2)).sum := by
  have hperm := List.perm_insertionSort (fun a b : String × List Char => utf16 a.1 ≤ utf16 b.1)
    fields
  have hsum := (hperm.map fun field => size (quoted field.1) + (1 + size field.2)).sum_nat
  have hbraces : '{'.utf8Size = 1 ∧ '}'.utf8Size = 1 ∧ ':'.utf8Size = 1 := by decide
  simp only [objectText, size_cons, size_append, size_separated, List.map_map, List.length_map,
    size_nil, hbraces, hperm.length_eq]
  simp only [Function.comp_def, size_append, size_cons, hbraces, hsum]
  omega

theorem length_itemsText (floatText : UInt64 → List Char) (items : List Value) :
    (itemsText floatText items).length = items.length := by
  induction items with
  | nil => rfl
  | cons item rest ih => rw [itemsText, List.length_cons, ih, List.length_cons]

theorem map_itemsText {α : Type} (floatText : UInt64 → List Char) (f : List Char → α)
    (items : List Value) :
    (itemsText floatText items).map f = items.map fun item => f (item.text floatText) := by
  induction items with
  | nil => rfl
  | cons item rest ih => rw [itemsText, List.map_cons, ih, List.map_cons]

theorem size_null (floatText : UInt64 → List Char) : size (Value.null.text floatText) = 4 := rfl

theorem size_string (floatText : UInt64 → List Char) (s : String) :
    size ((Value.string s).text floatText) = size (quoted s) := rfl

theorem size_array (floatText : UInt64 → List Char) (items : List Value) :
    size ((Value.array items).text floatText) =
      2 + (items.length - 1) + (items.map fun item => size (item.text floatText)).sum := by
  have hbrackets : '['.utf8Size = 1 ∧ ']'.utf8Size = 1 := by decide
  rw [Value.text]
  simp only [size_cons, size_append, size_separated, map_itemsText, length_itemsText, size_nil,
    hbrackets]
  omega

theorem size_object (floatText : UInt64 → List Char) (fields : List (String × Value)) :
    size ((Value.object fields).text floatText) =
      2 + (fields.length - 1) +
        (fields.map fun field =>
          size (quoted field.1) + (1 + size (field.2.text floatText))).sum := by
  rw [Value.text, size_objectText, map_fieldsText, length_fieldsText]

/-- A field of an object is no longer than the object. -/
theorem size_le_object (floatText : UInt64 → List Char) {fields : List (String × Value)}
    {field : String × Value} (h : field ∈ fields) :
    size (field.2.text floatText) ≤ size ((Value.object fields).text floatText) := by
  have hle := List.le_sum_of_mem (List.mem_map_of_mem (f := fun field : String × Value =>
    size (quoted field.1) + (1 + size (field.2.text floatText))) h)
  rw [size_object]
  omega

theorem size_quoted_of_plain {s : String} (h : ∀ c ∈ s.toList, escapeChar c = [c]) :
    size (quoted s) = size s.toList + 2 := by
  have hflat : s.toList.flatMap escapeChar = s.toList := by
    conv_rhs => rw [← List.flatMap_singleton' s.toList]
    exact List.flatMap_congr h
  have hquote : '"'.utf8Size = 1 := by decide
  simp only [quoted, hflat, size_cons, size_append, size_nil, hquote]
  omega

end Json
