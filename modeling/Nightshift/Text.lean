import Mathlib.Data.List.Basic
import Mathlib.Data.String.Basic

/-!
Strings, byte strings and instants of the foreman records. A string length is
its UTF-8 length, the ASCII classes are read on bytes (no byte of a multi-byte
character is ASCII), and an instant is the signed number of nanoseconds since
the epoch, inside the range a checked addition may reach.
-/

namespace Nightshift

/-- Retained or client-supplied bytes. -/
abbrev Bytes := List UInt8

/-- `DateTime<Utc>` at nanosecond resolution. -/
abbrev Instant := Int

/-- `DateTime::<Utc>::MIN_UTC` and `MAX_UTC`, in nanoseconds. -/
def minimumInstant : Instant := -8334601228800000000000
def maximumInstant : Instant := 8210266876799999999999

/-- `checked_add_signed(Duration::seconds(seconds))`. -/
def checkedAddSeconds (at_ : Instant) (seconds : Int) : Option Instant :=
  let sum := at_ + seconds * 1000000000
  if minimumInstant ≤ sum ∧ sum ≤ maximumInstant then some sum else none

theorem checkedAddSeconds_eq_some {at_ wake : Instant} {seconds : Int}
    (h : checkedAddSeconds at_ seconds = some wake) : wake = at_ + seconds * 1000000000 := by
  simp only [checkedAddSeconds] at h
  split at h
  · exact (Option.some.inj h).symm
  · cases h

/-- `(later - earlier).num_milliseconds()`, truncated toward zero. -/
def numMilliseconds (later earlier : Instant) : Int := (later - earlier).tdiv 1000000

/-- `str::len`. -/
def byteLength (s : String) : Nat := s.utf8ByteSize

/-- `str::as_bytes`. -/
def utf8 (s : String) : Bytes := s.toByteArray.data.toList

def isAsciiDigit (b : UInt8) : Bool := 0x30 ≤ b && b ≤ 0x39
def isAsciiLowercase (b : UInt8) : Bool := 0x61 ≤ b && b ≤ 0x7a
def isAsciiUppercase (b : UInt8) : Bool := 0x41 ≤ b && b ≤ 0x5a
def isAsciiAlphanumeric (b : UInt8) : Bool :=
  isAsciiDigit b || isAsciiLowercase b || isAsciiUppercase b
/-- A digit or one of `a` to `f`. -/
def isLowerHexdigit (b : UInt8) : Bool := isAsciiDigit b || (0x61 ≤ b && b ≤ 0x66)
def isAsciiHexdigit (b : UInt8) : Bool := isLowerHexdigit b || (0x41 ≤ b && b ≤ 0x46)

/-- The byte is one of the given ASCII characters. -/
def isOneOf (characters : String) (b : UInt8) : Bool := (utf8 characters).contains b

/-- `char::is_control`: the general category Cc. -/
def isControl (c : Char) : Bool := c.toNat < 0x20 || (0x7f ≤ c.toNat && c.toNat ≤ 0x9f)

/-- The Unicode `White_Space` property, which `str::trim` removes at both ends. -/
def isWhiteSpace (c : Char) : Bool :=
  let n := c.toNat
  (0x09 ≤ n && n ≤ 0x0d) || n == 0x20 || n == 0x85 || n == 0xa0 || n == 0x1680 ||
    (0x2000 ≤ n && n ≤ 0x200a) || n == 0x2028 || n == 0x2029 || n == 0x202f ||
    n == 0x205f || n == 0x3000

/-- `value.trim().is_empty()`. -/
def isBlank (value : String) : Bool := value.toList.all isWhiteSpace

/-- `str::strip_prefix`, as the remaining bytes. -/
def stripPrefix (pre value : String) : Option Bytes :=
  if (utf8 pre).isPrefixOf (utf8 value) then some ((utf8 value).drop (utf8 pre).length) else none

/-- `"0".repeat(64)` behind the digest tag. -/
def placeholderDigest : String :=
  "sha256:0000000000000000000000000000000000000000000000000000000000000000"

end Nightshift
