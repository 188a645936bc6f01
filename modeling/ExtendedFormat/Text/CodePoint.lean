/-
# ExtendedFormat.Text.CodePoint -- text as a sequence of code points

Text handed to the engine is a sequence of Unicode code points, not of scalar
values: a half of a surrogate pair may stand in it alone, and several operations
differ only in what they do with one.  `Text` therefore holds `CodePoint`s, and
`CodePoint.isSurrogate` tells the halves apart from the scalar values.

Encoded text is `Bytes`.
-/

namespace ExtendedFormat

set_option autoImplicit false

abbrev Bytes := List UInt8

/-- A number below `0x110000`; surrogates are included. -/
structure CodePoint where
  val : Nat
  isLt : val < 0x110000 := by decide
deriving DecidableEq

abbrev Text := List CodePoint

namespace CodePoint

/-- Stands wherever a code point cannot be read. -/
def replacement : CodePoint := ⟨0xFFFD, by decide⟩

/-- The mark that a file may begin with. -/
def byteOrderMark : CodePoint := ⟨0xFEFF, by decide⟩

def ofNat (n : Nat) : CodePoint :=
  if h : n < 0x110000 then ⟨n, h⟩ else replacement

def ofChar (c : Char) : CodePoint := ofNat c.toNat

/-- The code point of an ASCII byte; the upper half maps to U+0080 to U+00FF. -/
def ofByte (b : UInt8) : CodePoint := ofNat b.toNat

def isSurrogate (c : CodePoint) : Bool := decide (0xD800 ≤ c.val ∧ c.val < 0xE000)

/-- The scalar value itself, or none for half a surrogate pair. -/
def toChar? (c : CodePoint) : Option Char :=
  if h : c.val.isValidChar then some (Char.ofNatAux c.val h) else none

end CodePoint

/-! ## Constants -/

def Text.ofString (s : String) : Text := s.toList.map CodePoint.ofChar

/-- Bytes of a text written in ASCII. -/
def ascii (s : List Char) : Bytes := s.map fun c => c.toNat.toUInt8

/-- A decimal numeral, with a sign only if it is negative. -/
def Text.ofInt (n : Int) : Text := Text.ofString (toString n)

end ExtendedFormat
