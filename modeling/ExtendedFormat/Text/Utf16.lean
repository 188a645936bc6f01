/-
# ExtendedFormat.Text.Utf16 -- UTF-16

`units` writes text as code units; half a surrogate pair becomes its own unit, so
nothing is refused.  `decode` pairs surrogates from the left and answers one
U+FFFD for every unit that stays unpaired; all other units, U+FEFF included, are
themselves.

`decodeBytes` reads a file's bytes in either byte order.  An odd byte at the end
is ill formed, together with a high surrogate before it.
-/
import ExtendedFormat.Text.CodePoint

namespace ExtendedFormat.Utf16

set_option autoImplicit false

def isHigh (u : UInt16) : Bool := decide (0xD800 ≤ u.toNat ∧ u.toNat < 0xDC00)

def isLow (u : UInt16) : Bool := decide (0xDC00 ≤ u.toNat ∧ u.toNat < 0xE000)

/-- The code point of a high and a low surrogate. -/
def join (high low : UInt16) : CodePoint :=
  CodePoint.ofNat (0x10000 + (high.toNat - 0xD800) * 0x400 + (low.toNat - 0xDC00))

/-! ## Encoding -/

def unitsOf (c : CodePoint) : List UInt16 :=
  if c.val < 0x10000 then [c.val.toUInt16]
  else
    [(0xD800 + (c.val - 0x10000) / 0x400).toUInt16, (0xDC00 + (c.val - 0x10000) % 0x400).toUInt16]

def units (t : Text) : List UInt16 := t.flatMap unitsOf

/-! ## Decoding -/

/-- A unit that is no surrogate, or U+FFFD. -/
def single (u : UInt16) : CodePoint :=
  if isHigh u || isLow u then CodePoint.replacement else CodePoint.ofNat u.toNat

def decode : List UInt16 → Text
  | [] => []
  | [u] => [single u]
  | u :: v :: rest =>
      if isHigh u && isLow v then join u v :: decode rest
      else single u :: decode (v :: rest)

/-! ## Bytes in either order -/

inductive ByteOrder where
  | littleEndian
  | bigEndian
deriving DecidableEq

def ByteOrder.unit : ByteOrder → UInt8 → UInt8 → UInt16
  | .littleEndian, a, b => (a.toNat + 0x100 * b.toNat).toUInt16
  | .bigEndian, a, b => (0x100 * a.toNat + b.toNat).toUInt16

/-- The whole units of a byte string, and whether a byte was left over. -/
def split (order : ByteOrder) : Bytes → List UInt16 × Bool
  | [] => ([], false)
  | [_] => ([], true)
  | a :: b :: rest =>
      let tail := split order rest
      (order.unit a b :: tail.1, tail.2)

def decodeBytes (order : ByteOrder) (bs : Bytes) : Text :=
  let (us, odd) := split order bs
  if odd then
    let whole := if (us.getLast?.map isHigh).getD false then us.dropLast else us
    decode whole ++ [CodePoint.replacement]
  else decode us

end ExtendedFormat.Utf16
