/-
# ExtendedFormat.Text.Utf8 -- UTF-8

Encoding comes in two forms: `encode?` refuses half a surrogate pair, `encode`
writes a question mark for it.  Decoding never fails: `decode` answers one
U+FFFD for every maximal ill-formed part, that is, for the longest run of bytes
that begins a character and cannot be continued, or for a single byte that
begins none.

Both decoders are views of `items`, which lists what was found in order: a code
point, or `none` for an ill-formed part.  `decode?` is the strict one.
-/
import ExtendedFormat.Text.CodePoint

namespace ExtendedFormat.Utf8

set_option autoImplicit false

/-! ## Encoding -/

/-- The bytes of one scalar value. -/
def encodeScalar (c : CodePoint) : Bytes :=
  let n := c.val
  if n < 0x80 then [n.toUInt8]
  else if n < 0x800 then [(0xC0 + n / 0x40).toUInt8, (0x80 + n % 0x40).toUInt8]
  else if n < 0x10000 then
    [(0xE0 + n / 0x1000).toUInt8, (0x80 + n / 0x40 % 0x40).toUInt8, (0x80 + n % 0x40).toUInt8]
  else
    [(0xF0 + n / 0x40000).toUInt8, (0x80 + n / 0x1000 % 0x40).toUInt8,
      (0x80 + n / 0x40 % 0x40).toUInt8, (0x80 + n % 0x40).toUInt8]

def encode (t : Text) : Bytes :=
  t.flatMap fun c => if c.isSurrogate then [0x3F] else encodeScalar c

def encode? (t : Text) : Option Bytes :=
  if t.any CodePoint.isSurrogate then none else some (t.flatMap encodeScalar)

/-! ## Decoding -/

/-- What a first byte announces: how many bytes follow, the range of the next
one, and its own share of the value. -/
structure Lead where
  owed : Nat
  low : Nat
  high : Nat
  share : Nat

def Lead.ofByte? (b : UInt8) : Option Lead :=
  let n := b.toNat
  if n < 0x80 then some ⟨0, 0x80, 0xBF, n⟩
  else if n < 0xC2 then none
  else if n < 0xE0 then some ⟨1, 0x80, 0xBF, n - 0xC0⟩
  else if n < 0xF0 then
    some ⟨2, if n = 0xE0 then 0xA0 else 0x80, if n = 0xED then 0x9F else 0xBF, n - 0xE0⟩
  else if n < 0xF5 then
    some ⟨3, if n = 0xF0 then 0x90 else 0x80, if n = 0xF4 then 0x8F else 0xBF, n - 0xF0⟩
  else none

/-- Reads the bytes still owed; the first of them must lie between `low` and
`high`.  A byte that does not fit is left in place. -/
def continuation (low high : Nat) : Nat → Nat → Bytes → Option CodePoint × Bytes
  | 0, value, rest => (some (CodePoint.ofNat value), rest)
  | _ + 1, _, [] => (none, [])
  | owed + 1, value, b :: rest =>
      if low ≤ b.toNat ∧ b.toNat ≤ high then
        continuation 0x80 0xBF owed (value * 0x40 + (b.toNat - 0x80)) rest
      else (none, b :: rest)

theorem continuation_rest_length (low high owed value : Nat) (bs : Bytes) :
    (continuation low high owed value bs).2.length ≤ bs.length := by
  fun_induction continuation low high owed value bs with
  | case1 => exact Nat.le_refl _
  | case2 => exact Nat.le_refl _
  | case3 _ _ _ _ _ _ _ ih => exact Nat.le_succ_of_le ih
  | case4 => exact Nat.le_refl _

def items : Bytes → List (Option CodePoint)
  | [] => []
  | b :: rest =>
      match Lead.ofByte? b with
      | none => none :: items rest
      | some lead =>
          let found := continuation lead.low lead.high lead.owed lead.share rest
          found.1 :: items found.2
termination_by bs => bs.length
decreasing_by
  · simp
  · have := continuation_rest_length lead.low lead.high lead.owed lead.share rest
    simp only [List.length_cons]
    omega

def decode (bs : Bytes) : Text := (items bs).map fun c => c.getD CodePoint.replacement

/-- The text, if the bytes are well formed throughout. -/
def decode? (bs : Bytes) : Option Text := (items bs).mapM id

end ExtendedFormat.Utf8
