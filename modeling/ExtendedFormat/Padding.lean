/-
# ExtendedFormat.Padding -- filling a field

`pad` brings bytes to a width, and leaves alone what is wide enough.  Fill is
blanks on the right of a field aligned to the left, zeros between the sign and
the digits of a zero-padded number, and blanks on the left of everything else.
-/
import ExtendedFormat.Text.CodePoint

namespace ExtendedFormat

set_option autoImplicit false

/-- How a field is filled. -/
structure Fill where
  leftAlign : Bool
  zeroPad : Bool
  /-- Only numbers are padded with zeros. -/
  integral : Bool
deriving DecidableEq

def minusByte : UInt8 := 0x2D

def pad (width : Nat) (fill : Fill) (bs : Bytes) : Bytes :=
  let missing := width - bs.length
  if missing = 0 then bs
  else if fill.leftAlign then bs ++ List.replicate missing 0x20
  else if fill.zeroPad && fill.integral then
    match bs with
    | b :: digits =>
        if b = minusByte then b :: (List.replicate missing 0x30 ++ digits)
        else List.replicate missing 0x30 ++ bs
    | [] => List.replicate missing 0x30
  else List.replicate missing 0x20 ++ bs

/-- Nothing is too short for no width. -/
theorem pad_zero (fill : Fill) (bs : Bytes) : pad 0 fill bs = bs := by
  simp [pad]

def quote (bs : Bytes) : Bytes := 0x22 :: bs ++ [0x22]

end ExtendedFormat
