/-
# ExtendedFormat.Cursor -- handing out arguments

A `Cursor` stands before the next argument and remembers the last number that a
directive read.  What a directive accepts is a function of the argument alone
(`Accept`); `Cursor.read` moves past the argument whether it is accepted or not,
so a rejected argument is used up.  Only `Cursor.readNumber` changes the number
remembered, and only when it succeeds.

Strings come in two forms.  A terminated one ends before its first NUL.  A view
is not cut; it may also be a pair of data and a length, which keeps that much of
the data.
-/
import ExtendedFormat.Directive.Basic
import ExtendedFormat.Value.Basic

namespace ExtendedFormat

set_option autoImplicit false

/-- A rejection: what was wanted, and the type found instead. -/
structure Mismatch where
  expected : Expectation
  got : String
deriving DecidableEq

abbrev Accept (α : Type) := Value → Except Mismatch α

namespace Accept

def reject {α : Type} (expected : Expectation) (v : Value) : Except Mismatch α :=
  .error ⟨expected, v.typeName⟩

/-! ## Numbers and characters -/

def integer : Accept Int := fun v =>
  match v.index? with
  | some n => .ok n
  | none => reject .integer v

/-- One character, one byte, or the low byte of an integer. -/
def character : Accept Bytes := fun v =>
  match v with
  | .text [c] => .ok (Utf8.encode [c])
  | .bytes _ [b] => .ok [b]
  | _ =>
      match v.index? with
      | some n => .ok [(TwosComplement.low 8 n).toUInt8]
      | none => reject .character v

/-- One character, or the low sixteen bits of an integer. -/
def wideCharacter : Accept (List UInt16) := fun v =>
  match v with
  | .text [c] => .ok (Utf16.units [c])
  | _ =>
      match v.index? with
      | some n => .ok [Value.codeUnit n]
      | none => reject .codeUnit v

/-! ## Strings -/

/-- How much of the data a string directive takes. -/
inductive Extent where
  | terminated
  | view
deriving DecidableEq

/-- A view's length, which may be any integer from zero. -/
def viewLength (data length : Value) : Except Mismatch Nat :=
  match length.index? with
  | none => reject .view data
  | some n => if n < 0 then reject .viewLength (.int n) else .ok n.toNat

/-- Data before its first zero. -/
def beforeZero {α : Type} [BEq α] [OfNat α 0] (xs : List α) : List α := xs.takeWhile (· != 0)

/-- Bytes of text or of a byte string. -/
def narrowData (v : Value) : Except Mismatch Bytes :=
  match v.bytes? with
  | some bs => .ok bs
  | none => reject .string v

/-- Code units of text or of a sequence of integers. -/
def wideData (v : Value) : Except Mismatch (List UInt16) :=
  match v.units? with
  | some us => .ok us
  | none => reject .wideString v

/-- The first `length` elements of what `data` holds. -/
def viewed {α : Type} (read : Value → Except Mismatch (List α)) (data length : Value) :
    Except Mismatch (List α) := do
  let n ← viewLength data length
  let xs ← read data
  pure (xs.take n)

/-- A narrow string; null is a missing one. -/
def string (extent : Extent) : Accept (Option Bytes) := fun v =>
  match extent, v with
  | _, .null => .ok none
  | .terminated, v => (narrowData v).map fun bs => some (beforeZero bs)
  | .view, .tuple [data, length] => (viewed narrowData data length).map some
  | .view, v => (narrowData v).map some

/-- Whether a pair with this first element is two code units rather than data
and a length. -/
def isUnit : Value → Bool
  | .int _ | .bool _ => true
  | _ => false

/-- A wide string; null is a missing one. -/
def wideString (extent : Extent) : Accept (Option (List UInt16)) := fun v =>
  match extent, v with
  | _, .null => .ok none
  | .terminated, v => (wideData v).map fun us => some (beforeZero us)
  | .view, .tuple [data, length] =>
      if isUnit data then (wideData (.tuple [data, length])).map some
      else (viewed wideData data length).map some
  | .view, v => (wideData v).map some

end Accept

/-! ## The cursor -/

structure Cursor where
  args : List Value
  /-- How many arguments have been handed out. -/
  index : Nat
  lastNumber : Int

namespace Cursor

def start (args : List Value) : Cursor := ⟨args, 0, 0⟩

/-- Hands the next argument to `accept`, on behalf of a directive. -/
def read {α : Type} (accept : Accept α) (d : Directive) (c : Cursor) :
    Except FormatError α × Cursor :=
  match c.args[c.index]? with
  | none => (.error (.exhausted d.text d.start), c)
  | some v =>
      let moved := { c with index := c.index + 1 }
      match accept v with
      | .ok a => (.ok a, moved)
      | .error m => (.error (.mismatch d.text d.start m.expected m.got), moved)

/-- An integer as a length modifier has it read.  A size is unsigned, and so is an
unsigned pointer difference; there, all bits set is -1. -/
def numberAt (length : Option Length) (signed : Bool) (n : Int) : Int :=
  let bits := Length.bits length
  if Length.isSize length || (length == some .difference && !signed) then
    let u := TwosComplement.unsigned bits n
    if u = Nat.pow 2 bits - 1 then -1 else u
  else if signed then TwosComplement.signed bits n
  else TwosComplement.unsigned bits n

/-- Reads an integer at the width of a length modifier and remembers it. -/
def readNumber (length : Option Length) (signed : Bool) (d : Directive) (c : Cursor) :
    Except FormatError Int × Cursor :=
  match c.read Accept.integer d with
  | (.ok n, moved) =>
      let v := numberAt length signed n
      (.ok v, { moved with lastNumber := v })
  | failed => failed

end Cursor

end ExtendedFormat
