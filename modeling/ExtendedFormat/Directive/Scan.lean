/-
# ExtendedFormat.Directive.Scan -- reading one directive

`scan` reads what follows a percent sign, in one pass from left to right:

* a second percent sign;
* in a position where the dialect has one, a spelling of a legacy operation
  after a `k`;
* otherwise an optional `k`, a length modifier, any run of `-` and `0`, a width,
  a length modifier if none came before, and a conversion letter.

Modifiers are matched greedily.  A format may end before the directive does
(`truncated`), or go on with a byte that no directive has there (`wrong`).
Whatever is left over is returned; it is an end of what was given
(`scan_suffix`).
-/
import ExtendedFormat.Directive.Basic
import ExtendedFormat.Text.Numeral

namespace ExtendedFormat

set_option autoImplicit false

def percentSign : UInt8 := 0x25

/-- Drops the letters from the front of the bytes, if they are there. -/
def dropLetters? : List Char → Bytes → Option Bytes
  | [], bs => some bs
  | _ :: _, [] => none
  | c :: cs, b :: bs => if c.toNat = b.toNat then dropLetters? cs bs else none

/-- The first of the spellings that the bytes begin with. -/
def firstSpelling? {α : Type} : List (List Char × α) → Bytes → Option (α × Bytes)
  | [], _ => none
  | (spelling, meaning) :: others, bs =>
      match dropLetters? spelling bs with
      | some rest => some (meaning, rest)
      | none => firstSpelling? others bs

def Length.take (bs : Bytes) : Option Length × Bytes :=
  match firstSpelling? (Length.all.map fun l => (l.letters, l)) bs with
  | some (l, rest) => (some l, rest)
  | none => (none, bs)

inductive Scan where
  | percent (rest : Bytes)
  | complete (spec : Specification) (rest : Bytes)
  /-- The rest begins after the byte that fits nothing. -/
  | wrong (rest : Bytes)
  | truncated
  /-- The width is a numeral too long to be converted. -/
  | tooLong

namespace Scan

def isFlag (b : UInt8) : Bool := b == 0x2D || b == 0x30

def isDigit (b : UInt8) : Bool := decide (0x30 ≤ b.toNat ∧ b.toNat ≤ 0x39)

def widthOf (digits : Bytes) : Nat :=
  min (Numeral.natOfDigits (digits.map fun b => b.toNat - 0x30)) maxWidth

/-- What remains to be read once flags and width are known. -/
def conversion (kFlag : Bool) (flags digits : Bytes) (length : Option Length) : Bytes → Scan
  | [] => .truncated
  | b :: rest =>
      match Letter.ofByte? b with
      | some l =>
          .complete ⟨.standard l, kFlag, length, flags.contains 0x2D, flags.contains 0x30,
            widthOf digits⟩ rest
      | none => .wrong rest

/-- A directive that is no legacy operation, after its `k`. -/
def standard (kFlag : Bool) (bs : Bytes) : Scan :=
  let early := Length.take bs
  let flags := early.2.takeWhile isFlag
  let unflagged := early.2.dropWhile isFlag
  let digits := unflagged.takeWhile isDigit
  let afterWidth := unflagged.dropWhile isDigit
  if afterWidth.isEmpty then .truncated
  else if Numeral.digitLimit < digits.length then .tooLong
  else if early.1.isSome then conversion kFlag flags digits early.1 afterWidth
  else
    let late := Length.take afterWidth
    conversion kFlag flags digits late.1 late.2

end Scan

/-- Reads the bytes after a percent sign. -/
def scan (dialect : Dialect) : Bytes → Scan
  | [] => .truncated
  | b :: rest =>
      if b = percentSign then .percent rest
      else if b = 0x6B then
        match firstSpelling? dialect.spellings rest with
        | some (op, rest') => .complete (.ofLegacy op) rest'
        | none => Scan.standard true rest
      else Scan.standard false (b :: rest)

/-! ## What is left over is an end of the input -/

/-- What is left to read; nothing if the directive did not end. -/
def Scan.rest : Scan → Bytes
  | .percent rest => rest
  | .complete _ rest => rest
  | .wrong rest => rest
  | .truncated => []
  | .tooLong => []

theorem dropLetters?_suffix {cs : List Char} {bs rest : Bytes}
    (h : dropLetters? cs bs = some rest) : rest <:+ bs := by
  fun_induction dropLetters? cs bs with
  | case1 => cases h; exact List.suffix_refl _
  | case2 => cases h
  | case3 _ _ _ _ _ ih => exact (ih h).trans (List.suffix_cons _ _)
  | case4 => cases h

theorem firstSpelling?_suffix {α : Type} {table : List (List Char × α)} {bs rest : Bytes} {a : α}
    (h : firstSpelling? table bs = some (a, rest)) : rest <:+ bs := by
  fun_induction firstSpelling? table bs with
  | case1 => cases h
  | case2 _ _ _ _ _ dropped => cases h; exact dropLetters?_suffix dropped
  | case3 _ _ _ _ _ ih => exact ih h

theorem Length.take_suffix (bs : Bytes) : (Length.take bs).2 <:+ bs := by
  unfold Length.take
  split
  · exact firstSpelling?_suffix (by assumption)
  · exact List.suffix_refl _

theorem Scan.conversion_suffix (kFlag : Bool) (flags digits : Bytes) (length : Option Length)
    (bs : Bytes) : (Scan.conversion kFlag flags digits length bs).rest <:+ bs := by
  cases bs with
  | nil => exact List.nil_suffix
  | cons b rest =>
    simp only [Scan.conversion]
    split <;> exact List.suffix_cons _ _

theorem Scan.standard_suffix (kFlag : Bool) (bs : Bytes) :
    (Scan.standard kFlag bs).rest <:+ bs := by
  have unflagged := (List.dropWhile_suffix Scan.isFlag).trans (Length.take_suffix bs)
  have afterWidth := (List.dropWhile_suffix Scan.isDigit).trans unflagged
  simp only [Scan.standard]
  split
  · exact List.nil_suffix
  · split
    · exact List.nil_suffix
    · split
      · exact (Scan.conversion_suffix ..).trans afterWidth
      · exact (Scan.conversion_suffix ..).trans ((Length.take_suffix _).trans afterWidth)

theorem scan_suffix (dialect : Dialect) (bs : Bytes) : (scan dialect bs).rest <:+ bs := by
  cases bs with
  | nil => exact List.nil_suffix
  | cons b rest =>
    simp only [scan]
    split
    · exact List.suffix_cons _ _
    · split
      · split
        · rename_i spelled
          exact (firstSpelling?_suffix spelled).trans (List.suffix_cons _ _)
        · exact (Scan.standard_suffix true rest).trans (List.suffix_cons _ _)
      · exact Scan.standard_suffix false (b :: rest)

theorem scan_length (dialect : Dialect) (bs : Bytes) :
    (scan dialect bs).rest.length ≤ bs.length := (scan_suffix dialect bs).length_le

end ExtendedFormat
