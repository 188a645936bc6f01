/-
# ExtendedFormat.Proofs.Directive.Grammar -- the words that are directives

The language of directives, said without a scanner.  After its percent sign and an
optional `k`, a standard directive is

    length flags width letter    or    flags width length? letter

and `Standard` is such a directive taken apart.  `Word` adds the doubled percent
sign and the operations that the dialect spells out after `%k`.

A word may come apart in two ways: `%I64d` has the length `I64`, or the length `I`
and the width 64.  `Standard.IsGreedy` prefers the longer length.  In the legacy
dialect a word may also begin with an operation, as `%ktd` does with `%kt`; the
operation wins.  `Denotes` says what a word stands for under these two rules.
-/
import ExtendedFormat.Directive.Scan
import Mathlib.Algebra.Group.Nat.Defs

namespace ExtendedFormat

set_option autoImplicit false

/-! ## Parts of a word -/

def Length.bytes (l : Length) : Bytes := ascii l.letters

/-- An optional length modifier as it is written. -/
def Length.written : Option Length → Bytes
  | none => []
  | some l => l.bytes

def Letter.byte (l : Letter) : UInt8 := l.letter.toNat.toUInt8

def kByte : UInt8 := 0x6B

/-- The number that decimal digits are the numeral of. -/
def decimalValue : Bytes → Nat
  | [] => 0
  | b :: rest => (b.toNat - 0x30) * 10 ^ rest.length + decimalValue rest

/-- A standard directive taken apart, in the order in which it is written. -/
structure Standard where
  kFlag : Bool
  early : Option Length
  flags : Bytes
  digits : Bytes
  late : Option Length
  letter : Letter
  oneLength : early = none ∨ late = none
  areFlags : ∀ b ∈ flags, b = 0x2D ∨ b = 0x30
  areDigits : ∀ b ∈ digits, 0x30 ≤ b.toNat ∧ b.toNat ≤ 0x39
  /-- A zero in front would be a flag. -/
  noLeadingZero : digits.head? ≠ some 0x30
  convertible : digits.length ≤ Numeral.digitLimit

namespace Standard

theorem nil_areFlags : ∀ b ∈ ([] : Bytes), b = 0x2D ∨ b = 0x30 := by simp

theorem nil_areDigits : ∀ b ∈ ([] : Bytes), 0x30 ≤ b.toNat ∧ b.toNat ≤ 0x39 := by simp

theorem nil_noLeadingZero : ([] : Bytes).head? ≠ some 0x30 := by simp

theorem nil_convertible : ([] : Bytes).length ≤ Numeral.digitLimit := Nat.zero_le _

/-- A length and a letter. -/
def bare (length : Option Length) (l : Letter) : Standard :=
  ⟨false, none, [], [], length, l, .inl rfl, nil_areFlags, nil_areDigits, nil_noLeadingZero,
    nil_convertible⟩

def length (p : Standard) : Option Length := p.early.or p.late

/-- From the width on. -/
def ending (p : Standard) : Bytes := Length.written p.late ++ [p.letter.byte]

/-- What follows the percent sign and the `k`. -/
def body (p : Standard) : Bytes := Length.written p.early ++ (p.flags ++ (p.digits ++ p.ending))

def afterPercent (p : Standard) : Bytes := if p.kFlag then kByte :: p.body else p.body

def text (p : Standard) : Bytes := percentSign :: p.afterPercent

/-- The width that the digits ask for; more than 20 counts as 20. -/
def width (p : Standard) : Nat := min (decimalValue p.digits) 20

/-- What the word says, part by part. -/
def specification (p : Standard) : Specification :=
  ⟨.standard p.letter, p.kFlag, p.length, p.flags.contains 0x2D, p.flags.contains 0x30, p.width⟩

/-- The bytes from where the length modifier stands, or would stand after the width. -/
def fromLength (p : Standard) : Bytes := if p.early.isSome then p.body else p.ending

/-- No longer modifier could have been read in the length's place. -/
def IsGreedy (p : Standard) : Prop :=
  ∀ l : Length, l.bytes <+: p.fromLength → l.bytes.length ≤ (Length.written p.length).length

end Standard

/-- An operation spelled as a whole. -/
def operationText (spelling : List Char) : Bytes := percentSign :: kByte :: ascii spelling

/-! ## Words and what they stand for -/

inductive Word (dialect : Dialect) : Bytes → Prop
  | percent : Word dialect [percentSign, percentSign]
  | operation {spelling : List Char} {op : LegacyOp}
      (spelled : (spelling, op) ∈ dialect.spellings) :
      Word dialect (operationText spelling)
  | standard (p : Standard) : Word dialect p.text

inductive Meaning where
  | percent
  | directive (spec : Specification)
deriving DecidableEq

/-- No operation of the dialect is spelled at the front of the bytes. -/
def Dialect.SpellsNothing (dialect : Dialect) (bs : Bytes) : Prop :=
  ∀ s ∈ dialect.spellings, ¬ operationText s.1 <+: bs

inductive Denotes (dialect : Dialect) : Bytes → Meaning → Prop
  | percent : Denotes dialect [percentSign, percentSign] .percent
  | operation {spelling : List Char} {op : LegacyOp}
      (spelled : (spelling, op) ∈ dialect.spellings) :
      Denotes dialect (operationText spelling) (.directive (.ofLegacy op))
  | standard (p : Standard) (greedy : p.IsGreedy) (clear : dialect.SpellsNothing p.text) :
      Denotes dialect p.text (.directive p.specification)

/-! ## Bytes that cannot be confused -/

theorem Letter.ofByte?_eq_some_iff {b : UInt8} {l : Letter} :
    Letter.ofByte? b = some l ↔ b = l.byte := by
  constructor
  · intro found
    have same : l.letter.toNat = b.toNat := by simpa using List.find?_some found
    simp [Letter.byte, same]
  · rintro rfl
    cases l <;> rfl

theorem Letter.byte_not_mem_length (c : Letter) (l : Length) : c.byte ∉ l.bytes := by
  cases c <;> cases l <;> decide

theorem Letter.byte_not_flag (c : Letter) : Scan.isFlag c.byte = false := by
  cases c <;> rfl

theorem Letter.byte_not_digit (c : Letter) : Scan.isDigit c.byte = false := by
  cases c <;> rfl

/-- Bytes that have another meaning where the body of a standard directive begins: the
percent sign, the `k`, and the operations of the modern dialect. -/
def reservedBytes : Bytes := ascii ['%', 'k', 'n', 'q', 'r', 'e']

theorem Letter.byte_not_reserved (c : Letter) : c.byte ∉ reservedBytes := by
  cases c <;> decide

theorem Length.bytes_eq_cons (l : Length) :
    ∃ b tail, l.bytes = b :: tail ∧ Scan.isFlag b = false ∧ Scan.isDigit b = false ∧
      b ∉ reservedBytes := by
  cases l <;> exact ⟨_, _, rfl, by decide, by decide, by decide⟩

theorem flag_not_reserved {b : UInt8} (flag : b = 0x2D ∨ b = 0x30) : b ∉ reservedBytes := by
  rcases flag with rfl | rfl <;> decide

theorem digit_not_reserved {b : UInt8} (digit : 0x30 ≤ b.toNat ∧ b.toNat ≤ 0x39) :
    b ∉ reservedBytes := by
  intro member
  simp only [reservedBytes, ascii, List.map_cons, List.map_nil, List.mem_cons, List.not_mem_nil,
    or_false] at member
  rcases member with rfl | rfl | rfl | rfl | rfl | rfl <;> revert digit <;> decide

theorem Scan.isFlag_iff {b : UInt8} : Scan.isFlag b = true ↔ b = 0x2D ∨ b = 0x30 := by
  simp [Scan.isFlag]

theorem Scan.isDigit_iff {b : UInt8} :
    Scan.isDigit b = true ↔ 0x30 ≤ b.toNat ∧ b.toNat ≤ 0x39 := by
  simp [Scan.isDigit]

/-! ## The width -/

/-- Digits read from the left, behind others that are worth `n`. -/
theorem foldl_digits (digits : Bytes) (n : Nat) :
    (digits.map fun b => b.toNat - 0x30).foldl (fun n d => 10 * n + d) n =
      n * 10 ^ digits.length + decimalValue digits := by
  induction digits generalizing n with
  | nil => simp [decimalValue]
  | cons b rest ih =>
    rw [List.map_cons, List.foldl_cons, ih, decimalValue, List.length_cons, Nat.pow_succ]
    grind

theorem natOfDigits_eq (digits : Bytes) :
    Numeral.natOfDigits (digits.map fun b => b.toNat - 0x30) = decimalValue digits := by
  rw [Numeral.natOfDigits, foldl_digits, Nat.zero_mul, Nat.zero_add]

/-- The scanner reads the width that the digits ask for. -/
theorem Scan.widthOf_eq (digits : Bytes) : Scan.widthOf digits = min (decimalValue digits) 20 := by
  rw [Scan.widthOf, natOfDigits_eq, maxWidth]

end ExtendedFormat
