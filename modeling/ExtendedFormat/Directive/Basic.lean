/-
# ExtendedFormat.Directive.Basic -- directives

A directive is a percent sign and what follows it.  Its `Specification` says what
it asks for: a conversion, the `k` flag, a length modifier, alignment, zero
padding and a width.  `Directive` adds where it stands and how it was written.

There are two dialects.  A standard conversion is a single letter; a `k` before
it groups the digits of a number and quotes text.  Besides, some spellings after
`%k` are operations of their own, `LegacyOp`: twelve in the legacy dialect, and
in the modern one only the four whose letter is no standard conversion.
-/
import ExtendedFormat.Failure

namespace ExtendedFormat

set_option autoImplicit false

/-! ## Length modifiers -/

inductive Length where
  | char
  | short
  | longLong
  | long
  | intmax
  | size
  | difference
  | wide
  | fixed64
  | native
deriving DecidableEq

namespace Length

/-- In an order in which a spelling comes before its own beginnings. -/
def all : List Length :=
  [.char, .short, .longLong, .long, .intmax, .size, .difference, .wide, .fixed64, .native]

def letters : Length → List Char
  | .char => ['h', 'h']
  | .short => ['h']
  | .longLong => ['l', 'l']
  | .long => ['l']
  | .intmax => ['j']
  | .size => ['z']
  | .difference => ['t']
  | .wide => ['L']
  | .fixed64 => ['I', '6', '4']
  | .native => ['I']

def name (l : Length) : String := String.ofList l.letters

/-- The length with that name, where no name stands for no modifier. -/
def named : Option Text → Except Failure (Option Length)
  | none => .ok none
  | some s =>
      match all.find? fun l => Text.ofString l.name = s with
      | some l => .ok (some l)
      | none => .error .unknownName

/-- How wide an integer argument is read; without a modifier, 32 bits. -/
def bits : Option Length → Nat
  | none => 32
  | some .char => 8
  | some .short => 16
  | some _ => 64

/-- Sizes are unsigned, whatever the conversion. -/
def isSize : Option Length → Bool
  | some .size | some .native => true
  | _ => false

end Length

/-! ## Conversions -/

inductive Letter where
  | char
  | wideChar
  | string
  | wideString
  | view
  | decimal
  | integer
  | unsigned
  | octal
  | hexLower
  | hexUpper
deriving DecidableEq

namespace Letter

def all : List Letter :=
  [.char, .wideChar, .string, .wideString, .view, .decimal, .integer, .unsigned, .octal,
    .hexLower, .hexUpper]

def letter : Letter → Char
  | .char => 'c'
  | .wideChar => 'C'
  | .string => 's'
  | .wideString => 'S'
  | .view => 'v'
  | .decimal => 'd'
  | .integer => 'i'
  | .unsigned => 'u'
  | .octal => 'o'
  | .hexLower => 'x'
  | .hexUpper => 'X'

def ofByte? (b : UInt8) : Option Letter := all.find? fun l => l.letter.toNat = b.toNat

def isIntegral : Letter → Bool
  | .decimal | .integer | .unsigned | .octal | .hexLower | .hexUpper => true
  | _ => false

end Letter

/-- An operation spelled as a whole after `%k`. -/
inductive LegacyOp where
  | grouped
  | groupedUnsigned
  | groupedSize
  | grouped64
  | groupedUnsigned64
  | plural
  | plural64
  | lastPlural
  | quoted
  | resource
  | systemError
deriving DecidableEq

def LegacyOp.name : LegacyOp → String
  | .grouped => "kd"
  | .groupedUnsigned => "ku"
  | .groupedSize => "kt"
  | .grouped64 => "kI64d"
  | .groupedUnsigned64 => "kI64u"
  | .plural => "ks"
  | .plural64 => "kS"
  | .lastPlural => "kls"
  | .quoted => "kq"
  | .resource => "kr"
  | .systemError => "ke"

inductive Dialect where
  | modern
  | legacy
deriving DecidableEq

/-- What may follow `%k` as a whole, with its meaning; no spelling begins
another.  An `n` is an older spelling of `d`. -/
def Dialect.spellings : Dialect → List (List Char × LegacyOp)
  | .legacy =>
      [(['I', '6', '4', 'd'], .grouped64), (['I', '6', '4', 'u'], .groupedUnsigned64),
        (['l', 's'], .lastPlural), (['d'], .grouped), (['n'], .grouped), (['u'], .groupedUnsigned),
        (['t'], .groupedSize), (['s'], .plural), (['S'], .plural64), (['q'], .quoted),
        (['r'], .resource), (['e'], .systemError)]
  | .modern =>
      [(['n'], .grouped), (['q'], .quoted), (['r'], .resource), (['e'], .systemError)]

inductive Conversion where
  | standard (l : Letter)
  | legacy (op : LegacyOp)
deriving DecidableEq

namespace Conversion

def name : Conversion → String
  | .standard l => String.singleton l.letter
  | .legacy op => op.name

def isLegacy : Conversion → Bool
  | .legacy _ => true
  | .standard _ => false

/-- Legacy operations do not count, even those that print a number. -/
def isIntegral : Conversion → Bool
  | .standard l => l.isIntegral
  | .legacy _ => false

end Conversion

/-! ## Directives -/

structure Specification where
  conversion : Conversion
  kFlag : Bool
  length : Option Length
  leftAlign : Bool
  zeroPad : Bool
  /-- Zero if none was given. -/
  width : Nat
deriving DecidableEq

/-- Wider fields are cut to this width. -/
def maxWidth : Nat := 20

def Specification.ofLegacy (op : LegacyOp) : Specification :=
  ⟨.legacy op, true, none, false, false, 0⟩

structure Directive extends Specification where
  /-- The offset of the percent sign. -/
  start : Nat
  text : Bytes
deriving DecidableEq

/-- The offset just past the directive. -/
def Directive.stop (d : Directive) : Nat := d.start + d.text.length

end ExtendedFormat
