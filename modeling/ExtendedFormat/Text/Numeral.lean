/-
# ExtendedFormat.Text.Numeral -- reading decimal numerals

`Numeral.int?` reads a whole text as a decimal integer: blanks around it, one
sign, and digits of any script, which single underscores may separate.  A
numeral of more than `Numeral.digitLimit` digits is refused, whatever its value.

`Numeral.looksNegative` is a weaker test that never converts: a minus sign, then
digits, or digits with one point among or before them.
-/
import ExtendedFormat.Text.CodePoint

namespace ExtendedFormat.Numeral

set_option autoImplicit false

/-- Longest numeral that is converted. -/
def digitLimit : Nat := 4300

/-- The code points of digit zero (general category Nd, Unicode 14); the other
nine digits of a script follow in order. -/
def zeros : List Nat :=
  [0x30, 0x660, 0x6F0, 0x7C0, 0x966, 0x9E6, 0xA66, 0xAE6, 0xB66, 0xBE6, 0xC66, 0xCE6, 0xD66,
   0xDE6, 0xE50, 0xED0, 0xF20, 0x1040, 0x1090, 0x17E0, 0x1810, 0x1946, 0x19D0, 0x1A80, 0x1A90,
   0x1B50, 0x1BB0, 0x1C40, 0x1C50, 0xA620, 0xA8D0, 0xA900, 0xA9D0, 0xA9F0, 0xAA50, 0xABF0,
   0xFF10, 0x104A0, 0x10D30, 0x11066, 0x110F0, 0x11136, 0x111D0, 0x112F0, 0x11450, 0x114D0,
   0x11650, 0x116C0, 0x11730, 0x118E0, 0x11950, 0x11C50, 0x11D50, 0x11DA0, 0x16A60, 0x16AC0,
   0x16B50, 0x1D7CE, 0x1D7D8, 0x1D7E2, 0x1D7EC, 0x1D7F6, 0x1E140, 0x1E2F0, 0x1E950, 0x1FBF0]

/-- The value of a decimal digit of any script. -/
def digit? (c : CodePoint) : Option Nat :=
  (zeros.find? fun z => decide (z ≤ c.val ∧ c.val < z + 10)).map fun z => c.val - z

def isDigit (c : CodePoint) : Bool := (digit? c).isSome

/-- White space that may surround a numeral. -/
def isBlank (c : CodePoint) : Bool :=
  decide (0x09 ≤ c.val ∧ c.val ≤ 0x0D) || decide (0x2000 ≤ c.val ∧ c.val ≤ 0x200A) ||
    [0x20, 0x85, 0xA0, 0x1680, 0x2028, 0x2029, 0x202F, 0x205F, 0x3000].contains c.val

/-- Digit values of `digits (_ digits)*`; none if anything else is in the way. -/
def digits? : Text → Option (List Nat)
  | [] => none
  | [c] => (digit? c).map fun d => [d]
  | c :: u :: rest =>
      match digit? c with
      | none => none
      | some d =>
          if u.val = 0x5F then (digits? rest).map (d :: ·) else (digits? (u :: rest)).map (d :: ·)

def natOfDigits (ds : List Nat) : Nat := ds.foldl (fun n d => 10 * n + d) 0

def trim (t : Text) : Text := ((t.dropWhile isBlank).reverse.dropWhile isBlank).reverse

def nat? (t : Text) : Option Nat :=
  match digits? t with
  | some ds => if ds.length ≤ digitLimit then some (natOfDigits ds) else none
  | none => none

def int? (t : Text) : Option Int :=
  match trim t with
  | [] => none
  | c :: rest =>
      if c.val = 0x2D then (nat? rest).map fun n => -(n : Int)
      else if c.val = 0x2B then (nat? rest).map Int.ofNat
      else (nat? (c :: rest)).map Int.ofNat

/-- A minus sign, then digits, or a fraction with at least one digit after its
point; one line feed may follow. -/
def looksNegative (t : Text) : Bool :=
  match t with
  | [] => false
  | c :: rest =>
      let body := if rest.getLast?.map CodePoint.val = some 0x0A then rest.dropLast else rest
      let after := body.dropWhile isDigit
      c.val == 0x2D &&
        match after with
        | [] => !body.isEmpty
        | p :: fraction => p.val == 0x2E && !fraction.isEmpty && fraction.all isDigit

end ExtendedFormat.Numeral
