/-
# ExtendedFormat.Number.Digits -- positional numerals and their grouping

`Digits.positional` lists the digits of a natural number, most significant first
and without a leading zero; zero has one digit.  `Digits.render` writes an
integer with them, in bases up to sixteen and either letter case.

`Digits.group` cuts a numeral into groups of three from the right and joins the
groups by a separator.  A sign, when there is one, stays in front and takes no
part in the count.
-/
import ExtendedFormat.Text.CodePoint

namespace ExtendedFormat.Digits

set_option autoImplicit false

/-! ## Digits -/

def positional (base n : Nat) : List Nat :=
  if _ : 2 ≤ base ∧ base ≤ n then positional base (n / base) ++ [n % base] else [n]
termination_by n
decreasing_by exact Nat.div_lt_self (by omega) (by omega)

def symbol (upper : Bool) (d : Nat) : CodePoint :=
  CodePoint.ofNat (if d < 10 then 0x30 + d else if upper then 0x37 + d else 0x57 + d)

def minus : CodePoint := ⟨0x2D, by decide⟩

def render (base : Nat) (upper : Bool) (n : Int) : Text :=
  let digits := (positional base n.natAbs).map (symbol upper)
  if n < 0 then minus :: digits else digits

/-! ## Groups of three -/

def triples {α : Type} : List α → List (List α)
  | a :: b :: c :: rest => [a, b, c] :: triples rest
  | [] => []
  | short => [short]

/-- A first group of one to three, then groups of three; nothing has one empty
group. -/
def groups {α : Type} (xs : List α) : List (List α) :=
  let first := if xs.length % 3 = 0 then 3 else xs.length % 3
  xs.take first :: triples (xs.drop first)

def group (number : Text) (signed : Bool) (separator : Text) : Text :=
  let sign := if signed then number.take 1 else []
  let digits := if signed then number.drop 1 else number
  sign ++ separator.intercalate (groups digits)

/-- What stands between groups where no locale says otherwise. -/
def defaultSeparator : Text := [⟨0x2C, by decide⟩]

end ExtendedFormat.Digits
