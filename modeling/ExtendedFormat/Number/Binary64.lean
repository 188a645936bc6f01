/-
# ExtendedFormat.Number.Binary64 -- double precision numbers as bit patterns

A double is its sixteen hexadecimal digits' worth of bits.  `ofDecimal` rounds
`digits * 10 ^ exponent` to the nearest double, a tie to the even one, in exact
integer arithmetic; too large a value is an infinity.  `toInt?` gives the integer
that a finite double without a fraction stands for.

`shortest` finds the fewest decimal digits that read back: for one digit, two
digits and so on it tries the two neighbours of the value on that decimal grid.
-/
import ExtendedFormat.Number.Digits

namespace ExtendedFormat

set_option autoImplicit false

structure Binary64 where
  bits : UInt64
deriving DecidableEq

namespace Binary64

/-! ## Parts -/

def isNegative (x : Binary64) : Bool := decide (Nat.pow 2 63 ≤ x.bits.toNat)

def magnitude (x : Binary64) : Nat := x.bits.toNat % Nat.pow 2 63

/-- The bits of a positive infinity. -/
def infinite : Nat := 0x7FF * Nat.pow 2 52

def isFinite (x : Binary64) : Bool := decide (x.magnitude < infinite)

def isNaN (x : Binary64) : Bool := decide (infinite < x.magnitude)

def isZero (x : Binary64) : Bool := decide (x.magnitude = 0)

/-- The integer `m` with the absolute value `m * 2 ^ exponent`. -/
def mantissa (x : Binary64) : Nat :=
  let fraction := x.magnitude % Nat.pow 2 52
  if x.magnitude < Nat.pow 2 52 then fraction else fraction + Nat.pow 2 52

def exponent (x : Binary64) : Int := (max (x.magnitude / Nat.pow 2 52) 1 : Nat) - 1075

def ofParts (negative : Bool) (magnitude : Nat) : Binary64 :=
  ⟨((if negative then Nat.pow 2 63 else 0) + magnitude).toUInt64⟩

def notANumber : Binary64 := ofParts false (infinite + Nat.pow 2 51)

/-! ## Integers -/

/-- The value, where it is a whole number. -/
def toInt? (x : Binary64) : Option Int :=
  let sign : Int := if x.isNegative then -1 else 1
  if !x.isFinite then none
  else if 0 ≤ x.exponent then some (sign * (x.mantissa * Nat.pow 2 x.exponent.toNat : Nat))
  else
    let unit := Nat.pow 2 (-x.exponent).toNat
    if x.mantissa % unit = 0 then some (sign * (x.mantissa / unit : Nat)) else none

/-- Whether the value is greater than a natural number. -/
def isAbove (x : Binary64) (n : Nat) : Bool :=
  !x.isNegative && !x.isNaN &&
    (!x.isFinite ||
      if 0 ≤ x.exponent then decide (n < x.mantissa * Nat.pow 2 x.exponent.toNat)
      else decide (n * Nat.pow 2 (-x.exponent).toNat < x.mantissa))

/-! ## Rounding a decimal -/

/-- The integer nearest to `num / den`, an even one on a tie. -/
def roundDiv (num den : Nat) : Nat :=
  let q := num / den
  let r := num % den
  if 2 * r < den then q else if den < 2 * r then q + 1 else q + q % 2

/-- Whether `2 ^ k ≤ num / den`. -/
def atLeastPower (num den : Nat) (k : Int) : Bool :=
  if 0 ≤ k then decide (den * Nat.pow 2 k.toNat ≤ num)
  else decide (den ≤ num * Nat.pow 2 (-k).toNat)

/-- The bits nearest to the positive fraction `num / den`. -/
def nearest (num den : Nat) : Nat :=
  let k : Int := (num.log2 : Int) - den.log2
  let top := if atLeastPower num den k then k else k - 1
  let e := max (top - 52) (-1074)
  let m :=
    if 0 ≤ e then roundDiv num (den * Nat.pow 2 e.toNat)
    else roundDiv (num * Nat.pow 2 (-e).toNat) den
  min ((e + 1074).toNat * Nat.pow 2 52 + m) infinite

def ofDecimal (negative : Bool) (digits : Nat) (exponent : Int) : Binary64 :=
  let places : Int := (Digits.positional 10 digits).length + exponent
  ofParts negative <|
    if digits = 0 then 0
    else if places < -330 then 0
    else if 310 < places then infinite
    else if 0 ≤ exponent then nearest (digits * Nat.pow 10 exponent.toNat) 1
    else nearest digits (Nat.pow 10 (-exponent).toNat)

/-! ## The shortest decimal -/

/-- `a * 2 ^ e` compared with `d * 10 ^ p`, as two natural numbers in the same
order. -/
def crossed (a : Nat) (e : Int) (d : Nat) (p : Int) : Nat × Nat :=
  (a * Nat.pow 2 e.toNat * Nat.pow 10 (-p).toNat, d * Nat.pow 10 p.toNat * Nat.pow 2 (-e).toNat)

/-- Whether `d * 10 ^ p` reads back as the double `x`: it lies between the
midpoints to the neighbours of `x`, or on one if the mantissa is even. -/
def readsBack (x : Binary64) (d : Nat) (p : Int) : Bool :=
  let m := x.mantissa
  let e := x.exponent - 2
  let below := if m = Nat.pow 2 52 && decide (-1074 < x.exponent) then 4 * m - 1 else 4 * m - 2
  let (lo, atLo) := crossed below e d p
  let (hi, atHi) := crossed (4 * m + 2) e d p
  if m % 2 = 0 then decide (lo ≤ atLo ∧ atHi ≤ hi) else decide (lo < atLo ∧ atHi < hi)

/-- How many digits stand before the point; zero or less for a value below 0.1
or 1. -/
def places (x : Binary64) : Int :=
  let scaled := if 0 ≤ x.exponent then x.mantissa * Nat.pow 2 x.exponent.toNat * Nat.pow 10 400
    else x.mantissa * Nat.pow 10 400 / Nat.pow 2 (-x.exponent).toNat
  (Digits.positional 10 scaled).length - 400

/-- The neighbour of `x` on the grid of `10 ^ p` that reads back; of two the
nearer one. -/
def onGrid? (x : Binary64) (p : Int) : Option Nat :=
  let (value, unit) := crossed x.mantissa x.exponent 1 p
  let d := value / unit
  match readsBack x d p, readsBack x (d + 1) p with
  | true, true => some (roundDiv value unit)
  | true, false => some d
  | false, true => some (d + 1)
  | false, false => none

/-- Digits and power of ten of the shortest decimal of a finite, positive `x`. -/
def shortest (x : Binary64) : Nat × Int :=
  let grids := (List.range 17).map fun n => x.places - (n + 1 : Nat)
  (grids.findSome? fun p => (x.onGrid? p).map fun d => (d, p)).getD (0, 0)

/-- A point between digits where the exponent is from -4 to 15, else one digit
before the point and an exponent of at least two digits. -/
def positionalText (digits : Text) (places : Int) : Text :=
  let zeros (n : Int) : Text := List.replicate n.toNat (Digits.symbol false 0)
  let point := Text.ofString "."
  if places ≤ 0 then Text.ofString "0." ++ zeros (-places) ++ digits
  else
    let whole := digits.take places.toNat ++ zeros (places - digits.length)
    let fraction := digits.drop places.toNat
    whole ++ point ++ if fraction.isEmpty then zeros 1 else fraction

def scientificText (digits : Text) (places : Int) : Text :=
  let e := places - 1
  let exponent := Digits.render 10 false e.natAbs
  let fraction := digits.drop 1
  digits.take 1 ++ (if fraction.isEmpty then [] else Text.ofString "." ++ fraction) ++
    Text.ofString (if e < 0 then "e-" else "e+") ++
    (if exponent.length < 2 then Digits.symbol false 0 :: exponent else exponent)

def toText (x : Binary64) : Text :=
  if x.isNaN then Text.ofString "nan"
  else
    let sign := if x.isNegative then [Digits.minus] else []
    sign ++
      if !x.isFinite then Text.ofString "inf"
      else if x.isZero then Text.ofString "0.0"
      else
        let (d, p) := x.shortest
        let all := Digits.positional 10 d
        let significant := (all.reverse.dropWhile (· == 0)).reverse
        let digits := significant.map (Digits.symbol false)
        let places := all.length + p
        if -4 < places && places ≤ 16 then positionalText digits places
        else scientificText digits places

end Binary64

end ExtendedFormat
