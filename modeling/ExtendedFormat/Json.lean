/-
# ExtendedFormat.Json -- reading JSON text

`Json.read` reads one JSON value from a whole text.  Arrays become lists, objects
tables with text keys, where a repeated key keeps its last value.  A number is an
integer, of any size, unless it has a fraction or an exponent; then it is a
double.

Blanks are space, tab, line feed and carriage return.  Control characters must be
escaped within strings.  An escaped surrogate pair is one code point, and half a
pair stays as it is.  One byte order mark may stand in front.

A text that is no JSON is told apart from one that a reader of JSON gives up on
(`JsonError`): for an integer of too many digits to be converted, or for deep
nesting.  `Json.read` reads any nesting.
-/
import ExtendedFormat.Text.Numeral
import ExtendedFormat.Value.Table

namespace ExtendedFormat

set_option autoImplicit false

inductive JsonError where
  | malformed
  | numeralTooLong
  | nestedTooDeep
deriving DecidableEq

namespace Json

/-- A value read, and the text after it. -/
abbrev Parsed (α : Type) := Except JsonError (α × Text)

def isBlank (c : CodePoint) : Bool :=
  c.val == 0x20 || c.val == 0x09 || c.val == 0x0A || c.val == 0x0D

def skipBlanks (t : Text) : Text := t.dropWhile isBlank

/-! ## Strings -/

/-- A character of a string, or a code unit written as an escape. -/
inductive Item where
  | plain (c : CodePoint)
  | escaped (u : UInt16)

def hexDigit? (c : CodePoint) : Option Nat :=
  if 0x30 ≤ c.val ∧ c.val ≤ 0x39 then some (c.val - 0x30)
  else if 0x41 ≤ c.val ∧ c.val ≤ 0x46 then some (c.val - 0x37)
  else if 0x61 ≤ c.val ∧ c.val ≤ 0x66 then some (c.val - 0x57)
  else none

def unit? (a b c d : CodePoint) : Option UInt16 := do
  let a ← hexDigit? a
  let b ← hexDigit? b
  let c ← hexDigit? c
  let d ← hexDigit? d
  pure (a * 0x1000 + b * 0x100 + c * 0x10 + d).toUInt16

/-- The character that a single letter after a backslash stands for. -/
def shortEscape? (c : CodePoint) : Option CodePoint :=
  match c.val with
  | 0x22 => some c
  | 0x5C => some c
  | 0x2F => some c
  | 0x62 => some ⟨0x08, by decide⟩
  | 0x66 => some ⟨0x0C, by decide⟩
  | 0x6E => some ⟨0x0A, by decide⟩
  | 0x72 => some ⟨0x0D, by decide⟩
  | 0x74 => some ⟨0x09, by decide⟩
  | _ => none

/-- The items up to the closing quote. -/
def stringItems : Text → Parsed (List Item)
  | [] => .error .malformed
  | c :: rest =>
      if c.val = 0x22 then .ok ([], rest)
      else if c.val < 0x20 then .error .malformed
      else if c.val ≠ 0x5C then
        (stringItems rest).map fun r => (.plain c :: r.1, r.2)
      else
        match rest with
        | [] => .error .malformed
        | e :: tail =>
            if e.val = 0x75 then
              match tail with
              | h₁ :: h₂ :: h₃ :: h₄ :: more =>
                  match unit? h₁ h₂ h₃ h₄ with
                  | some u => (stringItems more).map fun r => (.escaped u :: r.1, r.2)
                  | none => .error .malformed
              | _ => .error .malformed
            else
              match shortEscape? e with
              | some s => (stringItems tail).map fun r => (.plain s :: r.1, r.2)
              | none => .error .malformed

/-- Joins surrogates that were escaped one after the other. -/
def joinItems : List Item → Text
  | [] => []
  | .plain c :: rest => c :: joinItems rest
  | .escaped u :: .escaped v :: rest =>
      if Utf16.isHigh u && Utf16.isLow v then Utf16.join u v :: joinItems rest
      else CodePoint.ofNat u.toNat :: joinItems (.escaped v :: rest)
  | .escaped u :: rest => CodePoint.ofNat u.toNat :: joinItems rest

/-- A string, after its opening quote. -/
def string (t : Text) : Parsed Text :=
  (stringItems t).map fun r => (joinItems r.1, r.2)

/-! ## Numbers -/

def isDigit (c : CodePoint) : Bool := decide (0x30 ≤ c.val ∧ c.val ≤ 0x39)

def natOf (digits : Text) : Nat := Numeral.natOfDigits (digits.map fun c => c.val - 0x30)

/-- A numeral in its parts.  Either part after the whole may be missing. -/
structure Number where
  negative : Bool
  whole : Text
  fraction : Option Text
  exponent : Option Int

/-- Digits after a point, if there are any. -/
def fractionPart (t : Text) : Option Text × Text :=
  match t with
  | p :: rest =>
      let digits := rest.takeWhile isDigit
      if p.val = 0x2E ∧ ¬ digits.isEmpty then (some digits, rest.dropWhile isDigit) else (none, t)
  | [] => (none, t)

/-- An exponent, if it has digits. -/
def exponentPart (t : Text) : Option Int × Text :=
  match t with
  | e :: rest =>
      let signed := match rest with
        | s :: _ => s.val == 0x2B || s.val == 0x2D
        | [] => false
      let negative := match rest with
        | s :: _ => s.val == 0x2D
        | [] => false
      let body := if signed then rest.drop 1 else rest
      let digits := body.takeWhile isDigit
      if (e.val = 0x65 ∨ e.val = 0x45) ∧ ¬ digits.isEmpty then
        (some (if negative then -(natOf digits : Int) else natOf digits), body.dropWhile isDigit)
      else (none, t)
  | [] => (none, t)

/-- The numeral that a text begins with: a zero stands alone before a point. -/
def number? (t : Text) : Option (Number × Text) :=
  let negative := match t with
    | c :: _ => c.val == 0x2D
    | [] => false
  let unsigned := if negative then t.drop 1 else t
  match unsigned with
  | [] => none
  | c :: rest =>
      if !isDigit c then none
      else
        let whole := if c.val = 0x30 then [c] else c :: rest.takeWhile isDigit
        let (fraction, afterFraction) := fractionPart (unsigned.drop whole.length)
        let (exponent, after) := exponentPart afterFraction
        some (⟨negative, whole, fraction, exponent⟩, after)

namespace Number

def isInteger (n : Number) : Bool := n.fraction.isNone && n.exponent.isNone

def toFloat (n : Number) : Binary64 :=
  let fraction := n.fraction.getD []
  Binary64.ofDecimal n.negative (natOf (n.whole ++ fraction))
    (n.exponent.getD 0 - fraction.length)

def toInt (n : Number) : Int := if n.negative then -(natOf n.whole : Int) else natOf n.whole

def toValue (n : Number) : Except JsonError Value :=
  if !n.isInteger then .ok (.float n.toFloat)
  else if Numeral.digitLimit < n.whole.length then .error .numeralTooLong
  else .ok (.int n.toInt)

end Number

def number (t : Text) : Parsed Value :=
  match number? t with
  | some (n, rest) => n.toValue.map fun v => (v, rest)
  | none => .error .malformed

/-! ## Values -/

def dropWord? : List Char → Text → Option Text
  | [], t => some t
  | _ :: _, [] => none
  | w :: ws, c :: cs => if w.toNat = c.val then dropWord? ws cs else none

/-- A name, or else a number. -/
def scalar (t : Text) : Parsed Value :=
  match dropWord? ['n', 'u', 'l', 'l'] t with
  | some rest => .ok (.null, rest)
  | none =>
      match dropWord? ['t', 'r', 'u', 'e'] t with
      | some rest => .ok (.bool true, rest)
      | none =>
          match dropWord? ['f', 'a', 'l', 's', 'e'] t with
          | some rest => .ok (.bool false, rest)
          | none => number t

/-- A given character, with blanks before and after it. -/
def mark (n : Nat) (t : Text) : Option Text :=
  match skipBlanks t with
  | c :: rest => if c.val = n then some (skipBlanks rest) else none
  | [] => none

mutual

/-- A value at the start of the text; `fuel` bounds its size. -/
def value : Nat → Text → Except JsonError (Value × Text)
  | 0, _ => .error .malformed
  | _ + 1, [] => .error .malformed
  | fuel + 1, c :: rest =>
      if c.val = 0x22 then (string rest).map fun r => (.text r.1, r.2)
      else if c.val = 0x5B then
        match mark 0x5D rest with
        | some _ => .ok (.list [], (skipBlanks rest).drop 1)
        | none => (elements fuel (skipBlanks rest)).map fun r => (.list r.1, r.2)
      else if c.val = 0x7B then
        match mark 0x7D rest with
        | some _ => .ok (.dict [], (skipBlanks rest).drop 1)
        | none => (members fuel (skipBlanks rest)).map fun r => (.dict (Table.ofEntries r.1), r.2)
      else scalar (c :: rest)

/-- Elements up to the closing bracket; there is at least one. -/
def elements : Nat → Text → Except JsonError (List Value × Text)
  | 0, _ => .error .malformed
  | fuel + 1, t => do
      let (v, rest) ← value fuel t
      match mark 0x2C rest with
      | some more =>
          let (vs, after) ← elements fuel more
          pure (v :: vs, after)
      | none =>
          match skipBlanks rest with
          | c :: after => if c.val = 0x5D then pure ([v], after) else .error .malformed
          | [] => .error .malformed

/-- Members up to the closing brace; there is at least one. -/
def members : Nat → Text → Except JsonError (List (Value × Value) × Text)
  | 0, _ => .error .malformed
  | _ + 1, [] => .error .malformed
  | fuel + 1, q :: t =>
      if q.val ≠ 0x22 then .error .malformed
      else do
        let (key, rest) ← string t
        match mark 0x3A rest with
        | none => .error .malformed
        | some valueText =>
            let (v, rest) ← value fuel valueText
            match mark 0x2C rest with
            | some more =>
                let (others, after) ← members fuel more
                pure ((.text key, v) :: others, after)
            | none =>
                match skipBlanks rest with
                | c :: after =>
                    if c.val = 0x7D then pure ([(.text key, v)], after) else .error .malformed
                | [] => .error .malformed

end

/-- Skips a byte order mark, or its three bytes read one by one as characters. -/
def skipMark (t : Text) : Text :=
  match t with
  | c :: rest =>
      if c = CodePoint.byteOrderMark then rest
      else if (t.take 3).map CodePoint.val = [0xEF, 0xBB, 0xBF] then t.drop 3
      else t
  | [] => []

/-- Reads a text that holds one value and nothing else. -/
def read (t : Text) : Except JsonError Value := do
  let body := skipBlanks (skipMark t)
  let (v, rest) ← value (body.length + 1) body
  if (skipBlanks rest).isEmpty then pure v else .error .malformed

end Json

end ExtendedFormat
