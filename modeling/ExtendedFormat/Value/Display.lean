/-
# ExtendedFormat.Value.Display -- values shown in diagnostics

`Value.literal` writes a value the way it would be entered: text between quotes,
sequences in brackets, a one-element tuple with a comma after its element.
`Value.display` differs for text only, which it shows without quotes.

Integers of more digits than `Numeral.digitLimit` are not shown; the result is
then `none`.
-/
import ExtendedFormat.Text.Numeral
import ExtendedFormat.Text.Quoted
import ExtendedFormat.Value.Basic

namespace ExtendedFormat.Value

set_option autoImplicit false

/-- The decimal numeral of an integer that is short enough to be shown. -/
def decimal? (n : Int) : Option Text :=
  let t := Text.ofInt n
  if t.length ≤ Numeral.digitLimit + (if n < 0 then 1 else 0) then some t else none

def commaSpace : Text := Text.ofString ", "

def between (opening : String) (items : List Text) (closing : String) : Text :=
  Text.ofString opening ++ commaSpace.intercalate items ++ Text.ofString closing

mutual

def literal : Value → Option Text
  | .null => some (Text.ofString "None")
  | .bool b => some (Text.ofString (if b then "True" else "False"))
  | .int n => decimal? n
  | .float x => some x.toText
  | .text t => some (Quoted.text t)
  | .bytes .fixed bs => some (Quoted.bytes bs)
  | .bytes .growable bs => some (between "bytearray(" [Quoted.growableBytes bs] ")")
  | .bytes .window _ => some (Text.ofString "<memory>")
  | .list items => (literals items).map fun shown => between "[" shown "]"
  | .tuple items =>
      (literals items).map fun shown =>
        if shown.length = 1 then between "(" shown ",)" else between "(" shown ")"
  | .array units =>
      let shown := units.map fun u => Text.ofInt u.toNat
      some (if shown.isEmpty then Text.ofString "array('H')"
        else Text.ofString "array('H', " ++ between "[" shown "])")
  | .dict entries => (entryLiterals entries).map fun shown => between "\x7b" shown "\x7d"
  | .handle _ => some (Text.ofString "<Handle>")

def literals : List Value → Option (List Text)
  | [] => some []
  | v :: rest => do
      let shown ← literal v
      let others ← literals rest
      pure (shown :: others)

def entryLiterals : List (Value × Value) → Option (List Text)
  | [] => some []
  | (key, value) :: rest => do
      let shownKey ← literal key
      let shownValue ← literal value
      let others ← entryLiterals rest
      pure ((shownKey ++ Text.ofString ": " ++ shownValue) :: others)

end

def display : Value → Option Text
  | .text t => some t
  | v => v.literal

end ExtendedFormat.Value
