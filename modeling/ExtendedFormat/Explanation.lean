/-
# ExtendedFormat.Explanation -- templates described in words

`Directive.traits` lists what is worth saying about a directive, and
`Piece.describe` puts it into one line.  Zero padding is mentioned only where it
has an effect: not on text, and not if the field is aligned to the left.
-/
import ExtendedFormat.Template
import ExtendedFormat.Text.Quoted

namespace ExtendedFormat

set_option autoImplicit false

inductive Trait where
  | conversion (name : String)
  | legacyOperation (name : String)
  | grouped
  | quoted
  | length (l : Length)
  | width (w : Nat)
  | leftAligned
  | zeroPadded
deriving DecidableEq

def Trait.phrase : Trait → String
  | .conversion name => "conversion '" ++ name ++ "'"
  | .legacyOperation name => "legacy operation '" ++ name ++ "'"
  | .grouped => "grouped"
  | .quoted => "quoted"
  | .length l => "length '" ++ l.name ++ "'"
  | .width w => "width " ++ toString w
  | .leftAligned => "left-aligned"
  | .zeroPadded => "zero-padded"

def Specification.traits (s : Specification) : List Trait :=
  (if s.conversion.isLegacy then [.legacyOperation s.conversion.name]
    else .conversion s.conversion.name ::
      (if s.kFlag then [if s.conversion.isIntegral then .grouped else .quoted] else [])) ++
  (match s.length with
    | some l => [.length l]
    | none => []) ++
  (if s.width = 0 then [] else [.width s.width]) ++
  (if s.leftAlign then [.leftAligned]
    else if s.zeroPad && s.conversion.isIntegral then [.zeroPadded]
    else [])

/-- Shows the directive's own bytes. -/
def Directive.display (d : Directive) : Text :=
  Text.ofString "directive(" ++ Quoted.bytes d.text ++ Text.ofString ")"

def Piece.describe : Piece → Text
  | .literal bs => Text.ofString "literal " ++ Quoted.text (Utf8.decode bs)
  | .directive d =>
      FormatError.placed "directive '" d.text "' at " d.start ++
        Text.ofString (": " ++ ", ".intercalate (d.traits.map Trait.phrase))

end ExtendedFormat
