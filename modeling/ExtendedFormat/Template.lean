/-
# ExtendedFormat.Template -- a format taken apart

A template is a format as a list of pieces, literal bytes and directives, in the
order in which they stand.  `Template.parse` takes a format apart.  A doubled
percent sign is literal, and literal runs that meet are one piece, so no literal
is empty and none follows another.

The first directive that cannot be read ends the parse.  In strict mode it is an
error; in compatible mode the rest of the format, from its percent sign, becomes
literal text.  A width too long to be converted is refused in both.

`Template.unparse` writes a template as a format again.
-/
import ExtendedFormat.Directive.Scan
import ExtendedFormat.Value.Basic

namespace ExtendedFormat

set_option autoImplicit false

inductive Mode where
  | compatible
  | strict
deriving DecidableEq

inductive Piece where
  | literal (bs : Bytes)
  | directive (d : Directive)
deriving DecidableEq

abbrev Template := List Piece

namespace Template

/-! ## Parsing -/

/-- Puts literal bytes in front of a template. -/
def consLiteral (bs : Bytes) : Template → Template
  | .literal more :: rest => .literal (bs ++ more) :: rest
  | pieces => .literal bs :: pieces

/-- The failure that a directive's bytes cause, or the template that stands for
the whole rest. -/
def malformed (mode : Mode) (e : FormatError) (rest : Bytes) : Except Failure Template :=
  match mode with
  | .strict => .error (.format e)
  | .compatible => .ok [.literal rest]

/-- Parses bytes that begin at offset `start` of a format. -/
def parseFrom (dialect : Dialect) (mode : Mode) (start : Nat) : Bytes → Except Failure Template
  | [] => .ok []
  | b :: tail =>
      if b ≠ percentSign then
        (parseFrom dialect mode (start + 1) tail).map (consLiteral [b])
      else
        match h : scan dialect tail with
        | .percent rest =>
            (parseFrom dialect mode (start + 2) rest).map (consLiteral [percentSign])
        | .complete spec rest =>
            let text := b :: tail.take (tail.length - rest.length)
            (parseFrom dialect mode (start + text.length) rest).map
              (.directive ⟨spec, start, text⟩ :: ·)
        | .wrong rest =>
            malformed mode (.unrecognized (b :: tail.take (tail.length - rest.length)) start)
              (b :: tail)
        | .truncated => malformed mode (.unterminated (b :: tail) start) (b :: tail)
        | .tooLong => .error .numeralTooLong
termination_by bs => bs.length
decreasing_by
  all_goals simp only [List.length_cons]
  · omega
  · have hle := scan_length dialect tail
    rw [h] at hle
    exact Nat.lt_succ_of_le hle
  · have hle := scan_length dialect tail
    rw [h] at hle
    exact Nat.lt_succ_of_le hle

def parse (dialect : Dialect) (mode : Mode) (format : Bytes) : Except Failure Template :=
  parseFrom dialect mode 0 format

/-! ## The format that a value holds -/

/-- The bytes of a format: text has to be free of lone surrogates. -/
def formatBytes : Value → Except Failure Bytes
  | .text t => t.exactBytes
  | .bytes _ bs => .ok bs
  | v => .error (.format (.notText .format v.typeName))

def ofValue (dialect : Dialect) (mode : Mode) (format : Value) : Except Failure Template :=
  (formatBytes format).bind (parse dialect mode)

/-! ## Writing a template -/

/-- Every percent sign doubled. -/
def double (bs : Bytes) : Bytes :=
  bs.flatMap fun b => if b = percentSign then [b, b] else [b]

def unparse (pieces : Template) : Bytes :=
  pieces.flatMap fun
    | .literal bs => double bs
    | .directive d => d.text

/-- The directives alone, in order. -/
def directives (pieces : Template) : List Directive :=
  pieces.filterMap fun
    | .literal _ => none
    | .directive d => some d

end Template

end ExtendedFormat
