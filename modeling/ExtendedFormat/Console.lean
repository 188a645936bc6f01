/-
# ExtendedFormat.Console -- writing to streams

A stream either takes bytes, and then has an encoding for text, or takes text
only.  Text is written in the stream's encoding with a question mark for what it
cannot hold.  A stream that takes text only gets ASCII, and bytes written to it
are read as UTF-8 first; what it shows is given here in UTF-8.

Reports go to one stream, a line each: `errorReport` after the program's name,
`debugReport` after a tag and an indentation.  On a terminal a report has a
color, unless colors are turned off.
-/
import ExtendedFormat.Text.Utf8

namespace ExtendedFormat

set_option autoImplicit false

namespace Console

inductive Encoding where
  | utf8
  | ascii
  | latin1
deriving DecidableEq

/-- One byte for every code point below `limit`, and question marks. -/
def narrow (limit : Nat) (t : Text) : Bytes :=
  t.map fun c => if c.val < limit then c.val.toUInt8 else 0x3F

def Encoding.encode : Encoding → Text → Bytes
  | .utf8 => Utf8.encode
  | .ascii => narrow 0x80
  | .latin1 => narrow 0x100

structure Stream where
  /-- None for a stream that takes text only. -/
  encoding : Option Encoding
  isTerminal : Bool

def Stream.print (s : Stream) (t : Text) : Bytes := (s.encoding.getD .ascii).encode t

def Stream.write (s : Stream) (bs : Bytes) : Bytes :=
  match s.encoding with
  | some _ => bs
  | none => Utf8.encode (Utf8.decode bs)

def lineEnd : Text := Text.ofString "\n"

/-! ## Reports -/

inductive Color where
  | cyan
  | red

def Color.code : Color → Text
  | .cyan => Text.ofString "\x1b[36m"
  | .red => Text.ofString "\x1b[31m"

def plain : Text := Text.ofString "\x1b[0m"

def colored (inColor : Bool) (s : Stream) (c : Color) (t : Text) : Text :=
  if inColor && s.isTerminal then c.code ++ t ++ plain else t

def programName : Text := Text.ofString "kprintf"

def errorReport (inColor : Bool) (s : Stream) (message : Text) : Bytes :=
  s.print (colored inColor s .red (programName ++ Text.ofString ": error: " ++ message) ++ lineEnd)

/-- `depth` indents by two blanks each; a negative one counts as zero. -/
def debugReport (inColor : Bool) (s : Stream) (message : Text) (depth : Int) : Bytes :=
  let indent := List.replicate (2 * depth.toNat) (⟨0x20, by decide⟩ : CodePoint)
  s.print (colored inColor s .cyan (Text.ofString "[dbg] " ++ indent ++ message) ++ lineEnd)

end Console

end ExtendedFormat
