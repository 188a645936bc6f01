/-
# ExtendedFormat.Environment -- what the command line tool finds around it

The tool asks its environment for the bytes of a file, for the encoding that these
bytes seem to be in, for the value that a JSON text holds, and for the separator of
a locale.  Each answer may be a refusal: a file that cannot be read, an encoding that
there is no codec for, a text that is nested too deep, an unknown locale.

`Environment.ofFiles` is an environment of its own for any files: encodings are told
by their marks, JSON is read by `Json.read`, and no locale has a separator.
-/
import ExtendedFormat.Failure
import ExtendedFormat.Json
import ExtendedFormat.Text.FileText

namespace ExtendedFormat

set_option autoImplicit false

structure Environment where
  /-- The bytes of the file with a given name. -/
  files : Text → Except Failure Bytes
  /-- The encoding that bytes seem to be in, if there is a guess. -/
  charset : Bytes → Option FileText.Charset
  /-- How an encoding is read that has no codec in `FileText.Codec`. -/
  decoder : Text → Option (Bytes → Text)
  json : Text → Except JsonError Value
  /-- The separator of digits in a locale; an empty text if digits are not grouped there. -/
  locale : Text → Option Text

namespace Environment

variable (env : Environment)

/-- The encoding by which bytes are read. -/
def charsetOf (bs : Bytes) : FileText.Charset := (env.charset bs).getD (.codec .utf8)

/-- The text of bytes, without one mark in front. -/
def textOf (bs : Bytes) : Except Failure Text :=
  match env.charsetOf bs with
  | .codec c => .ok (FileText.dropMark (c.decode bs))
  | .other name =>
      match env.decoder name with
      | some decode => .ok (FileText.dropMark (decode bs))
      | none => .error .unknownEncoding

/-- The locales of a plain system; digits are not grouped in them. -/
def plainLocale (name : Text) : Option Text :=
  if name ∈ ["C", "POSIX", "C.UTF-8", "C.utf8"].map Text.ofString then some [] else none

def ofFiles (files : Text → Except Failure Bytes) : Environment where
  files := files
  charset bs := some (.codec (FileText.guess bs))
  decoder _ := none
  json := Json.read
  locale := plainLocale

end Environment

end ExtendedFormat
