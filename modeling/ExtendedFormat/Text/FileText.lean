/-
# ExtendedFormat.Text.FileText -- text out of a file

A codec reads the bytes of a file as text.  One U+FEFF in front of that text is
dropped, beside the mark that may belong to the codec.  Which codec reads a file
is guessed from its bytes; `guess` goes by the mark.
-/
import ExtendedFormat.Text.Utf16
import ExtendedFormat.Text.Utf8

namespace ExtendedFormat.FileText

set_option autoImplicit false

inductive Codec where
  | ascii
  | utf8
  /-- UTF-8 after a mark. -/
  | utf8Marked
  | utf16
deriving DecidableEq

/-- An encoding by which a file may be read: one of those above, or another by its name. -/
inductive Charset where
  | codec (c : Codec)
  | other (name : Text)
deriving DecidableEq

/-- Reads bytes; a mark that belongs to the codec is not part of the text.  Without one, UTF-16
is taken to begin with its low bytes. -/
def Codec.decode : Codec → Bytes → Text
  | .ascii, bs =>
      bs.map fun b => if b.toNat < 0x80 then CodePoint.ofByte b else CodePoint.replacement
  | .utf8Marked, 0xEF :: 0xBB :: 0xBF :: rest => Utf8.decode rest
  | .utf16, 0xFF :: 0xFE :: rest => Utf16.decodeBytes .littleEndian rest
  | .utf16, 0xFE :: 0xFF :: rest => Utf16.decodeBytes .bigEndian rest
  | .utf16, bs => Utf16.decodeBytes .littleEndian bs
  | _, bs => Utf8.decode bs

/-- The text without one mark in front. -/
def dropMark : Text → Text
  | c :: rest => if c = CodePoint.byteOrderMark then rest else c :: rest
  | [] => []

/-- The guess that goes by the mark. -/
def guess : Bytes → Codec
  | 0xEF :: 0xBB :: 0xBF :: _ => .utf8Marked
  | 0xFF :: 0xFE :: _ => .utf16
  | 0xFE :: 0xFF :: _ => .utf16
  | _ => .utf8

end ExtendedFormat.FileText
