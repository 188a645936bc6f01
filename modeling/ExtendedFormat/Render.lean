/-
# ExtendedFormat.Render -- the output of one directive

`Directive.field` takes what a directive needs from the cursor and gives the
bytes that it prints, filled to its width.  The cursor comes back whatever the
outcome, since an argument is used up even if it is rejected.
-/
import ExtendedFormat.Callbacks
import ExtendedFormat.Cursor
import ExtendedFormat.Padding

namespace ExtendedFormat

set_option autoImplicit false

/-- Stands for a narrow string that is null. -/
def missingString : Bytes := ascii "(missing argument for %s)".toList

/-- Stands for a wide string that is null. -/
def missingWideString : Bytes := ascii "(null)".toList

namespace Specification

/-- Whether the argument is read as UTF-16. -/
def isWide (s : Specification) : Bool :=
  match s.conversion with
  | .standard .wideChar | .standard .wideString => true
  | .standard .char | .standard .string | .standard .view => s.length == some .long
  | _ => false

def fill (s : Specification) : Fill := ⟨s.leftAlign, s.zeroPad, s.conversion.isIntegral⟩

end Specification

namespace Render

/-- Base and letter case of a number's digits. -/
def radix : Letter → Nat × Bool
  | .octal => (8, false)
  | .hexLower => (16, false)
  | .hexUpper => (16, true)
  | _ => (10, false)

def isSigned : Letter → Bool
  | .decimal | .integer => true
  | _ => false

def isPlural (n : Int) : Bool := n == 0 || decide (1 < n)

/-- A numeral; only decimals are ever grouped. -/
def number (cb : Callbacks) (base : Nat) (upper grouped : Bool) (n : Int) : Except Failure Bytes :=
  let numeral := Digits.render base upper n
  if grouped && base == 10 then (cb.group numeral (decide (n < 0))).bind Text.exactBytes
  else numeral.exactBytes

def plural (n : Int) : Bytes := if isPlural n then [0x73] else []

def quotedIf (k : Bool) (bs : Bytes) : Bytes := if k then quote bs else bs

def wideText (cb : Callbacks) (k : Bool) (units : List UInt16) : Except Failure Bytes :=
  (cb.transcoded units).map (quotedIf k)

/-- Continues with an argument that was read, or fails as the reading did. -/
def reading {α : Type} (read : Except FormatError α × Cursor) (f : α → Except Failure Bytes) :
    Except Failure Bytes × Cursor :=
  match read with
  | (.ok a, c) => (f a, c)
  | (.error e, c) => (.error (.format e), c)

def integer (cb : Callbacks) (d : Directive) (l : Letter) (c : Cursor) :
    Except Failure Bytes × Cursor :=
  let (base, upper) := radix l
  reading (c.readNumber d.length (isSigned l) d) (number cb base upper d.kFlag)

def char (cb : Callbacks) (d : Directive) (c : Cursor) : Except Failure Bytes × Cursor :=
  if d.isWide then reading (c.read Accept.wideCharacter d) (wideText cb d.kFlag)
  else reading (c.read Accept.character d) fun bs => .ok (quotedIf d.kFlag bs)

def string (cb : Callbacks) (d : Directive) (extent : Accept.Extent) (c : Cursor) :
    Except Failure Bytes × Cursor :=
  if d.isWide then
    reading (c.read (Accept.wideString extent) d) fun
      | some units => wideText cb d.kFlag units
      | none => .ok (quotedIf d.kFlag missingWideString)
  else
    reading (c.read (Accept.string extent) d) fun bs =>
      .ok (quotedIf d.kFlag (bs.getD missingString))

def legacy (cb : Callbacks) (d : Directive) (c : Cursor) :
    LegacyOp → Except Failure Bytes × Cursor
  | .grouped => reading (c.readNumber none true d) (number cb 10 false true)
  | .groupedUnsigned => reading (c.readNumber none false d) (number cb 10 false true)
  | .groupedSize => reading (c.readNumber (some .size) false d) (number cb 10 false true)
  | .grouped64 => reading (c.readNumber (some .fixed64) true d) (number cb 10 false true)
  | .groupedUnsigned64 => reading (c.readNumber (some .fixed64) false d) (number cb 10 false true)
  | .plural => reading (c.readNumber none true d) fun n => .ok (plural n)
  | .plural64 => reading (c.readNumber (some .longLong) true d) fun n => .ok (plural n)
  | .lastPlural => (.ok (plural c.lastNumber), c)
  | .quoted =>
      reading (c.read (Accept.string .terminated) d) fun bs => .ok (quote (bs.getD missingString))
  | .resource => reading (c.read Accept.integer d) cb.resource
  | .systemError => reading (c.read Accept.integer d) cb.systemError

end Render

namespace Directive

/-- What the directive prints, before it is filled to its width. -/
def content (cb : Callbacks) (d : Directive) (c : Cursor) : Except Failure Bytes × Cursor :=
  match d.conversion with
  | .standard l =>
      match l with
      | .char | .wideChar => Render.char cb d c
      | .string | .wideString => Render.string cb d .terminated c
      | .view => Render.string cb d .view c
      | _ => Render.integer cb d l c
  | .legacy op => Render.legacy cb d c op

def field (cb : Callbacks) (d : Directive) (c : Cursor) : Except Failure Bytes × Cursor :=
  match d.content cb c with
  | (.ok bs, moved) => (.ok (pad d.width d.fill bs), moved)
  | failed => failed

end Directive

end ExtendedFormat
