/-
# ExtendedFormat.Request -- asking a cursor for arguments

A host may also read arguments without a format, one `Request` at a time.  Each is made
on behalf of a directive, which the error messages quote, and says what is wanted.  Where
that is a number, the length modifier goes by its name; a name that stands for nothing
is refused before any argument is looked at.
-/
import ExtendedFormat.Cursor

namespace ExtendedFormat

set_option autoImplicit false

inductive Request where
  | integer (d : Directive)
  /-- An integer at a width, which is remembered. -/
  | number (d : Directive) (length : Option Text) (signed : Bool)
  | character (d : Directive)
  | wideCharacter (d : Directive)
  | string (d : Directive) (extent : Accept.Extent)
  | wideString (d : Directive) (extent : Accept.Extent)

/-- What a request that succeeds is given. -/
inductive Reply where
  | integer (n : Int)
  | bytes (bs : Bytes)
  | units (us : List UInt16)
  /-- In place of a string that is null. -/
  | missing
deriving DecidableEq

namespace Reply

def ofBytes : Option Bytes → Reply
  | some bs => .bytes bs
  | none => .missing

def ofUnits : Option (List UInt16) → Reply
  | some us => .units us
  | none => .missing

end Reply

namespace Cursor

/-- A reading's result as a reply; the cursor is where the reading left it. -/
def replying {α : Type} (reply : α → Reply) (read : Except FormatError α × Cursor) :
    Except Failure Reply × Cursor :=
  ((read.1.mapError .format).map reply, read.2)

def serve (c : Cursor) : Request → Except Failure Reply × Cursor
  | .integer d => replying .integer (c.read Accept.integer d)
  | .number d length signed =>
      match Length.named length with
      | .ok l => replying .integer (c.readNumber l signed d)
      | .error e => (.error e, c)
  | .character d => replying .bytes (c.read Accept.character d)
  | .wideCharacter d => replying .units (c.read Accept.wideCharacter d)
  | .string d extent => replying .ofBytes (c.read (Accept.string extent) d)
  | .wideString d extent => replying .ofUnits (c.read (Accept.wideString extent) d)

end Cursor

end ExtendedFormat
