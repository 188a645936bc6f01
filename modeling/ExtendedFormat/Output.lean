/-
# ExtendedFormat.Output -- running a template

A run goes through a template once and gives a chunk of bytes for every piece.
The first directive that fails ends it; the chunks before it stand.

Appending a run to a sink is `formatInto`.  `format` runs on an empty sink and
reads what it holds as text.
-/
import ExtendedFormat.Render
import ExtendedFormat.Sink
import ExtendedFormat.Template

namespace ExtendedFormat

set_option autoImplicit false

structure Run where
  chunks : List Bytes
  failure : Option Failure

namespace Run

def cons (bs : Bytes) (r : Run) : Run := ⟨bs :: r.chunks, r.failure⟩

/-- Everything that was printed. -/
def bytes (r : Run) : Bytes := r.chunks.flatten

end Run

namespace Template

/-- Runs the pieces with the arguments that the cursor has left. -/
def runFrom (cb : Callbacks) : Template → Cursor → Run
  | [], _ => ⟨[], none⟩
  | .literal bs :: rest, c => (runFrom cb rest c).cons bs
  | .directive d :: rest, c =>
      match d.field cb c with
      | (.ok bs, moved) => (runFrom cb rest moved).cons bs
      | (.error e, _) => ⟨[], some e⟩

def run (cb : Callbacks) (pieces : Template) (args : List Value) : Run :=
  runFrom cb pieces (Cursor.start args)

/-- Runs a template onto a sink. -/
def runInto (cb : Callbacks) (pieces : Template) (args : List Value) (s : Sink) :
    Sink × Option Failure :=
  let r := run cb pieces args
  (s.appendAll r.chunks, r.failure)

/-- What a template prints, as text. -/
def runToText (cb : Callbacks) (pieces : Template) (args : List Value) : Except Failure Text :=
  let (s, failure) := runInto cb pieces args Sink.empty
  match failure with
  | some e => .error e
  | none => .ok s.toText

end Template

/-- How a format is read. -/
structure Reading where
  dialect : Dialect
  mode : Mode
deriving DecidableEq

/-- Formats arguments onto a sink.  A format that cannot be read leaves the sink as
it was. -/
def formatInto (cb : Callbacks) (how : Reading) (format : Value) (args : List Value) (s : Sink) :
    Sink × Option Failure :=
  match Template.ofValue how.dialect how.mode format with
  | .ok pieces => pieces.runInto cb args s
  | .error e => (s, some e)

/-- Formats arguments as text. -/
def format (cb : Callbacks) (how : Reading) (format : Value) (args : List Value) :
    Except Failure Text :=
  (Template.ofValue how.dialect how.mode format).bind fun pieces => pieces.runToText cb args

end ExtendedFormat
