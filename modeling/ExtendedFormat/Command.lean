/-
# ExtendedFormat.Command -- the command line tool

`Command.run` is the tool as a function: from the words of the command line, the
environment it asks and the streams it writes to, it tells the exit status and what
each stream receives.

The format is the first operand, unless a file or the resources hold it; then
that operand is the first argument.  Arguments of an arguments file follow those
of the command line.  Resources are read when the first of them is looked up.

Nothing goes to standard output unless the run succeeds.  Mistakes in the format,
its arguments or a file are reported, with status 1; a wrong use of options has
status 2.
-/
import ExtendedFormat.Argument
import ExtendedFormat.CommandLine
import ExtendedFormat.Console
import ExtendedFormat.Environment
import ExtendedFormat.Explanation
import ExtendedFormat.Session
import ExtendedFormat.SystemError

namespace ExtendedFormat

set_option autoImplicit false

namespace Command

open CommandLine

/-! ## Files -/

def readText (env : Environment) (path : Text) : Except Failure Text :=
  (env.files path).bind env.textOf

def readJson (env : Environment) (path : Text) : Except Failure Value := do
  let t ← readText env path
  match env.json t with
  | .ok v => .ok v
  | .error e => .error e.failure

/-- Text without one line feed at its end. -/
def withoutLineEnd (t : Text) : Text :=
  if t.getLast?.map CodePoint.val = some 0x0A then t.dropLast else t

/-! ## Resources -/

def resourceEntry (path : Text) (entry : Value × Value) : Except Failure (Text × Text) :=
  match entry with
  | (.text key, .text t) => .ok (key, t)
  | (.text key, _) => .error (.file (.resourceNotString path key))
  | _ => .error (.file (.resourcesNotObject path))

def readResources (o : Options) (env : Environment) : Except Failure (List (Text × Text)) :=
  match o.resources.nonempty? with
  | none => .ok []
  | some path => do
      match ← readJson env path with
      | .dict entries => entries.mapM (resourceEntry path)
      | _ => .error (.file (.resourcesNotObject path))

/-- Looks a resource up by the decimal numeral of its identifier. -/
def resolveResource (o : Options) (env : Environment) (id : Value) : Except Failure Value := do
  let resources ← readResources o env
  match id.display with
  | none => .error .numeralTooLong
  | some key =>
      match resources.lookup key with
      | some t => .ok (.text t)
      | none => .ok .null

/-- The separator of digits that is in force: that of the options, or else that of their locale,
if it has one. -/
def separator (o : Options) (env : Environment) : Setting Text :=
  match o.separator, o.locale.nonempty?.bind env.locale with
  | .unset, some (c :: rest) => .value (c :: rest)
  | given, _ => given

/-- How to group digits with the separator in force. -/
def grouping : Setting Text → Option (Text → Bool → Except Failure Text)
  | .unset => none
  | .blank => some fun _ _ => .error .separatorMissing
  | .value s => some fun number signed => .ok (Digits.group number signed s)

def callbacks (o : Options) (env : Environment) : Callbacks where
  groupDigits := grouping (separator o env)
  transcode := none
  resolveResource := some (resolveResource o env)
  resolveSystemError := some fun code => (SystemError.message code).map .text

/-! ## What to print -/

/-- Where the format comes from. -/
inductive Source where
  | format (t : Text)
  | resource (id : Value)

/-- The identifier of the resource that is the format.  A blank one is an empty
list. -/
def resourceId? (o : Options) : Option Value :=
  match o.resourceFormat with
  | .unset => none
  | .blank => some (.list [])
  | .value n => some (.int n)

/-- The arguments on the command line, followed by those of the arguments file. -/
def gather (o : Options) (env : Environment) (operands : List Text) :
    Except Failure (List Value) := do
  let typed ← operands.mapM (Argument.ofText env.json)
  match o.argsFile.nonempty? with
  | none => pure typed
  | some path =>
      match ← readJson env path with
      | .list items => pure (typed ++ items.map Argument.ofJson)
      | _ => .error (.file (.argumentsNotArray path))

/-- The source of the format and the arguments; none if there is no format. -/
def collect (o : Options) (env : Environment) :
    Except Failure (Option (Source × List Value)) := do
  let operands := o.format.toList ++ o.arguments
  match o.formatFile.nonempty?, resourceId? o, o.format with
  | some path, _, _ =>
      let t ← readText env path
      let args ← gather o env operands
      pure (some (.format (withoutLineEnd t), args))
  | none, some id, _ =>
      let args ← gather o env operands
      pure (some (.resource id, args))
  | none, none, some t =>
      let args ← gather o env o.arguments
      pure (some (.format t, args))
  | none, none, none => pure none

def reading (o : Options) : Reading :=
  ⟨if o.legacy then .legacy else .modern, if o.strict then .strict else .compatible⟩

/-! ## Exit -/

structure Streams where
  out : Console.Stream
  err : Console.Stream

structure Exit where
  /-- A failure here is one that the tool does not report. -/
  status : Except Failure Nat
  output : Bytes
  errors : Bytes

def usage : Text :=
  Text.ofString "usage: kprintf [OPTION ...] [--] [FORMAT [ARG ...]]\n"

def help : Text := usage ++ Text.ofString (String.intercalate "\n" [
  "",
  "Formats its arguments through an extended printf-style format string and",
  "writes the result to standard output.",
  "",
  "  -h, --help            show this text and exit",
  "  --format-file FILE    read the format string from a file",
  "  --args-file FILE      read the arguments from a file holding a JSON array",
  "  --resources FILE      JSON object mapping string ids to strings, used by %kr",
  "  --resource-format ID  take the format string from the resources under this id",
  "                        (must follow --resources)",
  "  --legacy              use the legacy dialect, where %ks and %kls are plurals",
  "  --strict              fail on a malformed directive",
  "  --separator SEP       digit grouping separator for the k flag",
  "  --locale NAME         numeric locale to take the separator from",
  "  --newline             print a newline after the formatted output",
  "  --explain             explain how the format string was parsed",
  "  --no-color            do not color diagnostics",
  "",
  "Each ARG is read as a JSON literal: 42 is an integer, \"42\" a string, null a",
  "missing pointer, [104, 105] a list of UTF-16 code units and",
  "\x7b\"data\": \"abc\", \"length\": 2\x7d a string view. Anything that is not valid JSON is",
  "passed through as a plain string.",
  ""])

/-- Complains about a wrong use of options. -/
def misused (io : Streams) (e : UsageError) : Exit :=
  ⟨.ok 2, [], io.err.print (usage ++ Console.programName ++ Text.ofString ": error: " ++
    e.message ++ Console.lineEnd)⟩

/-- Ends with a failure, after `before` was written to standard error. -/
def failed (o : Options) (io : Streams) (before : Bytes) (e : Failure) : Exit :=
  match e.message? with
  | some m => ⟨.ok 1, [], before ++ Console.errorReport o.inColor io.err m⟩
  | none => ⟨.error e, [], before⟩

def succeeded (o : Options) (io : Streams) (printed errors : Bytes) : Exit :=
  ⟨.ok 0, io.out.write (printed ++ if o.newline then [0x0A] else []), errors⟩

/-! ## Running -/

/-- The first line of an explanation. -/
def heading (how : Reading) : Text :=
  Text.ofString ((match how.dialect with
    | .legacy => "legacy"
    | .modern => "modern") ++ " dialect, " ++
    (match how.mode with
      | .compatible => "compatible"
      | .strict => "strict") ++ " mode")

/-- The lines that explain a format; without its pieces if it has none. -/
def explanation (o : Options) (io : Streams) (t : Text) : Bytes :=
  let pieces := match Template.ofValue (reading o).dialect (reading o).mode (.text t) with
    | .ok pieces => pieces
    | .error _ => []
  Console.debugReport o.inColor io.err (heading (reading o)) 0 ++
    pieces.flatMap fun p => Console.debugReport o.inColor io.err p.describe 1

def runFormat (o : Options) (env : Environment) (io : Streams) (t : Text) (args : List Value) :
    Exit :=
  let before := if o.explain then explanation o io t else []
  match formatInto (callbacks o env) (reading o) (.text t) args Sink.empty with
  | (s, none) => succeeded o io s.contents before
  | (_, some e) => failed o io before e

/-- Prints a format of the resources as text, in the legacy dialect. -/
def runResource (o : Options) (env : Environment) (io : Streams) (id : Value) (args : List Value) :
    Exit :=
  let cb := callbacks o env
  let session := { Session.start with inForce := cb }
  match (session.step (.formatResource (reading o).mode id args)).1 with
  | .text t => succeeded o io (Utf8.encode t) []
  | .complaint m => succeeded o io [] (Console.errorReport o.inColor io.err m)
  | .failed e => failed o io [] e
  | _ => succeeded o io [] []

def runOptions (o : Options) (env : Environment) (io : Streams) : Exit :=
  match collect o env with
  | .error e => failed o io [] e
  | .ok none => misused io .formatMissing
  | .ok (some (.format t, args)) => runFormat o env io t args
  | .ok (some (.resource id, args)) => runResource o env io id args

def run (argv : List Text) (env : Environment) (io : Streams) : Exit :=
  match CommandLine.parse env.locale argv with
  | .ok o => runOptions o env io
  | .error .help => ⟨.ok 0, io.out.print help, []⟩
  | .error (.error e) => misused io e
  | .error (.failure e) => ⟨.error e, [], []⟩

/-- The files that the options name. -/
def mentioned (o : Options) : List Text :=
  [o.formatFile, o.argsFile, o.resources].filterMap Setting.nonempty?

/-- The names of all files that a command line mentions. -/
def paths (locale : Text → Option Text) (argv : List Text) : List Text :=
  match CommandLine.parse locale argv with
  | .ok o => mentioned o
  | .error _ => []

end Command

end ExtendedFormat
