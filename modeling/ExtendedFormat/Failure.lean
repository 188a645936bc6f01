/-
# ExtendedFormat.Failure -- why an operation fails

A `FormatError` is the caller's mistake: a malformed directive, an argument of
the wrong kind, or something other than text where text is due.  A `FileError` is
a mistake in one of the files that a command reads.  Both have a message.

The remaining constructors of `Failure` have none, and a command does not report
them: they name a value that an operation cannot take in, or come from the host.
-/
import ExtendedFormat.Text.Utf8

namespace ExtendedFormat

set_option autoImplicit false

/-! ## Mistakes in a format or its arguments -/

/-- What a directive asks of its argument. -/
inductive Expectation where
  | integer
  | character
  | codeUnit
  | string
  | wideString
  | view
  | viewLength
deriving DecidableEq

def Expectation.phrase : Expectation → String
  | .integer => "an integer"
  | .character => "a character"
  | .codeUnit => "a UTF-16 code unit"
  | .string => "a string"
  | .wideString => "a wide string"
  | .view => "a (data, length) view"
  | .viewLength => "a non-negative view length"

/-- What a text is wanted for. -/
inductive TextRole where
  | format
  | transcoded
  | resource (key : Int)
  | systemError (key : Int)
deriving DecidableEq

def TextRole.phrase : TextRole → Text
  | .format => Text.ofString "format"
  | .transcoded => Text.ofString "transcoded text"
  | .resource key => Text.ofString "resource " ++ Text.ofInt key
  | .systemError key => Text.ofString "system error " ++ Text.ofInt key

/-- Directives are quoted by their bytes and the offset of their percent sign. -/
inductive FormatError where
  /-- The format ends inside a directive. -/
  | unterminated (directive : Bytes) (start : Nat)
  /-- The last byte quoted fits nothing that could stand there. -/
  | unrecognized (directive : Bytes) (start : Nat)
  /-- No argument is left. -/
  | exhausted (directive : Bytes) (start : Nat)
  /-- The argument, or a part of it, is of another type. -/
  | mismatch (directive : Bytes) (start : Nat) (expected : Expectation) (got : String)
  | notText (role : TextRole) (got : String)
deriving DecidableEq

namespace FormatError

/-- Whether an argument is at fault. -/
def concernsArgument : FormatError → Bool
  | .exhausted .. | .mismatch .. => true
  | _ => false

def placed (before : String) (directive : Bytes) (between : String) (start : Nat) : Text :=
  Text.ofString before ++ Utf8.decode directive ++ Text.ofString between ++ Text.ofInt start

def message : FormatError → Text
  | .unterminated directive start =>
      placed "Unterminated directive '" directive "'; reached end of input at position " start
  | .unrecognized directive start =>
      placed "Unrecognized directive '" directive "' at position " start
  | .exhausted directive start =>
      placed "Directive '" directive "' at position " start ++
        Text.ofString " has no argument left to consume"
  | .mismatch directive start expected got =>
      placed "Directive '" directive "' at position " start ++
        Text.ofString (" expects " ++ expected.phrase ++ ", got " ++ got)
  | .notText role got =>
      Text.ofString "Expected text for " ++ role.phrase ++ Text.ofString (", got " ++ got)

end FormatError

/-! ## Mistakes in a file -/

inductive FileError where
  | unreadable (path : Text) (reason : String)
  | invalidJson
  | argumentsNotArray (path : Text)
  | resourcesNotObject (path : Text)
  | resourceNotString (path key : Text)
deriving DecidableEq

def FileError.message : FileError → Text
  | .unreadable path reason =>
      Text.ofString "cannot read " ++ path ++ Text.ofString (": " ++ reason)
  | .invalidJson => Text.ofString "invalid JSON: not one well-formed value"
  | .argumentsNotArray path => Text.ofString "arguments file must hold a JSON array: " ++ path
  | .resourcesNotObject path => Text.ofString "resources file must hold a JSON object: " ++ path
  | .resourceNotString path key =>
      Text.ofString "resources file " ++ path ++ Text.ofString ": value of '" ++ key ++
        Text.ofString "' is not a string"

/-! ## Every cause -/

inductive Failure where
  | format (e : FormatError)
  | file (e : FileError)
  /-- A failure of the host's own, by its name. -/
  | raised (name : Text)
  /-- A numeral of more than `Numeral.digitLimit` digits would have to be
  converted. -/
  | numeralTooLong
  /-- Half a surrogate pair where text has to be encoded exactly. -/
  | loneSurrogate
  /-- A system error code beyond 32 bits. -/
  | codeOutOfRange
  /-- A name that stands for nothing. -/
  | unknownName
  /-- An entry has to leave a cache that has none. -/
  | nothingToEvict
  /-- A value of a kind that the operation is not defined on. -/
  | unsuitable
  /-- A byte above 255. -/
  | notAByte
  /-- A NUL in the name of a file or a locale. -/
  | nulInName
  /-- Digits are to be grouped, and the separator was left blank. -/
  | separatorMissing
  /-- A file seems to be in an encoding that there is no codec for. -/
  | unknownEncoding
  /-- JSON is nested more deeply than it can be read. -/
  | nestedTooDeep
deriving DecidableEq

/-- UTF-8 of a text without lone surrogates. -/
def Text.exactBytes (t : Text) : Except Failure Bytes :=
  match Utf8.encode? t with
  | some bs => .ok bs
  | none => .error .loneSurrogate

/-- The report of a mistake; none for the other causes. -/
def Failure.message? : Failure → Option Text
  | .format e => some e.message
  | .file e => some e.message
  | _ => none

end ExtendedFormat
