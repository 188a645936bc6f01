/-
# ExtendedFormat.CommandLine -- options and operands

`CommandLine.parse` reads the words of a command line.

* A word that begins with a dash is an option, unless it is a lone dash, looks
  like a negative number, or has a blank and is no option's name.  Two dashes end
  the options: everything after them is an operand.
* A long option may be cut short where only one option begins so.  Its value
  follows in the same word after an equals sign, or as the next word, which must
  be an operand.  Two dashes as a value leave the option blank.
* What is joined to `-h`, after an equals sign or not, are single-letter options
  run together.  There is no other such letter.
* The first run of operands is all that is taken: its first word is the format
  and the rest are arguments.  Words of later runs are not recognized, nor are
  unknown options; they are complained about after everything else was read.

Errors are causes (`UsageError`), with one wording each.
-/
import ExtendedFormat.Failure
import ExtendedFormat.Text.Numeral
import ExtendedFormat.Text.Quoted

namespace ExtendedFormat

set_option autoImplicit false

namespace CommandLine

/-! ## Options -/

inductive Flag where
  | help
  | formatFile
  | argsFile
  | resources
  | resourceFormat
  | legacy
  | strict
  | separator
  | locale
  | newline
  | explain
  | noColor
deriving DecidableEq

/-- Every name of an option, in the order in which candidates are listed. -/
def names : List (String × Flag) :=
  [("-h", .help), ("--help", .help), ("--format-file", .formatFile), ("--args-file", .argsFile),
    ("--resources", .resources), ("--resource-format", .resourceFormat), ("--legacy", .legacy),
    ("--strict", .strict), ("--separator", .separator), ("--locale", .locale),
    ("--newline", .newline), ("--explain", .explain), ("--no-color", .noColor)]

namespace Flag

def takesValue : Flag → Bool
  | .formatFile | .argsFile | .resources | .resourceFormat | .separator | .locale => true
  | _ => false

/-- All names of the option, for messages. -/
def title (f : Flag) : String :=
  "/".intercalate ((names.filter fun n => n.2 = f).map Prod.fst)

end Flag

/-- The value of an option, if the option is given and not left blank. -/
inductive Setting (α : Type) where
  | unset
  | blank
  | value (a : α)

namespace Setting

def isGiven {α : Type} : Setting α → Bool
  | .unset => false
  | _ => true

/-- A text with something in it. -/
def nonempty? : Setting Text → Option Text
  | .value (c :: rest) => some (c :: rest)
  | _ => none

end Setting

structure Options where
  formatFile : Setting Text
  argsFile : Setting Text
  resources : Setting Text
  resourceFormat : Setting Int
  legacy : Bool
  strict : Bool
  separator : Setting Text
  locale : Setting Text
  newline : Bool
  explain : Bool
  inColor : Bool
  format : Option Text
  arguments : List Text

def Options.initial : Options where
  formatFile := .unset
  argsFile := .unset
  resources := .unset
  resourceFormat := .unset
  legacy := false
  strict := false
  separator := .unset
  locale := .unset
  newline := false
  explain := false
  inColor := true
  format := none
  arguments := []

inductive UsageError where
  | ambiguous (word : Text) (candidates : List String)
  | missingValue (f : Flag)
  | unwantedValue (f : Flag) (value : Text)
  | notAnInteger (f : Flag) (value : Text)
  | conflict (f other : Flag)
  | requires (f other : Flag)
  | unrecognized (words : List Text)
  | unknownLocale (name : Text)
  | formatMissing

def UsageError.message : UsageError → Text
  | .ambiguous word candidates =>
      Text.ofString "ambiguous option: " ++ word ++
        Text.ofString (" could match " ++ ", ".intercalate candidates)
  | .missingValue f => Text.ofString ("argument " ++ f.title ++ ": expected one argument")
  | .unwantedValue f value =>
      Text.ofString ("argument " ++ f.title ++ ": ignored explicit argument ") ++ Quoted.text value
  | .notAnInteger f value =>
      Text.ofString ("argument " ++ f.title ++ ": invalid int value: ") ++ Quoted.text value
  | .conflict f other =>
      Text.ofString ("argument " ++ f.title ++ ": not allowed with argument " ++ other.title)
  | .requires f other => Text.ofString (f.title ++ " requires other option " ++ other.title)
  | .unrecognized words =>
      Text.ofString "unrecognized arguments: " ++ (Text.ofString " ").intercalate words
  | .unknownLocale name => Text.ofString "unsupported locale '" ++ name ++ Text.ofString "'"
  | .formatMissing => Text.ofString "a format string is required"

/-- Why reading stops before its end. -/
inductive Stop where
  | help
  | error (e : UsageError)
  | failure (e : Failure)

/-! ## Words -/

inductive Word where
  | operand (word : Text)
  /-- The two dashes that end the options. -/
  | terminator
  | option (f : Flag) (value : Option Text)
  /-- The letters run together with the option for help. -/
  | cluster (letters : Text)
  | unknown (word : Text)

def dash : CodePoint := .ofChar '-'

def equalsSign : CodePoint := ⟨0x3D, by decide⟩

def dashes : Text := [dash, dash]

def blank : CodePoint := .ofChar ' '

def named (word : Text) : Option Flag :=
  (names.find? fun n => Text.ofString n.1 = word).map Prod.snd

/-- The parts of a word before and after its first equals sign. -/
def splitValue (word : Text) : Text × Option Text :=
  match word.dropWhile fun c => c != equalsSign with
  | [] => (word, none)
  | _ :: value => (word.takeWhile fun c => c != equalsSign, some value)

/-- A word that begins with a dash and is no option's name as a whole. -/
def optionLike (word : Text) : Except Stop Word :=
  let (front, value) := splitValue word
  match named front, value with
  | some .help, some (c :: letters) =>
      .ok (if word.take 2 = dashes then .option .help (some (c :: letters))
        else .cluster (c :: letters))
  | some f, _ => .ok (.option f value)
  | none, _ =>
      let other : Word :=
        if Numeral.looksNegative word || word.contains blank then .operand word else .unknown word
      if word.take 2 = dashes then
        match names.filter fun n => front.isPrefixOf (Text.ofString n.1) with
        | [] => .ok other
        | [(_, f)] => .ok (.option f value)
        | several => .error (.error (.ambiguous word (several.map Prod.fst)))
      else if word.take 2 = Text.ofString "-h" then .ok (.cluster (word.drop 2))
      else .ok other

def wordOf (word : Text) : Except Stop Word :=
  if word.head? ≠ some dash then .ok (.operand word)
  else match named word with
    | some f => .ok (.option f none)
    | none => if word.length = 1 then .ok (.operand word) else optionLike word

/-- Sorts the words of a command line. -/
def words : List Text → Except Stop (List Word)
  | [] => .ok []
  | word :: rest =>
      if word = dashes then .ok (.terminator :: rest.map .operand)
      else do
        let w ← wordOf word
        let ws ← words rest
        pure (w :: ws)

def Word.raw? : Word → Option Text
  | .operand word => some word
  | .terminator => some dashes
  | _ => none

def Word.isTerminator : Word → Bool
  | .terminator => true
  | _ => false

/-! ## Operands -/

/-- The words without the first pair of dashes among them. -/
def withoutDashes (ws : List Word) : List Text := (ws.filterMap Word.raw?).erase dashes

/-- The format and the arguments in a run of operands: the format is the first
operand, with the terminator if that is next to it. -/
def assign (run : List Word) : Option Text × List Text :=
  let before := run.takeWhile Word.isTerminator
  match run.dropWhile Word.isTerminator with
  | [] => ((withoutDashes before).head?, [])
  | first :: rest =>
      ((withoutDashes (before ++ first :: rest.takeWhile Word.isTerminator)).head?,
        withoutDashes (rest.dropWhile Word.isTerminator))

/-! ## Reading -/

/-- Letters run together, from the first that is no option. -/
def strayLetters (letters : Text) : Text := letters.dropWhile fun c => c.val == 0x68

/-- What a word says as the value of an option. -/
def settingOf (v : Text) : Setting Text := if v = dashes then .blank else .value v

/-- A setting whose text has to be a decimal numeral, if it is one. -/
def Setting.int? : Setting Text → Option (Setting Int)
  | .unset => some .unset
  | .blank => some .blank
  | .value v => (Numeral.int? v).map .value

def setFlag (o : Options) : Flag → Except Stop Options
  | .help => .error .help
  | .legacy => .ok { o with legacy := true }
  | .strict => .ok { o with strict := true }
  | .newline => .ok { o with newline := true }
  | .explain => .ok { o with explain := true }
  | .noColor => .ok { o with inColor := false }
  | f => .error (.error (.missingValue f))

def setValue (o : Options) (f : Flag) (v : Text) : Except Stop Options :=
  match f with
  | .formatFile =>
      if o.resourceFormat.isGiven then .error (.error (.conflict .formatFile .resourceFormat))
      else .ok { o with formatFile := settingOf v }
  | .argsFile => .ok { o with argsFile := settingOf v }
  | .resources => .ok { o with resources := settingOf v }
  | .resourceFormat =>
      match (settingOf v).int? with
      | none => .error (.error (.notAnInteger .resourceFormat v))
      | some id =>
          if o.formatFile.isGiven then .error (.error (.conflict .resourceFormat .formatFile))
          else if o.resources.nonempty?.isNone then
            .error (.error (.requires .resourceFormat .resources))
          else .ok { o with resourceFormat := id }
  | .separator => .ok { o with separator := settingOf v }
  | .locale => .ok { o with locale := settingOf v }
  | f => .error (.error (.unwantedValue f v))

/-- What is known while words are read. -/
structure State where
  options : Options
  /-- The current run of operands, if it is the first, latest first. -/
  run : List Word
  /-- Whether the first run is over. -/
  assigned : Bool
  unrecognized : List Text

namespace State

def initial : State := ⟨Options.initial, [], false, []⟩

def operand (s : State) (w : Word) : State :=
  if s.assigned then { s with unrecognized := s.unrecognized ++ w.raw?.toList }
  else { s with run := w :: s.run }

/-- Ends a run of operands. -/
def close (s : State) : State :=
  if s.assigned || s.run.isEmpty then s
  else
    let (format, arguments) := assign s.run.reverse
    { s with
      options := { s.options with format := format, arguments := arguments }
      run := []
      assigned := true }

def withOptions (s : State) (r : Except Stop Options) : Except Stop State :=
  r.map fun o => { s with options := o }

end State

def read (s : State) : List Word → Except Stop State
  | [] => .ok s.close
  | .operand word :: rest => read (s.operand (.operand word)) rest
  | .terminator :: rest => read (s.operand .terminator) rest
  | .unknown word :: rest =>
      let closed := s.close
      read { closed with unrecognized := closed.unrecognized ++ [word] } rest
  | .cluster letters :: _ =>
      match strayLetters letters with
      | [] => .error .help
      | stray => .error (.error (.unwantedValue .help stray))
  | .option f (some v) :: rest => do
      let closed := s.close
      let s' ← closed.withOptions (setValue closed.options f v)
      read s' rest
  | .option f none :: rest =>
      if f.takesValue then
        match rest with
        | .operand v :: rest' => do
            let closed := s.close
            let s' ← closed.withOptions (setValue closed.options f v)
            read s' rest'
        | _ => .error (.error (.missingValue f))
      else do
        let closed := s.close
        let s' ← closed.withOptions (setFlag closed.options f)
        read s' rest

/-- Reads a command line; `locale` knows the locales. -/
def parse (locale : Text → Option Text) (argv : List Text) : Except Stop Options := do
  let ws ← words argv
  let s ← read State.initial ws
  if !s.unrecognized.isEmpty then .error (.error (.unrecognized s.unrecognized))
  else
    match s.options.locale.nonempty? with
    | none => .ok s.options
    | some name =>
        if name.any CodePoint.isSurrogate then .error (.failure .loneSurrogate)
        else if name.any fun c => c.val == 0 then .error (.failure .nulInName)
        else if (locale name).isNone then .error (.error (.unknownLocale name))
        else .ok s.options

end CommandLine

end ExtendedFormat
