/-
# ExtendedFormat.Proofs.Command.Course -- the course of a run of the tool

What the tool collects is a source of the format and a list of arguments (`Command.collect_eq`).
The operands give the arguments in order, with the format operand first among them if the format
comes from elsewhere (`Command.operands`).  Both leave bytes in an empty sink, or fail
(`Command.printed`).

A run that is not stopped by its options therefore ends in one of two ways: it prints these bytes,
or it stops with the failure of collecting or of formatting (`Command.Course`,
`Command.course_run`).  An identifier of a resource was read from a numeral, so the tool can
always name a resource that is missing.
-/
import ExtendedFormat.Proofs.Command.Options
import ExtendedFormat.Proofs.Session.Steps
import ExtendedFormat.Proofs.Text.FileText

namespace ExtendedFormat.Command

set_option autoImplicit false

open CommandLine Outcome

variable {argv : List Text} {o : Options} {env : Environment} {io : Streams} {args : List Value}
  {id : Value} {path : Text} {e : Failure}

/-! ## Where format and arguments come from -/

/-- A file gives back the text that was written to it. -/
theorem readText_write {e : FileText.Encoding} {t : Text} (right : env.Recognizes e t)
    (scalar : t.IsScalar) (unmarked : t.head? ≠ some CodePoint.byteOrderMark)
    (holds : env.files path = .ok (e.write t)) : readText env path = .ok t := by
  rw [readText, holds]
  exact Environment.textOf_write right scalar unmarked

/-- The format is in a file or among the resources. -/
def isElsewhere (o : Options) : Bool := o.formatFile.nonempty?.isSome || (resourceId? o).isSome

/-- The operands that are arguments. -/
def operands (o : Options) : List Text :=
  (if isElsewhere o then o.format.toList else []) ++ o.arguments

/-- What the format is taken from. -/
def source (o : Options) (env : Environment) : Except Failure (Option Source) :=
  match o.formatFile.nonempty?, resourceId? o, o.format with
  | some path, _, _ => (readText env path).map fun t => some (.format (withoutLineEnd t))
  | none, some id, _ => .ok (some (.resource id))
  | none, none, some t => .ok (some (.format t))
  | none, none, none => .ok none

theorem collect_eq (o : Options) (env : Environment) :
    collect o env = (source o env).bind fun
      | some s => (gather o env (operands o)).map fun args => some (s, args)
      | none => .ok none := by
  unfold collect source operands isElsewhere
  cases o.formatFile.nonempty? with
  | some path =>
    dsimp only
    rw [if_pos (by rw [Option.isSome_some, Bool.true_or])]
    cases readText env path with
    | error e => rfl
    | ok t => cases gather o env (o.format.toList ++ o.arguments) <;> rfl
  | none =>
    cases resourceId? o with
    | some id =>
      dsimp only
      rw [if_pos (by rw [Option.isSome_some, Bool.or_true])]
      cases gather o env (o.format.toList ++ o.arguments) <;> rfl
    | none =>
      cases o.format with
      | some t =>
        dsimp only
        rw [Option.isSome_none, Option.isSome_none, Bool.or_self, if_neg Bool.false_ne_true,
          List.nil_append]
        cases gather o env o.arguments <;> rfl
      | none => rfl

/-- The options give no format. -/
structure Formatless (o : Options) : Prop where
  file : o.formatFile.nonempty? = none
  resource : o.resourceFormat = .unset
  operand : o.format = none

theorem resourceId?_eq_some (given : resourceId? o = some id) :
    id = .list [] ∨ ∃ n, id = .int n ∧ o.resourceFormat = .value n := by
  unfold resourceId? at given
  split at given
  · cases given
  · cases given
    exact .inl rfl
  · rename_i n setting
    cases given
    exact .inr ⟨n, rfl, setting⟩

theorem formatless_of_source (nothing : source o env = .ok none) : Formatless o := by
  unfold source at nothing
  split at nothing
  · obtain ⟨t, -, never⟩ := map_eq_ok_iff.mp nothing
    cases never
  · cases nothing
  · cases nothing
  · rename_i file noId operand
    refine ⟨file, ?_, operand⟩
    unfold resourceId? at noId
    split at noId
    · assumption
    · cases noId
    · cases noId

theorem formatless_of_collect (collected : collect o env = .ok none) : Formatless o := by
  rw [collect_eq] at collected
  obtain ⟨s, origin, collected⟩ := bind_eq_ok_iff.mp collected
  cases s with
  | none => exact formatless_of_source origin
  | some s =>
    obtain ⟨args, -, never⟩ := map_eq_ok_iff.mp collected
    cases never

theorem of_collect {s : Source} (collected : collect o env = .ok (some (s, args))) :
    source o env = .ok (some s) ∧ gather o env (operands o) = .ok args := by
  rw [collect_eq] at collected
  obtain ⟨s', origin, collected⟩ := bind_eq_ok_iff.mp collected
  cases s' with
  | none => cases collected
  | some s' =>
    obtain ⟨args', gathered, same⟩ := map_eq_ok_iff.mp collected
    cases same
    exact ⟨origin, gathered⟩

/-- The identifier of the format is a number of the options, or an empty list. -/
theorem identifier_of_collect (collected : collect o env = .ok (some (.resource id, args))) :
    id = .list [] ∨ ∃ n, id = .int n ∧ o.resourceFormat = .value n := by
  have origin := (of_collect collected).1
  unfold source at origin
  split at origin
  · obtain ⟨t, -, never⟩ := map_eq_ok_iff.mp origin
    cases never
  · rename_i given
    cases origin
    exact resourceId?_eq_some given
  · cases origin
  · cases origin

/-! ## The bytes of a run -/

/-- The bytes that formatting leaves in an empty sink. -/
def left (cb : Callbacks) (how : Reading) (format : Value) (args : List Value) :
    Except Failure Bytes :=
  match formatInto cb how format args Sink.empty with
  | (s, none) => .ok s.contents
  | (_, some e) => .error e

/-- The bytes to be written, in front of the end of line.  Those of a format that the resources
hold go by way of text; it is in the legacy dialect, as such formats are.  An unknown format
and an empty one have none. -/
def printed (o : Options) (env : Environment) (args : List Value) : Source → Except Failure Bytes
  | .format t => left (callbacks o env) (reading o) (.text t) args
  | .resource id =>
      match resolveResource o env id with
      | .error e => .error e
      | .ok (.text (c :: t)) =>
          (left (callbacks o env) ⟨.legacy, (reading o).mode⟩ (.text (c :: t)) args).map
            fun bs => Utf8.encode (Utf8.decode bs)
      | .ok _ => .ok []

/-- The lines that explain the format, if they were asked for. -/
def notes (o : Options) (io : Streams) : Source → Bytes
  | .format t => if o.explain then explanation o io t else []
  | .resource _ => []

/-- The end of a run that prints or fails. -/
def ended (o : Options) (io : Streams) (before errors : Bytes) : Except Failure Bytes → Exit
  | .ok bs => succeeded o io bs errors
  | .error e => failed o io before e

theorem runFormat_eq (t : Text) :
    runFormat o env io t args =
      ended o io (notes o io (.format t)) (notes o io (.format t))
        (printed o env args (.format t)) := by
  rw [runFormat, printed, left]
  rcases formatInto (callbacks o env) (reading o) (.text t) args Sink.empty with ⟨s, _ | e⟩
  · rfl
  · rfl

/-! ## A format of the resources -/

/-- The numeral of a short integer is shown. -/
theorem display_int {n : Int} (short : n.natAbs < 10 ^ Numeral.digitLimit) :
    (Value.int n).display.isSome := by
  show (Value.literal (.int n)).isSome
  rw [Value.literal, Value.decimal?_isSome_iff]
  exact short

/-- The identifier of the format can be shown. -/
theorem display_identifier (short : o.Short)
    (collected : collect o env = .ok (some (.resource id, args))) : id.display.isSome := by
  rcases identifier_of_collect collected with rfl | ⟨n, rfl, given⟩
  · rfl
  · exact display_int (short n given)

theorem identifier_not_tuple (collected : collect o env = .ok (some (.resource id, args))) :
    ∀ items, id ≠ .tuple items := by
  rintro items rfl
  rcases identifier_of_collect collected with list | ⟨n, number, -⟩
  · cases list
  · cases number

/-- A resource is a text, or there is none. -/
theorem resolveResource_ok {v : Value} (found : resolveResource o env id = .ok v) :
    v = .null ∨ ∃ t, v = .text t := by
  unfold resolveResource at found
  obtain ⟨resources, -, found⟩ := bind_eq_ok_iff.mp found
  split at found
  · cases found
  · split at found <;> cases found
    · exact .inr ⟨_, rfl⟩
    · exact .inl rfl

theorem not_failed_of_unknownResource (shown : id.display.isSome)
    (plain : ∀ items, id ≠ .tuple items) : unknownResource id ≠ .error e := by
  intro failed
  unfold unknownResource at failed
  simp only at failed
  split at failed
  · rename_i refused
    split at refused
    · cases refused
    · exact plain _ rfl
    · cases refused
  · rename_i v taken
    split at taken
    · exact plain _ rfl
    · cases taken
    · cases taken
      split at failed
      · cases failed
      · rename_i hidden
        rw [hidden] at shown
        cases shown

/-- What the text that a format prints depends on. -/
theorem formatText_eq (cb : Callbacks) (how : Reading) (format : Value) (args : List Value) :
    (({ Session.start with inForce := cb } : Session).formatText how format args).1 =
      ExtendedFormat.Outcome.ofText ((Template.ofValue how.dialect how.mode format).bind
        fun pieces => pieces.runToText cb args) := by
  -- The session's cache is empty, so what it serves is what parsing gives.
  have sound : ({ Session.start with inForce := cb } : Session).Sound :=
    ⟨Cache.sound_empty, Session.sound_start.limit⟩
  unfold Session.formatText
  rw [← sound.template how format]

/-- A format of the resources is run as any other, and what it prints goes by way of text. -/
theorem runResource_eq {format : Text} (found : resolveResource o env id = .ok (.text format))
    (present : format ≠ []) :
    runResource o env io id args =
      match formatInto (callbacks o env) ⟨.legacy, (reading o).mode⟩ (.text format) args
        Sink.empty with
      | (s, none) => succeeded o io (Utf8.encode (Utf8.decode s.contents)) []
      | (_, some e) => failed o io [] e := by
  have isPresent : (Value.text format).isPresent = true := by
    cases format with
    | nil => exact absurd rfl present
    | cons => rfl
  have resolved : (callbacks o env).resourceFormat id = .ok (.text format) := found
  rw [runResource]
  simp only [Session.step, resolved, isPresent, if_true, formatText_eq, formatInto]
  cases Template.ofValue .legacy (reading o).mode (.text format) with
  | error e => rfl
  | ok pieces =>
    simp only [Except.bind, Template.runToText]
    rcases pieces.runInto (callbacks o env) args Sink.empty with ⟨s, _ | e⟩ <;> rfl

/-- Without a format there is a complaint instead of text. -/
theorem runResource_of_absent {format : Value} (shown : id.display.isSome)
    (plain : ∀ items, id ≠ .tuple items) (found : resolveResource o env id = .ok format)
    (absent : format.isPresent = false) :
    ∃ errors, runResource o env io id args = succeeded o io [] errors := by
  have resolved : (callbacks o env).resourceFormat id = .ok format := found
  cases complaint : unknownResource id with
  | error e => exact absurd complaint (not_failed_of_unknownResource shown plain)
  | ok m =>
    refine ⟨Console.errorReport o.inColor io.err m, ?_⟩
    rw [runResource]
    simp only [Session.step, resolved, absent, complaint, Bool.false_eq_true, if_false]

theorem runResource_ends (shown : id.display.isSome) (plain : ∀ items, id ≠ .tuple items) :
    ∃ errors, runResource o env io id args =
      ended o io [] errors (printed o env args (.resource id)) := by
  cases found : resolveResource o env id with
  | error e =>
    have resolved : (callbacks o env).resourceFormat id = .error e := found
    refine ⟨[], ?_⟩
    rw [runResource, printed, found]
    simp only [Session.step, resolved]
    rfl
  | ok format =>
    rcases resolveResource_ok found with rfl | ⟨t, rfl⟩
    · rw [printed, found]
      exact runResource_of_absent shown plain found rfl
    · cases t with
      | nil =>
        rw [printed, found]
        exact runResource_of_absent shown plain found rfl
      | cons c t =>
        refine ⟨[], ?_⟩
        rw [runResource_eq found (List.cons_ne_nil c t), printed, found]
        simp only [left]
        rcases formatInto (callbacks o env) ⟨.legacy, (reading o).mode⟩ (.text (c :: t)) args
          Sink.empty with ⟨s, _ | e⟩
        · rfl
        · rfl

theorem runOptions_ends (short : o.Short) {source : Source}
    (collected : collect o env = .ok (some (source, args))) (io : Streams) :
    ∃ errors, runOptions o env io =
      ended o io (notes o io source) errors (printed o env args source) := by
  rw [runOptions, collected]
  cases source with
  | format t => exact ⟨_, runFormat_eq t⟩
  | resource id =>
    exact runResource_ends (display_identifier short collected) (identifier_not_tuple collected)

/-! ## All runs -/

/-- The failure that stops the tool, and what it has written to standard error until then. -/
inductive Stops (o : Options) (env : Environment) (io : Streams) : Bytes → Failure → Prop
  | collecting {e : Failure} (failed : collect o env = .error e) : Stops o env io [] e
  | formatting {source : Source} {args : List Value} {e : Failure}
      (collected : collect o env = .ok (some (source, args)))
      (failed : printed o env args source = .error e) :
      Stops o env io (notes o io source) e

/-- The course of a run. -/
inductive Course (argv : List Text) (env : Environment) (io : Streams) : Exit → Prop
  | help (asked : CommandLine.parse env.locale argv = .error .help) :
      Course argv env io ⟨.ok 0, io.out.print help, []⟩
  | misused {wrong : UsageError}
      (stopped : CommandLine.parse env.locale argv = .error (.error wrong)) :
      Course argv env io (misused io wrong)
  | locale {e : Failure} (failed : CommandLine.parse env.locale argv = .error (.failure e)) :
      Course argv env io ⟨.error e, [], []⟩
  | formatless {o : Options} (parsed : CommandLine.parse env.locale argv = .ok o)
      (nothing : Formatless o) : Course argv env io (Command.misused io .formatMissing)
  | prints {o : Options} {source : Source} {args : List Value} {bs errors : Bytes}
      (parsed : CommandLine.parse env.locale argv = .ok o)
      (collected : collect o env = .ok (some (source, args)))
      (leaves : printed o env args source = .ok bs) :
      Course argv env io (succeeded o io bs errors)
  | stops {o : Options} {before : Bytes} {e : Failure}
      (parsed : CommandLine.parse env.locale argv = .ok o)
      (stopped : Stops o env io before e) : Course argv env io (failed o io before e)

theorem course_runOptions (parsed : CommandLine.parse env.locale argv = .ok o) :
    Course argv env io (runOptions o env io) := by
  cases collected : collect o env with
  | error e =>
    rw [runOptions, collected]
    exact .stops parsed (.collecting collected)
  | ok found =>
    cases found with
    | none =>
      rw [runOptions, collected]
      exact .formatless parsed (formatless_of_collect collected)
    | some given =>
      obtain ⟨source, args⟩ := given
      obtain ⟨errors, ends⟩ := runOptions_ends (short_of_parse parsed) collected io
      rw [ends]
      cases result : printed o env args source with
      | ok bs => exact .prints parsed collected result
      | error e => exact .stops parsed (.formatting collected result)

theorem course_run (argv : List Text) (env : Environment) (io : Streams) :
    Course argv env io (run argv env io) := by
  unfold run
  cases parsed : CommandLine.parse env.locale argv with
  | ok o => exact course_runOptions parsed
  | error stop =>
    cases stop with
    | help => exact .help parsed
    | error wrong => exact .misused parsed
    | failure e => exact .locale parsed

/-- Streams that are no terminals. -/
def plainStreams : Streams := ⟨⟨some .utf8, false⟩, ⟨some .utf8, false⟩⟩

end ExtendedFormat.Command
