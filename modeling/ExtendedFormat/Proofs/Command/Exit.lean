/-
# ExtendedFormat.Proofs.Command.Exit -- how the tool ends

The tool ends with status 0 or 1, or with status 2 after a wrong use of its options, unless a
failure escapes for one of the listed causes (`Command.run_ends`).  Status 0 comes with output to
print or with the help, and status 1 with a failure that has a message (`Command.Ends`).

An argument that is looked up was read from JSON, so it is never too long to be named; the
look-ups fail for the resources file and for the code of a system error only.
-/
import ExtendedFormat.Proofs.Command.Causes
import ExtendedFormat.Proofs.Output.Refusals
import ExtendedFormat.Proofs.Text.Utf8

namespace ExtendedFormat

set_option autoImplicit false

open Outcome

/-! ## Texts that cannot be encoded -/

theorem Text.exactBytes_refuses {t : Text} {e : Failure} (failed : t.exactBytes = .error e) :
    e = .loneSurrogate ∧ t.any CodePoint.isSurrogate = true := by
  cases half : t.any CodePoint.isSurrogate with
  | false =>
    rw [exactBytes_eq_ok_iff.mpr ⟨half, rfl⟩] at failed
    cases failed
  | true =>
    unfold exactBytes Utf8.encode? at failed
    rw [half] at failed
    cases failed
    exact ⟨rfl, rfl⟩

/-- Digits are grouped with a separator: only the separator can be at fault. -/
theorem Callbacks.regroup_refuses {s : Text} {upper : Bool} {n : Int} {e : Failure}
    (failed : Callbacks.regroup (fun number signed => .ok (Digits.group number signed s))
      upper n = .error e) : e = .loneSurrogate ∧ s.any CodePoint.isSurrogate = true := by
  obtain ⟨rfl, half⟩ := Text.exactBytes_refuses failed
  refine ⟨rfl, ?_⟩
  obtain ⟨c, member, surrogate⟩ := List.any_eq_true.mp half
  refine List.any_eq_true.mpr ⟨c, ?_, surrogate⟩
  rw [Digits.group_render, List.mem_append] at member
  rcases member with sign | member
  · rw [CodePoint.isSurrogate_of_ascii (Numerals.sign_ascii n c sign)] at surrogate
    cases surrogate
  rcases Digits.mem_intercalate member with separator | digit
  · exact separator
  · rw [Digits.flatten_groups] at digit
    obtain ⟨d, inside, rfl⟩ := List.mem_map.mp digit
    have below : d < 10 := Digits.lt_of_mem_positional (by decide) inside
    have plain := (Numerals.symbol_plain upper (Nat.lt_of_lt_of_le below (by decide))).1
    rw [CodePoint.isSurrogate_of_ascii plain] at surrogate
    cases surrogate

namespace Command

open CommandLine

variable {argv : List Text} {o : Options} {env : Environment} {io : Streams} {e : Failure}
  {dialect : Dialect} {t : Text} {args : List Value}

/-! ## Callbacks of the tool -/

theorem outside_of_message {code : Int} (failed : SystemError.message code = .error e) :
    e = .codeOutOfRange ∧ (code < -Nat.pow 2 31 ∨ Nat.pow 2 31 ≤ code) := by
  unfold SystemError.message at failed
  split at failed
  · rename_i outside
    cases failed
    exact ⟨rfl, by simpa using outside⟩
  · split at failed <;> cases failed

theorem fails_of_grouping {d : Directive} (prints : Prints o env d args)
    (groups : d.Groups) {f : Text → Bool → Except Failure Text} {upper : Bool} {n : Int}
    (installed : grouping (separator o env) = some f)
    (failed : Callbacks.regroup f upper n = .error e) : Fails o env e := by
  cases inForce : separator o env with
  | unset =>
    rw [inForce] at installed
    cases installed
  | blank =>
    rw [inForce] at installed
    cases installed
    cases failed
    exact .inr (.blankSeparator prints groups inForce)
  | value s =>
    rw [inForce] at installed
    cases installed
    obtain ⟨rfl, half⟩ := Callbacks.regroup_refuses failed
    exact .inr (.halfInSeparator prints groups inForce half)

/-! ## Running the template -/

/-- The format was read, and its arguments can be named. -/
structure Runs (o : Options) (env : Environment) (dialect : Dialect) (t : Text)
    (args : List Value) (pieces : Template) : Prop where
  formats : Formats o env dialect t args
  read : Template.ofValue dialect (reading o).mode (.text t) = .ok pieces
  nameable : ∀ v ∈ args, v.IsNameable

theorem Runs.fails_of_fault (regular : env.IsRegular) {pieces : Template}
    (runs : Runs o env dialect t args pieces) {d : Directive} (stands : .directive d ∈ pieces)
    {c : Cursor} (given : c.args = args) (fault : d.Fault (callbacks o env) c e) :
    Fails o env e := by
  have prints : Prints o env d args := .mk runs.formats runs.read stands
  have isShort {v : Value} {key : Int} (next : c.next? = some v) (index : v.index? = some key) :
      key.natAbs < 10 ^ Numeral.digitLimit :=
    runs.nameable v (given ▸ Cursor.mem_of_next? next) key index
  cases fault with
  | exhausted | mismatch => exact .inl (Failure.isReported_format _)
  | transcoded failed => cases failed
  | grouping groups installed failed => exact fails_of_grouping prints groups installed failed
  | resource conversion next index failed =>
    have short := isShort next index
    rcases Callbacks.found_refuses failed with raised | ⟨-, long⟩ | ⟨got, rfl⟩
    · have failed := Option.some.inj raised
      exact fails_of_resolveResource regular (display_int short) failed
    · exact absurd short (Nat.not_lt.mpr long)
    · exact .inl (Failure.isReported_format _)
  | @systemError v key _ conversion next index failed =>
    rcases Callbacks.found_refuses failed with raised | ⟨-, long⟩ | ⟨got, rfl⟩
    · have failed : SystemError.message key = .error e :=
        map_eq_error_iff.mp (Option.some.inj raised)
      obtain ⟨rfl, outside⟩ := outside_of_message failed
      exact .inr (.code prints conversion (given ▸ Cursor.mem_of_next? next) index outside)
    · exact absurd (isShort next index) (Nat.not_lt.mpr long)
    · exact .inl (Failure.isReported_format _)

theorem Runs.fails_of_run (regular : env.IsRegular) {pieces : Template}
    (runs : Runs o env dialect t args pieces)
    (failed : (pieces.run (callbacks o env) args).failure = some e) : Fails o env e := by
  obtain ⟨d, before, after, rfl, -, fails⟩ := Template.failsAt_of_run failed
  exact runs.fails_of_fault regular (by simp) (Template.args_leave _ _)
    (Directive.fault_of_field fails)

theorem fails_of_ofValue (formats : Formats o env dialect t args)
    (failed : Template.ofValue dialect (reading o).mode (.text t) = .error e) :
    Fails o env e := by
  rcases bind_eq_error_iff.mp failed with encoding | ⟨bs, bytes, parsing⟩
  · obtain ⟨rfl, half⟩ := Text.exactBytes_refuses encoding
    exact .inr (.halfInFormat formats half)
  · rcases Template.parse_error parsing with ⟨width, rfl⟩ | ⟨-, said, rfl⟩
    · exact .inr (.overlong formats bytes width)
    · exact .inl (Failure.isReported_format _)

/-- A format that leaves no bytes cannot be read, or fails on the way. -/
theorem left_error {cb : Callbacks} {how : Reading} {format : Value}
    (failed : left cb how format args = .error e) :
    Template.ofValue how.dialect how.mode format = .error e ∨
      ∃ pieces, Template.ofValue how.dialect how.mode format = .ok pieces ∧
        (pieces.run cb args).failure = some e := by
  unfold left at failed
  split at failed
  · cases failed
  · rename_i called
    cases failed
    cases read : Template.ofValue how.dialect how.mode format with
    | error e' =>
      rw [formatInto, read] at called
      exact .inl (congrArg Except.error (Option.some.inj (congrArg Prod.snd called)))
    | ok pieces =>
      rw [formatInto_of_ok read] at called
      exact .inr ⟨pieces, rfl, congrArg Prod.snd called⟩

theorem fails_of_left (regular : env.IsRegular) (formats : Formats o env dialect t args)
    (nameable : ∀ v ∈ args, v.IsNameable)
    (failed : left (callbacks o env) ⟨dialect, (reading o).mode⟩ (.text t) args = .error e) :
    Fails o env e := by
  rcases left_error failed with unread | ⟨pieces, read, running⟩
  · exact fails_of_ofValue formats unread
  · have runs : Runs o env dialect t args pieces := ⟨formats, read, nameable⟩
    exact runs.fails_of_run regular running

theorem fails_of_printed (regular : env.IsRegular) (short : o.Short) {s : Source}
    (collected : collect o env = .ok (some (s, args)))
    (failed : printed o env args s = .error e) : Fails o env e := by
  have nameable := isNameable_of_gather regular (of_collect collected).2
  cases s with
  | format t => exact fails_of_left regular (.given collected) nameable failed
  | resource id =>
    rw [printed] at failed
    split at failed
    · rename_i looking
      cases failed
      exact fails_of_resolveResource regular (display_identifier short collected) looking
    · rename_i found
      exact fails_of_left regular (.resource collected found) nameable
        (map_eq_error_iff.mp failed)
    · cases failed

theorem fails_of_stops (regular : env.IsRegular) (short : o.Short) {before : Bytes}
    (stopped : Stops o env io before e) : Fails o env e := by
  cases stopped with
  | collecting failed => exact fails_of_collect regular failed
  | formatting collected failed => exact fails_of_printed regular short collected failed

/-! ## Ends -/

/-- How the tool may end, and why. -/
inductive Ends (argv : List Text) (env : Environment) (io : Streams) : Except Failure Nat → Prop
  | help (asked : CommandLine.parse env.locale argv = .error .help) : Ends argv env io (.ok 0)
  | misused {wrong : UsageError}
      (stopped : CommandLine.parse env.locale argv = .error (.error wrong)) :
      Ends argv env io (.ok 2)
  | formatless {o : Options} (parsed : CommandLine.parse env.locale argv = .ok o)
      (nothing : Formatless o) : Ends argv env io (.ok 2)
  | succeeded {o : Options} {source : Source} {args : List Value} {bs : Bytes}
      (parsed : CommandLine.parse env.locale argv = .ok o)
      (collected : collect o env = .ok (some (source, args)))
      (leaves : printed o env args source = .ok bs) : Ends argv env io (.ok 0)
  | reported {o : Options} {before : Bytes} {e : Failure}
      (parsed : CommandLine.parse env.locale argv = .ok o)
      (stopped : Stops o env io before e) (said : e.IsReported) : Ends argv env io (.ok 1)
  | locale {e : Failure} (fails : LocaleFails argv e) : Ends argv env io (.error e)
  | escaped {o : Options} {before : Bytes} {e : Failure}
      (parsed : CommandLine.parse env.locale argv = .ok o)
      (stopped : Stops o env io before e) (escapes : Escapes o env e) :
      Ends argv env io (.error e)

theorem ends_stopped (parsed : CommandLine.parse env.locale argv = .ok o) {before : Bytes}
    (stopped : Stops o env io before e) (fails : Fails o env e) :
    Ends argv env io (failed o io before e).status := by
  rcases fails with ⟨m, message⟩ | escapes
  · rw [failed, message]
    exact .reported parsed stopped ⟨m, message⟩
  · have silent : e.message? = none :=
      Option.eq_none_iff_forall_ne_some.mpr fun m message => escapes.not_isReported ⟨m, message⟩
    rw [failed, silent]
    exact .escaped parsed stopped escapes

theorem ends_of_course (regular : env.IsRegular) {exit : Exit} (course : Course argv env io exit) :
    Ends argv env io exit.status := by
  cases course with
  | help asked => exact .help asked
  | misused stopped => exact .misused stopped
  | locale failed => exact .locale (localeFails_of_parse failed)
  | formatless parsed nothing => exact .formatless parsed nothing
  | prints parsed collected leaves => exact .succeeded parsed collected leaves
  | stops parsed stopped =>
    exact ends_stopped parsed stopped (fails_of_stops regular (short_of_parse parsed) stopped)

/-- **The tool ends with status 0, 1 or 2, unless a failure escapes for a listed cause.**  The
status is 0 for help or where all is printed, 2 after a wrong use of options or without a format,
and 1 after a failure that has a message.  What escapes comes from a locale that cannot be named,
or has one of the causes in `Escapes`. -/
theorem run_ends (argv : List Text) {env : Environment} (regular : env.IsRegular) (io : Streams) :
    Ends argv env io (run argv env io).status ∧
    ((∃ status ≤ 2, (run argv env io).status = .ok status) ∨
      ∃ e, (run argv env io).status = .error e ∧ ¬ e.IsReported ∧
        (LocaleFails argv e ∨
          ∃ o, CommandLine.parse env.locale argv = .ok o ∧ Escapes o env e)) := by
  have ends := ends_of_course regular (course_run argv env io)
  refine ⟨ends, ?_⟩
  generalize (run argv env io).status = status at ends
  cases ends with
  | help | succeeded => exact .inl ⟨0, by decide, rfl⟩
  | misused | formatless => exact .inl ⟨2, by decide, rfl⟩
  | reported => exact .inl ⟨1, by decide, rfl⟩
  | locale fails => exact .inr ⟨_, rfl, not_isReported_of_locale fails, .inl fails⟩
  | escaped parsed stopped escapes =>
    exact .inr ⟨_, rfl, escapes.not_isReported, .inr ⟨_, parsed, escapes⟩⟩

/-- The words `--format-file` and `f`. -/
def formatFileWords : List Text := [Text.ofString "--format-file", Text.ofString "f"]

/-- An environment of one file, which is well-formed UTF-8 and is taken for EUC-TW; there is no
such codec. -/
def mistaken : Environment :=
  { Environment.ofFiles (Folder.read [(Text.ofString "f",
      [0xC5, 0xAE, 0xC4, 0xA9, 0xC4, 0xBE, 0x3D, 0x78, 0xC4, 0xA6])]) with
    charset := fun _ => some (.other (Text.ofString "EUC-TW")) }

/-- The format cannot be read, and the tool does not say so. -/
theorem run_ends_unknown_encoding :
    mistaken.IsRegular ∧ (run formatFileWords mistaken plainStreams).status =
        .error .unknownEncoding ∧
      ∃ o, CommandLine.parse mistaken.locale formatFileWords = .ok o ∧
        Escapes o mistaken .unknownEncoding := by
  have regular : mistaken.IsRegular :=
    ⟨(Environment.ofFiles_isRegular _).unread, fun _ _ => Json.makes_of_read⟩
  have ended : (run formatFileWords mistaken plainStreams).status = .error .unknownEncoding := by
    decide +kernel
  refine ⟨regular, ended, ?_⟩
  have ends := (run_ends formatFileWords regular plainStreams).1
  rw [ended] at ends
  cases ends with
  | locale fails => cases fails
  | escaped parsed stopped escapes => exact ⟨_, parsed, escapes⟩

/-- The words `%ke` and `2147483648`. -/
def codeTooLarge : List Text := [Text.ofString "%ke", Text.ofString "2147483648"]

/-- The code is beyond 32 bits by one. -/
theorem run_escapes_code :
    (run codeTooLarge (Environment.ofFiles (Folder.read [])) plainStreams).status =
      .error .codeOutOfRange := by
  let env := Environment.ofFiles (Folder.read [])
  let o : Options := { Options.initial with
    format := some (Text.ofString "%ke"), arguments := [Text.ofString "2147483648"] }
  let pieces : Template := [.directive ⟨.ofLegacy .systemError, 0, ascii ['%', 'k', 'e']⟩]
  have parsed : CommandLine.parse env.locale codeTooLarge = .ok o := rfl
  have collected : collect o env =
      .ok (some (.format (Text.ofString "%ke"), [.int 2147483648])) := rfl
  have denotes : Denotes .modern (ascii ['%', 'k', 'e']) (.directive (.ofLegacy .systemError)) :=
    @Denotes.operation .modern ['e'] .systemError (by decide)
  have reads : Template.Reads .modern 0 (ascii ['%', 'k', 'e'] ++ []) pieces :=
    .directive denotes (.nil _)
  have read : Template.ofValue (reading o).dialect (reading o).mode
      (.text (Text.ofString "%ke")) = .ok pieces := reads.parseFrom_eq .compatible
  rw [run, parsed]
  simp only [runOptions, env, collected, runFormat, formatInto_of_ok read]
  rfl

end Command

end ExtendedFormat
