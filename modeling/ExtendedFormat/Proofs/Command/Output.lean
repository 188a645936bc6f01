/-
# ExtendedFormat.Proofs.Command.Output -- what the tool writes

A format and its arguments leave bytes in an empty sink, or fail (`Command.printed`).  The tool
writes all of these bytes, with the end of line that was asked for, or it writes nothing, whatever
its environment answers (`Command.output_all_or_nothing`).  A failure that has a message is
reported once, behind what explains the format.
-/
import ExtendedFormat.Folder
import ExtendedFormat.Proofs.Command.Resources
import ExtendedFormat.Proofs.Output.Integers
import ExtendedFormat.Proofs.Output.Text

namespace ExtendedFormat

set_option autoImplicit false

/-! ## Reports -/

namespace Console

variable {s : Stream}

theorem Stream.print_append (t u : Text) : s.print (t ++ u) = s.print t ++ s.print u := by
  unfold print
  cases s.encoding.getD .ascii with
  | utf8 => exact Utf8.encode_append t u
  | ascii | latin1 => exact List.map_append

/-- Every encoding has ASCII as it is. -/
theorem Stream.print_of_ascii {t : Text} (inAscii : ∀ c ∈ t, c.val < 0x80) :
    s.print t = Numerals.narrow t := by
  have fits {limit : Nat} (large : 0x80 ≤ limit) : narrow limit t = Numerals.narrow t :=
    List.map_congr_left fun c mem => if_pos (Nat.lt_of_lt_of_le (inAscii c mem) large)
  have scalar : t.IsScalar := fun c mem => CodePoint.isSurrogate_of_ascii (inAscii c mem)
  unfold print
  cases s.encoding.getD .ascii with
  | utf8 =>
    have same := (Text.exactBytes_of_isScalar scalar).symm.trans (Text.exactBytes_of_ascii inAscii)
    exact Except.ok.inj same
  | ascii => exact fits (Nat.le_refl 0x80)
  | latin1 => exact fits (by decide)

/-- A color code, where there are colors. -/
def paint (inColor : Bool) (s : Stream) (code : String) : Bytes :=
  if inColor && s.isTerminal then ascii code.toList else []

theorem errorReport_eq (inColor : Bool) (m : Text) :
    errorReport inColor s m = paint inColor s "\x1b[31m" ++ ascii "kprintf: error: ".toList ++
      s.print m ++ paint inColor s "\x1b[0m" ++ [0x0A] := by
  have start : s.print programName ++ s.print (Text.ofString ": error: ") =
      ascii "kprintf: error: ".toList := by
    rw [← Stream.print_append]
    exact Stream.print_of_ascii (by decide)
  have last : s.print lineEnd = [0x0A] := Stream.print_of_ascii (by decide)
  unfold errorReport colored paint
  split
  · have red : s.print Color.red.code = ascii "\x1b[31m".toList :=
      Stream.print_of_ascii (by decide)
    have reset : s.print plain = ascii "\x1b[0m".toList := Stream.print_of_ascii (by decide)
    simp only [Stream.print_append, ← start, last, red, reset, List.append_assoc]
  · simp only [Stream.print_append, ← start, last, List.append_nil, List.nil_append]

end Console

namespace Command

open CommandLine

variable {o : Options} {io : Streams}

/-! ## All or nothing -/

theorem failed_output (o : Options) (io : Streams) (before : Bytes) (e : Failure) :
    (failed o io before e).output = [] := by
  unfold failed
  cases e.message? <;> rfl

theorem failed_errors {before : Bytes} {e : Failure}
    (reported : (failed o io before e).status = .ok 1) :
    ∃ m, e.message? = some m ∧
      (failed o io before e).errors = before ++ Console.errorReport o.inColor io.err m := by
  unfold failed at reported ⊢
  cases message : e.message? with
  | some m => exact ⟨m, rfl, rfl⟩
  | none =>
    rw [message] at reported
    cases reported

/-- **Standard output is all or nothing.**  Unless help is asked for, the status is 0 just if
the format and its arguments leave bytes to be printed, and then standard output is all of
them and the end of line.  Otherwise it is empty.  Status 1 comes with one report at the end
of standard error, and in front of it there is nothing but what explains the format. -/
theorem output_all_or_nothing {argv : List Text} {env : Environment}
    (noHelp : CommandLine.parse env.locale argv ≠ .error .help) (io : Streams) :
    ((run argv env io).status = .ok 0 ↔ ∃ o source args bs,
      CommandLine.parse env.locale argv = .ok o ∧ collect o env = .ok (some (source, args)) ∧
        printed o env args source = .ok bs ∧
        (run argv env io).output = io.out.write (bs ++ lineEnd o) ∧
        (io.out.encoding.isSome → (run argv env io).output = bs ++ lineEnd o)) ∧
    ((run argv env io).status ≠ .ok 0 → (run argv env io).output = []) ∧
    ((run argv env io).status = .ok 1 → ∃ o before e m,
      CommandLine.parse env.locale argv = .ok o ∧ Stops o env io before e ∧
        e.message? = some m ∧
        (run argv env io).errors = before ++
          (Console.paint o.inColor io.err "\x1b[31m" ++ ascii "kprintf: error: ".toList ++
            io.err.print m ++ Console.paint o.inColor io.err "\x1b[0m" ++ [0x0A])) := by
  have course := course_run argv env io
  refine ⟨⟨fun done => ?_, ?_⟩, fun other => ?_, fun reported => ?_⟩
  · generalize run argv env io = exit at course done ⊢
    cases course with
    | help asked => exact absurd asked noHelp
    | @prints o source args bs errors parsed collected leaves =>
      exact ⟨o, source, args, bs, parsed, collected, leaves, rfl,
        fun bytes => write_of_encoding bytes _⟩
    | stops parsed stopped => exact absurd done (failed_status_ne _ _ _ _)
    | misused | formatless | locale => cases done
  · rintro ⟨o, source, args, bs, parsed, collected, leaves, -, -⟩
    obtain ⟨errors, ends⟩ := runOptions_ends (short_of_parse parsed) collected io
    rw [run, parsed]
    simp only
    rw [ends, leaves]
    rfl
  · generalize run argv env io = exit at course other ⊢
    cases course with
    | help asked => exact absurd asked noHelp
    | prints parsed collected leaves => exact absurd rfl other
    | stops parsed stopped => exact failed_output ..
    | misused | formatless | locale => rfl
  · generalize run argv env io = exit at course reported ⊢
    cases course with
    | @stops o before e parsed stopped =>
      obtain ⟨m, message, errors⟩ := failed_errors reported
      rw [errors, Console.errorReport_eq]
      exact ⟨o, before, e, m, parsed, stopped, message, rfl⟩
    | help | prints | misused | formatless | locale => cases reported

/-- Two numbers for two directives. -/
def enoughNumbers : List Text := ["--newline", "%d%d", "4", "2"].map Text.ofString

/-- One number for two directives. -/
def tooFewNumbers : List Text := ["--newline", "%d%d", "4"].map Text.ofString

/-- The first of two numbers is not printed when the second is missing. -/
theorem output_all_or_nothing_numbers :
    let env := Environment.ofFiles (Folder.read [])
    CommandLine.parse env.locale enoughNumbers ≠ .error .help ∧
      (run enoughNumbers env plainStreams).output = ascii "42\n".toList ∧
      CommandLine.parse env.locale tooFewNumbers ≠ .error .help ∧
      (run tooFewNumbers env plainStreams).status = .ok 1 ∧
      (run tooFewNumbers env plainStreams).output = [] := by
  intro env
  let o : Options := { Options.initial with
    newline := true, format := some (Text.ofString "%d%d"),
    arguments := [Text.ofString "4", Text.ofString "2"] }
  have parsed : CommandLine.parse env.locale enoughNumbers = .ok o := rfl
  have collected : collect o env =
      .ok (some (.format (Text.ofString "%d%d"), [.int 4, .int 2])) := rfl
  have enough : CommandLine.parse env.locale enoughNumbers ≠ .error .help := by
    rw [parsed]
    nofun
  have parsedFew : CommandLine.parse env.locale tooFewNumbers =
      .ok { o with arguments := [Text.ofString "4"] } := rfl
  have tooFew : CommandLine.parse env.locale tooFewNumbers ≠ .error .help := by
    rw [parsedFew]
    nofun
  have done : (run enoughNumbers env plainStreams).status = .ok 0 := by
    decide +kernel
  have stopped : (run tooFewNumbers env plainStreams).status = .ok 1 := by
    decide +kernel
  refine ⟨enough, ?_, tooFew, stopped, ?_⟩
  · obtain ⟨o', source, args, bs, parsed', collected', leaves, -, written⟩ :=
      (output_all_or_nothing enough plainStreams).1.1 done
    obtain rfl : o = o' := Except.ok.inj (parsed.symm.trans parsed')
    obtain ⟨rfl, rfl⟩ := Prod.mk.inj (Option.some.inj (Except.ok.inj
      (collected.symm.trans collected')))
    have bytes : printed o env [.int 4, .int 2] (.format (Text.ofString "%d%d")) =
        .ok (ascii "42".toList) := by decide +kernel
    rw [written rfl, Except.ok.inj (leaves.symm.trans bytes)]
    rfl
  · refine (output_all_or_nothing tooFew plainStreams).2.1 ?_
    rw [stopped]
    decide

end Command

end ExtendedFormat
