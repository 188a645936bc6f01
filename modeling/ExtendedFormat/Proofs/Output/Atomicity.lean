/-
# ExtendedFormat.Proofs.Output.Atomicity -- what a failed call leaves behind

A call appends to a sink what it appends to an empty one.  If a directive fails, it
leaves what the format cut before that directive prints, and nothing of the directive
itself; a complaint about an argument quotes the directive (`formatInto_atomic`).  A
format that cannot be read leaves the sink as it was.
-/
import ExtendedFormat.Proofs.Directive.Field
import ExtendedFormat.Proofs.Output.Run

namespace ExtendedFormat

set_option autoImplicit false

variable {cb : Callbacks} {how : Reading}

/-! ## Where a run stops -/

/-- Running the template comes to the directive and fails there. -/
def Template.FailsAt (cb : Callbacks) (pieces : Template) (args : List Value) (d : Directive)
    (e : Failure) : Prop :=
  ∃ before after : Template, pieces = before ++ .directive d :: after ∧
    (before.run cb args).failure = none ∧
    (d.field cb (before.leave cb (Cursor.start args))).1 = .error e

/-- The directive's text and place, as a complaint about its argument begins. -/
def Directive.quotation (d : Directive) : Text :=
  FormatError.placed "Directive '" d.text "' at position " d.start

/-- A complaint about the argument of the directive, word for word.  What follows the place
begins with a blank, so the place is told in full. -/
inductive Directive.Complaint (d : Directive) : Text → Prop
  | exhausted : Complaint d (d.quotation ++ Text.ofString " has no argument left to consume")
  | mismatch (expected : Expectation) (got : String) :
      Complaint d (d.quotation ++ Text.ofString (" expects " ++ expected.phrase ++ ", got " ++ got))

theorem Template.failsAt_of_run {pieces : Template} {args : List Value} {e : Failure}
    (failed : (pieces.run cb args).failure = some e) : ∃ d, pieces.FailsAt cb args d e := by
  obtain ⟨before, d, after, stands, done, fails⟩ := runFrom_failure_iff.1 failed
  exact ⟨d, before, after, stands, done, fails⟩

/-- A complaint about an argument quotes the directive, unless it is a callback's own. -/
theorem Directive.complaint_of_field {d : Directive} {c : Cursor} {fe : FormatError}
    (failed : (d.field cb c).1 = .error (.format fe)) (argument : fe.concernsArgument = true) :
    cb.Raises (.format fe) ∨ d.Complaint fe.message := by
  rcases field_error failed with exhausted | ⟨expected, got, mismatch⟩ | unplaced | raised
  · cases exhausted
    exact .inr .exhausted
  · cases mismatch
    exact .inr (.mismatch expected got)
  · cases fe with
    | exhausted | mismatch => exact unplaced.elim
    | unterminated | unrecognized | notText => cases argument
  · exact .inl raised

/-! ## Calls -/

/-- The format cut before a directive is read as the pieces before it. -/
theorem Template.parse_cut {dialect : Dialect} {mode : Mode} {bs : Bytes} {before after : Template}
    {d : Directive} (parsed : parse dialect mode bs = .ok (before ++ .directive d :: after)) :
    parse dialect mode (bs.take d.start) = .ok before ∧
      d.text = (bs.drop d.start).take (d.stop - d.start) := by
  obtain ⟨f, g, rfl, offset, reads, -⟩ := split_at_directive parsed
  rw [Nat.zero_add] at offset
  rw [Directive.stop, Nat.add_sub_cancel_left, offset, List.take_left, List.drop_left,
    List.take_left]
  exact ⟨reads.parseFrom_eq mode, rfl⟩

/-- **A call appends what it appends to an empty sink, up to the directive that fails.**
A call that fails at a directive leaves what the format cut before it appends. -/
theorem formatInto_atomic (cb : Callbacks) (how : Reading) (format : Value) (args : List Value)
    (s : Sink) :
    (∀ e, Template.ofValue how.dialect how.mode format = .error e →
      formatInto cb how format args s = (s, some e)) ∧
    ∀ bs pieces, Template.formatBytes format = .ok bs →
      Template.parse how.dialect how.mode bs = .ok pieces →
      (∀ s', formatInto cb how format args s = (s', none) →
        ∃ t, formatInto cb how format args Sink.empty = (t, none) ∧
          s'.contents = s.contents ++ t.contents) ∧
      (∀ s' e, formatInto cb how format args s = (s', some e) →
        ∃ d, pieces.FailsAt cb args d e) ∧
      ∀ d e, pieces.FailsAt cb args d e →
        d.text = (bs.drop d.start).take (d.stop - d.start) ∧
        (∃ s' t, formatInto cb how format args s = (s', some e) ∧
          formatInto cb how (.bytes .fixed (bs.take d.start)) args Sink.empty = (t, none) ∧
          s'.contents = s.contents ++ t.contents) ∧
        ∀ fe, e = .format fe → fe.concernsArgument = true →
          cb.Raises e ∨ d.Complaint fe.message := by
  constructor
  · intro e unread
    rw [formatInto, unread]
  intro bs pieces holds parsed
  have read : Template.ofValue how.dialect how.mode format = .ok pieces := by
    rw [Template.ofValue, holds]
    exact parsed
  refine ⟨?_, ?_, ?_⟩
  · intro s' done
    rw [formatInto_of_ok read, Prod.mk.injEq] at done
    obtain ⟨rfl, done⟩ := done
    exact ⟨_, by rw [formatInto_of_ok read, done], Sink.contents_appendAll_empty ..⟩
  · intro s' e failed
    rw [formatInto_of_ok read] at failed
    exact Template.failsAt_of_run (congrArg Prod.snd failed)
  · rintro d e ⟨before, after, rfl, done, fails⟩
    obtain ⟨parsedCut, here⟩ := Template.parse_cut parsed
    have readCut : Template.ofValue how.dialect how.mode (.bytes .fixed (bs.take d.start)) =
        .ok before := parsedCut
    refine ⟨here, ?_, ?_⟩
    -- The cut format is another format, but it is read as the very pieces that were run.
    · have stopped := Template.runFrom_stopped done fails after
      refine ⟨s.appendAll (Template.run cb before args).chunks, _, ?_, ?_,
        Sink.contents_appendAll_empty ..⟩
      · rw [formatInto_of_ok read, Template.run, stopped]
        rfl
      · rw [formatInto_of_ok readCut, done]
    · rintro fe rfl argument
      exact Directive.complaint_of_field fails argument

/-- Two arguments are quoted, and there is only one. -/
theorem formatInto_atomic_exhausted :
    ∃ s' t : Sink,
      formatInto .unset ⟨.modern, .strict⟩
          (.bytes .fixed (ascii ['a', '%', 'k', 'q', '%', 'k', 'q'])) [.bytes .fixed (ascii ['x'])]
          (Sink.empty.append (ascii ['>'])) =
        (s', some (.format (.exhausted (ascii ['%', 'k', 'q']) 4))) ∧
      formatInto .unset ⟨.modern, .strict⟩ (.bytes .fixed (ascii ['a', '%', 'k', 'q']))
          [.bytes .fixed (ascii ['x'])] Sink.empty = (t, none) ∧
      s'.contents = ascii ['>'] ++ t.contents := by
  have quoted : Denotes .modern (ascii ['%', 'k', 'q']) (.directive (.ofLegacy .quoted)) :=
    @Denotes.operation .modern ['q'] .quoted (by decide)
  have reads : Template.Reads .modern 0 (ascii ['a', '%', 'k', 'q', '%', 'k', 'q'])
      [.literal (ascii ['a']), .directive ⟨.ofLegacy .quoted, 1, ascii ['%', 'k', 'q']⟩,
        .directive ⟨.ofLegacy .quoted, 4, ascii ['%', 'k', 'q']⟩] :=
    .byte (by decide) (.directive quoted (.directive quoted (.nil _)))
  have atomic := formatInto_atomic .unset ⟨.modern, .strict⟩
    (.bytes .fixed (ascii ['a', '%', 'k', 'q', '%', 'k', 'q'])) [.bytes .fixed (ascii ['x'])]
    (Sink.empty.append (ascii ['>']))
  exact ((atomic.2 _ _ rfl (reads.parseFrom_eq .strict)).2.2
    ⟨.ofLegacy .quoted, 4, ascii ['%', 'k', 'q']⟩ _ ⟨[_, _], [], rfl, rfl, rfl⟩).2.1

end ExtendedFormat
