/-
# ExtendedFormat.Proofs.Output.Run -- runs, piece by piece

A run of one template behind another is the run of the first and, unless that fails,
the run of the second from the cursor that the first leaves (`runFrom_append`).  A run
that fails does so at one directive, behind pieces that run to their end
(`runFrom_failure_iff`).

Where literals meet does not matter to what is printed (`alike_join`), and a sink takes
in what is printed behind what it holds (`Sink.contents_appendAll`).
-/
import ExtendedFormat.Output
import ExtendedFormat.Proofs.Template.Reads

namespace ExtendedFormat

set_option autoImplicit false

/-! ## Sinks -/

namespace Sink

theorem contents_appendAll (s : Sink) (chunks : List Bytes) :
    (s.appendAll chunks).contents = s.contents ++ chunks.flatten := by
  induction chunks generalizing s with
  | nil => simp [appendAll]
  | cons bs more ih =>
    have step : s.appendAll (bs :: more) = (s.append bs).appendAll more := rfl
    rw [step, ih, contents_append, List.flatten_cons, List.append_assoc]

/-- What is appended does not depend on what was there. -/
theorem contents_appendAll_empty (s : Sink) (chunks : List Bytes) :
    (s.appendAll chunks).contents = s.contents ++ (empty.appendAll chunks).contents := by
  rw [contents_appendAll, contents_appendAll]
  rfl

end Sink

/-! ## One run behind another -/

namespace Run

/-- A run that fails has nothing behind it. -/
def andThen (first second : Run) : Run :=
  match first.failure with
  | none => ⟨first.chunks ++ second.chunks, second.failure⟩
  | some _ => first

theorem andThen_of_failure {first : Run} {e : Failure} (failed : first.failure = some e)
    (second : Run) : first.andThen second = first := by
  rw [andThen, failed]

theorem andThen_of_done {first : Run} (done : first.failure = none) (second : Run) :
    first.andThen second = ⟨first.chunks ++ second.chunks, second.failure⟩ := by
  rw [andThen, done]

theorem andThen_cons (bs : Bytes) (first second : Run) :
    (first.cons bs).andThen second = (first.andThen second).cons bs := by
  obtain ⟨chunks, _ | e⟩ := first <;> rfl

/-- What is printed behind a field, which may fail. -/
def behind (field : Except Failure Bytes) (tail : Run) : Run :=
  match field with
  | .ok bs => tail.cons bs
  | .error e => ⟨[], some e⟩

/-- A run on a sink, with the outcome. -/
def onto (r : Run) (s : Sink) : Sink × Option Failure := (s.appendAll r.chunks, r.failure)

/-- The same is printed, perhaps in other chunks, with the same outcome. -/
structure Alike (r r' : Run) : Prop where
  bytes : r.bytes = r'.bytes
  failure : r.failure = r'.failure

theorem Alike.refl (r : Run) : r.Alike r := ⟨rfl, rfl⟩

theorem Alike.cons {r r' : Run} (alike : r.Alike r') (bs : Bytes) :
    (r.cons bs).Alike (r'.cons bs) :=
  ⟨congrArg (bs ++ ·) alike.bytes, alike.failure⟩

end Run

namespace Template

variable {cb : Callbacks}

/-- The cursor behind a template. -/
def leave (cb : Callbacks) : Template → Cursor → Cursor
  | [], c => c
  | .literal _ :: rest, c => leave cb rest c
  | .directive d :: rest, c => leave cb rest (d.field cb c).2

theorem runFrom_directive (d : Directive) (rest : Template) (c : Cursor) :
    runFrom cb (.directive d :: rest) c =
      match (d.field cb c).1 with
      | .ok bs => (runFrom cb rest (d.field cb c).2).cons bs
      | .error e => ⟨[], some e⟩ := by
  rw [runFrom]
  rcases d.field cb c with ⟨e | bs, moved⟩ <;> rfl

theorem runFrom_append (p q : Template) (c : Cursor) :
    runFrom cb (p ++ q) c = (runFrom cb p c).andThen (runFrom cb q (leave cb p c)) := by
  induction p generalizing c with
  | nil => rfl
  | cons piece rest ih =>
    cases piece with
    | literal bs =>
      simp only [List.cons_append, runFrom, leave, Run.andThen_cons]
      exact congrArg (Run.cons bs) (ih c)
    | directive d =>
      simp only [List.cons_append, runFrom_directive, leave]
      cases (d.field cb c).1 with
      | ok bs => rw [Run.andThen_cons]; exact congrArg (Run.cons bs) (ih _)
      | error e => rfl

/-- What is printed before a directive fails stands. -/
theorem runFrom_stopped {before : Template} {d : Directive} {c : Cursor} {e : Failure}
    (done : (runFrom cb before c).failure = none)
    (fails : (d.field cb (leave cb before c)).1 = .error e) (after : Template) :
    runFrom cb (before ++ .directive d :: after) c = ⟨(runFrom cb before c).chunks, some e⟩ := by
  rw [runFrom_append, Run.andThen_of_done done, runFrom_directive, fails]
  exact congrArg (Run.mk · (some e)) (List.append_nil _)

/-- A run fails where, behind pieces that run to their end, a directive fails. -/
theorem runFrom_failure_iff {p : Template} {c : Cursor} {e : Failure} :
    (runFrom cb p c).failure = some e ↔
      ∃ before d after, p = before ++ .directive d :: after ∧ (runFrom cb before c).failure = none ∧
        (d.field cb (leave cb before c)).1 = .error e := by
  constructor
  · intro failed
    induction p generalizing c with
    | nil => cases failed
    | cons piece rest ih =>
      cases piece with
      | literal bs =>
        obtain ⟨before, d, after, rfl, done, fails⟩ := ih failed
        exact ⟨.literal bs :: before, d, after, rfl, done, fails⟩
      | directive d =>
        cases field : (d.field cb c).1 with
        | ok bs =>
          rw [runFrom_directive, field] at failed
          obtain ⟨before, d', after, rfl, done, fails⟩ := ih failed
          refine ⟨.directive d :: before, d', after, rfl, ?_, fails⟩
          rw [runFrom_directive, field]
          exact done
        | error e' =>
          rw [runFrom_directive, field] at failed
          cases failed
          exact ⟨[], d, rest, rfl, rfl, field⟩
  · rintro ⟨before, d, after, rfl, done, fails⟩
    rw [runFrom_stopped done fails]

/-! ## Literals that meet -/

theorem alike_consLiteral (bs : Bytes) (p : Template) (c : Cursor) :
    (runFrom cb (consLiteral bs p) c).Alike ((runFrom cb p c).cons bs) := by
  match p with
  | [] | .directive _ :: _ => exact .refl _
  | .literal more :: rest => exact ⟨by simp [consLiteral, runFrom, Run.bytes, Run.cons], rfl⟩

theorem alike_join (p q : Template) (c : Cursor) :
    (runFrom cb (join p q) c).Alike (runFrom cb (p ++ q) c) := by
  match p with
  | [] => exact .refl _
  | [.literal bs] => exact alike_consLiteral bs q c
  | .literal bs :: piece :: rest => exact (alike_join (piece :: rest) q c).cons bs
  | .directive d :: rest =>
    rw [join_directive, List.cons_append, runFrom_directive, runFrom_directive]
    cases (d.field cb c).1 with
    | ok bs => exact (alike_join rest q _).cons bs
    | error e => exact .refl _

end Template

/-! ## Calls -/

theorem formatInto_of_ok {cb : Callbacks} {how : Reading} {format : Value} {pieces : Template}
    (read : Template.ofValue how.dialect how.mode format = .ok pieces) (args : List Value)
    (s : Sink) :
    formatInto cb how format args s =
      (s.appendAll (pieces.run cb args).chunks, (pieces.run cb args).failure) := by
  rw [formatInto, read]
  rfl

/-- A format that is one directive: a field that can be printed is appended. -/
theorem formatInto_of_word {dialect : Dialect} {word : Bytes} {spec : Specification}
    (denotes : Denotes dialect word (.directive spec)) {format : Value}
    (holds : Template.formatBytes format = .ok word) (cb : Callbacks) (mode : Mode)
    (args : List Value) (s : Sink) :
    formatInto cb ⟨dialect, mode⟩ format args s =
      (Run.behind (Directive.field cb ⟨spec, 0, word⟩ (Cursor.start args)).1
        ⟨[], none⟩).onto s := by
  have parsed : Template.ofValue dialect mode format = .ok [.directive ⟨spec, 0, word⟩] := by
    have whole := @Template.parseFrom_directive dialect mode 0 word spec denotes []
    rw [List.append_nil, Template.parseFrom_nil] at whole
    rw [Template.ofValue, holds]
    exact whole
  rw [@formatInto_of_ok cb ⟨dialect, mode⟩ _ _ parsed, Template.run, Template.runFrom_directive]
  rfl

theorem formatInto_word {dialect : Dialect} {word : Bytes} {spec : Specification}
    (denotes : Denotes dialect word (.directive spec)) (cb : Callbacks) (mode : Mode)
    (kind : BytesKind) (args : List Value) (s : Sink) :
    formatInto cb ⟨dialect, mode⟩ (.bytes kind word) args s =
      (Run.behind (Directive.field cb ⟨spec, 0, word⟩ (Cursor.start args)).1 ⟨[], none⟩).onto s :=
  formatInto_of_word denotes rfl cb mode args s

end ExtendedFormat
