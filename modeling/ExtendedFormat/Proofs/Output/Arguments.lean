/-
# ExtendedFormat.Proofs.Output.Arguments -- which arguments a run takes

The arity of a template is the number of its directives, without the last plurals.  A
run that comes to its end has taken that many arguments from the front of those left
(`rest_split`).  It depends on them, on the number remembered, and on nothing else that
the cursor holds (`runFrom_same`).  So a run with one argument left open is a run of the
pieces before the directive that takes it, what becomes of it, and a run of the pieces
behind (`run_respond`).

With fewer arguments a call stops at the first directive that finds none, behind the
output of all that stands before it (`formatInto_takes_arity`).
-/
import ExtendedFormat.Proofs.Directive.Field
import ExtendedFormat.Proofs.Output.Run
import ExtendedFormat.Proofs.Template.RoundTrip

namespace ExtendedFormat

set_option autoImplicit false

variable {cb : Callbacks} {n : Nat}

/-! ## Arguments left -/

namespace Cursor

variable {c c' : Cursor}

/-- The arguments not handed out yet. -/
def rest (c : Cursor) : List Value := c.args.drop c.index

theorem rest_start (args : List Value) : (start args).rest = args := rfl

theorem next?_eq_head (c : Cursor) : c.next? = c.rest[0]? := by
  rw [rest, List.getElem?_drop, Nat.add_zero, next?]

theorem rest_advance (c : Cursor) (number : Option Int) :
    (c.advance number).rest = c.rest.tail := by
  rw [rest, rest, List.tail_drop]
  rfl

/-- The next `n` arguments are the same. -/
def Agree (n : Nat) (c c' : Cursor) : Prop := c.rest.take n = c'.rest.take n

theorem Agree.next {n : Nat} (agree : Agree (n + 1) c c') : c.next? = c'.next? := by
  have heads := congrArg (·[0]?) agree
  simpa [next?_eq_head] using heads

theorem Agree.advance {n : Nat} (agree : Agree (n + 1) c c') (number number' : Option Int) :
    Agree n (c.advance number) (c'.advance number') := by
  have tails := congrArg (List.drop 1) agree
  rw [Agree, rest_advance, rest_advance, ← List.drop_one, ← List.drop_one]
  simpa only [List.drop_take, Nat.add_sub_cancel] using tails

/-- The next `n` arguments are the same, and the number remembered. -/
structure Same (n : Nat) (c c' : Cursor) : Prop where
  number : c.lastNumber = c'.lastNumber
  agree : Agree n c c'

theorem Same.advance {n : Nat} (same : Same (n + 1) c c') (number : Option Int) :
    Same n (c.advance number) (c'.advance number) :=
  ⟨congrArg number.getD same.number, same.agree.advance number number⟩

theorem same_start_take {n : Nat} {args : List Value} (enough : n ≤ args.length)
    (others : List Value) : Same n (start args) (start (args.take n ++ others)) := by
  have front : n ≤ (args.take n).length := by rw [List.length_take]; omega
  refine ⟨rfl, ?_⟩
  rw [Agree, rest_start, rest_start, List.take_append_of_le_length front, List.take_take,
    Nat.min_self]

end Cursor

/-! ## One directive -/

/-- A directive that takes an argument does the same with the same argument. -/
theorem field_same {d : Directive} (takes : d.conversion ≠ .legacy .lastPlural) {c c' : Cursor}
    (same : Cursor.Same (n + 1) c c') :
    (d.field cb c).1 = (d.field cb c').1 ∧
      ∀ bs, (d.field cb c).1 = .ok bs → Cursor.Same n (d.field cb c).2 (d.field cb c').2 := by
  obtain ⟨answer, -, work⟩ := @field_takesOne cb d.toSpecification takes
  rw [work d rfl c, work d rfl c', Answer.respond, Answer.respond, ← same.agree.next]
  cases c.next? with
  | none =>
    refine ⟨rfl, ?_⟩
    intro bs printed
    cases printed
  | some v =>
    refine ⟨rfl, ?_⟩
    intro bs printed
    exact same.advance _

/-- A directive that takes an argument and succeeds has taken the first one left. -/
theorem rest_field {d : Directive} (takes : d.conversion ≠ .legacy .lastPlural) {c : Cursor}
    {bs : Bytes} (printed : (d.field cb c).1 = .ok bs) :
    ∃ v, c.rest = v :: (d.field cb c).2.rest := by
  obtain ⟨answer, -, work⟩ := @field_takesOne cb d.toSpecification takes
  rw [work d rfl c, Answer.respond, Cursor.next?_eq_head] at printed ⊢
  cases left : c.rest with
  | nil =>
    rw [left] at printed
    cases printed
  | cons v more =>
    refine ⟨v, congrArg (v :: ·) ?_⟩
    exact (congrArg List.tail left).symm.trans (Cursor.rest_advance c _).symm

/-- Without an argument, a directive that takes one fails and says so. -/
theorem field_exhausted {d : Directive} (takes : d.conversion ≠ .legacy .lastPlural) {c : Cursor}
    (nothing : c.rest = []) :
    (d.field cb c).1 = .error (.format (.exhausted d.text d.start)) := by
  obtain ⟨answer, -, work⟩ := @field_takesOne cb d.toSpecification takes
  rw [work d rfl c, Answer.respond, Cursor.next?_eq_head, nothing]
  rfl

/-! ## Runs -/

namespace Template

/-- How many arguments the directives take. -/
def arity (p : Template) : Nat :=
  (directives p).countP fun d => decide (d.conversion ≠ .legacy .lastPlural)

theorem arity_takes {d : Directive} (takes : d.conversion ≠ .legacy .lastPlural) (p : Template) :
    arity (.directive d :: p) = arity p + 1 := by
  simp [arity, directives_directive, takes]

theorem arity_last {d : Directive} (last : d.conversion = .legacy .lastPlural) (p : Template) :
    arity (.directive d :: p) = arity p := by
  simp [arity, directives_directive, last]

/-- A run depends on the arguments that it takes, and on the number remembered. -/
theorem runFrom_same {p : Template} {c c' : Cursor} (same : Cursor.Same (arity p) c c') :
    runFrom cb p c = runFrom cb p c' := by
  induction p generalizing c c' with
  | nil => rfl
  | cons piece rest ih =>
    cases piece with
    | literal bs => exact congrArg (Run.cons bs) (ih same)
    | directive d =>
      rw [runFrom_directive, runFrom_directive]
      by_cases last : d.conversion = .legacy .lastPlural
      · rw [arity_last last] at same
        rw [field_lastPlural last, field_lastPlural last, same.number]
        exact congrArg (Run.cons _) (ih same)
      · rw [arity_takes last] at same
        obtain ⟨printed, next⟩ := @field_same cb _ d last c c' same
        rw [← printed]
        cases outcome : (d.field cb c).1 with
        | ok bs => exact congrArg (Run.cons bs) (ih (next bs outcome))
        | error e => rfl

/-- A run that comes to its end has taken as many arguments as its directives take. -/
theorem rest_split {p : Template} {c : Cursor} (done : (runFrom cb p c).failure = none) :
    ∃ taken, taken.length = arity p ∧ c.rest = taken ++ (leave cb p c).rest := by
  induction p generalizing c with
  | nil => exact ⟨[], rfl, rfl⟩
  | cons piece rest ih =>
    cases piece with
    | literal bs => exact ih done
    | directive d =>
      rw [runFrom_directive] at done
      cases printed : (d.field cb c).1 with
      | error e => rw [printed] at done; cases done
      | ok bs =>
        rw [printed] at done
        obtain ⟨taken, count, split⟩ := ih done
        by_cases last : d.conversion = .legacy .lastPlural
        · refine ⟨taken, count.trans (arity_last last rest).symm, ?_⟩
          rw [field_lastPlural last] at split
          rw [leave, field_lastPlural last]
          exact split
        · obtain ⟨v, first⟩ := rest_field last printed
          refine ⟨v :: taken, ?_, ?_⟩
          · rw [arity_takes last, List.length_cons, count]
          · rw [first, split, leave, List.cons_append]

theorem arity_le_of_done {p : Template} {args : List Value}
    (done : (run cb p args).failure = none) : arity p ≤ args.length := by
  obtain ⟨taken, count, split⟩ := rest_split done
  rw [Cursor.rest_start] at split
  rw [split, List.length_append, count]
  exact Nat.le_add_right _ _

theorem rest_leave {p : Template} {c : Cursor} (done : (runFrom cb p c).failure = none) :
    (leave cb p c).rest = c.rest.drop (arity p) := by
  obtain ⟨taken, count, split⟩ := rest_split done
  rw [split, ← count, List.drop_left]

/-- Behind a run that comes to its end, cursors are the same as far as they were before. -/
theorem leave_same {p : Template} {c c' : Cursor} (same : Cursor.Same (arity p + n) c c')
    (done : (runFrom cb p c).failure = none) :
    Cursor.Same n (leave cb p c) (leave cb p c') := by
  induction p generalizing c c' with
  | nil => rwa [arity, directives, List.filterMap_nil, List.countP_nil, Nat.zero_add] at same
  | cons piece rest ih =>
    cases piece with
    | literal bs => exact ih same done
    | directive d =>
      rw [leave, leave]
      rw [runFrom_directive] at done
      by_cases last : d.conversion = .legacy .lastPlural
      · rw [arity_last last] at same
        rw [field_lastPlural last] at done ⊢
        rw [field_lastPlural last]
        exact ih same done
      · rw [arity_takes last, Nat.add_right_comm] at same
        obtain ⟨-, next⟩ := @field_same cb _ d last c c' same
        cases printed : (d.field cb c).1 with
        | error e =>
          rw [printed] at done
          cases done
        | ok bs =>
          rw [printed] at done
          exact ih (next bs printed) done

/-- A run, by what becomes of one of its arguments: behind the directive that takes it, only the
number that is remembered depends on it. -/
theorem run_respond {front rest : Template} {d : Directive} {answer : Value → Answer}
    (work : ∀ c, d.field cb c = Answer.respond answer d c) {before : List Value}
    (place : before.length = arity front) (v : Value) (after : List Value) :
    run cb (front ++ .directive d :: rest) (before ++ v :: after) =
      (run cb front before).andThen (.behind ((answer v).outcome d)
        (runFrom cb rest ⟨after, 0,
          (answer v).number.getD (leave cb front (Cursor.start before)).lastNumber⟩)) := by
  have same : Cursor.Same (arity front) (Cursor.start (before ++ v :: after))
      (Cursor.start before) := by
    refine ⟨rfl, ?_⟩
    rw [Cursor.Agree, Cursor.rest_start, Cursor.rest_start, ← place, List.take_left,
      List.take_length]
  have alike : run cb front (before ++ v :: after) = run cb front before := runFrom_same same
  rw [run, runFrom_append, ← run, alike]
  cases done : (run cb front before).failure with
  | some e => rw [Run.andThen_of_failure done, Run.andThen_of_failure done]
  | none =>
    rw [← alike] at done
    have number := (leave_same (n := 0) same done).number
    have left := rest_leave done
    rw [Cursor.rest_start, ← place, List.drop_left] at left
    generalize leave cb front (Cursor.start (before ++ v :: after)) = c at number left ⊢
    have next : c.next? = some v := by rw [Cursor.next?_eq_head, left]; rfl
    rw [runFrom_directive, work, Answer.respond, next, ← number]
    have behind : Cursor.Same (arity rest) (c.advance (answer v).number)
        ⟨after, 0, (answer v).number.getD c.lastNumber⟩ := by
      refine ⟨rfl, ?_⟩
      rw [Cursor.Agree, Cursor.rest_advance, left]
      rfl
    simp only [runFrom_same behind]
    rfl

/-- The directive that takes the argument behind the first `m`. -/
theorem split_at_taker {p : Template} {m : Nat} (fewer : m < arity p) :
    ∃ before d after, p = before ++ .directive d :: after ∧
      d.conversion ≠ .legacy .lastPlural ∧ arity before = m := by
  induction p generalizing m with
  | nil => cases fewer
  | cons piece rest ih =>
    cases piece with
    | literal bs =>
      obtain ⟨before, d, after, rfl, takes, count⟩ := ih fewer
      exact ⟨.literal bs :: before, d, after, rfl, takes, count⟩
    | directive d =>
      by_cases last : d.conversion = .legacy .lastPlural
      · rw [arity_last last] at fewer
        obtain ⟨before, d', after, rfl, takes, count⟩ := ih fewer
        exact ⟨.directive d :: before, d', after, rfl, takes, (arity_last last before).trans count⟩
      · cases m with
        | zero => exact ⟨[], d, rest, rfl, last, rfl⟩
        | succ m =>
          rw [arity_takes last] at fewer
          obtain ⟨before, d', after, rfl, takes, count⟩ := ih (Nat.lt_of_succ_lt_succ fewer)
          refine ⟨.directive d :: before, d', after, rfl, takes, ?_⟩
          rw [arity_takes last, count]

/-- What stands at the front of a run that comes to its end does so, too. -/
theorem done_of_append {p q : Template} {c : Cursor}
    (done : (runFrom cb (p ++ q) c).failure = none) : (runFrom cb p c).failure = none := by
  rw [runFrom_append] at done
  cases front : (runFrom cb p c).failure with
  | none => rfl
  | some e => rw [Run.andThen_of_failure front, front] at done; cases done

/-- With too few arguments, a run stops where it would take one more. -/
theorem run_take {before after : Template} {d : Directive} {args : List Value}
    (done : (run cb (before ++ .directive d :: after) args).failure = none)
    (takes : d.conversion ≠ .legacy .lastPlural) :
    run cb (before ++ .directive d :: after) (args.take (arity before)) =
      ⟨(run cb before args).chunks, some (.format (.exhausted d.text d.start))⟩ := by
  have front : (run cb before args).failure = none := done_of_append done
  have enough := arity_le_of_done front
  have same := Cursor.same_start_take enough []
  rw [List.append_nil] at same
  have alike : run cb before args = run cb before (args.take (arity before)) := runFrom_same same
  rw [alike] at front ⊢
  have nothing : (leave cb before (Cursor.start (args.take (arity before)))).rest = [] := by
    rw [rest_leave front, Cursor.rest_start, List.drop_take, Nat.sub_self, List.take_zero]
  exact runFrom_stopped front (field_exhausted takes nothing) after

end Template

/-! ## Calls -/

/-- **A call takes one argument for each directive but the last plurals.**  If it succeeds,
there are as many arguments as its template takes, those behind them make no difference,
and with fewer it stops at the first directive that finds none. -/
theorem formatInto_takes_arity {how : Reading} {format : Value} {args : List Value} {s s' : Sink}
    (done : formatInto cb how format args s = (s', none)) :
    ∃ pieces, Template.ofValue how.dialect how.mode format = .ok pieces ∧
      pieces.arity ≤ args.length ∧
      (∀ others, formatInto cb how format (args.take pieces.arity ++ others) s = (s', none)) ∧
      ∀ m < pieces.arity, ∃ (before : Template) (d : Directive) (after : Template) (t : Sink),
        pieces = before ++ .directive d :: after ∧ d.conversion ≠ .legacy .lastPlural ∧
        before.arity = m ∧
        formatInto cb how format (args.take m) s =
          (t, some (.format (.exhausted d.text d.start))) ∧
        (before.run cb args).failure = none ∧
        t.contents = s.contents ++ (before.run cb args).bytes := by
  cases read : Template.ofValue how.dialect how.mode format with
  | error e => rw [formatInto, read] at done; cases done
  | ok pieces =>
    rw [formatInto_of_ok read, Prod.mk.injEq] at done
    obtain ⟨rfl, done⟩ := done
    have enough := Template.arity_le_of_done done
    refine ⟨pieces, rfl, enough, ?_, ?_⟩
    · intro others
      have alike : pieces.run cb args = pieces.run cb (args.take pieces.arity ++ others) :=
        Template.runFrom_same (Cursor.same_start_take enough others)
      rw [formatInto_of_ok read, ← alike, done]
    · intro m fewer
      obtain ⟨before, d, after, rfl, takes, rfl⟩ := Template.split_at_taker fewer
      refine ⟨before, d, after, _, rfl, takes, rfl, ?_, Template.done_of_append done,
        Sink.contents_appendAll ..⟩
      rw [formatInto_of_ok read, Template.run_take done takes]

/-- The plural takes none of the two arguments. -/
theorem formatInto_takes_arity_plural :
    ∃ s', formatInto .unset ⟨.legacy, .strict⟩
          (.bytes .fixed (ascii ['%', 'k', 'q', '%', 'k', 'l', 's', '%', '5', 's']))
          [.null, .bytes .fixed (ascii ['x']), .list []] Sink.empty = (s', none) ∧
      formatInto .unset ⟨.legacy, .strict⟩
          (.bytes .fixed (ascii ['%', 'k', 'q', '%', 'k', 'l', 's', '%', '5', 's']))
          [.null, .bytes .fixed (ascii ['x'])] Sink.empty = (s', none) ∧
      ∃ (d : Directive) (t : Sink), formatInto .unset ⟨.legacy, .strict⟩
          (.bytes .fixed (ascii ['%', 'k', 'q', '%', 'k', 'l', 's', '%', '5', 's']))
          [.null] Sink.empty = (t, some (.format (.exhausted d.text d.start))) := by
  have padded : Denotes .legacy (ascii ['%', '5', 's'])
      (.directive ⟨.standard .string, false, none, false, false, 5⟩) := by
    let p : Standard := ⟨false, none, [], [0x35], none, .string, .inl rfl, by simp, by simp,
      by simp, by decide⟩
    exact .standard p (Standard.isGreedy_of_early_none rfl) (by
      unfold Dialect.SpellsNothing
      decide)
  have read : Template.ofValue .legacy .strict
      (.bytes .fixed (ascii ['%', 'k', 'q', '%', 'k', 'l', 's', '%', '5', 's'])) =
        .ok [.directive ⟨.ofLegacy .quoted, 0, ascii ['%', 'k', 'q']⟩,
          .directive ⟨.ofLegacy .lastPlural, 3, ascii ['%', 'k', 'l', 's']⟩,
          .directive ⟨⟨.standard .string, false, none, false, false, 5⟩, 7,
            ascii ['%', '5', 's']⟩] :=
    (Template.Reads.directive (@Denotes.operation .legacy ['q'] .quoted (by decide))
      (.directive (@Denotes.operation .legacy ['l', 's'] .lastPlural (by decide))
        (.directive padded (.nil _)))).parseFrom_eq .strict
  have printed : (formatInto .unset ⟨.legacy, .strict⟩
      (.bytes .fixed (ascii ['%', 'k', 'q', '%', 'k', 'l', 's', '%', '5', 's']))
      [.null, .bytes .fixed (ascii ['x']), .list []] Sink.empty).2 = none := by
    rw [@formatInto_of_ok .unset ⟨.legacy, .strict⟩ _ _ read]
    rfl
  obtain ⟨pieces, read', -, others, stops⟩ := formatInto_takes_arity (Prod.ext rfl printed)
  cases read.symm.trans read'
  obtain ⟨-, d, -, t, -, -, -, stopped, -⟩ := stops 1 (by decide)
  exact ⟨_, Prod.ext rfl printed, others [], d, t, stopped⟩

end ExtendedFormat
