/-
# ExtendedFormat.Proofs.Output.Composition -- one format behind another

A run depends on as many of the arguments left as its template has directives that
take one, and on nothing else that the cursor holds (`runFrom_agree`).  Offsets are
all that a run further on in a format changes.

The modern dialect has no directive that looks back, so a call with one format behind
another does what two calls do that share the arguments out (`formats_compose`).
-/
import ExtendedFormat.Proofs.Output.Arguments
import ExtendedFormat.Proofs.Template.Shift

namespace ExtendedFormat

set_option autoImplicit false

variable {cb : Callbacks} {k n : Nat}

/-! ## One directive, further on -/

/-- The same failure, `k` bytes further on; a callback's own knows no offsets. -/
def Failure.MovedBy (cb : Callbacks) (k : Nat) (e e' : Failure) : Prop :=
  e' = e.shift k ∨ cb.Raises e ∧ e' = e

theorem Failure.OfRendering.movedBy {e : Failure} (honest : e.OfRendering cb) (k : Nat) :
    e.MovedBy cb k e := by
  rcases honest with unplaced | raised
  · left
    cases e with
    | format fe => cases fe with
      | notText => rfl
      | unterminated | unrecognized | exhausted | mismatch => exact unplaced.elim
    | _ => rfl
  · exact .inr ⟨raised, rfl⟩

theorem Failure.shift_zero (e : Failure) : e.shift 0 = e := by
  cases e with
  | format fe => cases fe <;> rfl
  | _ => rfl

theorem Failure.MovedBy.eq_of_zero {e e' : Failure} (moved : e.MovedBy cb 0 e') : e' = e := by
  rcases moved with here | ⟨-, same⟩
  · rw [here, Failure.shift_zero]
  · exact same

/-- The same bytes, or failures that are the same but for offsets. -/
inductive SameOutcome (cb : Callbacks) (k : Nat) :
    Except Failure Bytes → Except Failure Bytes → Prop
  | ok (bs : Bytes) : SameOutcome cb k (.ok bs) (.ok bs)
  | error {e e' : Failure} (moved : e.MovedBy cb k e') : SameOutcome cb k (.error e) (.error e')

theorem Answer.outcome_shift {a : Answer} (honest : a.IsHonest cb) (d : Directive) :
    SameOutcome cb k (a.outcome d) (a.outcome (d.shift k)) := by
  unfold outcome
  cases printed : a.printed with
  | ok bs => exact .ok bs
  | error cause =>
    cases cause with
    | inl m => exact .error (.inl rfl)
    | inr e => exact .error ((honest e printed).movedBy k)

/-- A directive that takes an argument prints the same for the same argument, and goes
on to the next. -/
theorem field_agree {d : Directive} (other : d.conversion ≠ .legacy .lastPlural) {c c' : Cursor}
    (agree : Cursor.Agree (n + 1) c c') :
    SameOutcome cb k (d.field cb c).1 ((d.shift k).field cb c').1 ∧
      ∀ bs, (d.field cb c).1 = .ok bs →
        Cursor.Agree n (d.field cb c).2 ((d.shift k).field cb c').2 := by
  obtain ⟨answer, honest, work⟩ := @field_takesOne cb d.toSpecification other
  rw [work d rfl c, work (d.shift k) rfl c', Answer.respond, Answer.respond, ← agree.next]
  cases c.next? with
  | none =>
    refine ⟨.error (.inl rfl), ?_⟩
    intro bs printed
    cases printed
  | some v =>
    refine ⟨Answer.outcome_shift (honest v) d, ?_⟩
    intro bs printed
    exact agree.advance _ _

/-! ## Runs, further on -/

namespace Template

/-- Every directive takes an argument. -/
def TakesEach (p : Template) : Prop := ∀ d ∈ directives p, d.conversion ≠ .legacy .lastPlural

theorem takesEach_directive {d : Directive} {p : Template} :
    TakesEach (.directive d :: p) ↔ d.conversion ≠ .legacy .lastPlural ∧ TakesEach p := by
  rw [TakesEach, directives_directive, List.forall_mem_cons]
  rfl

/-- A run depends on the arguments that its directives take. -/
theorem runFrom_agree {p : Template} (takes : TakesEach p) {c c' : Cursor}
    (agree : Cursor.Agree (directives p).length c c') :
    (runFrom cb (shift k p) c').chunks = (runFrom cb p c).chunks ∧
      Option.Rel (Failure.MovedBy cb k) (runFrom cb p c).failure
        (runFrom cb (shift k p) c').failure := by
  induction p generalizing c c' with
  | nil => exact ⟨rfl, .none⟩
  | cons piece rest ih =>
    cases piece with
    | literal bs =>
      obtain ⟨chunks, failure⟩ := ih takes agree
      exact ⟨congrArg (bs :: ·) chunks, failure⟩
    | directive d =>
      obtain ⟨other, takesRest⟩ := takesEach_directive.1 takes
      -- The cursors behind `d` may remember different numbers: nothing that follows looks.
      obtain ⟨same, next⟩ := @field_agree cb k _ d other c c' agree
      rw [shift_directive, runFrom_directive, runFrom_directive]
      generalize (d.field cb c).1 = outcome at same next ⊢
      generalize ((d.shift k).field cb c').1 = outcome' at same ⊢
      cases same with
      | ok bs =>
        obtain ⟨chunks, failure⟩ := ih takesRest (next bs rfl)
        exact ⟨congrArg (bs :: ·) chunks, failure⟩
      | error moved => exact ⟨rfl, .some moved⟩

theorem shift_zero (p : Template) : shift 0 p = p := by
  induction p with
  | nil => rfl
  | cons piece rest ih =>
    cases piece with
    | literal bs => exact congrArg (.literal bs :: ·) ih
    | directive d => exact congrArg (.directive d :: ·) ih

theorem runFrom_congr {p : Template} (takes : TakesEach p) {c c' : Cursor}
    (agree : Cursor.Agree (directives p).length c c') : runFrom cb p c' = runFrom cb p c := by
  have here := @runFrom_agree cb 0 p takes c c' agree
  rw [shift_zero] at here
  generalize runFrom cb p c = r at here ⊢
  generalize runFrom cb p c' = r' at here ⊢
  obtain ⟨chunks, failure⟩ := r
  obtain ⟨chunks', failure'⟩ := r'
  obtain ⟨rfl, moved⟩ := here
  cases moved with
  | none => rfl
  | some moved => rw [moved.eq_of_zero]

/-- The last plurals are all that the arity leaves out. -/
theorem TakesEach.arity_eq {p : Template} (takes : TakesEach p) :
    arity p = (directives p).length :=
  List.countP_eq_length.2 fun d member => decide_eq_true (takes d member)

/-- Behind another template, a run takes the arguments that the first leaves. -/
theorem run_join_shift {p q : Template} (takes : TakesEach p) (takesNext : TakesEach q)
    (args : List Value) :
    ∃ next : Run,
      (run cb (join p (shift k q)) args).Alike
        ((run cb p (args.take (directives p).length)).andThen next) ∧
      ((run cb p (args.take (directives p).length)).failure = none →
        next.chunks = (run cb q (args.drop (directives p).length)).chunks ∧
          Option.Rel (Failure.MovedBy cb k) (run cb q (args.drop (directives p).length)).failure
            next.failure) := by
  have sharedOut : Cursor.Agree (directives p).length (Cursor.start args)
      (Cursor.start (args.take (directives p).length)) := by
    rw [Cursor.Agree, Cursor.rest_start, Cursor.rest_start, List.take_take, Nat.min_self]
  have first : run cb p (args.take (directives p).length) = run cb p args :=
    runFrom_congr takes sharedOut
  rw [first]
  -- The second run stands behind the first, whose last number is all it leaves besides
  -- the arguments; started afresh, it would print the same.
  refine ⟨runFrom cb (shift k q) (leave cb p (Cursor.start args)), ?_, ?_⟩
  · have alike := @alike_join cb p (shift k q) (Cursor.start args)
    rwa [runFrom_append] at alike
  · intro done
    have left := rest_leave done
    rw [Cursor.rest_start, takes.arity_eq] at left
    apply runFrom_agree takesNext
    rw [Cursor.Agree, left, Cursor.rest_start]

end Template

/-! ## Calls -/

theorem Denotes.not_lastPlural {word : Bytes} {spec : Specification}
    (denotes : Denotes .modern word (.directive spec)) : spec.conversion ≠ .legacy .lastPlural := by
  cases denotes with
  | operation spelled =>
    rintro same
    cases same
    simp [Dialect.spellings] at spelled
  | standard p => simp [Standard.specification]

/-- The modern dialect has no directive that looks back. -/
theorem Template.takesEach_of_modern {mode : Mode} {bs : Bytes} {p : Template}
    (parsed : parse .modern mode bs = .ok p) : TakesEach p := by
  intro d member
  obtain ⟨piece, stands, is⟩ := List.mem_filterMap.1 member
  cases piece with
  | literal bs => cases is
  | directive d' =>
    cases is
    obtain ⟨before, after, rfl⟩ := List.append_of_mem stands
    obtain ⟨f, g, -, -, -, denotes⟩ := split_at_directive parsed
    exact denotes.not_lastPlural

/-- The bytes of two texts, one behind the other, are those of the two. -/
theorem Text.exactBytes_append {t u : Text} {f g : Bytes} (first : t.exactBytes = .ok f)
    (second : u.exactBytes = .ok g) : (t ++ u).exactBytes = .ok (f ++ g) := by
  obtain ⟨whole, rfl⟩ := exactBytes_eq_ok_iff.1 first
  obtain ⟨whole', rfl⟩ := exactBytes_eq_ok_iff.1 second
  exact exactBytes_eq_ok_iff.2 ⟨by rw [List.any_append, whole, whole']; rfl, List.flatMap_append⟩

/-- A call leaves the contents and the outcome that two calls in a row do, the second of
them only if the first succeeds; what fails in the second fails `k` bytes further on. -/
def InTurn (cb : Callbacks) (k : Nat) (whole first : Sink × Option Failure)
    (second : Sink → Sink × Option Failure) : Prop :=
  match first with
  | (s, some e) => whole.1.contents = s.contents ∧ whole.2 = some e
  | (s, none) =>
      whole.1.contents = (second s).1.contents ∧
        Option.Rel (Failure.MovedBy cb k) (second s).2 whole.2

theorem formatInto_join_shift {how : Reading} {whole first second : Value} {p q : Template}
    (readWhole : Template.ofValue how.dialect how.mode whole = .ok (p.join (q.shift k)))
    (readFirst : Template.ofValue how.dialect how.mode first = .ok p)
    (readSecond : Template.ofValue how.dialect how.mode second = .ok q)
    (takes : p.TakesEach) (takesNext : q.TakesEach) (args : List Value) (s : Sink) :
    InTurn cb k (formatInto cb how whole args s)
      (formatInto cb how first (args.take p.directives.length) s)
      fun s₁ => formatInto cb how second (args.drop p.directives.length) s₁ := by
  obtain ⟨next, alike, behind⟩ := @Template.run_join_shift cb k p q takes takesNext args
  rw [formatInto_of_ok readWhole, formatInto_of_ok readFirst]
  cases done : (p.run cb (args.take p.directives.length)).failure with
  | some e =>
    rw [Run.andThen_of_failure done] at alike
    refine ⟨?_, alike.failure.trans done⟩
    rw [Sink.contents_appendAll, Sink.contents_appendAll]
    exact congrArg (s.contents ++ ·) alike.bytes
  | none =>
    obtain ⟨chunks, moved⟩ := behind done
    rw [Run.andThen_of_done done] at alike
    have bytes := alike.bytes
    rw [Run.bytes, Run.bytes, List.flatten_append, chunks] at bytes
    have failure := alike.failure
    rw [InTurn, formatInto_of_ok readSecond]
    refine ⟨?_, failure ▸ moved⟩
    rw [Sink.contents_appendAll, Sink.contents_appendAll, Sink.contents_appendAll, bytes,
      List.append_assoc]

/-- **Formats compose.**  What stands behind a well-formed format is parsed as it would be
alone, with its offsets moved.  In the modern dialect, a call with both does what a call
with the first does and, if that succeeds, one with the second and the arguments left. -/
theorem formats_compose (dialect : Dialect) (f : Bytes) (p : Template)
    (parsed : Template.parse dialect .strict f = .ok p) (mode : Mode) (g : Bytes) :
    (∀ e, Template.parse dialect mode g = .error e →
      Template.parse dialect mode (f ++ g) = .error (e.shift f.length)) ∧
    ∀ q, Template.parse dialect mode g = .ok q →
      Template.parse dialect mode (f ++ g) = .ok (p.join (q.shift f.length)) ∧
      (dialect = .modern → ∀ whole first second : Value,
        Template.formatBytes whole = .ok (f ++ g) → Template.formatBytes first = .ok f →
        Template.formatBytes second = .ok g → ∀ (cb : Callbacks) (args : List Value) (s : Sink),
          InTurn cb f.length (formatInto cb ⟨dialect, mode⟩ whole args s)
            (formatInto cb ⟨dialect, mode⟩ first (args.take p.directives.length) s)
            fun s₁ => formatInto cb ⟨dialect, mode⟩ second (args.drop p.directives.length) s₁) := by
  have together := Template.parse_append parsed mode g
  constructor
  · intro e failed
    rw [together, failed]
    rfl
  intro q parsedNext
  rw [parsedNext] at together
  refine ⟨together, ?_⟩
  rintro rfl whole first second wholeBytes firstBytes secondBytes cb args s
  have ofBytes {v : Value} {bs : Bytes} {pieces : Template}
      (holds : Template.formatBytes v = .ok bs)
      (read : Template.parse .modern mode bs = .ok pieces) :
      Template.ofValue .modern mode v = .ok pieces := by
    rw [Template.ofValue, holds]
    exact read
  exact formatInto_join_shift (ofBytes wholeBytes together)
    (ofBytes firstBytes ((Template.reads_of_strict parsed).parseFrom_eq mode))
    (ofBytes secondBytes parsedNext) (Template.takesEach_of_modern parsed)
    (Template.takesEach_of_modern parsedNext) args s

/-- One argument for two directives, in a text put together from two. -/
theorem formats_compose_exhausted :
    let quoted : Text := ['%', 'k', 'q'].map CodePoint.ofChar
    InTurn .unset 3
      (formatInto .unset ⟨.modern, .strict⟩ (.text (quoted ++ quoted))
        [.bytes .fixed (ascii ['x'])] Sink.empty)
      (formatInto .unset ⟨.modern, .strict⟩ (.text quoted) [.bytes .fixed (ascii ['x'])] Sink.empty)
      fun s => formatInto .unset ⟨.modern, .strict⟩ (.text quoted) [] s := by
  intro quoted
  have denotes : Denotes .modern (ascii ['%', 'k', 'q']) (.directive (.ofLegacy .quoted)) :=
    @Denotes.operation .modern ['q'] .quoted (by decide)
  have parsed : Template.parse .modern .strict (ascii ['%', 'k', 'q']) =
      .ok [.directive ⟨.ofLegacy .quoted, 0, ascii ['%', 'k', 'q']⟩] :=
    (Template.Reads.directive denotes (.nil _)).parseFrom_eq .strict
  have bytes : quoted.exactBytes = .ok (ascii ['%', 'k', 'q']) := rfl
  exact ((formats_compose .modern _ _ parsed .strict _).2 _ parsed).2 rfl
    (.text (quoted ++ quoted)) (.text quoted) (.text quoted) (Text.exactBytes_append bytes bytes)
    bytes bytes .unset [.bytes .fixed (ascii ['x'])] Sink.empty

end ExtendedFormat
