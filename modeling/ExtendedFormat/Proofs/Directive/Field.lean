/-
# ExtendedFormat.Proofs.Directive.Field -- what a directive does with its argument

Every directive but the last plural takes one argument (`field_takesOne`): without
one it fails, and otherwise it moves past the argument and gives an answer that
depends on the argument alone.  The cursor's earlier arguments, its index and its last
number have no influence on what is printed.

A failure either quotes the directive by text and offset, or names no place in the
format (`Failure.Unplaced`), or comes from a callback (`Callbacks.Raises`).
-/
import ExtendedFormat.Proofs.Outcome
import ExtendedFormat.Render

namespace ExtendedFormat

set_option autoImplicit false

open Outcome

/-! ## Where failures come from -/

/-- The failure quotes no directive. -/
def Failure.Unplaced : Failure → Prop
  | .format (.notText ..) => True
  | .format _ => False
  | _ => True

/-- The failure is what one of the callbacks gave instead of a result. -/
def Callbacks.Raises (cb : Callbacks) (e : Failure) : Prop :=
  (∃ f number signed, cb.groupDigits = some f ∧ f number signed = .error e) ∨
    (∃ f units, cb.transcode = some f ∧ f units = .error e) ∨
    (∃ f key, cb.resolveResource = some f ∧ f key = .error e) ∨
    ∃ f key, cb.resolveSystemError = some f ∧ f key = .error e

/-- A failure of the rendering, once the argument is accepted. -/
def Failure.OfRendering (cb : Callbacks) (e : Failure) : Prop := e.Unplaced ∨ cb.Raises e

theorem Text.exactBytes_eq_ok_iff {t : Text} {bs : Bytes} :
    t.exactBytes = .ok bs ↔
      t.any CodePoint.isSurrogate = false ∧ t.flatMap Utf8.encodeScalar = bs := by
  unfold Text.exactBytes Utf8.encode?
  cases t.any CodePoint.isSurrogate <;> simp

theorem Text.exactBytes_error {t : Text} {e : Failure} (failed : t.exactBytes = .error e) :
    e.Unplaced := by
  unfold Text.exactBytes at failed
  split at failed <;> cases failed
  trivial

theorem Callbacks.textBytes_error {role : TextRole} {v : Value} {e : Failure}
    (failed : Callbacks.textBytes role v = .error e) : e.Unplaced := by
  unfold Callbacks.textBytes at failed
  split at failed <;> cases failed
  trivial

variable {cb : Callbacks}

theorem Callbacks.group_error {number : Text} {signed : Bool} {e : Failure}
    (failed : cb.group number signed = .error e) : cb.Raises e := by
  unfold Callbacks.group at failed
  split at failed
  · rename_i f installed
    exact .inl ⟨f, number, signed, installed, failed⟩
  · cases failed

theorem Callbacks.transcoded_error {units : List UInt16} {e : Failure}
    (failed : cb.transcoded units = .error e) : e.OfRendering cb := by
  unfold Callbacks.transcoded at failed
  split at failed
  · rename_i f installed
    rcases bind_eq_error_iff.1 failed with raised | ⟨v, -, noText⟩
    · exact .inr (.inr (.inl ⟨f, units, installed, raised⟩))
    · exact .inl (Callbacks.textBytes_error noText)
  · cases failed

theorem Render.number_error {base : Nat} {upper grouped : Bool} {n : Int} {e : Failure}
    (failed : Render.number cb base upper grouped n = .error e) : e.OfRendering cb := by
  simp only [Render.number] at failed
  split at failed
  · rcases bind_eq_error_iff.1 failed with grouping | ⟨t, -, encoding⟩
    · exact .inr (Callbacks.group_error grouping)
    · exact .inl (Text.exactBytes_error encoding)
  · exact .inl (Text.exactBytes_error failed)

theorem Render.wideText_error {k : Bool} {units : List UInt16} {e : Failure}
    (failed : Render.wideText cb k units = .error e) : e.OfRendering cb :=
  Callbacks.transcoded_error (map_eq_error_iff.1 failed)

/-- A wide string's text, or what stands for a null one. -/
def Render.wideTextOrMissing (cb : Callbacks) (k : Bool) :
    Option (List UInt16) → Except Failure Bytes
  | some units => wideText cb k units
  | none => .ok (quotedIf k missingWideString)

theorem Render.wideTextOrMissing_error {k : Bool} {units : Option (List UInt16)} {e : Failure}
    (failed : Render.wideTextOrMissing cb k units = .error e) : e.OfRendering cb := by
  cases units with
  | some units => exact Render.wideText_error failed
  | none => cases failed

/-- A look-up fails as the callback does, or for the sake of what it found. -/
theorem Callbacks.found_error {role : TextRole} {key : Int}
    {result : Option (Except Failure Value)} {e : Failure}
    (failed : Callbacks.found role key result = .error e) :
    e.Unplaced ∨ result = some (.error e) := by
  unfold Callbacks.found at failed
  split at failed
  · cases failed
  · cases failed; exact .inr rfl
  · cases failed
  · split at failed
    · cases failed; exact .inl trivial
    · exact .inl (Callbacks.textBytes_error failed)

theorem Callbacks.resource_error {key : Int} {e : Failure}
    (failed : cb.resource key = .error e) : e.OfRendering cb := by
  refine (Callbacks.found_error failed).imp_right fun raised => ?_
  obtain ⟨f, installed, raised⟩ := Option.map_eq_some_iff.1 raised
  exact .inr (.inr (.inl ⟨f, _, installed, raised⟩))

theorem Callbacks.systemError_error {key : Int} {e : Failure}
    (failed : cb.systemError key = .error e) : e.OfRendering cb := by
  refine (Callbacks.found_error failed).imp_right fun raised => ?_
  obtain ⟨f, installed, raised⟩ := Option.map_eq_some_iff.1 raised
  exact .inr (.inr (.inr ⟨f, _, installed, raised⟩))

/-! ## One argument, one answer -/

/-- What becomes of an argument: bytes to print, a mismatch, or a failure in the
rendering; and the number to be remembered, if there is one. -/
structure Answer where
  printed : Except (Mismatch ⊕ Failure) Bytes
  number : Option Int

namespace Answer

/-- The outcome for a directive. -/
def outcome (a : Answer) (d : Directive) : Except Failure Bytes :=
  match a.printed with
  | .ok bs => .ok bs
  | .error (.inl m) => .error (.format (.mismatch d.text d.start m.expected m.got))
  | .error (.inr e) => .error e

/-- Rendering fails for no reason but those of `Failure.OfRendering`. -/
def IsHonest (cb : Callbacks) (a : Answer) : Prop :=
  ∀ e, a.printed = .error (.inr e) → e.OfRendering cb

/-- The answer to an argument that is accepted and then rendered. -/
def ofAccept {α : Type} (accept : Accept α) (remember : α → Option Int)
    (render : α → Except Failure Bytes) (v : Value) : Answer :=
  match accept v with
  | .ok a => ⟨(render a).mapError .inr, remember a⟩
  | .error m => ⟨.error (.inl m), none⟩

end Answer

/-- The argument that the cursor stands before. -/
def Cursor.next? (c : Cursor) : Option Value := c.args[c.index]?

/-- Moves past the argument. -/
def Cursor.advance (c : Cursor) (number : Option Int) : Cursor :=
  { c with index := c.index + 1, lastNumber := number.getD c.lastNumber }

/-- Hands the next argument to `accept`, and remembers what it may make of it. -/
def Cursor.readAs {α : Type} (accept : Accept α) (remember : α → Option Int) (d : Directive)
    (c : Cursor) : Except FormatError α × Cursor :=
  match c.next? with
  | none => (.error (.exhausted d.text d.start), c)
  | some v =>
      match accept v with
      | .ok a => (.ok a, c.advance (remember a))
      | .error m => (.error (.mismatch d.text d.start m.expected m.got), c.advance none)

/-- An integer as a length modifier has it read. -/
def Accept.number (length : Option Length) (signed : Bool) : Accept Int := fun v =>
  (Accept.integer v).map (Cursor.numberAt length signed)

theorem Cursor.read_eq_readAs {α : Type} (accept : Accept α) (d : Directive) (c : Cursor) :
    c.read accept d = c.readAs accept (fun _ => none) d := by
  unfold read readAs next?
  cases c.args[c.index]? with
  | none => rfl
  | some v => cases accepted : accept v <;> simp only [accepted] <;> rfl

theorem Cursor.readNumber_eq_readAs (length : Option Length) (signed : Bool) (d : Directive)
    (c : Cursor) :
    c.readNumber length signed d = c.readAs (Accept.number length signed) some d := by
  unfold readNumber read readAs next? Accept.number
  cases c.args[c.index]? with
  | none => rfl
  | some v => cases accepted : Accept.integer v <;> simp only [accepted] <;> rfl

/-- A directive's work with the cursor, given its answer to each argument. -/
def Answer.respond (answer : Value → Answer) (d : Directive) (c : Cursor) :
    Except Failure Bytes × Cursor :=
  match c.next? with
  | none => (.error (.format (.exhausted d.text d.start)), c)
  | some v => ((answer v).outcome d, c.advance (answer v).number)

/-- With this specification, one argument is taken, and answered for itself. -/
def TakesOne (cb : Callbacks) (s : Specification)
    (work : Directive → Cursor → Except Failure Bytes × Cursor) : Prop :=
  ∃ answer : Value → Answer, (∀ v, (answer v).IsHonest cb) ∧
    ∀ d : Directive, d.toSpecification = s → ∀ c, work d c = Answer.respond answer d c

/-- Rendering fails only as it should, whatever answer its result becomes part of. -/
theorem Answer.isHonest_mapError {r : Except Failure Bytes} {number : Option Int}
    (honest : ∀ e, r = .error e → e.OfRendering cb) :
    Answer.IsHonest cb ⟨r.mapError .inr, number⟩ := by
  intro e failed
  cases r with
  | ok bs => cases failed
  | error e' =>
    cases failed
    exact honest _ rfl

theorem Answer.isHonest_mismatch (m : Mismatch) (number : Option Int) :
    Answer.IsHonest cb ⟨.error (.inl m), number⟩ := by
  intro e failed
  cases failed

theorem Answer.outcome_mapError (r : Except Failure Bytes) (number : Option Int) (d : Directive) :
    Answer.outcome ⟨r.mapError .inr, number⟩ d = r := by
  cases r <;> rfl

theorem Render.reading_readAs {α : Type} (accept : Accept α) (remember : α → Option Int)
    (render : α → Except Failure Bytes) (d : Directive) (c : Cursor) :
    Render.reading (c.readAs accept remember d) render =
      Answer.respond (Answer.ofAccept accept remember render) d c := by
  rw [Answer.respond, Cursor.readAs]
  cases c.next? with
  | none => rfl
  | some v =>
    simp only [Answer.ofAccept]
    cases accept v with
    | ok a => simp only [Render.reading, Answer.outcome_mapError]
    | error m => rfl

section Work

variable {s : Specification} {work : Directive → Cursor → Except Failure Bytes × Cursor}

theorem takesOne_readAs {α : Type} (accept : Accept α) (remember : α → Option Int)
    (render : α → Except Failure Bytes) (honest : ∀ a e, render a = .error e → e.OfRendering cb)
    (same : ∀ d : Directive, d.toSpecification = s →
      ∀ c, work d c = Render.reading (c.readAs accept remember d) render) :
    TakesOne cb s work := by
  refine ⟨Answer.ofAccept accept remember render, ?_, ?_⟩
  · intro v
    unfold Answer.ofAccept
    split
    · exact Answer.isHonest_mapError (honest _)
    · exact Answer.isHonest_mismatch _ _
  · intro d spec c
    rw [same d spec, Render.reading_readAs]

theorem takesOne_read {α : Type} (accept : Accept α) (render : α → Except Failure Bytes)
    (honest : ∀ a e, render a = .error e → e.OfRendering cb)
    (same : ∀ d : Directive, d.toSpecification = s →
      ∀ c, work d c = Render.reading (c.read accept d) render) :
    TakesOne cb s work := by
  apply takesOne_readAs accept (fun _ => none) render honest
  intro d spec c
  rw [same d spec, Cursor.read_eq_readAs]

theorem takesOne_readNumber (length : Option Length) (signed : Bool)
    (render : Int → Except Failure Bytes)
    (honest : ∀ n e, render n = .error e → e.OfRendering cb)
    (same : ∀ d : Directive, d.toSpecification = s →
      ∀ c, work d c = Render.reading (c.readNumber length signed d) render) :
    TakesOne cb s work := by
  apply takesOne_readAs (Accept.number length signed) some render honest
  intro d spec c
  rw [same d spec, Cursor.readNumber_eq_readAs]

theorem TakesOne.congr {work' : Directive → Cursor → Except Failure Bytes × Cursor}
    (takes : TakesOne cb s work)
    (same : ∀ d : Directive, d.toSpecification = s → ∀ c, work' d c = work d c) :
    TakesOne cb s work' := by
  obtain ⟨answer, honest, responds⟩ := takes
  exact ⟨answer, honest, fun d spec c => (same d spec c).trans (responds d spec c)⟩

end Work

/-! ## The directives -/

/-- Rendering that prints something for every argument cannot fail. -/
theorem Failure.ofRendering_ok {α : Type} (f : α → Bytes) (a : α) (e : Failure)
    (failed : (Except.ok (f a) : Except Failure Bytes) = .error e) : e.OfRendering cb := by
  cases failed

theorem takesOne_char (s : Specification) : TakesOne cb s (Render.char cb) := by
  by_cases wide : s.isWide
  · refine takesOne_read Accept.wideCharacter (Render.wideText cb s.kFlag)
      (fun _ _ => Render.wideText_error) ?_
    rintro d rfl c
    exact if_pos wide
  · refine takesOne_read Accept.character (fun bs => .ok (Render.quotedIf s.kFlag bs))
      (Failure.ofRendering_ok _) ?_
    rintro d rfl c
    exact if_neg wide

theorem takesOne_string (s : Specification) (extent : Accept.Extent) :
    TakesOne cb s fun d c => Render.string cb d extent c := by
  by_cases wide : s.isWide
  · refine takesOne_read (Accept.wideString extent) (Render.wideTextOrMissing cb s.kFlag)
      (fun _ _ => Render.wideTextOrMissing_error) ?_
    rintro d rfl c
    exact if_pos wide
  · refine takesOne_read (Accept.string extent)
      (fun bs => .ok (Render.quotedIf s.kFlag (bs.getD missingString)))
      (Failure.ofRendering_ok _) ?_
    rintro d rfl c
    exact if_neg wide

theorem takesOne_integer (s : Specification) (l : Letter) :
    TakesOne cb s fun d c => Render.integer cb d l c := by
  refine takesOne_readNumber s.length (Render.isSigned l)
    (Render.number cb (Render.radix l).1 (Render.radix l).2 s.kFlag)
    (fun _ _ => Render.number_error) ?_
  rintro d rfl c
  rfl

theorem takesOne_grouped (s : Specification) (length : Option Length) (signed : Bool) :
    TakesOne cb s fun d c =>
      Render.reading (c.readNumber length signed d) (Render.number cb 10 false true) :=
  takesOne_readNumber length signed _ (fun _ _ => Render.number_error) fun _ _ _ => rfl

theorem takesOne_plural (s : Specification) (length : Option Length) :
    TakesOne cb s fun d c =>
      Render.reading (c.readNumber length true d) fun n => .ok (Render.plural n) :=
  takesOne_readNumber length true _ (Failure.ofRendering_ok _) fun _ _ _ => rfl

theorem takesOne_legacy (s : Specification) {op : LegacyOp} (other : op ≠ .lastPlural) :
    TakesOne cb s fun d c => Render.legacy cb d c op := by
  cases op with
  | lastPlural => exact absurd rfl other
  | grouped => exact takesOne_grouped s none true
  | groupedUnsigned => exact takesOne_grouped s none false
  | groupedSize => exact takesOne_grouped s (some .size) false
  | grouped64 => exact takesOne_grouped s (some .fixed64) true
  | groupedUnsigned64 => exact takesOne_grouped s (some .fixed64) false
  | plural => exact takesOne_plural s none
  | plural64 => exact takesOne_plural s (some .longLong)
  | quoted =>
    exact takesOne_read (Accept.string .terminated) (fun bs => .ok (quote (bs.getD missingString)))
      (Failure.ofRendering_ok _) fun _ _ _ => rfl
  | resource =>
    exact takesOne_read Accept.integer cb.resource (fun _ _ => Callbacks.resource_error)
      fun _ _ _ => rfl
  | systemError =>
    exact takesOne_read Accept.integer cb.systemError (fun _ _ => Callbacks.systemError_error)
      fun _ _ _ => rfl

theorem Directive.content_integral {d : Directive} {l : Letter}
    (conversion : d.conversion = .standard l) (integral : l.isIntegral = true) (c : Cursor) :
    d.content cb c = Render.integer cb d l c := by
  cases l with
  | char | wideChar | string | wideString | view => cases integral
  | decimal | integer | unsigned | octal | hexLower | hexUpper =>
    simp only [Directive.content, conversion]

theorem Directive.content_char {d : Directive}
    (conversion : d.conversion = .standard .char ∨ d.conversion = .standard .wideChar)
    (c : Cursor) : d.content cb c = Render.char cb d c := by
  rcases conversion with conversion | conversion <;>
    simp only [Directive.content, conversion]

theorem takesOne_content {s : Specification} (other : s.conversion ≠ .legacy .lastPlural) :
    TakesOne cb s (Directive.content cb) := by
  cases conversion : s.conversion with
  | legacy op =>
    refine (takesOne_legacy s fun last => other (last ▸ conversion)).congr ?_
    rintro d rfl c
    simp only [Directive.content, conversion]
  | standard l =>
    by_cases integral : l.isIntegral = true
    · refine (takesOne_integer s l).congr ?_
      rintro d rfl c
      exact Directive.content_integral conversion integral c
    · cases l with
      | char | wideChar =>
        refine (takesOne_char s).congr ?_
        rintro d rfl c
        simp only [Directive.content, conversion]
      | string | wideString =>
        refine (takesOne_string s .terminated).congr ?_
        rintro d rfl c
        simp only [Directive.content, conversion]
      | view =>
        refine (takesOne_string s .view).congr ?_
        rintro d rfl c
        simp only [Directive.content, conversion]
      | decimal | integer | unsigned | octal | hexLower | hexUpper => exact absurd rfl integral

/-- How much of its argument a directive for strings takes. -/
def Specification.extent? (s : Specification) : Option Accept.Extent :=
  match s.conversion with
  | .standard .string | .standard .wideString => some .terminated
  | .standard .view => some .view
  | _ => none

theorem Directive.content_string {d : Directive} {extent : Accept.Extent}
    (taken : d.extent? = some extent) (c : Cursor) :
    d.content cb c = Render.string cb d extent c := by
  unfold Specification.extent? at taken
  split at taken
  · rename_i conversion
    cases taken
    simp only [Directive.content, conversion]
  · rename_i conversion
    cases taken
    simp only [Directive.content, conversion]
  · rename_i conversion
    cases taken
    simp only [Directive.content, conversion]
  · cases taken

/-- What becomes of the next argument. -/
theorem Render.reading_of_next {α : Type} {d : Directive} {c : Cursor} {v : Value}
    (next : c.next? = some v) (accept : Accept α) (render : α → Except Failure Bytes) :
    (Render.reading (c.read accept d) render).1 =
      match accept v with
      | .ok a => render a
      | .error m => .error (.format (.mismatch d.text d.start m.expected m.got)) := by
  rw [Cursor.read_eq_readAs, Cursor.readAs]
  cases accepted : accept v <;> simp only [next, accepted, Render.reading]

/-! ## Fields -/

/-- The answer, filled to a width. -/
def Answer.padded (width : Nat) (fill : Fill) (a : Answer) : Answer :=
  { a with printed := a.printed.map (pad width fill) }

theorem Answer.IsHonest.padded {a : Answer} (honest : a.IsHonest cb) (width : Nat) (fill : Fill) :
    (a.padded width fill).IsHonest cb :=
  fun e failed => honest e (map_eq_error_iff.1 failed)

theorem Answer.outcome_padded (a : Answer) (width : Nat) (fill : Fill) (d : Directive) :
    (a.padded width fill).outcome d = (a.outcome d).map (pad width fill) := by
  obtain ⟨(m | e) | bs, number⟩ := a <;> rfl

theorem Directive.field_eq (d : Directive) (c : Cursor) :
    d.field cb c = ((d.content cb c).1.map (pad d.width d.fill), (d.content cb c).2) := by
  unfold Directive.field
  rcases d.content cb c with ⟨failed | printed, moved⟩ <;> rfl

/-- Filling a field changes the answers, not the argument that is taken. -/
theorem Directive.field_respond {d : Directive} {c : Cursor} {answer : Value → Answer}
    (content : d.content cb c = Answer.respond answer d c) :
    d.field cb c = Answer.respond (fun v => (answer v).padded d.width d.fill) d c := by
  rw [Directive.field_eq, content, Answer.respond, Answer.respond]
  cases c.next? with
  | none => rfl
  | some v => exact congrArg (·, c.advance (answer v).number) (Answer.outcome_padded ..).symm

/-- Every directive but the last plural takes one argument. -/
theorem field_takesOne {s : Specification} (other : s.conversion ≠ .legacy .lastPlural) :
    TakesOne cb s (Directive.field cb) := by
  obtain ⟨answer, honest, work⟩ := @takesOne_content cb s other
  refine ⟨fun v => (answer v).padded s.width s.fill, fun v => (honest v).padded _ _, ?_⟩
  rintro d rfl c
  exact Directive.field_respond (work d rfl c)

/-- The last plural takes none, and depends on the number remembered. -/
theorem field_lastPlural {d : Directive} (conversion : d.conversion = .legacy .lastPlural)
    (c : Cursor) :
    d.field cb c = (.ok (pad d.width d.fill (Render.plural c.lastNumber)), c) := by
  simp only [Directive.field, Directive.content, conversion, Render.legacy]

/-- A failing directive quotes itself, unless its failure names no place or comes from a
callback. -/
theorem field_error {d : Directive} {c : Cursor} {e : Failure}
    (failed : (d.field cb c).1 = .error e) :
    e = .format (.exhausted d.text d.start) ∨
      (∃ expected got, e = .format (.mismatch d.text d.start expected got)) ∨
      e.OfRendering cb := by
  by_cases last : d.conversion = .legacy .lastPlural
  · rw [field_lastPlural last] at failed
    cases failed
  · obtain ⟨answer, honest, work⟩ := @field_takesOne cb d.toSpecification last
    rw [work d rfl c, Answer.respond] at failed
    cases next : c.next? with
    | none =>
      rw [next] at failed
      cases failed
      exact .inl rfl
    | some v =>
      rw [next] at failed
      simp only [Answer.outcome] at failed
      split at failed
      · cases failed
      · cases failed
        exact .inr (.inl ⟨_, _, rfl⟩)
      · rename_i e' printed
        cases failed
        exact .inr (.inr (honest v e printed))

end ExtendedFormat
