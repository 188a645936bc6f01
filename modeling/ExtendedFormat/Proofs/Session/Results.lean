/-
# ExtendedFormat.Proofs.Session.Results -- what callbacks return instead of text

A callback may return any value where text is due.  A directive that gets such a result fails
with a complaint that names its type, and the call has appended what it printed before
(`Directive.Obtains.field_error`).  The complaint about a look-up names the integer that was
looked up, too; if that has too many digits, the call fails for it.

A format from the resources is asked first whether it counts as present.  Only one that does is
asked whether it is text: zero or an empty list stands for an unknown identifier, as null does
(`results_have_to_be_text`).
-/
import ExtendedFormat.Proofs.Number.Bounds
import ExtendedFormat.Proofs.Output.Bits
import ExtendedFormat.Proofs.Output.Text
import ExtendedFormat.Proofs.Session.Steps

namespace ExtendedFormat

set_option autoImplicit false

/-! ## Complaints -/

/-- The integer that was looked up. -/
def TextRole.key? : TextRole → Option Int
  | .resource key | .systemError key => some key
  | .format | .transcoded => none

/-- The integer that was looked up, if there is one, can be shown. -/
def TextRole.IsNameable (role : TextRole) : Prop :=
  ∀ key, role.key? = some key → key.natAbs < 10 ^ Numeral.digitLimit

/-- A complaint about a result of this type, or about the integer that it would have to name. -/
inductive Failure.Complains (role : TextRole) (got : String) : Failure → Prop
  | notText (nameable : role.IsNameable) : Complains role got (.format (.notText role got))
  | tooLong (long : ¬ role.IsNameable) : Complains role got .numeralTooLong

section Complaints

variable {role : TextRole} {w : Value}

theorem Callbacks.textBytes_complains (noText : w.bytes? = none) (nameable : role.IsNameable) :
    ∃ e, Callbacks.textBytes role w = .error e ∧ e.Complains role w.typeName := by
  refine ⟨_, ?_, .notText nameable⟩
  rw [textBytes, noText]

/-- A look-up complains about everything but text and null. -/
theorem Callbacks.found_complains {key : Int} (named : role.key? = some key)
    (noText : w.bytes? = none) (something : w ≠ .null) :
    ∃ e, Callbacks.found role key (some (.ok w)) = .error e ∧ e.Complains role w.typeName := by
  have nameable_iff : role.IsNameable ↔ (Value.decimal? key).isSome := by
    rw [Value.decimal?_isSome_iff, TextRole.IsNameable, named]
    simp
  have looked : Callbacks.found role key (some (.ok w)) =
      if (Value.decimal? key).isNone then .error .numeralTooLong
      else Callbacks.textBytes role w := by
    cases w with
    | null => exact absurd rfl something
    | _ => rfl
  rw [looked]
  by_cases nameable : role.IsNameable
  · have short : ¬ (Value.decimal? key).isNone := by
      simpa [Option.isSome_iff_ne_none] using nameable_iff.mp nameable
    rw [if_neg short]
    exact textBytes_complains noText nameable
  · have long : (Value.decimal? key).isNone := by
      simpa [Option.isSome_iff_ne_none] using mt nameable_iff.mpr nameable
    rw [if_pos long]
    exact ⟨_, rfl, .tooLong nameable⟩

end Complaints

/-! ## Directives -/

/-- The directive has a callback make something of its argument, and gets a result to print.  A
look-up that gets null has found nothing; the transcoder has no such way out. -/
inductive Directive.Obtains (cb : Callbacks) (d : Directive) (v : Value) : TextRole → Value → Prop
  | resource {f : Value → Except Failure Value} {key : Int} {w : Value}
      (conversion : d.conversion = .legacy .resource) (installed : cb.resolveResource = some f)
      (index : v.index? = some key) (found : f (.int key) = .ok w) (something : w ≠ .null) :
      Obtains cb d v (.resource key) w
  | systemError {f : Int → Except Failure Value} {key : Int} {w : Value}
      (conversion : d.conversion = .legacy .systemError)
      (installed : cb.resolveSystemError = some f) (index : v.index? = some key)
      (found : f key = .ok w) (something : w ≠ .null) : Obtains cb d v (.systemError key) w
  | character {f : List UInt16 → Except Failure Value} {units : List UInt16} {w : Value}
      (conversion : d.conversion = .standard .char ∨ d.conversion = .standard .wideChar)
      (wide : d.isWide = true) (installed : cb.transcode = some f)
      (accepted : Accept.wideCharacter v = .ok units) (made : f units = .ok w) :
      Obtains cb d v .transcoded w
  | string {f : List UInt16 → Except Failure Value} {extent : Accept.Extent}
      {units : List UInt16} {w : Value} (taken : d.extent? = some extent) (wide : d.isWide = true)
      (installed : cb.transcode = some f)
      (accepted : Accept.wideString extent v = .ok (some units)) (made : f units = .ok w) :
      Obtains cb d v .transcoded w

section Directives

variable {cb : Callbacks} {d : Directive} {v w : Value} {role : TextRole} {c : Cursor}

theorem Directive.content_looked {find : Int → Except Failure Bytes} {key : Int}
    (look : d.lookup? cb = some find) (next : c.next? = some v) (index : v.index? = some key) :
    (d.content cb c).1 = find key := by
  have accepted : Accept.integer v = .ok key := by rw [Accept.integer, index]
  rw [content_of_lookup look, Render.reading_of_accepted next accepted]

theorem Render.wideText_complains {f : List UInt16 → Except Failure Value} {units : List UInt16}
    {k : Bool} (installed : cb.transcode = some f) (made : f units = .ok w)
    (noText : w.bytes? = none) :
    ∃ e, Render.wideText cb k units = .error e ∧ e.Complains .transcoded w.typeName := by
  have nameable : TextRole.transcoded.IsNameable := by
    rintro key ⟨⟩
  obtain ⟨e, failed, complains⟩ := Callbacks.textBytes_complains noText nameable
  refine ⟨e, ?_, complains⟩
  simp only [wideText, Callbacks.transcoded, installed, made]
  exact congrArg (Except.map (quotedIf k)) failed

/-- A directive that gets anything but text complains. -/
theorem Directive.Obtains.field_error (obtains : d.Obtains cb v role w)
    (noText : w.bytes? = none) (next : c.next? = some v) :
    ∃ e, (d.field cb c).1 = .error e ∧ e.Complains role w.typeName := by
  have content : ∃ e, (d.content cb c).1 = .error e ∧ e.Complains role w.typeName := by
    cases obtains with
    | @resource f key w conversion installed index found something =>
      have look : d.lookup? cb = some cb.resource := by rw [Specification.lookup?, conversion]
      have named : (TextRole.resource key).key? = some key := rfl
      rw [Directive.content_looked look next index, Callbacks.resource, installed,
        Option.map_some, found]
      exact Callbacks.found_complains named noText something
    | @systemError f key w conversion installed index found something =>
      have look : d.lookup? cb = some cb.systemError := by rw [Specification.lookup?, conversion]
      have named : (TextRole.systemError key).key? = some key := rfl
      rw [Directive.content_looked look next index, Callbacks.systemError, installed,
        Option.map_some, found]
      exact Callbacks.found_complains named noText something
    | character conversion wide installed accepted made =>
      rw [Directive.content_char conversion, Render.char, if_pos wide,
        Render.reading_of_accepted next accepted]
      exact Render.wideText_complains installed made noText
    | string taken wide installed accepted made =>
      rw [Directive.content_string taken, Render.string, if_pos wide,
        Render.reading_of_accepted next accepted]
      exact Render.wideText_complains installed made noText
  obtain ⟨e, failed, complains⟩ := content
  refine ⟨e, ?_, complains⟩
  rw [Directive.field_eq, failed]
  rfl

end Directives

/-! ## Calls -/

/-- A format that stops at a directive gives no text. -/
theorem format_of_failure {cb : Callbacks} {how : Reading} {format : Value} {pieces : Template}
    (read : Template.ofValue how.dialect how.mode format = .ok pieces) {args : List Value}
    {e : Failure} (failed : (pieces.run cb args).failure = some e) :
    ExtendedFormat.format cb how format args = .error e := by
  rw [ExtendedFormat.format, read]
  simp only [Except.bind, Template.runToText, Template.runInto, failed]

/-- The outcome for an identifier that no resource has. -/
def Outcome.ofComplaint : Except Failure Text → Outcome
  | .ok t => .complaint t
  | .error e => .failed e

namespace Session

variable {s : Session} {id w : Value}

/-- What cannot be taken for a format changes no cache. -/
theorem formatText_of_noText (noText : w.bytes? = none) (s : Session) (how : Reading)
    (args : List Value) :
    s.formatText how w args = (.failed (.format (.notText .format w.typeName)), s) := by
  have unread : Template.formatBytes w = .error (.format (.notText .format w.typeName)) := by
    cases w with
    | text | bytes => cases noText
    | _ => rfl
  simp only [formatText, template, Cache.parse, unread]
  rfl

theorem step_formatResource (resolved : s.inForce.resourceFormat id = .ok w)
    (noText : w.bytes? = none) (mode : Mode) (args : List Value) :
    s.step (.formatResource mode id args) =
      if w.isPresent then (.failed (.format (.notText .format w.typeName)), s)
      else (.ofComplaint (unknownResource id), s) := by
  simp only [step, resolved]
  split
  · exact formatText_of_noText noText s ⟨.legacy, mode⟩ args
  · cases unknownResource id with
    | ok t => rfl
    | error e => rfl

end Session

/-- **Results that are not text are reported.**  Let a callback return such a value where a
directive asks for something to print.  The call fails with a complaint that names the type of
the value, and has appended what stands before the directive.  Where the value was found as a
format from the resources, the step fails likewise if the value counts as present; otherwise
the value is taken for null, that is, for an identifier that no resource has.  The session stays
as it was. -/
theorem results_have_to_be_text {w : Value} (noText : w.bytes? = none) :
    (∀ (cb : Callbacks) (d : Directive) (v : Value) (role : TextRole), d.Obtains cb v role w →
      ∀ (how : Reading) (format : Value) (front rest : Template) (args : List Value),
        Template.ofValue how.dialect how.mode format = .ok (front ++ .directive d :: rest) →
        (front.run cb args).failure = none → args[front.arity]? = some v →
        ∃ e, e.Complains role w.typeName ∧
          ExtendedFormat.format cb how format args = .error e ∧
          ∀ s, ∃ s', formatInto cb how format args s = (s', some e) ∧
            s'.contents = s.contents ++ (front.run cb args).bytes) ∧
    ∀ (s : Session) (mode : Mode) (id : Value) (args : List Value),
      s.inForce.resourceFormat id = .ok w →
        (w.isPresent = true → s.step (.formatResource mode id args) =
          (.failed (.format (.notText .format w.typeName)), s)) ∧
        (w.isPresent = false → s.step (.formatResource mode id args) =
          (.ofComplaint (unknownResource id), s)) := by
  constructor
  · intro cb d v role obtains how format front rest args read done argument
    have next := (Template.next?_leave done).trans argument
    obtain ⟨e, fails, complains⟩ := obtains.field_error noText next
    have stopped : (front ++ .directive d :: rest).run cb args =
        ⟨(front.run cb args).chunks, some e⟩ := Template.runFrom_stopped done fails rest
    refine ⟨e, complains, format_of_failure read (by rw [stopped]), ?_⟩
    intro s
    refine ⟨s.appendAll (front.run cb args).chunks, ?_, Sink.contents_appendAll ..⟩
    rw [formatInto_of_ok read, stopped]
  · intro s mode id args resolved
    have taken := Session.step_formatResource resolved noText mode args
    constructor
    · intro present
      rw [taken, if_pos present]
    · intro absent
      rw [taken, absent]
      rfl

/-- Zero, from the transcoder and from the resources. -/
theorem results_have_to_be_text_zero :
    let cb : Callbacks := ⟨none, some fun _ => .ok (.int 0), some fun _ => .ok (.int 0), none⟩
    let word : Value := .bytes .fixed (ascii ['a', '%', 'C'])
    (Value.int 0).bytes? = none ∧
      (∃ e, Failure.Complains .transcoded "int" e ∧
        format cb ⟨.modern, .strict⟩ word [.int 65] = .error e ∧
        ∀ s, ∃ s', formatInto cb ⟨.modern, .strict⟩ word [.int 65] s = (s', some e) ∧
          s'.contents = s.contents ++ ascii ['a']) ∧
      ({ Session.start with inForce := cb }.step (.formatResource .strict (.int 7) [])).1 =
        .ofComplaint (unknownResource (.int 7)) := by
  intro cb word
  let wide : Specification := ⟨.standard .wideChar, false, none, false, false, 0⟩
  have denotes : Denotes .modern (ascii ['%', 'C']) (.directive wide) := by
    exact Standard.denotes_bare .modern none .wideChar
  have read : Template.ofValue .modern .strict word =
      .ok [.literal (ascii ['a']), .directive ⟨wide, 1, ascii ['%', 'C']⟩] :=
    (Template.Reads.byte (by decide) (.directive denotes (.nil _))).parseFrom_eq .strict
  have obtains : Directive.Obtains cb ⟨wide, 1, ascii ['%', 'C']⟩ (.int 65) .transcoded (.int 0) :=
    .character (.inr rfl) rfl rfl rfl rfl
  have reported := @results_have_to_be_text (.int 0) rfl
  refine ⟨rfl, ?_, ?_⟩
  · exact reported.1 cb _ _ _ obtains ⟨.modern, .strict⟩ _ [.literal (ascii ['a'])] [] [.int 65]
      read rfl rfl
  · rw [(reported.2 { Session.start with inForce := cb } .strict (.int 7) [] rfl).2 rfl]

/-- **Some results that are not text are not reported.**  Zero is found as a format, and the
identifier is called invalid, though a look-up of the same identifier by a directive complains. -/
theorem zero_taken_for_unknown :
    let s := Session.start.after [.makeContext "r" { Callbacks.unset with
      resolveResource := some fun _ => .ok (.int 0) }, .enter "r"]
    (Value.int 0).bytes? = none ∧ s.inForce.resourceFormat (.int 7) = .ok (.int 0) ∧
      (s.step (.formatResource .compatible (.int 7) [])).1 =
        .complaint (Text.ofString "invalid string id: 7") ∧
      s.inForce.resource 7 = .error (.format (.notText (.resource 7) "int")) := by
  intro s
  have resolved : s.inForce.resourceFormat (.int 7) = .ok (.int 0) := rfl
  refine ⟨rfl, resolved, ?_, ?_⟩
  · rw [Session.step_formatResource resolved rfl]
    rfl
  · rfl

end ExtendedFormat
