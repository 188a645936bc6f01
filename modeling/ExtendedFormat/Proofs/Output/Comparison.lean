/-
# ExtendedFormat.Proofs.Output.Comparison -- two directives, one argument

Two directives with the same letter and length read their argument alike, so one finds it
acceptable just if the other does.  If what they make of what was read is related, then so
are their contents (`Directive.related_content`): both fail, or both print something and a
relation holds between what the one prints and what the other does (`Outcome.Related`).

`CallsRelate` says the same of two calls on one sink.  It holds of two formats that are one
standard directive each, if it holds of the directives' fields (`callsRelate_words`).
-/
import ExtendedFormat.Proofs.Directive.Field
import ExtendedFormat.Proofs.Output.Run

namespace ExtendedFormat

set_option autoImplicit false

namespace Outcome

variable {ε α β γ δ : Type}

/-- Two failures, or two results between which `R` holds. -/
inductive Related (R : α → β → Prop) : Except ε α → Except ε β → Prop
  | failed (e e' : ε) : Related R (.error e) (.error e')
  | done {a : α} {b : β} (related : R a b) : Related R (.ok a) (.ok b)

theorem Related.map {R : α → β → Prop} {S : γ → δ → Prop} {f : α → γ} {g : β → δ}
    {x : Except ε α} {y : Except ε β} (related : Related R x y)
    (each : ∀ a b, R a b → S (f a) (g b)) : Related S (x.map f) (y.map g) := by
  cases related with
  | failed e e' => exact .failed e e'
  | done holds => exact .done (each _ _ holds)

theorem Related.refl {R : α → α → Prop} (each : ∀ a, R a a) (x : Except ε α) : Related R x x := by
  cases x with
  | error e => exact .failed e e
  | ok a => exact .done (each a)

/-- One result, made into two. -/
theorem Related.map_both {S : γ → δ → Prop} {f : α → γ} {g : α → δ} (each : ∀ a, S (f a) (g a))
    (x : Except ε α) : Related S (x.map f) (x.map g) :=
  (Related.refl (R := Eq) (fun _ => rfl) x).map fun a _ same => same ▸ each a

end Outcome

open Outcome

variable {cb : Callbacks} {R : Bytes → Bytes → Prop}

/-! ## Fields -/

/-- Two directives hand the same argument to the same acceptance. -/
theorem Render.related_readAs {α : Type} (accept : Accept α) (remember : α → Option Int)
    {f g : α → Except Failure Bytes} (each : ∀ a, Related R (f a) (g a)) (d d' : Directive)
    (c : Cursor) :
    Related R (Render.reading (c.readAs accept remember d) f).1
      (Render.reading (c.readAs accept remember d') g).1 := by
  unfold Cursor.readAs
  cases c.next? with
  | none => exact .failed _ _
  | some v =>
    simp only
    cases accept v with
    | error m => exact .failed _ _
    | ok a => exact each a

theorem Render.related_read {α : Type} (accept : Accept α) {f g : α → Except Failure Bytes}
    (each : ∀ a, Related R (f a) (g a)) (d d' : Directive) (c : Cursor) :
    Related R (Render.reading (c.read accept d) f).1 (Render.reading (c.read accept d') g).1 := by
  rw [Cursor.read_eq_readAs, Cursor.read_eq_readAs]
  exact related_readAs accept _ each d d' c

theorem Render.related_readNumber (length : Option Length) (signed : Bool)
    {f g : Int → Except Failure Bytes} (each : ∀ n, Related R (f n) (g n)) (d d' : Directive)
    (c : Cursor) :
    Related R (Render.reading (c.readNumber length signed d) f).1
      (Render.reading (c.readNumber length signed d') g).1 := by
  rw [Cursor.readNumber_eq_readAs, Cursor.readNumber_eq_readAs]
  exact related_readAs _ some each d d' c

/-- Whether an argument is read as UTF-16 depends on letter and length. -/
theorem Specification.isWide_congr {s s' : Specification}
    (conversion : s.conversion = s'.conversion) (length : s.length = s'.length) :
    s.isWide = s'.isWide := by
  rw [isWide, isWide, conversion, length]

namespace Directive

variable {d d' : Directive}

/-- What two directives with the same letter and length print is related, if it is so for
every text, quoted or not as each says, and for every number. -/
theorem related_content {l : Letter} (conversion : d.conversion = .standard l)
    (same : d'.conversion = d.conversion) (length : d'.length = d.length)
    (texts : l.isIntegral = false →
      ∀ bs, R (Render.quotedIf d.kFlag bs) (Render.quotedIf d'.kFlag bs))
    (numbers : l.isIntegral = true → ∀ n,
      Related R (Render.number cb (Render.radix l).1 (Render.radix l).2 d.kFlag n)
        (Render.number cb (Render.radix l).1 (Render.radix l).2 d'.kFlag n))
    (c : Cursor) : Related R (d.content cb c).1 (d'.content cb c).1 := by
  have conversion' : d'.conversion = .standard l := same.trans conversion
  have wide : d'.isWide = d.isWide := Specification.isWide_congr same length
  have units (bs : List UInt16) (plain : l.isIntegral = false) :
      Related R (Render.wideText cb d.kFlag bs) (Render.wideText cb d'.kFlag bs) :=
    Related.map_both (texts plain) _
  have strings (extent : Accept.Extent) (plain : l.isIntegral = false) :
      Related R (Render.string cb d extent c).1 (Render.string cb d' extent c).1 := by
    unfold Render.string
    rw [wide]
    split
    · refine Render.related_read (Accept.wideString extent) (fun read => ?_) d d' c
      cases read with
      | some bs => exact units bs plain
      | none => exact .done (texts plain _)
    · exact Render.related_read (Accept.string extent) (fun bs => .done (texts plain _)) d d' c
  cases l with
  | char | wideChar =>
    rw [content_char (by simp [conversion]), content_char (by simp [conversion'])]
    unfold Render.char
    rw [wide]
    split
    · exact Render.related_read Accept.wideCharacter (fun bs => units bs rfl) d d' c
    · exact Render.related_read Accept.character (fun bs => .done (texts rfl bs)) d d' c
  | string | wideString =>
    have taken : d.extent? = some .terminated := by rw [Specification.extent?, conversion]
    have taken' : d'.extent? = some .terminated := by rw [Specification.extent?, conversion']
    rw [content_string taken, content_string taken']
    exact strings .terminated rfl
  | view =>
    have taken : d.extent? = some .view := by rw [Specification.extent?, conversion]
    have taken' : d'.extent? = some .view := by rw [Specification.extent?, conversion']
    rw [content_string taken, content_string taken']
    exact strings .view rfl
  | decimal | integer | unsigned | octal | hexLower | hexUpper =>
    rw [content_integral conversion rfl, content_integral conversion' rfl]
    simp only [Render.integer, length]
    exact Render.related_readNumber _ _ (numbers rfl) d d' c

end Directive

/-! ## Calls -/

/-- Two calls on one sink: both fail and leave it as it was, or both append to it, and what
they append is related. -/
inductive CallsRelate (R : Bytes → Bytes → Prop) (s : Sink) :
    Sink × Option Failure → Sink × Option Failure → Prop
  | failed (e e' : Failure) : CallsRelate R s (s, some e) (s, some e')
  | done {bs bs' : Bytes} (related : R bs bs') :
      CallsRelate R s (s.append bs, none) (s.append bs', none)

theorem callsRelate_words {dialect : Dialect} {word word' : Bytes} {spec spec' : Specification}
    (denotes : Denotes dialect word (.directive spec))
    (denotes' : Denotes dialect word' (.directive spec')) {args : List Value}
    (fields : Related R (Directive.field cb ⟨spec, 0, word⟩ (Cursor.start args)).1
      (Directive.field cb ⟨spec', 0, word'⟩ (Cursor.start args)).1)
    (mode : Mode) (kind : BytesKind) (s : Sink) :
    CallsRelate R s (formatInto cb ⟨dialect, mode⟩ (.bytes kind word) args s)
      (formatInto cb ⟨dialect, mode⟩ (.bytes kind word') args s) := by
  rw [formatInto_word denotes, formatInto_word denotes']
  generalize (Directive.field cb ⟨spec, 0, word⟩ (Cursor.start args)).1 = field at fields ⊢
  generalize (Directive.field cb ⟨spec', 0, word'⟩ (Cursor.start args)).1 = field' at fields ⊢
  cases fields with
  | failed e e' => exact .failed e e'
  | done related => exact .done related

end ExtendedFormat
