/-
# ExtendedFormat.Proofs.Output.Bits -- how much of an integer a call sees

A directive that reads a number sees the low bits of its argument, as many as its width has.
A call does the same for integers that agree in those bits: it appends the same, it ends in
the same way, and the last plurals behind the directive count the same number.

A look-up takes its argument whole.  It prints what is found for that integer, so that
integers with the same low bits may be told apart, or refused.  What stands behind it does not
depend on the integer (`calls_see_low_bits`).
-/
import ExtendedFormat.Proofs.Output.LastNumber
import ExtendedFormat.SystemError

namespace ExtendedFormat

set_option autoImplicit false

/-! ## Look-ups -/

/-- What a look-up prints for an integer, if the directive is one. -/
def Specification.lookup? (cb : Callbacks) (s : Specification) :
    Option (Int → Except Failure Bytes) :=
  match s.conversion with
  | .legacy .resource => some cb.resource
  | .legacy .systemError => some cb.systemError
  | _ => none

/-- The conversions that take nothing but an integer read a number or look the integer up. -/
theorem Specification.number?_or_lookup? (cb : Callbacks) {s : Specification}
    (integral : s.conversion.name ∈ ["d", "i", "u", "o", "x", "X", "kd", "ku", "kt", "kI64d",
      "kI64u", "ks", "kS", "kr", "ke"]) :
    s.number?.isSome = true ∨ (s.lookup? cb).isSome = true := by
  unfold number? lookup?
  cases conversion : s.conversion with
  | standard l =>
    rw [conversion] at integral
    left
    cases l with
    | char | wideChar | string | wideString | view => exact absurd integral (by decide)
    | decimal | integer | unsigned | octal | hexLower | hexUpper => rfl
  | legacy op =>
    rw [conversion] at integral
    cases op with
    | lastPlural | quoted => exact absurd integral (by decide)
    | resource | systemError => exact .inr rfl
    | grouped | groupedUnsigned | groupedSize | grouped64 | groupedUnsigned64 | plural | plural64 =>
      exact .inl rfl

section Answers

variable {cb : Callbacks} {d : Directive} {length : Option Length} {signed : Bool}
  {find : Int → Except Failure Bytes}

theorem content_of_lookup (look : d.lookup? cb = some find) (c : Cursor) :
    d.content cb c = Render.reading (c.read Accept.integer d) find := by
  unfold Specification.lookup? at look
  split at look
  · rename_i conversion
    cases look
    simp only [Directive.content, conversion, Render.legacy]
  · rename_i conversion
    cases look
    simp only [Directive.content, conversion, Render.legacy]
  · cases look

theorem isLegacy_of_lookup (look : d.lookup? cb = some find) :
    ∃ op, d.conversion = .legacy op := by
  unfold Specification.lookup? at look
  split at look
  · exact ⟨_, by assumption⟩
  · exact ⟨_, by assumption⟩
  · cases look

/-! ## Answers to integers -/

theorem Accept.number_congr {v v' : Value} {m n : Int} (index : v.index? = some m)
    (index' : v'.index? = some n) (same : n ≡ m [ZMOD 2 ^ Length.bits length]) :
    Accept.number length signed v' = Accept.number length signed v := by
  simp only [Accept.number, Accept.integer, index, index']
  exact congrArg Except.ok (Cursor.numberAt_congr same)

/-- A directive that reads a number answers integers with the same low bits alike. -/
theorem field_of_number (number : d.number? = some (length, signed)) (cb : Callbacks) :
    ∃ answer : Value → Answer, (∀ c, d.field cb c = Answer.respond answer d c) ∧
      ∀ v v' m n, v.index? = some m → v'.index? = some n →
        n ≡ m [ZMOD 2 ^ Length.bits length] → answer v' = answer v := by
  obtain ⟨render, content⟩ := content_of_number number cb
  refine ⟨fun v => (Answer.ofAccept (Accept.number length signed) some render v).padded
    d.width d.fill, ?_, ?_⟩
  · intro c
    apply Directive.field_respond
    rw [content, Cursor.readNumber_eq_readAs, Render.reading_readAs]
  · intro v v' m n index index' same
    simp only [Answer.ofAccept, Accept.number_congr index index' same]

/-- A look-up answers with what is found for the integer, and remembers nothing. -/
theorem field_of_lookup (look : d.lookup? cb = some find) (narrow : d.width = 0) :
    ∃ answer : Value → Answer, (∀ c, d.field cb c = Answer.respond answer d c) ∧
      ∀ v key, v.index? = some key →
        (answer v).outcome d = find key ∧ (answer v).number = none := by
  refine ⟨fun v => (Answer.ofAccept Accept.integer (fun _ => none) find v).padded
    d.width d.fill, ?_, ?_⟩
  · intro c
    apply Directive.field_respond
    rw [content_of_lookup look, Cursor.read_eq_readAs, Render.reading_readAs]
  · intro v key index
    have accepted : Answer.ofAccept Accept.integer (fun _ => none) find v =
        ⟨(find key).mapError .inr, none⟩ := by
      simp only [Answer.ofAccept, Accept.integer, index]
    simp only [accepted, Answer.outcome_padded, Answer.outcome_mapError, narrow]
    refine ⟨?_, rfl⟩
    cases find key with
    | ok bs => exact congrArg Except.ok (pad_zero ..)
    | error e => rfl

end Answers

/-! ## Calls -/

/-- **A call sees the low bits of an integer.**  A directive that takes nothing but an integer may
stand anywhere in a format.  If it reads a number, the call does the same for every argument
whose integer agrees in the bits of the directive's width: the sink, the outcome, and all that is
printed behind the directive are the same.  If it looks its argument up, the call depends on what
is found for the integer, which stands between what is printed before and behind; nothing else
in it depends on the integer. -/
theorem calls_see_low_bits {how : Reading} {format : Value} {front rest : Template}
    {d : Directive}
    (read : Template.ofValue how.dialect how.mode format = .ok (front ++ .directive d :: rest))
    {before : List Value} (place : before.length = front.arity) (after : List Value)
    (cb : Callbacks) :
    (d.conversion.name ∈ ["d", "i", "u", "o", "x", "X", "kd", "ku", "kt", "kI64d", "kI64u", "ks",
        "kS", "kr", "ke"] → d.number?.isSome = true ∨ (d.lookup? cb).isSome = true) ∧
    (∀ length signed, d.number? = some (length, signed) →
      ∀ v v' n k, v.index? = some n → v'.index? = some (n + k * 2 ^ Length.bits length) →
        ∀ s, formatInto cb how format (before ++ v' :: after) s =
          formatInto cb how format (before ++ v :: after) s) ∧
    ∀ find, d.lookup? cb = some find →
      ∃ tail : Run, ∀ v key, v.index? = some key → ∀ s,
        formatInto cb how format (before ++ v :: after) s =
          ((front.run cb before).andThen (.behind (find key) tail)).onto s := by
  refine ⟨d.number?_or_lookup? cb, ?_, ?_⟩
  · intro length signed number v v' n k index index' s
    obtain ⟨answer, work, congr⟩ := field_of_number number cb
    have same : n + k * 2 ^ Length.bits length ≡ n [ZMOD 2 ^ Length.bits length] :=
      Int.modEq_iff_dvd.mpr ⟨-k, by ring⟩
    rw [formatInto_of_ok read, formatInto_of_ok read, Template.run_respond work place,
      Template.run_respond work place, congr v v' n _ index index' same]
  · intro find look
    obtain ⟨op, conversion⟩ := isLegacy_of_lookup look
    obtain ⟨bs, -, parsed⟩ := Outcome.bind_eq_ok_iff.mp read
    have narrow := (Template.denotes_of_mem parsed (by simp)).width_of_legacy conversion
    obtain ⟨answer, work, found⟩ := field_of_lookup look narrow
    refine ⟨Template.runFrom cb rest
      ⟨after, 0, (Template.leave cb front (Cursor.start before)).lastNumber⟩, ?_⟩
    intro v key index s
    obtain ⟨outcome, quiet⟩ := found v key index
    rw [formatInto_of_ok read, Template.run_respond work place, outcome, quiet]
    rfl

/-- Behind a look-up, 4294967297 is shown and counted as 1 is. -/
theorem calls_see_low_bits_thirty_two :
    let word := ascii ['%', 'k', 'r', '%', '4', 'd', '%', 'k', 'l', 's']
    let pieces : Template := [.directive ⟨.ofLegacy .resource, 0, ascii ['%', 'k', 'r']⟩,
      .directive ⟨⟨.standard .decimal, false, none, false, false, 4⟩, 3, ascii ['%', '4', 'd']⟩,
      .directive ⟨.ofLegacy .lastPlural, 6, ascii ['%', 'k', 'l', 's']⟩]
    Template.ofValue .legacy .strict (.bytes .fixed word) = .ok pieces ∧
      (∀ cb s, formatInto cb ⟨.legacy, .strict⟩ (.bytes .fixed word)
        [.int 7, .handle (1 + 1 * 2 ^ 32)] s =
          formatInto cb ⟨.legacy, .strict⟩ (.bytes .fixed word) [.int 7, .bool true] s) ∧
      ∀ cb : Callbacks, ∃ tail : Run, ∀ key s,
        formatInto cb ⟨.legacy, .strict⟩ (.bytes .fixed word) [.int key, .bool true] s =
          (Run.behind (cb.resource key) tail).onto s := by
  intro word pieces
  have padded : Denotes .legacy (ascii ['%', '4', 'd'])
      (.directive ⟨.standard .decimal, false, none, false, false, 4⟩) := by
    let p : Standard := ⟨false, none, [], [0x34], none, .decimal, .inl rfl, by simp, by simp,
      by simp, by decide⟩
    exact .standard p (Standard.isGreedy_of_early_none rfl) (by
      unfold Dialect.SpellsNothing
      decide)
  have read : Template.ofValue .legacy .strict (.bytes .fixed word) = .ok pieces :=
    (Template.Reads.directive (@Denotes.operation .legacy ['r'] .resource (by decide))
      (.directive padded (.directive (@Denotes.operation .legacy ['l', 's'] .lastPlural (by decide))
        (.nil _)))).parseFrom_eq .strict
  refine ⟨read, ?_, ?_⟩
  · intro cb s
    exact (@calls_see_low_bits ⟨.legacy, .strict⟩ _ (pieces.take 1) (pieces.drop 2) _ read
      [.int 7] rfl [] cb).2.1 none true rfl (.bool true) (.handle (1 + 1 * 2 ^ 32)) 1 1 rfl rfl s
  · intro cb
    obtain ⟨tail, same⟩ := (@calls_see_low_bits ⟨.legacy, .strict⟩ _ [] (pieces.drop 1) _ read
      [] rfl [.bool true] cb).2.2 _ rfl
    exact ⟨tail, fun key s => same (.int key) key rfl s⟩

/-- **A look-up sees more than the low bits.**  With the system's own messages, the error code 0
is found, and 2 ^ 32, which agrees with it in 32 bits, is refused. -/
theorem lookups_see_high_bits :
    let cb : Callbacks :=
      { Callbacks.unset with
        resolveSystemError := some fun code => (SystemError.message code).map .text }
    ∃ s', formatInto cb ⟨.modern, .compatible⟩ (.bytes .fixed (ascii ['%', 'k', 'e'])) [.int 0]
          Sink.empty = (s', none) ∧ s'.contents = ascii "Success".toList ∧
      formatInto cb ⟨.modern, .compatible⟩ (.bytes .fixed (ascii ['%', 'k', 'e']))
          [.int (0 + 1 * 2 ^ 32)] Sink.empty = (Sink.empty, some .codeOutOfRange) := by
  intro cb
  have read : Template.ofValue .modern .compatible (.bytes .fixed (ascii ['%', 'k', 'e'])) =
      .ok [.directive ⟨.ofLegacy .systemError, 0, ascii ['%', 'k', 'e']⟩] :=
    (Template.Reads.directive (@Denotes.operation .modern ['e'] .systemError (by decide))
      (.nil _)).parseFrom_eq .compatible
  simp only [@formatInto_of_ok cb ⟨.modern, .compatible⟩ _ _ read, Prod.mk.injEq]
  refine ⟨_, ⟨rfl, rfl⟩, ?_, rfl, rfl⟩
  rw [Sink.contents_appendAll]
  rfl

end ExtendedFormat
