/-
# ExtendedFormat.Proofs.Output.LastNumber -- what a last plural counts

A cursor carries the number that a directive read last.  Directives that read a number
(`Specification.number?`) leave there what their width and sign make of it, and no other
directive touches it (`lastNumber_field`).  Behind a run it is therefore what the nearest
directive of that kind read, or 0 if there was none (`LastNumber`), and a last plural
prints accordingly (`last_plural_follows`).
-/
import ExtendedFormat.Proofs.Number.Width
import ExtendedFormat.Proofs.Output.Arguments
import ExtendedFormat.Proofs.Output.Modes
import ExtendedFormat.Proofs.Output.Refusals

namespace ExtendedFormat

set_option autoImplicit false

/-! ## Directives that read a number -/

/-- The width and sign of the number that an operation reads, if it reads one to keep. -/
def LegacyOp.number? : LegacyOp → Option (Option Length × Bool)
  | .grouped | .plural => some (none, true)
  | .groupedUnsigned => some (none, false)
  | .groupedSize => some (some .size, false)
  | .grouped64 => some (some .fixed64, true)
  | .groupedUnsigned64 => some (some .fixed64, false)
  | .plural64 => some (some .longLong, true)
  | .lastPlural | .quoted | .resource | .systemError => none

def Specification.number? (s : Specification) : Option (Option Length × Bool) :=
  match s.conversion with
  | .standard l => if l.isIntegral then some (s.length, Render.isSigned l) else none
  | .legacy op => op.number?

/-- What is left of an integer at a width: the number congruent to it that has the sign,
where -1 stands for a size of all ones. -/
structure Reduces (length : Option Length) (signed : Bool) (n value : Int) : Prop where
  congruent : value ≡ n [ZMOD 2 ^ Length.bits length]
  inSize : Length.asSize length signed = true → -1 ≤ value ∧ value < 2 ^ Length.bits length - 1
  inSigned : Length.asSize length signed = false → signed = true →
    -2 ^ (Length.bits length - 1) ≤ value ∧ value < 2 ^ (Length.bits length - 1)
  inUnsigned : Length.asSize length signed = false → signed = false →
    0 ≤ value ∧ value < 2 ^ Length.bits length

section Reduces

variable {length : Option Length} {signed : Bool} {n value : Int}

theorem Length.isSize_of_asSize (plain : asSize length signed = false) :
    isSize length = false := (Bool.or_eq_false_iff.mp plain).1

theorem reduces_numberAt (length : Option Length) (signed : Bool) (n : Int) :
    Reduces length signed n (Cursor.numberAt length signed n) where
  congruent := Cursor.numberAt_modEq length signed n
  inSize := by
    intro size
    have bounds := Cursor.numberAt_bounds_of_size size n
    rw [Length.bits_of_size size]
    omega
  inSigned := by
    rintro plain rfl
    exact Cursor.numberAt_bounds_signed (Length.isSize_of_asSize plain) n
  inUnsigned := by
    rintro plain rfl
    refine Cursor.numberAt_bounds_unsigned (Length.isSize_of_asSize plain) ?_ n
    rintro rfl
    cases plain

/-- The range of a width has one number of each class. -/
theorem Reduces.eq_numberAt (reduces : Reduces length signed n value) :
    value = Cursor.numberAt length signed n := by
  have found := reduces_numberAt length signed n
  obtain ⟨k, apart⟩ := (reduces.congruent.trans found.congruent.symm).dvd
  have half := TwosComplement.two_mul_half (Length.bits_pos length)
  have within : |Cursor.numberAt length signed n - value| < 2 ^ Length.bits length := by
    rw [abs_lt]
    cases size : Length.asSize length signed with
    | true =>
      have bounds := reduces.inSize size
      have bounds' := found.inSize size
      omega
    | false =>
      cases signed with
      | true =>
        have bounds := reduces.inSigned size rfl
        have bounds' := found.inSigned size rfl
        omega
      | false =>
        have bounds := reduces.inUnsigned size rfl
        have bounds' := found.inUnsigned size rfl
        omega
  have same := Int.eq_zero_of_abs_lt_dvd ⟨k, apart⟩ within
  omega

end Reduces

/-! ## One directive -/

section Field

variable {cb : Callbacks} {d : Directive} {c : Cursor}

theorem Render.reading_snd {α : Type} (r : Except FormatError α × Cursor)
    (f : α → Except Failure Bytes) : (reading r f).2 = r.2 := by
  rcases r with ⟨_ | _, _⟩ <;> rfl

theorem Cursor.lastNumber_read {α : Type} (accept : Accept α) :
    (c.read accept d).2.lastNumber = c.lastNumber := by
  rw [read_eq_readAs, readAs]
  cases c.next? with
  | none => rfl
  | some v => cases accepted : accept v <;> simp only [accepted] <;> rfl

theorem Directive.snd_field : (d.field cb c).2 = (d.content cb c).2 := by rw [field_eq]

/-- A directive that reads no number leaves the one remembered as it is. -/
theorem lastNumber_field_of_none (quiet : d.number? = none) :
    (d.field cb c).2.lastNumber = c.lastNumber := by
  rw [Directive.snd_field, Directive.content]
  unfold Specification.number? at quiet
  cases conversion : d.conversion with
  | standard l =>
    rw [conversion] at quiet
    cases l with
    | char | wideChar =>
      simp only [Render.char]
      split <;> rw [Render.reading_snd, Cursor.lastNumber_read]
    | string | wideString | view =>
      simp only [Render.string]
      split <;> rw [Render.reading_snd, Cursor.lastNumber_read]
    | decimal | integer | unsigned | octal | hexLower | hexUpper => cases quiet
  | legacy op =>
    rw [conversion] at quiet
    cases op with
    | lastPlural => rfl
    | quoted | resource | systemError =>
      simp only [Render.legacy]
      rw [Render.reading_snd, Cursor.lastNumber_read]
    | grouped | groupedUnsigned | groupedSize | grouped64 | groupedUnsigned64 | plural | plural64 =>
      cases quiet

theorem content_of_number {length : Option Length} {signed : Bool}
    (number : d.number? = some (length, signed)) (cb : Callbacks) :
    ∃ render, ∀ c, d.content cb c = Render.reading (c.readNumber length signed d) render := by
  unfold Specification.number? at number
  cases conversion : d.conversion with
  | standard l =>
    simp only [conversion, Option.ite_none_right_eq_some] at number
    obtain ⟨integral, same⟩ := number
    cases same
    exact ⟨_, Directive.content_integral conversion integral⟩
  | legacy op =>
    rw [conversion] at number
    simp only [Directive.content, conversion]
    cases op with
    | lastPlural | quoted | resource | systemError => cases number
    | grouped | groupedUnsigned | groupedSize | grouped64 | groupedUnsigned64 | plural | plural64 =>
      cases number
      exact ⟨_, fun _ => rfl⟩

/-- A directive that reads a number leaves what its width makes of the argument. -/
theorem lastNumber_field_of_some {length : Option Length} {signed : Bool}
    (number : d.number? = some (length, signed)) {bs : Bytes}
    (printed : (d.field cb c).1 = .ok bs) :
    ∃ v n, c.next? = some v ∧ v.index? = some n ∧
      (d.field cb c).2.lastNumber = Cursor.numberAt length signed n := by
  obtain ⟨render, content⟩ := content_of_number number cb
  rw [Directive.field_eq, content, Cursor.readNumber_eq_readAs, Cursor.readAs] at printed
  rw [Directive.snd_field, content, Cursor.readNumber_eq_readAs, Cursor.readAs]
  cases next : c.next? with
  | none =>
    rw [next] at printed
    cases printed
  | some v =>
    simp only [next, Accept.number, Accept.integer] at printed ⊢
    cases index : v.index? with
    | none =>
      rw [index] at printed
      cases printed
    | some n => exact ⟨v, n, rfl, index, rfl⟩

end Field

/-! ## Runs -/

/-- A list has one last element of a kind. -/
theorem length_le_of_last {α : Type} {p : α → Prop} {front front' between between' : List α}
    {x x' : α} (same : front ++ x :: between = front' ++ x' :: between') (holds : p x')
    (none : ∀ y ∈ between, ¬ p y) : front'.length ≤ front.length := by
  refine Nat.le_of_not_lt fun longer => ?_
  have here := congrArg (·[front'.length]?) same
  simp only [List.getElem?_append_right (Nat.le_of_lt longer),
    List.getElem?_append_right (Nat.le_refl _), Nat.sub_self, List.getElem?_cons_zero] at here
  obtain ⟨k, distance⟩ := Nat.exists_eq_add_of_lt longer
  have offset : front'.length - front.length = k + 1 := by omega
  rw [offset, List.getElem?_cons_succ] at here
  exact none x' (List.mem_of_getElem? here) holds

/-- The number that a last plural behind the pieces counts: what the nearest directive that
reads a number made of its argument, or 0 if none of them reads one. -/
inductive LastNumber (args : List Value) (before : Template) : Int → Prop
  | zero (quiet : ∀ d, .directive d ∈ before → d.number? = none) : LastNumber args before 0
  | reduced {front between : Template} {d : Directive} {length : Option Length} {signed : Bool}
      {v : Value} {n value : Int} (split : before = front ++ .directive d :: between)
      (number : d.number? = some (length, signed))
      (quiet : ∀ e, .directive e ∈ between → e.number? = none)
      (argument : args[front.arity]? = some v) (index : v.index? = some n)
      (reduces : Reduces length signed n value) : LastNumber args before value

namespace LastNumber

variable {args : List Value} {before : Template} {value : Int}

/-- Pieces that read no number change nothing. -/
theorem append_quiet {piece : Piece} (last : LastNumber args before value)
    (quiet : ∀ d, piece = .directive d → d.number? = none) :
    LastNumber args (before ++ [piece]) value := by
  cases last with
  | zero none =>
    refine .zero fun d member => ?_
    rcases List.mem_append.mp member with earlier | here
    · exact none d earlier
    · exact quiet d (List.mem_singleton.mp here).symm
  | @reduced front between d _ _ _ _ _ split number none argument index reduces =>
    have longer : before ++ [piece] = front ++ .directive d :: (between ++ [piece]) := by
      simp [split]
    refine .reduced longer number ?_ argument index reduces
    intro e member
    rcases List.mem_append.mp member with earlier | here
    · exact none e earlier
    · exact quiet e (List.mem_singleton.mp here).symm

/-- There is only one. -/
theorem unique {value' : Int} (last : LastNumber args before value)
    (last' : LastNumber args before value') : value = value' := by
  cases last with
  | zero quiet =>
    cases last' with
    | zero => rfl
    | reduced split number =>
      rw [quiet _ (by simp [split])] at number
      cases number
  | @reduced front between d _ _ _ _ _ split number quiet argument index reduces =>
    cases last' with
    | zero quiet' =>
      rw [quiet' _ (by simp [split])] at number
      cases number
    | @reduced front' between' d' _ _ _ _ _ split' number' quiet' argument' index' reduces' =>
      -- Both name the last piece that reads a number.
      let reader (piece : Piece) : Prop := ∃ d, piece = .directive d ∧ d.number? ≠ none
      have silent {pieces : Template}
          (quiet : ∀ e, .directive e ∈ pieces → e.number? = none) : ∀ y ∈ pieces, ¬ reader y := by
        rintro _ member ⟨e, rfl, reads⟩
        exact reads (quiet e member)
      have same := split.symm.trans split'
      have shorter := length_le_of_last (p := reader) same
        ⟨d', rfl, by simp [number']⟩ (silent quiet)
      have longer := length_le_of_last (p := reader) same.symm
        ⟨d, rfl, by simp [number]⟩ (silent quiet')
      obtain ⟨rfl, rest⟩ := List.append_inj same (Nat.le_antisymm longer shorter)
      cases rest
      cases number.symm.trans number'
      cases argument.symm.trans argument'
      cases index.symm.trans index'
      exact reduces.eq_numberAt.trans reduces'.eq_numberAt.symm

end LastNumber

namespace Template

variable {cb : Callbacks} {args : List Value}

/-- The directive behind the pieces of a run that comes to its end. -/
theorem field_of_done {before after : Template} {d : Directive} {c : Cursor}
    (done : (runFrom cb (before ++ .directive d :: after) c).failure = none) :
    ∃ bs, (d.field cb (leave cb before c)).1 = .ok bs ∧
      (runFrom cb (before ++ .directive d :: after) c).chunks =
        (runFrom cb before c).chunks ++
          bs :: (runFrom cb after (d.field cb (leave cb before c)).2).chunks := by
  have front := done_of_append done
  rw [runFrom_append, Run.andThen_of_done front, runFrom_directive] at done ⊢
  cases printed : (d.field cb (leave cb before c)).1 with
  | error e =>
    rw [printed] at done
    cases done
  | ok bs => exact ⟨bs, rfl, rfl⟩

theorem length_chunks {pieces : Template} {c : Cursor}
    (done : (runFrom cb pieces c).failure = none) :
    (runFrom cb pieces c).chunks.length = pieces.length := by
  induction pieces generalizing c with
  | nil => rfl
  | cons piece rest ih =>
    cases piece with
    | literal bs => exact congrArg Nat.succ (ih done)
    | directive d =>
      rw [runFrom_directive] at done ⊢
      cases printed : (d.field cb c).1 with
      | error e =>
        rw [printed] at done
        cases done
      | ok bs =>
        rw [printed] at done
        exact congrArg Nat.succ (ih done)

theorem next?_leave {before : Template} (done : (before.run cb args).failure = none) :
    (leave cb before (Cursor.start args)).next? = args[before.arity]? := by
  rw [Cursor.next?_eq_head, rest_leave done, Cursor.rest_start, List.getElem?_drop, Nat.add_zero]

/-- **The cursor behind a run remembers the number that was read last.** -/
theorem lastNumber_leave {before : Template} (done : (before.run cb args).failure = none) :
    LastNumber args before (leave cb before (Cursor.start args)).lastNumber := by
  induction before using List.reverseRecOn with
  | nil => exact .zero (by simp)
  | append_singleton front piece ih =>
    have earlier : (run cb front args).failure = none := done_of_append done
    rw [leave_append]
    cases piece with
    | literal bs => exact (ih earlier).append_quiet (by simp)
    | directive d =>
      obtain ⟨bs, printed, -⟩ := field_of_done done
      rw [leave, leave]
      cases number : d.number? with
      | none =>
        rw [lastNumber_field_of_none number]
        exact (ih earlier).append_quiet fun e here => by
          cases here
          exact number
      | some reading =>
        obtain ⟨length, signed⟩ := reading
        obtain ⟨v, n, next, index, value⟩ := lastNumber_field_of_some number printed
        rw [next?_leave earlier] at next
        rw [value]
        exact .reduced rfl number (by simp) next index (reduces_numberAt length signed n)

end Template

/-! ## Calls -/

theorem Denotes.width_of_legacy {dialect : Dialect} {word : Bytes} {spec : Specification}
    (denotes : Denotes dialect word (.directive spec)) {op : LegacyOp}
    (conversion : spec.conversion = .legacy op) : spec.width = 0 := by
  generalize meaning : Meaning.directive spec = m at denotes
  cases denotes with
  | percent => cases meaning
  | operation spelled =>
    injection meaning with same
    exact congrArg Specification.width same
  | standard p greedy clear =>
    injection meaning with same
    cases conversion.symm.trans (congrArg Specification.conversion same)

theorem Render.plural_eq (n : Int) :
    plural n = if n = 0 ∨ 1 < n then ascii ['s'] else [] := by
  simp [plural, isPlural, ascii]

/-- **The last plural follows the last number.**  A call that succeeds prints one chunk for each
piece of its format, behind what the sink holds.  A last plural's chunk is the letter `s` or
nothing, by the number that was read last before it: as cut to the width of its directive,
and 0 at the start of every call. -/
theorem last_plural_follows {cb : Callbacks} {mode : Mode} {format : Value} {args : List Value}
    {s s' : Sink} (done : formatInto cb ⟨.legacy, mode⟩ format args s = (s', none)) :
    ∃ pieces chunks, Template.ofValue .legacy mode format = .ok pieces ∧
      pieces.run cb args = ⟨chunks, none⟩ ∧
      s'.contents = s.contents ++ chunks.flatten ∧ chunks.length = pieces.length ∧
      ∀ before d after, pieces = before ++ .directive d :: after →
        d.conversion = .legacy .lastPlural →
        ∃ v, LastNumber args before v ∧ (∀ w, LastNumber args before w → w = v) ∧
          chunks[before.length]? = some (if v = 0 ∨ 1 < v then ascii ['s'] else []) := by
  cases read : Template.ofValue .legacy mode format with
  | error e =>
    rw [formatInto, read] at done
    cases done
  | ok pieces =>
    rw [@formatInto_of_ok cb ⟨.legacy, mode⟩ _ _ read, Prod.mk.injEq] at done
    obtain ⟨rfl, done⟩ := done
    refine ⟨pieces, (pieces.run cb args).chunks, rfl, ?_, Sink.contents_appendAll ..,
      Template.length_chunks done, ?_⟩
    · rw [← done]
    · rintro before d after rfl last
      have front : (before.run cb args).failure = none := Template.done_of_append done
      have number := Template.lastNumber_leave front
      refine ⟨_, number, fun w other => other.unique number, ?_⟩
      obtain ⟨bs, printed, split⟩ := Template.field_of_done done
      obtain ⟨format, -, parsed⟩ := Outcome.bind_eq_ok_iff.mp read
      have narrow := (Template.denotes_of_mem parsed (by simp)).width_of_legacy last
      rw [field_lastPlural last, narrow, pad_zero, Render.plural_eq] at printed
      cases printed
      have place : before.length = (before.run cb args).chunks.length :=
        (Template.length_chunks front).symm
      rw [place]
      refine (congrArg (·[_]?) split).trans ?_
      refine (List.getElem?_append_right (Nat.le_refl _)).trans ?_
      rw [Nat.sub_self, List.getElem?_cons_zero]

/-- Nothing was read, and then a number that 32 bits hold as 1; the string behind it does not
count. -/
theorem last_plural_follows_one :
    ∃ (s' : Sink) (chunks : List Bytes),
      formatInto .unset ⟨.legacy, .strict⟩
        (.bytes .fixed (ascii ['%', 'k', 'l', 's', '%', 'k', 's', '%', 'k', 'q', '%', 'k', 'l',
          's'])) [.int 4294967297, .null] Sink.empty = (s', none) ∧
      s'.contents = chunks.flatten ∧ chunks.length = 4 ∧ chunks[0]? = some (ascii ['s']) ∧
      chunks[3]? = some [] := by
  let pieces : Template :=
    [.directive ⟨.ofLegacy .lastPlural, 0, ascii ['%', 'k', 'l', 's']⟩,
      .directive ⟨.ofLegacy .plural, 4, ascii ['%', 'k', 's']⟩,
      .directive ⟨.ofLegacy .quoted, 7, ascii ['%', 'k', 'q']⟩,
      .directive ⟨.ofLegacy .lastPlural, 10, ascii ['%', 'k', 'l', 's']⟩]
  have last := @Denotes.operation .legacy ['l', 's'] .lastPlural (by decide)
  have plural := @Denotes.operation .legacy ['s'] .plural (by decide)
  have quoted := @Denotes.operation .legacy ['q'] .quoted (by decide)
  have read : Template.ofValue .legacy .strict (.bytes .fixed (ascii ['%', 'k', 'l', 's', '%', 'k',
      's', '%', 'k', 'q', '%', 'k', 'l', 's'])) = .ok pieces :=
    (Template.Reads.directive last (.directive plural (.directive quoted
      (.directive last (.nil _))))).parseFrom_eq .strict
  have printed : (formatInto .unset ⟨.legacy, .strict⟩ (.bytes .fixed (ascii ['%', 'k', 'l', 's',
      '%', 'k', 's', '%', 'k', 'q', '%', 'k', 'l', 's'])) [.int 4294967297, .null]
      Sink.empty).2 = none := by
    rw [@formatInto_of_ok .unset ⟨.legacy, .strict⟩ _ _ read]
    rfl
  obtain ⟨pieces', chunks, read', -, contents, count, follows⟩ :=
    last_plural_follows (Prod.ext rfl printed)
  cases read.symm.trans read'
  have one : Reduces none true 4294967297 1 := ⟨by decide, by decide, by decide, by decide⟩
  have zeroBefore : LastNumber [.int 4294967297, .null] [] 0 := .zero (by simp)
  have oneBefore : LastNumber [.int 4294967297, .null] (pieces.take 3) 1 := by
    have split : pieces.take 3 = pieces.take 1 ++ .directive ⟨.ofLegacy .plural, 4,
        ascii ['%', 'k', 's']⟩ :: (pieces.drop 2).take 1 := rfl
    refine .reduced split rfl ?_ rfl rfl one
    intro e member
    cases List.mem_singleton.mp member
    rfl
  obtain ⟨v, -, only, first⟩ := follows [] _ (pieces.drop 1) rfl rfl
  obtain ⟨w, -, only', behind⟩ := follows (pieces.take 3) _ [] rfl rfl
  rw [← only 0 zeroBefore] at first
  rw [← only' 1 oneBefore] at behind
  exact ⟨_, chunks, Prod.ext rfl printed, contents, count, first, behind⟩

end ExtendedFormat
