/-
# ExtendedFormat.Proofs.Output.Integers -- integers, from the argument to the field

An integer directive cuts its argument to the width of the length modifier, renders
what is left, groups it if asked to, and fills the field.  What the field shows is the
integer in the range that letter and length have (`Letter.Covers`) that agrees with the
argument modulo `2 ^ bits`, where `bits` is what the length modifier keeps (`Length.Keeps`).
So arguments print the same just if they are congruent (`integers_read_back`).
-/
import ExtendedFormat.Proofs.Directive.Field
import ExtendedFormat.Proofs.Number.Numerals
import ExtendedFormat.Proofs.Number.Width
import ExtendedFormat.Proofs.Output.Run

namespace ExtendedFormat

set_option autoImplicit false

open Numerals

/-! ## Letters, their digits and their ranges -/

/-- How many bits of an integer are kept at a length. -/
structure Length.Keeps (length : Option Length) (bits : Nat) : Prop where
  char : length = some .char → bits = 8
  short : length = some .short → bits = 16
  none : length = .none → bits = 32
  other : length ∉ [some .char, some .short, .none] → bits = 64

theorem Length.keeps_bits (length : Option Length) : Length.Keeps length (Length.bits length) where
  char := by
    rintro rfl
    rfl
  short := by
    rintro rfl
    rfl
  none := by
    rintro rfl
    rfl
  other := by
    intro other
    match length, other with
    | .none, other | some .char, other | some .short, other => exact absurd (by decide) other
    | some .longLong, _ | some .long, _ | some .intmax, _ | some .size, _ | some .difference, _
    | some .wide, _ | some .fixed64, _ | some .native, _ => rfl

namespace Letter

/-- The digits of the letter's base, from zero. -/
def alphabet : Letter → Bytes
  | .octal => ascii ['0', '1', '2', '3', '4', '5', '6', '7']
  | .hexLower =>
      ascii ['0', '1', '2', '3', '4', '5', '6', '7', '8', '9', 'a', 'b', 'c', 'd', 'e', 'f']
  | .hexUpper =>
      ascii ['0', '1', '2', '3', '4', '5', '6', '7', '8', '9', 'A', 'B', 'C', 'D', 'E', 'F']
  | _ => ascii ['0', '1', '2', '3', '4', '5', '6', '7', '8', '9']

theorem alphabet_length (l : Letter) : l.alphabet.length = (Render.radix l).1 := by
  cases l <;> rfl

theorem spells (l : Letter) : Spells l.alphabet (Render.radix l).2 := by
  cases l <;> exact ⟨by decide, by decide, by decide⟩

/-- Where the numbers lie that a letter prints at a length that keeps `bits` bits.  A size of all
ones is -1. -/
structure Covers (l : Letter) (length : Option Length) (bits : Nat) (value : Int) : Prop where
  signed : l ∈ [decimal, integer] → length ∉ [some .size, some .native] →
    -2 ^ (bits - 1) ≤ value ∧ value < 2 ^ (bits - 1)
  unsigned : l ∉ [decimal, integer] →
    length ∉ [some .size, some .native, some .difference] → 0 ≤ value ∧ value < 2 ^ bits
  size : length ∈ [some .size, some .native] ∨ length = some .difference ∧ l ∉ [decimal, integer] →
    -1 ≤ value ∧ value ≤ 2 ^ 64 - 2

theorem isSigned_iff {l : Letter} : Render.isSigned l = true ↔ l ∈ [decimal, integer] := by
  cases l <;> decide

theorem isSize_iff {length : Option Length} :
    Length.isSize length = true ↔ length ∈ [some .size, some .native] := by
  rcases length with _ | l
  · decide
  · cases l <;> decide

theorem covers_numberAt (l : Letter) (length : Option Length) (n : Int) :
    l.Covers length (Length.bits length) (Cursor.numberAt length (Render.isSigned l) n) where
  signed := by
    intro signed plain
    rw [isSigned_iff.2 signed]
    exact Cursor.numberAt_bounds_signed (Bool.eq_false_iff.2 (mt isSize_iff.1 plain)) n
  unsigned := by
    intro unsigned plain
    rw [Bool.eq_false_iff.2 (mt isSigned_iff.1 unsigned)]
    have noSize : Length.isSize length = false :=
      Bool.eq_false_iff.2 fun size => plain (List.mem_append_left [_] (isSize_iff.1 size))
    have noDifference : length ≠ some .difference := by
      rintro rfl
      exact plain (by decide)
    exact Cursor.numberAt_bounds_unsigned noSize noDifference n
  size := by
    intro size
    refine Cursor.numberAt_bounds_of_size ?_ n
    rcases size with size | ⟨rfl, unsigned⟩
    · rw [Length.asSize, isSize_iff.2 size, Bool.true_or]
    · rw [Bool.eq_false_iff.2 (mt isSigned_iff.1 unsigned)]
      rfl

end Letter

/-! ## What is printed -/

variable {cb : Callbacks} {l : Letter}

theorem Text.exactBytes_of_ascii {t : Text} (inAscii : ∀ c ∈ t, c.val < 0x80) :
    t.exactBytes = .ok (narrow t) := by
  refine exactBytes_eq_ok_iff.2 ⟨List.any_eq_false.2 fun c mem => ?_, ?_⟩
  · have below := inAscii c mem
    simp only [CodePoint.isSurrogate, decide_eq_true_eq]
    omega
  · have alone : ∀ c ∈ t, Utf8.encodeScalar c = [c.val.toUInt8] := fun c mem =>
      if_pos (inAscii c mem)
    rw [narrow, List.map_eq_flatMap, List.flatMap_def, List.flatMap_def,
      List.map_congr_left alone]

/-- An integer as the letter writes it, where no callback groups digits. -/
def Letter.numeral (l : Letter) (kFlag : Bool) (n : Int) : Bytes :=
  narrow (Numerals.numeral (Render.radix l).1 (Render.radix l).2
    (kFlag && (Render.radix l).1 == 10) n)

theorem Render.number_eq (l : Letter) {kFlag : Bool} (plain : kFlag = true → cb.groupDigits = none)
    (n : Int) :
    Render.number cb (Render.radix l).1 (Render.radix l).2 kFlag n = .ok (l.numeral kFlag n) := by
  have inAscii (grouped : Bool) := l.alphabet_length ▸ l.spells.numeral_ascii grouped n
  rw [Render.number, Letter.numeral]
  split
  · rename_i grouped
    rw [Callbacks.group, plain (Bool.and_eq_true_iff.1 grouped).1, grouped]
    simp only [Callbacks.defaultGroupDigits, Digits.group_render]
    exact Text.exactBytes_of_ascii (inAscii true)
  · rename_i ungrouped
    rw [Bool.eq_false_iff.2 ungrouped, Digits.render_eq]
    exact Text.exactBytes_of_ascii (inAscii false)

/-- What a directive with the letter prints for an integer. -/
def Specification.shown (s : Specification) (l : Letter) (n : Int) : Bytes :=
  pad s.width s.fill (l.numeral s.kFlag (Cursor.numberAt s.length (Render.isSigned l) n))

theorem Directive.content_integer {d : Directive} (conversion : d.conversion = .standard l)
    (integral : l.isIntegral = true) {c : Cursor} {v : Value} {n : Int} (next : c.next? = some v)
    (index : v.index? = some n) :
    let m := Cursor.numberAt d.length (Render.isSigned l) n
    d.content cb c =
      (Render.number cb (Render.radix l).1 (Render.radix l).2 d.kFlag m, c.advance (some m)) := by
  have accepted : Accept.number d.length (Render.isSigned l) v =
      .ok (Cursor.numberAt d.length (Render.isSigned l) n) := by
    rw [Accept.number, Accept.integer, index]
    rfl
  rw [Directive.content_integral conversion integral]
  simp only [Render.integer, Cursor.readNumber_eq_readAs, Cursor.readAs, next, accepted,
    Render.reading]

theorem Directive.field_integer {d : Directive} (conversion : d.conversion = .standard l)
    (integral : l.isIntegral = true) (plain : d.kFlag = true → cb.groupDigits = none) {c : Cursor}
    {v : Value} {n : Int} (next : c.next? = some v) (index : v.index? = some n) :
    (d.field cb c).1 = .ok (d.shown l n) := by
  rw [Directive.field_eq, Directive.content_integer conversion integral next index]
  dsimp only
  rw [Render.number_eq l plain]
  rfl

theorem Specification.field?_shown (s : Specification) (l : Letter) (n : Int) :
    field? l.alphabet (s.shown l n) =
      some (Cursor.numberAt s.length (Render.isSigned l) n) := by
  have noInner := l.alphabet_length ▸ l.spells.minus_not_mem_tail
  have read := l.alphabet_length ▸ l.spells.field?_numeral
  exact field?_pad l.spells.zero (noInner _ _) (read _ _) _ _

/-- Arguments print the same just if they are congruent. -/
theorem Specification.shown_inj (s : Specification) (l : Letter) {m n : Int} :
    s.shown l m = s.shown l n ↔ m ≡ n [ZMOD 2 ^ Length.bits s.length] := by
  constructor
  · intro same
    have read := s.field?_shown l m
    rw [same, s.field?_shown l n, Option.some_inj] at read
    exact Cursor.numberAt_inj.1 read.symm
  · intro congruent
    rw [shown, shown, Cursor.numberAt_congr congruent]

/-! ## Calls -/

theorem formatInto_directive {dialect : Dialect} {word : Bytes} {spec : Specification}
    (denotes : Denotes dialect word (.directive spec)) (cb : Callbacks) (mode : Mode)
    (kind : BytesKind) {args : List Value} {bs : Bytes}
    (prints : (Directive.field cb ⟨spec, 0, word⟩ (Cursor.start args)).1 = .ok bs) (s : Sink) :
    formatInto cb ⟨dialect, mode⟩ (.bytes kind word) args s = (s.append bs, none) := by
  rw [formatInto_word denotes, prints]
  rfl

/-- **Integers read back.**  An integer directive prints every argument that is an integer or
stands for one, by itself or amid a format.  The field, read without blanks and commas, shows
the integer of the letter's range that agrees with the argument modulo `2 ^ bits`, where 8, 16, 32
or 64 bits are kept; and what it prints tells arguments apart just if they are not congruent. -/
theorem integers_read_back {dialect : Dialect} {word : Bytes} {spec : Specification} {l : Letter}
    (denotes : Denotes dialect word (.directive spec)) (conversion : spec.conversion = .standard l)
    (integral : l.isIntegral = true) {cb : Callbacks}
    (plain : spec.kFlag = true → cb.groupDigits = none) :
    ∃ (bits : Nat) (printed : Int → Bytes), Length.Keeps spec.length bits ∧
      (∀ v n, Value.index? v = some n →
        (∀ (start : Nat) (c : Cursor), c.next? = some v →
          (Directive.field cb ⟨spec, start, word⟩ c).1 = .ok (printed n)) ∧
        ∀ mode kind args s, formatInto cb ⟨dialect, mode⟩ (.bytes kind word) (v :: args) s =
          (s.append (printed n), none)) ∧
      (∀ n, ∃ value, field? l.alphabet (printed n) = some value ∧
        value ≡ n [ZMOD 2 ^ bits] ∧ l.Covers spec.length bits value) ∧
      ∀ m n, printed m = printed n ↔ m ≡ n [ZMOD 2 ^ bits] := by
  refine ⟨Length.bits spec.length, spec.shown l, Length.keeps_bits _, ?_, ?_, ?_⟩
  · intro v n index
    have prints (start : Nat) (c : Cursor) (next : c.next? = some v) :
        (Directive.field cb ⟨spec, start, word⟩ c).1 = .ok (spec.shown l n) :=
      Directive.field_integer conversion integral plain next index
    exact ⟨prints, fun mode kind args s =>
      formatInto_directive denotes cb mode kind (prints 0 (Cursor.start (v :: args)) rfl) s⟩
  · intro n
    exact ⟨_, spec.field?_shown l n, Cursor.numberAt_modEq .., l.covers_numberAt ..⟩
  · intro m n
    exact spec.shown_inj l

/-- At sixteen bits, 100000 shows as a negative number, and so does what agrees with it. -/
theorem integers_read_back_short :
    Denotes .modern (ascii ['%', 'k', '0', '9', 'h', 'd'])
        (.directive ⟨.standard .decimal, true, some .short, false, true, 9⟩) ∧
      Letter.isIntegral .decimal = true ∧ Callbacks.unset.groupDigits = none ∧
      ∃ bs, field? (Letter.alphabet .decimal) bs = some (-31072) ∧
        (∀ s, formatInto .unset ⟨.modern, .strict⟩
          (.bytes .fixed (ascii ['%', 'k', '0', '9', 'h', 'd'])) [.int 100000] s =
            (s.append bs, none)) ∧
        ∀ s, formatInto .unset ⟨.modern, .strict⟩
          (.bytes .fixed (ascii ['%', 'k', '0', '9', 'h', 'd'])) [.handle 34464] s =
            (s.append bs, none) := by
  let p : Standard := ⟨true, none, [0x30], [0x39], some .short, .decimal, .inl rfl, by simp,
    by simp, by simp, by decide⟩
  have denotes : Denotes .modern (ascii ['%', 'k', '0', '9', 'h', 'd'])
      (.directive ⟨.standard .decimal, true, some .short, false, true, 9⟩) :=
    .standard p (Standard.isGreedy_of_early_none rfl) (Dialect.modern_spellsNothing p)
  refine ⟨denotes, rfl, rfl, ?_⟩
  obtain ⟨bits, printed, keeps, prints, reads, same⟩ :=
    @integers_read_back .modern _ _ .decimal denotes rfl rfl .unset fun _ => rfl
  obtain rfl : bits = 16 := keeps.short rfl
  obtain ⟨value, shown, congruent, covers⟩ := reads 100000
  have bounds := covers.signed (by decide) (by decide)
  have low : value = -31072 := by
    simp only [Int.ModEq] at congruent bounds
    omega
  refine ⟨printed 100000, low ▸ shown, ?_, ?_⟩
  · exact (prints (.int 100000) 100000 rfl).2 .strict .fixed []
  · rw [(same 100000 34464).2 (by decide)]
    exact (prints (.handle 34464) 34464 rfl).2 .strict .fixed []

end ExtendedFormat
