/-
# ExtendedFormat.Proofs.Directive.Acceptance -- the scanner accepts the language

A directive is read at a percent sign exactly when a word begins there
(`scan_reads_words`).  Two things stand between the words and what they denote.
A word whose length is read too short has another form with the longer one, and
only `I` before a width of 64 is such a case (`Standard.exists_greedy`).  A word may
also begin with a shorter one, an operation of the legacy dialect
(`Word.denotes`); in the modern dialect no word begins another.
-/
import ExtendedFormat.Proofs.Directive.Reading

namespace ExtendedFormat

set_option autoImplicit false

/-! ## The longer length -/

theorem Length.extends : ∀ e l : Length, e.bytes <+: l.bytes → e.bytes.length < l.bytes.length →
    (e = .native ∧ l = .fixed64) ∨
      ∃ b ∈ ascii ['h', 'l'], (l.bytes.drop e.bytes.length).head? = some b := by
  intro e l
  cases e <;> cases l <;> decide

theorem Length.length_bytes_le (l : Length) : l.bytes.length ≤ (Length.bytes .fixed64).length := by
  cases l <;> decide

namespace Standard

/-- The bytes after an early length. -/
theorem plain {p : Standard} (noLate : p.late = none) :
    ∀ b ∈ p.flags ++ (p.digits ++ p.ending), b ∉ ascii ['h', 'l'] := by
  intro b member
  simp only [ending, noLate, Length.written, List.nil_append, List.mem_append,
    List.mem_singleton] at member
  rcases member with flag | digit | rfl
  · rcases p.areFlags b flag with rfl | rfl <;> decide
  · have bounds := p.areDigits b digit
    rintro letter
    simp only [ascii, List.map_cons, List.map_nil, List.mem_cons, List.not_mem_nil,
      or_false] at letter
    rcases letter with rfl | rfl <;> revert bounds <;> decide
  · cases p.letter <;> decide

/-- A length `I` before `64` has no flags, and the width begins with 64. -/
theorem digits_of_fixed64 {p : Standard} (noLate : p.late = none)
    (begins : ascii ['6', '4'] <+: p.flags ++ (p.digits ++ p.ending)) :
    p.flags = [] ∧ ∃ more, p.digits = ascii ['6', '4'] ++ more := by
  have letter : p.letter.byte ∉ ascii ['6', '4'] := by cases p.letter <;> decide
  simp only [ending, noLate, Length.written, List.nil_append] at begins
  cases flags : p.flags with
  | cons b tail =>
    have same : b = 0x36 := by
      rw [flags, List.cons_append] at begins
      exact (List.cons_prefix_cons.1 begins).1.symm
    have flag := p.areFlags b (by simp [flags])
    exact absurd flag (by rw [same]; decide)
  | nil =>
    refine ⟨rfl, ?_⟩
    rw [flags, List.nil_append] at begins
    cases digits : p.digits with
    | nil =>
      rw [digits] at begins
      exact absurd ((List.cons_prefix_cons.1 begins).1 ▸ by decide) letter
    | cons first tail =>
      rw [digits] at begins
      obtain ⟨rfl, later⟩ := List.cons_prefix_cons.1 begins
      cases tail with
      | nil => exact absurd ((List.cons_prefix_cons.1 later).1 ▸ by decide) letter
      | cons second more =>
        obtain ⟨rfl, -⟩ := List.cons_prefix_cons.1 later
        exact ⟨more, rfl⟩

theorem isGreedy_of_early_none {p : Standard} (noEarly : p.early = none) : p.IsGreedy := by
  intro l begins
  rw [fromLength, if_neg (by simp [noEarly]), ending, List.prefix_concat_iff] at begins
  rcases begins with same | inside
  · exact absurd (by simp [same]) (p.letter.byte_not_mem_length l)
  · simpa [length, noEarly] using inside.length_le

theorem isGreedy_of_early_fixed64 {p : Standard} (early : p.early = some .fixed64) :
    p.IsGreedy := by
  intro l _
  simpa [length, early, Length.written] using l.length_bytes_le

/-- The same word with `I64` for `I` and a width that begins with 64; zeros behind
the 64 become flags. -/
theorem exists_fixed64 {p : Standard} {more : Bytes} (early : p.early = some .native)
    (noFlags : p.flags = []) (digits : p.digits = ascii ['6', '4'] ++ more) :
    ∃ q : Standard, q.early = some .fixed64 ∧ q.text = p.text := by
  have noLate : p.late = none := p.oneLength.resolve_left (by simp [early])
  have within : ∀ b ∈ more, b ∈ p.digits := fun b member => by simp [digits, member]
  have leading : (more.dropWhile (· == 0x30)).head? ≠ some 0x30 := by
    intro zero
    have stopped := List.head?_dropWhile_not (· == (0x30 : UInt8)) more
    simp [zero] at stopped
  have short : (more.dropWhile (· == 0x30)).length ≤ Numeral.digitLimit := by
    have bound := p.convertible
    have dropped := (List.dropWhile_suffix (l := more) (· == 0x30)).length_le
    simp only [digits, List.length_append] at bound
    omega
  refine ⟨⟨p.kFlag, some .fixed64, more.takeWhile (· == 0x30), more.dropWhile (· == 0x30), none,
    p.letter, .inr rfl, fun b member => ?_, fun b member => ?_, leading, short⟩, rfl, ?_⟩
  · exact .inr (by simpa using List.all_eq_true.1 List.all_takeWhile b member)
  · exact p.areDigits b (within b ((List.dropWhile_subset _) member))
  · have zeros : more.takeWhile (· == 0x30) ++ (more.dropWhile (· == 0x30) ++ [p.letter.byte]) =
        more ++ [p.letter.byte] := by
      rw [← List.append_assoc, List.takeWhile_append_dropWhile]
    simp [text, afterPercent, body, ending, Length.written, early, noLate, noFlags, digits, zeros,
      Length.bytes, Length.letters, ascii]

/-- The only modifier that can be read too short is an `I` before a width that begins with
64. -/
theorem native_of_not_greedy {p : Standard} (short : ¬ p.IsGreedy) :
    p.early = some .native ∧ p.flags = [] ∧ ∃ more, p.digits = ascii ['6', '4'] ++ more := by
  cases early : p.early with
  | none => exact absurd (isGreedy_of_early_none early) short
  | some e =>
    have noLate : p.late = none := p.oneLength.resolve_left (by simp [early])
    simp only [IsGreedy, fromLength, body, length, early, Length.written, Option.isSome_some,
      if_true, Option.some_or, Classical.not_forall, Nat.not_le] at short
    obtain ⟨l, begins, longer⟩ := short
    obtain ⟨more, eq⟩ := List.prefix_of_prefix_length_le (List.prefix_append _ _) begins
      (Nat.le_of_lt longer)
    rw [← eq, List.prefix_append_right_inj] at begins
    rcases Length.extends e l ⟨more, eq⟩ longer with ⟨rfl, rfl⟩ | ⟨b, letter, head⟩
    · have sixtyFour : more = ascii ['6', '4'] := by
        simpa [Length.bytes, Length.letters, ascii] using eq
      exact ⟨rfl, digits_of_fixed64 noLate (sixtyFour ▸ begins)⟩
    · -- After `h` or `l` no flag, digit or letter makes the modifier longer.
      rw [← eq, List.drop_left] at head
      obtain ⟨tail, rfl⟩ := List.head?_eq_some_iff.1 head
      exact absurd letter (plain noLate b (begins.subset (by simp)))

/-- Every word has a form that is greedy. -/
theorem exists_greedy (p : Standard) : ∃ q : Standard, q.IsGreedy ∧ q.text = p.text := by
  by_cases greedy : p.IsGreedy
  · exact ⟨p, greedy, rfl⟩
  · obtain ⟨early, noFlags, width, digits⟩ := native_of_not_greedy greedy
    obtain ⟨q, fixed, same⟩ := exists_fixed64 early noFlags digits
    exact ⟨q, isGreedy_of_early_fixed64 fixed, same⟩

/-- Without a width there is nothing that a modifier could be read too short before. -/
theorem isGreedy_of_no_digits {p : Standard} (noDigits : p.digits = []) : p.IsGreedy := by
  by_cases greedy : p.IsGreedy
  · exact greedy
  · obtain ⟨-, -, more, digits⟩ := native_of_not_greedy greedy
    rw [noDigits] at digits
    cases digits

end Standard

/-! ## Operations -/

/-- Without a `k` no operation is spelled. -/
theorem Standard.spellsNothing_of_unflagged {p : Standard} (unflagged : p.kFlag = false)
    (dialect : Dialect) : dialect.SpellsNothing p.text := by
  intro s _ begins
  obtain ⟨b, tail, body, free⟩ := p.body_eq_cons
  rw [operationText, text, afterPercent, if_neg (by simp [unflagged]), body,
    List.cons_prefix_cons, List.cons_prefix_cons] at begins
  exact free (begins.2.1 ▸ by decide)

/-- In the modern dialect no standard directive begins with an operation. -/
theorem Dialect.modern_spellsNothing (p : Standard) : Dialect.modern.SpellsNothing p.text := by
  cases flagged : p.kFlag with
  | false => exact Standard.spellsNothing_of_unflagged flagged .modern
  | true =>
    have single : ∀ s ∈ Dialect.modern.spellings, ∃ b ∈ reservedBytes, ascii s.1 = [b] := by
      decide
    intro s member begins
    obtain ⟨b, reserved, eq⟩ := single s member
    obtain ⟨first, tail, body, free⟩ := p.body_eq_cons
    rw [operationText, eq, Standard.text, Standard.afterPercent, if_pos flagged, body,
      List.cons_prefix_cons, List.cons_prefix_cons, List.cons_prefix_cons] at begins
    exact free (begins.2.2.1 ▸ reserved)

theorem Standard.denotes_modern {p : Standard} (greedy : p.IsGreedy) :
    Denotes .modern p.text (.directive p.specification) :=
  .standard p greedy (Dialect.modern_spellsNothing p)

theorem Standard.denotes_bare (dialect : Dialect) (length : Option Length) (l : Letter) :
    Denotes dialect (bare length l).text (.directive (bare length l).specification) :=
  .standard _ (isGreedy_of_early_none rfl) (spellsNothing_of_unflagged rfl dialect)

theorem Denotes.word {dialect : Dialect} {word : Bytes} {m : Meaning}
    (denotes : Denotes dialect word m) : Word dialect word := by
  cases denotes with
  | percent => exact .percent
  | operation spelled => exact .operation spelled
  | standard p => exact .standard p

/-- A word denotes something, or else an operation of the legacy dialect begins it. -/
theorem Word.denotes {dialect : Dialect} {word : Bytes} (isWord : Word dialect word) :
    ∃ front m, Denotes dialect front m ∧ front <+: word ∧
      (front = word ∨ dialect = .legacy ∧ ∃ s ∈ dialect.spellings, front = operationText s.1) := by
  cases isWord with
  | percent => exact ⟨_, _, .percent, List.prefix_refl _, .inl rfl⟩
  | operation spelled => exact ⟨_, _, .operation spelled, List.prefix_refl _, .inl rfl⟩
  | standard p =>
    obtain ⟨q, greedy, same⟩ := p.exists_greedy
    by_cases clear : dialect.SpellsNothing p.text
    · exact ⟨_, _, .standard q greedy (same ▸ clear), same ▸ List.prefix_refl _, .inl same⟩
    · cases dialect with
      | modern => exact absurd (Dialect.modern_spellsNothing p) clear
      | legacy =>
        simp only [Dialect.SpellsNothing, Classical.not_forall, Classical.not_not] at clear
        obtain ⟨s, member, begins⟩ := clear
        exact ⟨_, _, .operation member, begins, .inr ⟨rfl, s, member, rfl⟩⟩

/-- What the bytes begin with, as far as it denotes anything, is one word with one
meaning. -/
theorem Denotes.unique {dialect : Dialect} {w₁ w₂ bs : Bytes} {m₁ m₂ : Meaning}
    (first : Denotes dialect w₁ m₁) (second : Denotes dialect w₂ m₂)
    (begins₁ : w₁ <+: bs) (begins₂ : w₂ <+: bs) : w₁ = w₂ ∧ m₁ = m₂ := by
  obtain ⟨t₁, rfl, read₁⟩ := first.scan
  obtain ⟨t₂, rfl, read₂⟩ := second.scan
  obtain ⟨r₁, rfl⟩ := begins₁
  obtain ⟨r₂, same⟩ := begins₂
  have tails : t₂ ++ r₂ = t₁ ++ r₁ := (List.cons.inj same).2
  have once := (read₂ r₂).symm.trans (tails ▸ read₁ r₁)
  simp only [Option.some.injEq, Prod.mk.injEq] at once
  obtain ⟨rfl, rfl⟩ := once
  exact ⟨by rw [List.append_cancel_right tails], rfl⟩

/-! ## The scanner -/

theorem drop_eq_cons {format : Bytes} {start : Nat} {b : UInt8} (here : format[start]? = some b) :
    format.drop start = b :: format.drop (start + 1) := by
  obtain ⟨inside, rfl⟩ := List.getElem?_eq_some_iff.1 here
  exact List.drop_eq_getElem_cons inside

end ExtendedFormat
