/-
# ExtendedFormat.Proofs.Directive.Reading -- the scanner reads what words denote

A word is read for what it denotes whatever follows it (`Denotes.scan`), and
whatever is read is a word that denotes it (`denotes_of_scan`).  The scanner looks
past a word's end for longer modifiers and operations, but a conversion letter is in
none of them except at the end.

All that is known of the scanner's two steps comes from two lemmas, for any bytes: what may follow
a percent sign (`scan_cases`), and how a directive divides (`Scan.standard_of_divided`).
-/
import ExtendedFormat.Proofs.Directive.Spelling

namespace ExtendedFormat

set_option autoImplicit false

/-! ## Standard directives -/

theorem span_append {α : Type} {q : α → Bool} {xs ys : List α} (all : ∀ x ∈ xs, q x = true)
    (stops : ∀ y ∈ ys.head?, q y = false) :
    (xs ++ ys).takeWhile q = xs ∧ (xs ++ ys).dropWhile q = ys := by
  rw [List.takeWhile_append_of_pos all, List.dropWhile_append_of_pos all]
  cases ys with
  | nil => simp
  | cons y ys => simp [stops y rfl]

namespace Standard

/-- How the part after the width begins. -/
theorem ending_eq_cons (p : Standard) :
    ∃ b tail, p.ending = b :: tail ∧ Scan.isFlag b = false ∧ Scan.isDigit b = false ∧
      b ∉ reservedBytes := by
  unfold ending
  cases p.late with
  | none =>
    exact ⟨_, [], rfl, p.letter.byte_not_flag, p.letter.byte_not_digit, p.letter.byte_not_reserved⟩
  | some l =>
    obtain ⟨b, tail, eq, apart⟩ := l.bytes_eq_cons
    exact ⟨b, tail ++ [p.letter.byte], by simp [Length.written, eq], apart⟩

/-- The width and what follows it do not go on with a flag. -/
theorem digits_eq_cons (p : Standard) (rest : Bytes) :
    ∃ b tail, p.digits ++ (p.ending ++ rest) = b :: tail ∧ Scan.isFlag b = false := by
  cases eq : p.digits with
  | nil =>
    obtain ⟨b, tail, eq', notFlag, -⟩ := p.ending_eq_cons
    exact ⟨b, tail ++ rest, by simp [eq'], notFlag⟩
  | cons b tail =>
    have digit := p.areDigits b (by simp [eq])
    have nonzero : b ≠ 0x30 := by simpa [eq] using p.noLeadingZero
    have notMinus : b ≠ 0x2D := by rintro rfl; simp at digit
    exact ⟨b, tail ++ (p.ending ++ rest), rfl, by simp [Scan.isFlag, nonzero, notMinus]⟩

theorem fromLength_eq_concat (p : Standard) : ∃ front, p.fromLength = front ++ [p.letter.byte] := by
  unfold fromLength
  split
  · exact ⟨Length.written p.early ++ p.flags ++ p.digits ++ Length.written p.late,
      by simp [body, ending]⟩
  · exact ⟨_, rfl⟩

/-- Greediness, seen with whatever follows the word. -/
theorem IsGreedy.append {p : Standard} (greedy : p.IsGreedy) (rest : Bytes) (l : Length)
    (begins : l.bytes <+: p.fromLength ++ rest) :
    l.bytes.length ≤ (Length.written p.length).length := by
  obtain ⟨front, eq⟩ := p.fromLength_eq_concat
  rw [eq] at begins
  apply greedy l
  rw [eq]
  exact prefix_of_prefix_append begins fun member =>
    p.letter.byte_not_mem_length l (List.dropLast_subset _ member)

end Standard

namespace Scan

/-- What was read and what is left of the bytes, if a whole word was read. -/
def read? : Scan → Option (Meaning × Bytes)
  | .percent rest => some (.percent, rest)
  | .complete spec rest => some (.directive spec, rest)
  | _ => none

theorem conversion_letter (kFlag : Bool) (flags digits : Bytes) (length : Option Length)
    (c : Letter) (rest : Bytes) :
    Scan.conversion kFlag flags digits length (c.byte :: rest) =
      .complete ⟨.standard c, kFlag, length, flags.contains 0x2D, flags.contains 0x30,
        min (decimalValue digits) 20⟩ rest := by
  simp only [conversion, Letter.ofByte?_eq_some_iff.2 rfl, widthOf_eq]

theorem of_conversion_read {kFlag : Bool} {flags digits bs rest : Bytes}
    {length : Option Length} {m : Meaning}
    (read : (Scan.conversion kFlag flags digits length bs).read? = some (m, rest)) :
    ∃ c : Letter, bs = c.byte :: rest ∧ m = .directive ⟨.standard c, kFlag, length,
      flags.contains 0x2D, flags.contains 0x30, min (decimalValue digits) 20⟩ := by
  cases bs with
  | nil => cases read
  | cons b bs =>
    simp only [conversion] at read
    split at read
    · rename_i c found
      cases read
      exact ⟨c, by rw [Letter.ofByte?_eq_some_iff.1 found], by rw [widthOf_eq]⟩
    · cases read

/-- Bytes divided into flags, a width and what follows, of which none can begin earlier. -/
structure Divided (bs flags digits after : Bytes) : Prop where
  whole : bs = flags ++ (digits ++ after)
  areFlags : ∀ b ∈ flags, b = 0x2D ∨ b = 0x30
  areDigits : ∀ b ∈ digits, 0x30 ≤ b.toNat ∧ b.toNat ≤ 0x39
  noFlag : ∀ b ∈ (digits ++ after).head?, isFlag b = false
  noDigit : ∀ b ∈ after.head?, isDigit b = false

theorem exists_divided (bs : Bytes) :
    ∃ flags digits after, Divided bs flags digits after := by
  refine ⟨bs.takeWhile isFlag, (bs.dropWhile isFlag).takeWhile isDigit,
    (bs.dropWhile isFlag).dropWhile isDigit, ?_, ?_, ?_, ?_, ?_⟩
  · simp only [List.takeWhile_append_dropWhile]
  · exact fun b member => isFlag_iff.1 (List.all_eq_true.1 List.all_takeWhile b member)
  · exact fun b member => isDigit_iff.1 (List.all_eq_true.1 List.all_takeWhile b member)
  · intro b first
    rw [List.takeWhile_append_dropWhile] at first
    have stopped := List.head?_dropWhile_not isFlag bs
    rw [Option.mem_def.1 first] at stopped
    simpa using stopped
  · intro b first
    have stopped := List.head?_dropWhile_not isDigit (bs.dropWhile isFlag)
    rw [Option.mem_def.1 first] at stopped
    simpa using stopped

theorem Divided.noLeadingZero {bs flags digits after : Bytes}
    (divided : Divided bs flags digits after) : digits.head? ≠ some 0x30 := by
  intro zero
  have noFlag := divided.noFlag 0x30 (by simp [zero])
  cases noFlag

/-- What the scanner makes of bytes, by the way in which they divide. -/
theorem standard_of_divided {bs unread flags digits after : Bytes} {early : Option Length}
    (taken : Length.take bs = (early, unread)) (divided : Divided unread flags digits after)
    (kFlag : Bool) :
    Scan.standard kFlag bs =
      if after.isEmpty then .truncated
      else if Numeral.digitLimit < digits.length then .tooLong
      else if early.isSome then Scan.conversion kFlag flags digits early after
      else Scan.conversion kFlag flags digits (Length.take after).1 (Length.take after).2 := by
  have flagged := span_append (fun x m => isFlag_iff.2 (divided.areFlags x m)) divided.noFlag
  have numbered := span_append (fun x m => isDigit_iff.2 (divided.areDigits x m)) divided.noDigit
  rw [← divided.whole] at flagged
  simp only [Scan.standard, taken, flagged.1, flagged.2, numbered.1, numbered.2]

theorem divided_standard (p : Standard) (rest : Bytes) :
    Divided (p.flags ++ (p.digits ++ (p.ending ++ rest))) p.flags p.digits (p.ending ++ rest) := by
  obtain ⟨b, tail, digitsEq, notFlag⟩ := p.digits_eq_cons rest
  obtain ⟨e, more, endingEq, -, notDigit, -⟩ := p.ending_eq_cons
  refine ⟨rfl, p.areFlags, p.areDigits, ?_, ?_⟩
  · simp [digitsEq, notFlag]
  · simp [endingEq, notDigit]

/-- Once the early length is taken, flags and width are as they were written. -/
theorem standard_of_take (p : Standard) {bs rest : Bytes} {early : Option Length}
    (taken : Length.take bs = (early, p.flags ++ (p.digits ++ (p.ending ++ rest)))) :
    Scan.standard p.kFlag bs =
      if early.isSome then Scan.conversion p.kFlag p.flags p.digits early (p.ending ++ rest)
      else Scan.conversion p.kFlag p.flags p.digits (Length.take (p.ending ++ rest)).1
        (Length.take (p.ending ++ rest)).2 := by
  obtain ⟨e, more, endingEq, -⟩ := p.ending_eq_cons
  have some : (p.ending ++ rest).isEmpty = false := by rw [endingEq]; rfl
  rw [standard_of_divided taken (divided_standard p rest), some, if_neg Bool.false_ne_true,
    if_neg (Nat.not_lt.2 p.convertible)]

/-- A length modifier after the width is found there. -/
theorem take_ending {p : Standard} (greedy : p.IsGreedy) (noEarly : p.early = none)
    (rest : Bytes) : Length.take (p.ending ++ rest) = (p.late, p.letter.byte :: rest) := by
  have longest := greedy.append rest
  simp only [Standard.fromLength, Standard.length, noEarly, Option.isSome_none, Option.none_or,
    Bool.false_eq_true, if_false] at longest
  exact Length.take_eq_iff.2 ⟨by simp [Standard.ending], longest⟩

/-- Flags and digits are no length modifier. -/
theorem take_of_mark {b : UInt8} (mark : isFlag b = true ∨ isDigit b = true) (rest : Bytes) :
    Length.take (b :: rest) = (none, b :: rest) := by
  refine Length.take_eq_iff.2 ⟨rfl, fun l begins => ?_⟩
  obtain ⟨first, tail, eq, notFlag, notDigit, -⟩ := l.bytes_eq_cons
  rw [eq] at begins
  obtain ⟨rfl, -⟩ := List.cons_prefix_cons.1 begins
  simp [notFlag, notDigit] at mark

theorem take_of_marks (p : Standard) (placed : p.flags ++ p.digits ≠ []) (rest : Bytes) :
    Length.take (p.flags ++ (p.digits ++ rest)) = (none, p.flags ++ (p.digits ++ rest)) := by
  obtain ⟨b, tail, eq⟩ := List.exists_cons_of_ne_nil placed
  have mark : isFlag b = true ∨ isDigit b = true := by
    have member : b ∈ p.flags ++ p.digits := by simp [eq]
    exact (List.mem_append.1 member).imp (fun m => isFlag_iff.2 (p.areFlags b m))
      fun m => isDigit_iff.2 (p.areDigits b m)
  rw [← List.append_assoc, eq]
  exact take_of_mark mark (tail ++ rest)

/-- A length modifier in front is found there; flags and digits are none. -/
theorem take_body {p : Standard} (greedy : p.IsGreedy) (rest : Bytes)
    (placed : p.early.isSome ∨ p.flags ++ p.digits ≠ []) :
    Length.take (p.body ++ rest) = (p.early, p.flags ++ (p.digits ++ (p.ending ++ rest))) := by
  cases early : p.early with
  | some l' =>
    refine Length.take_eq_iff.2 ⟨by simp [Standard.body, early], fun l begins => ?_⟩
    simpa [Standard.length, early] using
      greedy.append rest l (by simpa [Standard.fromLength, early] using begins)
  | none =>
    have marks := take_of_marks p (placed.resolve_left (by simp [early])) (p.ending ++ rest)
    simpa [Standard.body, early, Length.written] using marks

theorem standard_text {p : Standard} (greedy : p.IsGreedy) (rest : Bytes) :
    Scan.standard p.kFlag (p.body ++ rest) = .complete p.specification rest := by
  by_cases placed : p.early.isSome ∨ p.flags ++ p.digits ≠ []
  · rw [standard_of_take p (take_body greedy rest placed)]
    cases early : p.early with
    | some l =>
      have noLate : p.late = none := p.oneLength.resolve_left (by simp [early])
      simp [Standard.ending, noLate, Length.written, conversion_letter, Standard.specification,
        Standard.length, Standard.width, early]
    | none =>
      simp [take_ending greedy early rest, conversion_letter, Standard.specification,
        Standard.length, Standard.width, early]
  · -- Nothing stands between the two places of a length modifier.
    obtain ⟨noEarly, nothing⟩ := not_or.1 placed
    obtain ⟨noFlags, noDigits⟩ := List.append_eq_nil_iff.1 (Classical.not_not.1 nothing)
    rw [Option.not_isSome_iff_eq_none] at noEarly
    have taken := take_ending greedy noEarly rest
    have same : p.body = p.ending := by
      simp [Standard.body, noEarly, noFlags, noDigits, Length.written]
    have read : Scan.standard p.kFlag (p.body ++ rest) =
        Scan.conversion p.kFlag [] [] p.late (p.letter.byte :: rest) := by
      cases late : p.late with
      | some l =>
        simp [Scan.standard, same, taken, late, p.letter.byte_not_flag, p.letter.byte_not_digit]
      | none =>
        have bare : p.ending = [p.letter.byte] := by simp [Standard.ending, late, Length.written]
        simp only [bare, late, List.singleton_append] at taken
        simp [Scan.standard, same, bare, taken, p.letter.byte_not_flag, p.letter.byte_not_digit]
    rw [read, conversion_letter]
    simp [Standard.specification, Standard.length, Standard.width, noEarly, noFlags, noDigits]

theorem of_standard_read {kFlag : Bool} {bs rest : Bytes} {m : Meaning}
    (read : (Scan.standard kFlag bs).read? = some (m, rest)) :
    ∃ p : Standard, p.kFlag = kFlag ∧ p.IsGreedy ∧ bs = p.body ++ rest ∧
      m = .directive p.specification := by
  obtain ⟨flags, digits, after, divided⟩ := exists_divided (Length.take bs).2
  obtain ⟨here, longest⟩ := Length.take_spec bs
  have taken : Length.take bs = ((Length.take bs).1, (Length.take bs).2) := rfl
  rw [standard_of_divided taken divided] at read
  split at read
  · cases read
  split at read
  · cases read
  rename_i short
  split at read
  · obtain ⟨c, rfl, rfl⟩ := of_conversion_read read
    let p : Standard := ⟨kFlag, (Length.take bs).1, flags, digits, none, c, .inr rfl,
      divided.areFlags, divided.areDigits, divided.noLeadingZero, Nat.le_of_not_lt short⟩
    have early : p.early.isSome := by assumption
    have whole : bs = p.body ++ rest := by
      rw [here, divided.whole]
      simp [p, Standard.body, Standard.ending, Length.written]
    refine ⟨p, rfl, fun l begins => ?_, whole,
      by simp [p, Standard.specification, Standard.length, Standard.width]⟩
    rw [Standard.fromLength, if_pos early] at begins
    simpa [p, Standard.length] using longest l (begins.trans ⟨rest, whole.symm⟩)
  · obtain ⟨here', longest'⟩ := Length.take_spec after
    obtain ⟨c, more, rfl⟩ := of_conversion_read read
    let p : Standard := ⟨kFlag, none, flags, digits, (Length.take after).1, c, .inl rfl,
      divided.areFlags, divided.areDigits, divided.noLeadingZero, Nat.le_of_not_lt short⟩
    have noEarly : (Length.take bs).1 = none := Option.not_isSome_iff_eq_none.1 (by assumption)
    have ends : after = p.ending ++ rest := by
      rw [here', more]
      simp [p, Standard.ending]
    refine ⟨p, rfl, fun l begins => ?_, ?_,
      by simp [p, Standard.specification, Standard.length, Standard.width]⟩
    · rw [Standard.fromLength, if_neg (by simp [p])] at begins
      simpa [p, Standard.length] using longest' l (begins.trans ⟨rest, ends.symm⟩)
    · rw [here, divided.whole, noEarly, ends]
      simp [p, Standard.body]

end Scan

/-! ## Words -/

theorem Dialect.spelled (dialect : Dialect) : Spelled dialect.spellings where
  narrow := by cases dialect <;> simp [Dialect.spellings]
  ordered := by cases dialect <;> decide

/-- No spelling of an operation begins another. -/
theorem Dialect.spelling_unique (dialect : Dialect) :
    ∀ s ∈ dialect.spellings, ∀ t ∈ dialect.spellings, ascii s.1 <+: ascii t.1 → s = t := by
  cases dialect <;> decide

/-- A conversion letter can only end the spelling of an operation. -/
theorem Letter.byte_not_mem_spelling (c : Letter) (dialect : Dialect) :
    ∀ s ∈ dialect.spellings, c.byte ∉ (ascii s.1).dropLast := by
  cases dialect <;> cases c <;> decide

theorem Standard.body_eq_cons (p : Standard) :
    ∃ b tail, p.body = b :: tail ∧ b ∉ reservedBytes := by
  unfold Standard.body
  cases p.early with
  | some l =>
    obtain ⟨b, tail, eq, -, -, free⟩ := l.bytes_eq_cons
    exact ⟨b, _, by rw [Length.written, eq, List.cons_append], free⟩
  | none =>
    cases flags : p.flags with
    | cons b tail => exact ⟨b, _, rfl, flag_not_reserved (p.areFlags b (by simp [flags]))⟩
    | nil =>
      cases digits : p.digits with
      | cons b tail => exact ⟨b, _, rfl, digit_not_reserved (p.areDigits b (by simp [digits]))⟩
      | nil =>
        obtain ⟨b, tail, eq, -, -, free⟩ := p.ending_eq_cons
        exact ⟨b, tail, eq, free⟩

/-- Whatever follows an operation, it is the one found. -/
theorem firstSpelling?_operation {dialect : Dialect} {spelling : List Char} {op : LegacyOp}
    (spelled : (spelling, op) ∈ dialect.spellings) (rest : Bytes) :
    firstSpelling? dialect.spellings (ascii spelling ++ rest) = some (op, rest) := by
  refine firstSpelling?_of_longest dialect.spelled spelled fun t member begins => ?_
  refine Nat.le_of_not_lt fun longer => ?_
  have inside := List.prefix_of_prefix_length_le (List.prefix_append _ _) begins
    (Nat.le_of_lt longer)
  cases dialect.spelling_unique _ spelled _ member inside
  exact Nat.lt_irrefl _ longer

section Words

variable {dialect : Dialect} {kFlag : Bool} {bs : Bytes}

/-- What follows a percent sign, from the `k` if there is one. -/
def Scan.withFlag (kFlag : Bool) (bs : Bytes) : Bytes := if kFlag then kByte :: bs else bs

theorem Scan.withFlag_append (kFlag : Bool) (bs rest : Bytes) :
    withFlag kFlag bs ++ rest = withFlag kFlag (bs ++ rest) := by
  cases kFlag <;> rfl

/-- The bytes begin no operation behind a `k`, and without one they begin with no second percent
sign and no `k`. -/
structure Scan.Clear (dialect : Dialect) (kFlag : Bool) (bs : Bytes) : Prop where
  noOperation : kFlag = true → ∀ s ∈ dialect.spellings, ¬ ascii s.1 <+: bs
  noSign : kFlag = false → ∀ b ∈ bs.head?, b ≠ percentSign ∧ b ≠ kByte

theorem Scan.Clear.spellsNothing {front : Bytes} (clear : Scan.Clear dialect kFlag bs)
    (begins : front <+: bs) : dialect.SpellsNothing (percentSign :: Scan.withFlag kFlag front) := by
  intro s member spelled
  rw [operationText, List.cons_prefix_cons] at spelled
  cases kFlag with
  | true =>
    have inside := (List.cons_prefix_cons.1 spelled.2).2
    exact clear.noOperation rfl s member (inside.trans begins)
  | false =>
    obtain ⟨rest, eq⟩ := spelled.2.trans begins
    exact (clear.noSign rfl kByte (by rw [← eq]; rfl)).2 rfl

/-- A byte that is not reserved is no percent sign and no `k`. -/
theorem Scan.clear_of_not_reserved {b : UInt8} {tail : Bytes} (free : b ∉ reservedBytes)
    (absent : kFlag = true → ∀ s ∈ dialect.spellings, ¬ ascii s.1 <+: b :: tail) :
    Scan.Clear dialect kFlag (b :: tail) := by
  refine ⟨absent, fun _ c first => ?_⟩
  cases first
  constructor <;> rintro rfl <;> exact free (by decide)

theorem scan_of_clear (clear : Scan.Clear dialect kFlag bs) :
    scan dialect (Scan.withFlag kFlag bs) = Scan.standard kFlag bs := by
  cases kFlag with
  | true =>
    have passed := (firstSpelling?_eq_none_iff dialect.spelled).2 (clear.noOperation rfl)
    simp [Scan.withFlag, scan, kByte, percentSign, passed]
  | false =>
    cases bs with
    | nil => rfl
    | cons b tail =>
      obtain ⟨notPercent, notK⟩ := clear.noSign rfl b rfl
      have notK' : b ≠ 0x6B := notK
      simp [Scan.withFlag, scan, notPercent, notK']

/-- What may follow a percent sign, with what the scanner makes of it. -/
theorem scan_cases (dialect : Dialect) (tail : Bytes) :
    (∃ rest, tail = percentSign :: rest ∧ scan dialect tail = .percent rest) ∨
      (∃ spelling op rest, (spelling, op) ∈ dialect.spellings ∧
        tail = kByte :: (ascii spelling ++ rest) ∧
          scan dialect tail = .complete (.ofLegacy op) rest) ∨
      ∃ kFlag bs, tail = Scan.withFlag kFlag bs ∧ Scan.Clear dialect kFlag bs ∧
        scan dialect tail = Scan.standard kFlag bs := by
  cases tail with
  | nil =>
    have clear : Scan.Clear dialect false [] := ⟨Bool.noConfusion, fun _ b first => by cases first⟩
    exact .inr (.inr ⟨false, [], rfl, clear, rfl⟩)
  | cons b tail =>
    by_cases percent : b = percentSign
    · exact .inl ⟨tail, by rw [percent], by rw [scan, if_pos percent]⟩
    by_cases k : b = kByte
    · subst k
      cases found : firstSpelling? dialect.spellings tail with
      | some read =>
        obtain ⟨op, rest⟩ := read
        obtain ⟨spelling, spelled, rfl, -⟩ := longest_of_firstSpelling? dialect.spelled found
        refine .inr (.inl ⟨spelling, op, rest, spelled, rfl, ?_⟩)
        simp [scan, kByte, percentSign, found]
      | none =>
        have absent := (firstSpelling?_eq_none_iff dialect.spelled).1 found
        have clear : Scan.Clear dialect true tail := ⟨fun _ => absent, Bool.noConfusion⟩
        exact .inr (.inr ⟨true, tail, rfl, clear, scan_of_clear clear⟩)
    · have clear : Scan.Clear dialect false (b :: tail) := by
        refine ⟨Bool.noConfusion, fun _ c first => ?_⟩
        cases first
        exact ⟨percent, k⟩
      exact .inr (.inr ⟨false, b :: tail, rfl, clear, scan_of_clear clear⟩)

/-- If a standard directive does not begin with an operation, then neither does it with
more bytes behind it. -/
theorem Standard.clear_append {p : Standard} (clear : dialect.SpellsNothing p.text)
    (rest : Bytes) : Scan.Clear dialect p.kFlag (p.body ++ rest) := by
  obtain ⟨b, tail, eq, free⟩ := p.body_eq_cons
  rw [eq, List.cons_append]
  refine Scan.clear_of_not_reserved free fun flagged s member begins => ?_
  rw [← List.cons_append, ← eq] at begins
  have whole : p.body = (Length.written p.early ++ (p.flags ++ (p.digits ++ Length.written p.late)))
      ++ [p.letter.byte] := by
    simp [Standard.body, Standard.ending]
  rw [whole] at begins
  have inside := prefix_of_prefix_append begins (p.letter.byte_not_mem_spelling dialect s member)
  apply clear s member
  rw [← whole] at inside
  simpa [operationText, Standard.text, Standard.afterPercent, flagged] using inside

/-- **What a word stands for is read from it, whatever follows.** -/
theorem Denotes.scan {word : Bytes} {m : Meaning} (denotes : Denotes dialect word m) :
    ∃ text, word = percentSign :: text ∧
      ∀ rest, (scan dialect (text ++ rest)).read? = some (m, rest) := by
  cases denotes with
  | percent => exact ⟨[percentSign], rfl, fun rest => by simp [ExtendedFormat.scan, Scan.read?]⟩
  | @operation spelling op spelled =>
    refine ⟨kByte :: ascii spelling, rfl, fun rest => ?_⟩
    simp [ExtendedFormat.scan, Scan.read?, firstSpelling?_operation spelled rest, kByte,
      percentSign]
  | standard p greedy clear =>
    refine ⟨p.afterPercent, rfl, fun rest => ?_⟩
    have parts : p.afterPercent ++ rest = Scan.withFlag p.kFlag (p.body ++ rest) :=
      Scan.withFlag_append p.kFlag p.body rest
    rw [parts, scan_of_clear (Standard.clear_append clear rest), Scan.standard_text greedy rest]
    rfl

theorem denotes_of_scan {tail rest : Bytes} {m : Meaning}
    (read : (scan dialect tail).read? = some (m, rest)) :
    ∃ text, tail = text ++ rest ∧ Denotes dialect (percentSign :: text) m := by
  rcases scan_cases dialect tail with
    ⟨more, rfl, scanned⟩ | ⟨spelling, op, more, spelled, rfl, scanned⟩ |
      ⟨kFlag, bs, rfl, clear, scanned⟩
  · rw [scanned] at read
    cases read
    exact ⟨[percentSign], rfl, .percent⟩
  · rw [scanned] at read
    cases read
    exact ⟨kByte :: ascii spelling, rfl, .operation spelled⟩
  · rw [scanned] at read
    obtain ⟨p, rfl, greedy, rfl, rfl⟩ := Scan.of_standard_read read
    exact ⟨p.afterPercent, (Scan.withFlag_append p.kFlag p.body rest).symm,
      .standard p greedy (clear.spellsNothing (List.prefix_append _ _))⟩

end Words

end ExtendedFormat
