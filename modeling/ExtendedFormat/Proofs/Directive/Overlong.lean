/-
# ExtendedFormat.Proofs.Directive.Overlong -- widths that are not converted

A width of more than `Numeral.digitLimit` digits is refused as soon as a byte ends it, before
anything is known of that byte.  `Overlong` is a directive up to there, taken apart as
`Standard` takes apart a whole one.  The scanner refuses these beginnings and no others
(`scan_eq_tooLong_iff`); where the format ends with the digits, it takes the directive for one
that was cut off.
-/
import ExtendedFormat.Proofs.Directive.Reading

namespace ExtendedFormat

set_option autoImplicit false

/-- The beginning of a directive, up to the byte behind its width. -/
structure Overlong where
  kFlag : Bool
  early : Option Length
  flags : Bytes
  digits : Bytes
  /-- What ends the width. -/
  next : UInt8
  areFlags : ∀ b ∈ flags, b = 0x2D ∨ b = 0x30
  areDigits : ∀ b ∈ digits, 0x30 ≤ b.toNat ∧ b.toNat ≤ 0x39
  /-- A zero in front would be a flag. -/
  noLeadingZero : digits.head? ≠ some 0x30
  tooMany : Numeral.digitLimit < digits.length
  noDigit : ¬ (0x30 ≤ next.toNat ∧ next.toNat ≤ 0x39)

namespace Overlong

/-- The part that is read, after the `k`. -/
def front (w : Overlong) : Bytes := Length.written w.early ++ (w.flags ++ w.digits)

/-- What follows the percent sign and the `k`. -/
def body (w : Overlong) : Bytes := w.front ++ [w.next]

def afterPercent (w : Overlong) : Bytes := if w.kFlag then kByte :: w.body else w.body

def text (w : Overlong) : Bytes := percentSign :: w.afterPercent

/-- No longer modifier could have been read in the length's place. -/
def IsGreedy (w : Overlong) : Prop :=
  ∀ l : Length, l.bytes <+: w.front → l.bytes.length ≤ (Length.written w.early).length

/-! ## Parts -/

variable {w : Overlong} {dialect : Dialect}

theorem body_append (w : Overlong) (rest : Bytes) :
    w.body ++ rest = Length.written w.early ++ (w.flags ++ (w.digits ++ w.next :: rest)) := by
  simp [body, front]

theorem digits_eq_cons (w : Overlong) :
    ∃ b tail, w.digits = b :: tail ∧ Scan.isFlag b = false ∧ b ∉ reservedBytes := by
  cases eq : w.digits with
  | nil =>
    have many := w.tooMany
    rw [eq] at many
    cases many
  | cons b tail =>
    have digit := w.areDigits b (by simp [eq])
    have nonzero : b ≠ 0x30 := by simpa [eq] using w.noLeadingZero
    have notMinus : b ≠ 0x2D := by rintro rfl; simp at digit
    exact ⟨b, tail, rfl, by simp [Scan.isFlag, nonzero, notMinus], digit_not_reserved digit⟩

theorem body_eq_cons (w : Overlong) : ∃ b tail, w.body = b :: tail ∧ b ∉ reservedBytes := by
  unfold body front
  cases w.early with
  | some l =>
    obtain ⟨b, tail, eq, -, -, free⟩ := l.bytes_eq_cons
    exact ⟨b, _, by rw [Length.written, eq, List.cons_append, List.cons_append], free⟩
  | none =>
    cases flags : w.flags with
    | cons b tail => exact ⟨b, _, rfl, flag_not_reserved (w.areFlags b (by simp [flags]))⟩
    | nil =>
      obtain ⟨b, tail, eq, -, free⟩ := w.digits_eq_cons
      exact ⟨b, tail ++ [w.next], by simp [eq, Length.written], free⟩

/-- A few bytes in front of the whole are in front of the part that is read. -/
theorem prefix_front {bs rest : Bytes} (short : bs.length ≤ Numeral.digitLimit)
    (begins : bs <+: w.body ++ rest) : bs <+: w.front := by
  rw [body, List.append_assoc] at begins
  refine List.prefix_of_prefix_length_le begins (List.prefix_append _ _) ?_
  have many := w.tooMany
  simp only [front, List.length_append]
  omega

theorem IsGreedy.take_body (greedy : w.IsGreedy) (rest : Bytes) :
    Length.take (w.body ++ rest) = (w.early, w.flags ++ (w.digits ++ w.next :: rest)) := by
  refine Length.take_eq_iff.2 ⟨w.body_append rest, fun l begins => greedy l ?_⟩
  have short : l.bytes.length ≤ Numeral.digitLimit := by cases l <;> decide
  exact prefix_front short begins

/-! ## What the scanner makes of it -/

theorem IsGreedy.standard (greedy : w.IsGreedy) (rest : Bytes) :
    Scan.standard w.kFlag (w.body ++ rest) = .tooLong := by
  obtain ⟨b, tail, digitsEq, notFlag, -⟩ := w.digits_eq_cons
  have divided : Scan.Divided (w.flags ++ (w.digits ++ w.next :: rest)) w.flags w.digits
      (w.next :: rest) := by
    refine ⟨rfl, w.areFlags, w.areDigits, ?_, ?_⟩
    · simp [digitsEq, notFlag]
    · simpa [Scan.isDigit] using w.noDigit
  simp [Scan.standard_of_divided (greedy.take_body rest) divided, w.tooMany]

/-- An operation is too short to depend on what follows. -/
theorem clear_append (clear : dialect.SpellsNothing w.text) (rest : Bytes) :
    Scan.Clear dialect w.kFlag (w.body ++ rest) := by
  obtain ⟨b, tail, eq, free⟩ := w.body_eq_cons
  rw [eq, List.cons_append]
  refine Scan.clear_of_not_reserved free fun flagged s member begins => ?_
  rw [← List.cons_append, ← eq] at begins
  have short : ∀ s ∈ dialect.spellings, (ascii s.1).length ≤ Numeral.digitLimit := by
    cases dialect <;> decide
  apply clear s member
  rw [operationText, text, afterPercent, if_pos flagged, List.cons_prefix_cons,
    List.cons_prefix_cons]
  exact ⟨rfl, rfl, (prefix_front (short s member) begins).trans (List.prefix_append _ _)⟩

theorem IsGreedy.scan (greedy : w.IsGreedy) (clear : dialect.SpellsNothing w.text) (rest : Bytes) :
    ExtendedFormat.scan dialect (w.afterPercent ++ rest) = .tooLong := by
  have parts : w.afterPercent ++ rest = Scan.withFlag w.kFlag (w.body ++ rest) :=
    Scan.withFlag_append w.kFlag w.body rest
  rw [parts, scan_of_clear (clear_append clear rest), greedy.standard rest]

end Overlong

/-! ## All that the scanner refuses -/

namespace Scan

theorem conversion_ne_tooLong (kFlag : Bool) (flags digits : Bytes) (length : Option Length)
    (bs : Bytes) : Scan.conversion kFlag flags digits length bs ≠ .tooLong := by
  cases bs with
  | nil => simp [conversion]
  | cons b bs =>
    simp only [conversion]
    split <;> simp

theorem of_standard_tooLong {kFlag : Bool} {bs : Bytes}
    (refused : Scan.standard kFlag bs = .tooLong) :
    ∃ (w : Overlong) (rest : Bytes), w.kFlag = kFlag ∧ w.IsGreedy ∧ bs = w.body ++ rest := by
  obtain ⟨flags, digits, after, divided⟩ := exists_divided (Length.take bs).2
  obtain ⟨here, longest⟩ := Length.take_spec bs
  have taken : Length.take bs = ((Length.take bs).1, (Length.take bs).2) := rfl
  rw [standard_of_divided taken divided] at refused
  cases after with
  | nil => simp at refused
  | cons next rest =>
    split at refused
    · rename_i nothing
      simp at nothing
    split at refused
    · rename_i long
      have noDigit : ¬ (0x30 ≤ next.toNat ∧ next.toNat ≤ 0x39) := by
        simpa [isDigit] using divided.noDigit next rfl
      let w : Overlong := ⟨kFlag, (Length.take bs).1, flags, digits, next, divided.areFlags,
        divided.areDigits, divided.noLeadingZero, long, noDigit⟩
      have whole : bs = w.body ++ rest := by
        rw [w.body_append, ← divided.whole]
        exact here
      refine ⟨w, rest, rfl, fun l begins => longest l ?_, whole⟩
      rw [whole, Overlong.body, List.append_assoc]
      exact begins.trans (List.prefix_append _ _)
    · split at refused
      · exact absurd refused (conversion_ne_tooLong _ _ _ _ _)
      · exact absurd refused (conversion_ne_tooLong _ _ _ _ _)

end Scan

/-- **The scanner refuses the overlong widths and nothing else.** -/
theorem scan_eq_tooLong_iff {dialect : Dialect} {tail : Bytes} :
    scan dialect tail = .tooLong ↔
      ∃ (w : Overlong) (rest : Bytes), w.IsGreedy ∧ dialect.SpellsNothing w.text ∧
        percentSign :: tail = w.text ++ rest := by
  constructor
  · intro refused
    rcases scan_cases dialect tail with
      ⟨more, rfl, scanned⟩ | ⟨spelling, op, more, -, rfl, scanned⟩ |
        ⟨kFlag, bs, rfl, clear, scanned⟩
    · rw [scanned] at refused
      cases refused
    · rw [scanned] at refused
      cases refused
    · obtain ⟨w, rest, rfl, greedy, rfl⟩ := Scan.of_standard_tooLong (scanned.symm.trans refused)
      refine ⟨w, rest, greedy, clear.spellsNothing (List.prefix_append _ _), ?_⟩
      exact congrArg (percentSign :: ·) (Scan.withFlag_append w.kFlag w.body rest).symm
  · rintro ⟨w, rest, greedy, clear, eq⟩
    rw [Overlong.text, List.cons_append] at eq
    rw [(List.cons.inj eq).2]
    exact greedy.scan clear rest

end ExtendedFormat
