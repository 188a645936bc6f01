/-
# ExtendedFormat.Proofs.Directive.Stray -- directives that are not finished

A directive may end before its letter, where the format ends, or go on with a byte that fits
nothing.  What stands before is in either case the stem of a standard directive, all of it but
the letter (`stem_of_scan_truncated`, `strays_of_scan`).

Whether a byte fits is settled when it is read: bytes behind it make no difference
(`Standard.Strays.append`), since what can be read there, cut short, can be read as well.  The one
exception is `I64`, which cut to `I6` is no modifier.  So a 6 behind an `I` is stray or not by
what follows (`Standard.BreaksOff`), if flags or a width come before; if not, it begins the width.
-/
import ExtendedFormat.Proofs.Directive.Overlong

namespace ExtendedFormat

set_option autoImplicit false

/-! ## Stems -/

namespace Standard

/-- From the length on, without the letter. -/
def core (p : Standard) : Bytes :=
  Length.written p.early ++ (p.flags ++ (p.digits ++ Length.written p.late))

/-- What follows the percent sign, without the letter. -/
def stemAfterPercent (p : Standard) : Bytes := Scan.withFlag p.kFlag p.core

def stem (p : Standard) : Bytes := percentSign :: p.stemAfterPercent

theorem text_eq_stem (p : Standard) : p.text = p.stem ++ [p.letter.byte] := by
  have parts : p.body = p.core ++ [p.letter.byte] := by simp [core, body, ending]
  rw [stem, stemAfterPercent, List.cons_append, Scan.withFlag_append, ← parts]
  rfl

end Standard

/-- The directive up to the end of its width. -/
def Overlong.stem (w : Overlong) : Bytes := percentSign :: Scan.withFlag w.kFlag w.front

theorem Overlong.stem_prefix_text (w : Overlong) : w.stem <+: w.text := by
  refine ⟨[w.next], ?_⟩
  rw [stem, List.cons_append, Scan.withFlag_append]
  rfl

/-- A stem with an overlong width does not fit into a few bytes. -/
theorem Overlong.not_stem_prefix {bs : Bytes} (short : bs.length ≤ Numeral.digitLimit)
    (w : Overlong) : ¬ w.stem <+: bs := by
  intro begins
  have many := w.tooMany
  have longer : w.digits.length ≤ w.stem.length := by
    rw [stem, Scan.withFlag, front]
    split <;> simp only [List.length_cons, List.length_append] <;> omega
  have fits := begins.length_le
  omega

/-! ## Spellings cut short -/

/-- Cut short, the spelling is a length modifier, or else `I6`. -/
def CutsToLength (spelling : Bytes) : Prop :=
  ∀ n < spelling.length, 0 < n →
    (∃ l ∈ Length.all, l.bytes = spelling.take n) ∨ spelling.take n = ascii ['I', '6']

instance (spelling : Bytes) : Decidable (CutsToLength spelling) :=
  inferInstanceAs (Decidable (∀ n < spelling.length, _))

theorem Length.cutsToLength (l : Length) : CutsToLength l.bytes := by
  cases l <;> decide

theorem Dialect.cutsToLength (dialect : Dialect) :
    ∀ s ∈ dialect.spellings, CutsToLength (ascii s.1) := by
  cases dialect <;> decide

section Taken

variable {o : Option Length} {ys rest : Bytes}

/-- Where the length modifier has been read, no spelling that begins there goes on behind the
bytes that follow it. -/
theorem CutsToLength.prefix_of_prefix_append {spelling : Bytes} (cuts : CutsToLength spelling)
    (taken : Length.take (Length.written o ++ (ys ++ rest)) = (o, ys ++ rest)) (behind : ys ≠ [])
    (uncut : ¬ (o = some .native ∧ ys = [0x36])) {more : Bytes}
    (begins : spelling <+: Length.written o ++ (ys ++ more)) :
    spelling <+: Length.written o ++ ys := by
  rw [← List.append_assoc] at begins
  by_cases short : spelling.length ≤ (Length.written o ++ ys).length
  · exact List.prefix_of_prefix_length_le begins (List.prefix_append _ _) short
  exfalso
  have inside : Length.written o ++ ys <+: spelling :=
    List.prefix_of_prefix_length_le (List.prefix_append _ _) begins (by omega)
  obtain ⟨-, longest⟩ := Length.take_eq_iff.1 taken
  have longer := List.length_pos_iff.2 behind
  have front (l : Length) (begins : l.bytes <+: Length.written o ++ ys) :
      l.bytes.length ≤ (Length.written o).length := by
    refine longest l (begins.trans ?_)
    rw [← List.append_assoc]
    exact List.prefix_append _ _
  have cut := cuts (Length.written o ++ ys).length (by omega) (by simp; omega)
  rw [← List.prefix_iff_eq_take.1 inside] at cut
  rcases cut with ⟨l, -, same⟩ | six
  · have bound := front l (same ▸ List.prefix_refl _)
    rw [same, List.length_append] at bound
    omega
  · have native := front .native (six ▸ by decide)
    apply uncut
    cases o with
    | none => cases native
    | some l =>
      cases l <;> simp [Length.written, Length.bytes, Length.letters, ascii] at six
      exact ⟨rfl, six⟩

theorem Length.take_append
    (taken : Length.take (Length.written o ++ (ys ++ rest)) = (o, ys ++ rest)) (behind : ys ≠ [])
    (uncut : ¬ (o = some .native ∧ ys = [0x36])) (more : Bytes) :
    Length.take (Length.written o ++ (ys ++ more)) = (o, ys ++ more) := by
  obtain ⟨-, longest⟩ := Length.take_eq_iff.1 taken
  refine Length.take_eq_iff.2 ⟨rfl, fun l begins => longest l ?_⟩
  have inside := l.cutsToLength.prefix_of_prefix_append taken behind uncut begins
  rw [← List.append_assoc]
  exact inside.trans (List.prefix_append _ _)

end Taken

/-! ## Stray bytes -/

namespace Scan

theorem Divided.append {bs flags digits xs rest : Bytes}
    (divided : Divided bs flags digits (xs ++ rest)) (some : xs ≠ []) (more : Bytes) :
    Divided (flags ++ (digits ++ (xs ++ more))) flags digits (xs ++ more) := by
  obtain ⟨b, tail, rfl⟩ := List.exists_cons_of_ne_nil some
  refine ⟨rfl, divided.areFlags, divided.areDigits, ?_, divided.noDigit⟩
  have noFlag := divided.noFlag
  cases digits with
  | nil => exact noFlag
  | cons d digits => exact noFlag

end Scan

namespace Standard

/-- The scanner comes upon this byte, and these behind it, where the directive needs its letter
or something before that, and the byte fits nothing. -/
structure Strays (dialect : Dialect) (p : Standard) (b : UInt8) (rest : Bytes) : Prop where
  noLetter : Letter.ofByte? b = none
  takenEarly : Length.take (Length.written p.early ++
    (p.flags ++ (p.digits ++ (Length.written p.late ++ b :: rest)))) =
      (p.early, p.flags ++ (p.digits ++ (Length.written p.late ++ b :: rest)))
  divided : Scan.Divided (p.flags ++ (p.digits ++ (Length.written p.late ++ b :: rest)))
    p.flags p.digits (Length.written p.late ++ b :: rest)
  takenLate : p.early = none →
    Length.take (Length.written p.late ++ b :: rest) = (p.late, b :: rest)
  clear : Scan.Clear dialect p.kFlag (p.core ++ b :: rest)

variable {dialect : Dialect} {p : Standard} {b : UInt8} {rest : Bytes}

theorem core_append (p : Standard) (rest : Bytes) : p.core ++ rest =
    Length.written p.early ++ (p.flags ++ (p.digits ++ (Length.written p.late ++ rest))) := by
  simp [core]

/-- What the scanner reads from the bytes is the stem. -/
theorem strays_of_read {bs unread : Bytes} (noLetter : Letter.ofByte? b = none)
    (taken : Length.take bs = (p.early, unread))
    (divided : Scan.Divided unread p.flags p.digits (Length.written p.late ++ b :: rest))
    (takenLate : p.early = none →
      Length.take (Length.written p.late ++ b :: rest) = (p.late, b :: rest))
    (clear : Scan.Clear dialect p.kFlag bs) :
    bs = p.core ++ b :: rest ∧ p.Strays dialect b rest := by
  obtain ⟨here, -⟩ := Length.take_eq_iff.1 taken
  have whole : bs = p.core ++ b :: rest := by rw [p.core_append, ← divided.whole, ← here]
  refine ⟨whole, noLetter, ?_, divided.whole ▸ divided, takenLate, whole ▸ clear⟩
  rw [← divided.whole, ← here]
  exact taken

theorem Strays.standard (strays : p.Strays dialect b rest) :
    Scan.standard p.kFlag (p.core ++ b :: rest) = .wrong rest := by
  have wrong (length : Option Length) :
      Scan.conversion p.kFlag p.flags p.digits length (b :: rest) = .wrong rest := by
    rw [Scan.conversion, strays.noLetter]
  rw [core_append, Scan.standard_of_divided strays.takenEarly strays.divided,
    if_neg (by simp), if_neg (Nat.not_lt.2 p.convertible)]
  split
  · rename_i early
    have noLate : p.late = none := p.oneLength.resolve_left (by intro none; simp [none] at early)
    rw [noLate]
    exact wrong _
  · rename_i early
    rw [strays.takenLate (Option.not_isSome_iff_eq_none.1 early)]
    exact wrong _

theorem Strays.scan (strays : p.Strays dialect b rest) :
    ExtendedFormat.scan dialect (p.stemAfterPercent ++ b :: rest) = .wrong rest := by
  have parts : p.stemAfterPercent ++ b :: rest = Scan.withFlag p.kFlag (p.core ++ b :: rest) :=
    Scan.withFlag_append p.kFlag p.core (b :: rest)
  rw [parts, scan_of_clear strays.clear, strays.standard]

/-- A stray byte is one whatever follows it, unless it is the 6 of `I64`. -/
theorem Strays.append (strays : p.Strays dialect b rest)
    (uncut : ¬ (p.late = some .native ∧ b = 0x36)) (more : Bytes) : p.Strays dialect b more := by
  let behind := p.flags ++ (p.digits ++ (Length.written p.late ++ [b]))
  have taken : Length.take (Length.written p.early ++ (behind ++ rest)) =
      (p.early, behind ++ rest) := by
    simpa [behind] using strays.takenEarly
  have some : behind ≠ [] := by simp [behind]
  -- An early `I` is not followed by a 6 alone, as that would be a digit of the width.
  have early : ¬ (p.early = .some .native ∧ behind = [0x36]) := by
    rintro ⟨native, six⟩
    have noLate : p.late = none := p.oneLength.resolve_left (by simp [native])
    have last : b = 0x36 := by simpa [behind] using congrArg List.getLast? six
    have noDigit := strays.divided.noDigit b (by simp [noLate, Length.written])
    rw [last] at noDigit
    cases noDigit
  have divided : Scan.Divided (p.flags ++ (p.digits ++ ((Length.written p.late ++ [b]) ++ rest)))
      p.flags p.digits ((Length.written p.late ++ [b]) ++ rest) := by
    simpa using strays.divided
  refine ⟨strays.noLetter, ?_, ?_, fun noEarly => ?_, fun flagged s member begins => ?_,
    fun unflagged c first => strays.clear.noSign unflagged c ?_⟩
  · simpa [behind] using Length.take_append taken some early more
  · simpa using divided.append (by simp) more
  · exact @Length.take_append p.late [b] rest (strays.takenLate noEarly) (by simp)
      (by simpa using uncut) more
  · have whole (rest : Bytes) :
        p.core ++ b :: rest = Length.written p.early ++ (behind ++ rest) := by
      simp [core_append, behind]
    rw [whole] at begins
    have inside := (dialect.cutsToLength s member).prefix_of_prefix_append taken some early begins
    apply strays.clear.noOperation flagged s member
    rw [whole, ← List.append_assoc]
    exact inside.trans (List.prefix_append _ _)
  · revert first
    cases p.core <;> exact id

end Standard

namespace Scan

theorem of_conversion_wrong {kFlag : Bool} {flags digits bs rest : Bytes} {length : Option Length}
    (wrong : Scan.conversion kFlag flags digits length bs = .wrong rest) :
    ∃ b, bs = b :: rest ∧ Letter.ofByte? b = none := by
  cases bs with
  | nil => cases wrong
  | cons b bs =>
    simp only [conversion] at wrong
    split at wrong
    · cases wrong
    · cases wrong
      exact ⟨b, rfl, by assumption⟩

theorem of_conversion_truncated {kFlag : Bool} {flags digits bs : Bytes} {length : Option Length}
    (truncated : Scan.conversion kFlag flags digits length bs = .truncated) : bs = [] := by
  cases bs with
  | nil => rfl
  | cons b bs =>
    simp only [conversion] at truncated
    split at truncated <;> cases truncated

/-- The stem that the scanner has read where it comes upon a stray byte. -/
theorem of_standard_wrong {dialect : Dialect} {kFlag : Bool} {bs rest : Bytes}
    (wrong : Scan.standard kFlag bs = .wrong rest) (clear : Scan.Clear dialect kFlag bs) :
    ∃ (p : Standard) (b : UInt8), p.kFlag = kFlag ∧ bs = p.core ++ b :: rest ∧
      p.Strays dialect b rest := by
  obtain ⟨flags, digits, after, divided⟩ := exists_divided (Length.take bs).2
  have taken : Length.take bs = ((Length.take bs).1, (Length.take bs).2) := rfl
  rw [standard_of_divided taken divided] at wrong
  split at wrong
  · cases wrong
  split at wrong
  · cases wrong
  rename_i short
  split at wrong
  · rename_i early
    obtain ⟨b, rfl, noLetter⟩ := of_conversion_wrong wrong
    let p : Standard := ⟨kFlag, (Length.take bs).1, flags, digits, none, .decimal, .inr rfl,
      divided.areFlags, divided.areDigits, divided.noLeadingZero, Nat.le_of_not_lt short⟩
    have takenLate (noEarly : (Length.take bs).1 = none) :
        Length.take (b :: rest) = (none, b :: rest) := by
      rw [noEarly] at early
      cases early
    exact ⟨p, b, rfl, p.strays_of_read noLetter taken divided takenLate clear⟩
  · rename_i noEarly
    obtain ⟨b, read, noLetter⟩ := of_conversion_wrong wrong
    let p : Standard := ⟨kFlag, none, flags, digits, (Length.take after).1, .decimal, .inl rfl,
      divided.areFlags, divided.areDigits, divided.noLeadingZero, Nat.le_of_not_lt short⟩
    rw [Option.not_isSome_iff_eq_none.1 noEarly] at taken
    have takenAfter : Length.take after = ((Length.take after).1, b :: rest) := by
      rw [← read]
    obtain ⟨parts, -⟩ := Length.take_eq_iff.1 takenAfter
    exact ⟨p, b, rfl, p.strays_of_read noLetter taken (parts ▸ divided)
      (fun _ => parts ▸ takenAfter) clear⟩

/-- Where the bytes end too early they are a stem, unless the width is overlong. -/
theorem of_standard_truncated {kFlag : Bool} {bs : Bytes}
    (truncated : Scan.standard kFlag bs = .truncated) :
    (∃ p : Standard, p.kFlag = kFlag ∧ bs = p.core) ∨
      ∃ w : Overlong, w.kFlag = kFlag ∧ w.IsGreedy ∧ bs = w.front := by
  obtain ⟨flags, digits, after, divided⟩ := exists_divided (Length.take bs).2
  have taken : Length.take bs = ((Length.take bs).1, (Length.take bs).2) := rfl
  obtain ⟨here, longest⟩ := Length.take_spec bs
  rw [standard_of_divided taken divided] at truncated
  rw [divided.whole] at here
  by_cases long : Numeral.digitLimit < digits.length
  · cases after with
    | cons b after => simp [long] at truncated
    | nil =>
      let w : Overlong := ⟨kFlag, (Length.take bs).1, flags, digits, Letter.byte .decimal,
        divided.areFlags, divided.areDigits, divided.noLeadingZero, long, by decide⟩
      have whole : bs = w.front := by simpa [w, Overlong.front] using here
      exact .inr ⟨w, rfl, fun l begins => longest l (whole ▸ begins), whole⟩
  have short := Nat.le_of_not_lt long
  refine .inl ?_
  by_cases early : (Length.take bs).1.isSome
  · have ended : after = [] := by
      cases after with
      | nil => rfl
      | cons b after =>
        simp only [List.isEmpty_cons, Bool.false_eq_true, if_false, if_neg long, if_pos early]
          at truncated
        exact of_conversion_truncated truncated
    exact ⟨⟨kFlag, (Length.take bs).1, flags, digits, none, .decimal, .inr rfl, divided.areFlags,
      divided.areDigits, divided.noLeadingZero, short⟩, rfl, by
        simpa [Standard.core, Length.written, ended] using here⟩
  · have ended : (Length.take after).2 = [] := by
      cases after with
      | nil => rfl
      | cons b after =>
        simp only [List.isEmpty_cons, Bool.false_eq_true, if_false, if_neg long, if_neg early]
          at truncated
        exact of_conversion_truncated truncated
    obtain ⟨parts, -⟩ := Length.take_spec after
    rw [Option.not_isSome_iff_eq_none.1 early, parts, ended, List.append_nil] at here
    exact ⟨⟨kFlag, none, flags, digits, (Length.take after).1, .decimal, .inl rfl,
      divided.areFlags, divided.areDigits, divided.noLeadingZero, short⟩, rfl, here⟩

end Scan

/-! ## What the scanner stops at -/

theorem strays_of_scan {dialect : Dialect} {tail rest : Bytes}
    (wrong : scan dialect tail = .wrong rest) :
    ∃ (p : Standard) (b : UInt8), percentSign :: tail = p.stem ++ b :: rest ∧
      p.Strays dialect b rest := by
  rcases scan_cases dialect tail with
    ⟨more, rfl, scanned⟩ | ⟨spelling, op, more, -, rfl, scanned⟩ |
      ⟨kFlag, bs, rfl, clear, scanned⟩
  · rw [scanned] at wrong
    cases wrong
  · rw [scanned] at wrong
    cases wrong
  · obtain ⟨p, b, rfl, rfl, strays⟩ := Scan.of_standard_wrong (scanned.symm.trans wrong) clear
    refine ⟨p, b, ?_, strays⟩
    exact congrArg (percentSign :: ·) (Scan.withFlag_append p.kFlag p.core (b :: rest)).symm

/-! ## Modifiers cut short -/

namespace Standard

/-- Behind flags or a width, which make `I` a modifier and the digits behind it none, the bytes
break off inside `I64`. -/
structure BreaksOff (p : Standard) (bs : Bytes) : Prop where
  native : p.late = some .native
  placed : p.flags ++ p.digits ≠ []
  six : p.stem ++ [0x36] <+: bs
  noFour : ¬ p.stem ++ [0x36, 0x34] <+: bs

variable {dialect : Dialect} {p : Standard} {rest : Bytes}

theorem Strays.breaksOff (strays : p.Strays dialect 0x36 rest) (native : p.late = some .native) :
    p.BreaksOff (p.stem ++ 0x36 :: rest) := by
  have noEarly : p.early = none := p.oneLength.resolve_right (by simp [native])
  obtain ⟨-, longestEarly⟩ := Length.take_eq_iff.1 strays.takenEarly
  obtain ⟨-, longestLate⟩ := Length.take_eq_iff.1 (strays.takenLate noEarly)
  rw [noEarly] at longestEarly
  rw [native] at longestEarly longestLate
  refine ⟨native, fun unplaced => ?_, by simp, fun four => ?_⟩
  · obtain ⟨noFlags, noDigits⟩ := List.append_eq_nil_iff.1 unplaced
    have fits := longestEarly .native (by simp [noFlags, noDigits, Length.written])
    cases fits
  · rw [List.prefix_append_right_inj, List.cons_prefix_cons] at four
    have fits := longestLate .fixed64 (by
      simpa [Length.written, Length.bytes, Length.letters, ascii] using four.2)
    exact absurd fits (by decide)

/-- There the scanner has taken the `I` for the whole modifier, and the 6 is stray. -/
theorem BreaksOff.strays (breaks : p.BreaksOff (p.stem ++ 0x36 :: rest))
    (noOperation : p.kFlag = true →
      ∀ s ∈ dialect.spellings, ¬ ascii s.1 <+: p.core ++ 0x36 :: rest) :
    p.Strays dialect 0x36 rest := by
  have noEarly : p.early = none := p.oneLength.resolve_right (by simp [breaks.native])
  have written : Length.written p.late = [0x49] := by rw [breaks.native]; rfl
  refine ⟨rfl, ?_, ?_, fun _ => ?_, ?_⟩
  · rw [noEarly]
    exact Scan.take_of_marks p breaks.placed _
  · have divided := Scan.divided_standard p []
    rw [ending, List.append_assoc] at divided
    exact divided.append (by simp [written]) _
  · refine Length.take_eq_iff.2 ⟨rfl, fun l begins => ?_⟩
    have noFour := breaks.noFour
    rw [List.prefix_append_right_inj] at noFour
    rw [written] at begins ⊢
    cases l <;> simp [Length.bytes, Length.letters, ascii] at begins ⊢
    exact noFour (by simpa using begins)
  · obtain ⟨b, tail, eq⟩ := List.exists_cons_of_ne_nil breaks.placed
    have front : p.core ++ 0x36 :: rest =
        b :: (tail ++ (Length.written p.late ++ 0x36 :: rest)) := by
      rw [core_append, noEarly, ← List.append_assoc p.flags, eq]
      rfl
    have free : b ∉ reservedBytes := by
      have member : b ∈ p.flags ++ p.digits := by simp [eq]
      rcases List.mem_append.1 member with flag | digit
      · exact flag_not_reserved (p.areFlags b flag)
      · exact digit_not_reserved (p.areDigits b digit)
    rw [front] at noOperation ⊢
    exact Scan.clear_of_not_reserved free noOperation

end Standard

/-- Where the format ends in a directive, what there is of it is a stem, unless the width is
overlong. -/
theorem stem_of_scan_truncated {dialect : Dialect} {tail : Bytes}
    (truncated : scan dialect tail = .truncated) :
    (∃ p : Standard, percentSign :: tail = p.stem) ∨
      ∃ w : Overlong, w.IsGreedy ∧ percentSign :: tail = w.stem := by
  rcases scan_cases dialect tail with
    ⟨more, rfl, scanned⟩ | ⟨spelling, op, more, -, rfl, scanned⟩ | ⟨kFlag, bs, rfl, -, scanned⟩
  · rw [scanned] at truncated
    cases truncated
  · rw [scanned] at truncated
    cases truncated
  · rcases Scan.of_standard_truncated (scanned.symm.trans truncated) with
      ⟨p, rfl, rfl⟩ | ⟨w, rfl, greedy, rfl⟩
    · exact .inl ⟨p, rfl⟩
    · exact .inr ⟨w, greedy, rfl⟩

end ExtendedFormat
