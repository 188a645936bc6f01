/-
# ExtendedFormat.Proofs.Template.Complaints -- directives cut off and directives gone wrong

Where no directive begins at a percent sign, either the format ends too early, and more bytes
would complete a directive (`Completable`), or there is a first byte after which nothing can
(`FirstHopeless`).  Strict mode tells the two apart by its complaint, which quotes all the bytes
that are left, or those up to that byte.

This fails inside `I64` behind flags or a width (`Standard.BreaksOff`): the `I` is taken for
a modifier, and the 6 for a byte gone wrong, although `4d` could still come
(`broken_off_length_unrecognized`).
-/
import ExtendedFormat.Proofs.Directive.Stray
import ExtendedFormat.Proofs.Template.Totality

namespace ExtendedFormat.Template

set_option autoImplicit false

variable {dialect : Dialect} {p : Standard} {b : UInt8}

/-! ## What can be completed -/

/-- With some bytes behind them, the bytes begin with a directive. -/
def Completable (dialect : Dialect) (bs : Bytes) : Prop :=
  ∃ more word, Word dialect word ∧ word <+: bs ++ more

/-- These are the bytes up to the first one after which nothing completes a directive. -/
structure FirstHopeless (dialect : Dialect) (quoted bs : Bytes) : Prop where
  front : quoted <+: bs
  hopeless : ¬ Completable dialect quoted
  first : ∀ bs', bs' <+: quoted → bs' ≠ quoted → Completable dialect bs'

theorem completable_of_prefix_word {bs word : Bytes} (isWord : Word dialect word)
    (begins : bs <+: word) : Completable dialect bs := by
  obtain ⟨more, rfl⟩ := begins
  exact ⟨more, _, isWord, List.prefix_refl _⟩

theorem completable_of_prefix_stem {bs : Bytes} (begins : bs <+: p.stem) :
    Completable dialect bs := by
  refine completable_of_prefix_word (.standard p) (begins.trans ?_)
  rw [p.text_eq_stem]
  exact List.prefix_append _ _

/-- A length `I` may yet become `I64`. -/
theorem completable_six (native : p.late = some .native) :
    Completable dialect (p.stem ++ [0x36]) := by
  have noEarly : p.early = none := p.oneLength.resolve_right (by simp [native])
  let q : Standard := { p with late := some .fixed64, oneLength := .inl noEarly }
  have stem : q.stem = p.stem ++ [0x36, 0x34] := by
    have core : q.core = p.core ++ [0x36, 0x34] := by
      simp [Standard.core, q, native, Length.written, Length.bytes, Length.letters, ascii]
    rw [Standard.stem, Standard.stemAfterPercent, core, ← Scan.withFlag_append]
    rfl
  have begins : p.stem ++ [0x36] <+: q.stem := by
    rw [stem, List.prefix_append_right_inj]
    exact ⟨[0x34], rfl⟩
  exact completable_of_prefix_stem begins

/-- The complaint about a stray byte quotes the bytes up to it. -/
theorem complaint_of_strays {rest : Bytes} (strays : p.Strays dialect b rest) (start : Nat) :
    let tail := p.stemAfterPercent ++ b :: rest
    (scan dialect tail).complaint? start tail = some (.unrecognized (p.stem ++ [b]) start) := by
  intro tail
  have quoted : tail.take (tail.length - rest.length) = p.stemAfterPercent ++ [b] := by
    have parts : tail = (p.stemAfterPercent ++ [b]) ++ rest := by simp [tail]
    rw [parts, List.length_append, Nat.add_sub_cancel, List.take_left']
    rfl
  rw [strays.scan, Scan.complaint?, quoted]
  rfl

/-- Nothing completes a directive after a byte that is stray whatever follows. -/
theorem not_completable_of_strays (strays : ∀ more, p.Strays dialect b more) :
    ¬ Completable dialect (p.stem ++ [b]) := by
  rintro ⟨more, word, isWord, begins⟩
  apply malformed_of_complaint (complaint_of_strays (strays more) 0) word isWord
  simpa [Standard.stem] using begins

theorem FirstHopeless.not_completable {quoted bs : Bytes}
    (hopeless : FirstHopeless dialect quoted bs) : ¬ Completable dialect bs := by
  rintro ⟨more, word, isWord, begins⟩
  obtain ⟨rest, rfl⟩ := hopeless.front
  exact hopeless.hopeless ⟨rest ++ more, word, isWord, List.append_assoc quoted rest more ▸ begins⟩

/-- All that stands before the stray byte can still be completed. -/
theorem firstHopeless_of_strays (strays : ∀ more, p.Strays dialect b more) (rest : Bytes) :
    FirstHopeless dialect (p.stem ++ [b]) (p.stem ++ b :: rest) := by
  refine ⟨⟨rest, by simp⟩, not_completable_of_strays strays, fun bs' begins shorter => ?_⟩
  rcases List.prefix_concat_iff.1 begins with same | inside
  · exact absurd same shorter
  · exact completable_of_prefix_stem inside

/-! ## What is complained of -/

/-- Whatever begins no directive is complained of, unless its width is overlong. -/
theorem stem_or_strays_of_malformed {tail : Bytes}
    (malformed : Malformed dialect (percentSign :: tail))
    (widths : ∀ w : Overlong, w.IsGreedy → ¬ w.stem <+: percentSign :: tail) :
    (∃ p : Standard, percentSign :: tail = p.stem ∧ scan dialect tail = .truncated) ∨
      ∃ (p : Standard) (b : UInt8) (rest : Bytes), percentSign :: tail = p.stem ++ b :: rest ∧
        p.Strays dialect b rest := by
  have unread (m : Meaning) (rest : Bytes) : (scan dialect tail).read? ≠ some (m, rest) := by
    intro read
    obtain ⟨text, rfl, denotes⟩ := denotes_of_scan read
    exact malformed _ denotes.word (List.prefix_append _ _)
  cases scanned : scan dialect tail with
  | percent | complete =>
    rw [scanned] at unread
    exact absurd rfl (unread _ _)
  | tooLong =>
    obtain ⟨w, rest, greedy, -, eq⟩ := scan_eq_tooLong_iff.mp scanned
    have begins : w.stem <+: percentSign :: tail := by
      rw [eq]
      exact w.stem_prefix_text.trans (List.prefix_append _ _)
    exact absurd begins (widths w greedy)
  | truncated =>
    rcases stem_of_scan_truncated scanned with ⟨p, eq⟩ | ⟨w, greedy, eq⟩
    · exact .inl ⟨p, eq, rfl⟩
    · exact absurd (eq ▸ List.prefix_refl _) (widths w greedy)
  | wrong rest =>
    obtain ⟨p, b, eq, strays⟩ := strays_of_scan scanned
    exact .inr ⟨p, b, rest, eq, strays⟩

/-- Inside `I64` the byte 6 is complained of. -/
theorem complaint_of_breaksOff {tail : Bytes} (malformed : Malformed dialect (percentSign :: tail))
    (breaks : p.BreaksOff (percentSign :: tail)) (start : Nat) :
    (scan dialect tail).complaint? start tail =
      some (.unrecognized (p.stem ++ [0x36]) start) := by
  obtain ⟨rest, eq⟩ := breaks.six
  have parts : percentSign :: tail = p.stem ++ 0x36 :: rest := by simp [← eq]
  obtain rfl : tail = p.stemAfterPercent ++ 0x36 :: rest := (List.cons.inj parts).2
  have noOperation (flagged : p.kFlag = true) :
      ∀ s ∈ dialect.spellings, ¬ ascii s.1 <+: p.core ++ 0x36 :: rest := by
    intro s member begins
    apply malformed _ (.operation member)
    rw [Standard.stemAfterPercent, Scan.withFlag_append, flagged, operationText,
      List.cons_prefix_cons]
    exact ⟨rfl, List.cons_prefix_cons.2 ⟨rfl, begins⟩⟩
  exact complaint_of_strays (breaks.strays noOperation) start

/-- Elsewhere the complaint says whether more bytes would help. -/
theorem complaint_of_unbroken {tail : Bytes} (malformed : Malformed dialect (percentSign :: tail))
    (widths : ∀ w : Overlong, w.IsGreedy → ¬ w.stem <+: percentSign :: tail)
    (unbroken : ∀ p : Standard, ¬ p.BreaksOff (percentSign :: tail)) (start : Nat) :
    Completable dialect (percentSign :: tail) ∧
        (scan dialect tail).complaint? start tail =
          some (.unterminated (percentSign :: tail) start) ∨
      ∃ quoted, FirstHopeless dialect quoted (percentSign :: tail) ∧
        (scan dialect tail).complaint? start tail = some (.unrecognized quoted start) := by
  rcases stem_or_strays_of_malformed malformed widths with
    ⟨p, eq, scanned⟩ | ⟨p, b, rest, eq, strays⟩
  · have completable : Completable dialect (percentSign :: tail) := by
      rw [eq]
      exact completable_of_prefix_stem (List.prefix_refl _)
    exact .inl ⟨completable, by rw [scanned]; rfl⟩
  · obtain rfl : tail = p.stemAfterPercent ++ b :: rest := (List.cons.inj eq).2
    have uncut : ¬ (p.late = some .native ∧ b = 0x36) := by
      rintro ⟨native, rfl⟩
      exact unbroken p (strays.breaksOff native)
    exact .inr ⟨_, firstHopeless_of_strays (strays.append uncut) rest,
      complaint_of_strays strays start⟩

/-- Strict mode fails with the complaint, if it comes to it. -/
theorem parse_strict_of_complaint {format : Bytes} {start : Nat} {e : FormatError}
    (sign : format[start]? = some percentSign)
    (said : (scan dialect (format.drop (start + 1))).complaint? start (format.drop (start + 1)) =
      some e) (before : Template)
    (parsed : parse dialect .strict (format.take start) = .ok before) :
    parse dialect .strict format = .error (.format e) := by
  have inside := (List.getElem?_eq_some_iff.1 sign).1
  have offset : (format.take start).length = start := by
    rw [List.length_take]
    omega
  have reads : Reads dialect 0 (format.take start) before := reads_of_strict parsed
  have said' : (scan dialect (format.drop (start + 1))).complaint? (format.take start).length
      (format.drop (start + 1)) = some e := by
    rw [offset]
    exact said
  have failed := reads.parse_complaint said' .strict
  rw [← drop_eq_cons sign, List.take_append_drop] at failed
  exact failed

/-- **A complaint tells whether a directive was cut off or has gone wrong.**  At a percent sign
where no directive begins, nor an overlong width, strict mode complains, if what stands before is
well-formed.  It calls the directive unterminated, and quotes all that is left, just if some more
bytes would complete one.  Else it calls it unrecognized, and quotes the bytes up to the first
one after which nothing completes a directive.  This does not cover bytes that break off inside
`I64` behind flags or a width: these are unrecognized up to the 6, which is one byte too few. -/
theorem complaint_tells_cut_from_wrong (dialect : Dialect) {format : Bytes} {start : Nat}
    (sign : format[start]? = some percentSign) (malformed : Malformed dialect (format.drop start))
    (widths : ∀ w : Overlong, w.IsGreedy → ¬ w.stem <+: format.drop start) :
    let left := format.drop start
    ∃ e, (scan dialect (format.drop (start + 1))).complaint? start (format.drop (start + 1)) =
        some e ∧
      (∀ before, parse dialect .strict (format.take start) = .ok before →
        parse dialect .strict format = .error (.format e)) ∧
      ((∀ p : Standard, ¬ p.BreaksOff left) →
        (e = .unterminated left start ↔ Completable dialect left) ∧
        (¬ Completable dialect left →
          ∃ quoted, FirstHopeless dialect quoted left ∧ e = .unrecognized quoted start)) ∧
      ∀ p : Standard, p.BreaksOff left →
        e = .unrecognized (p.stem ++ [0x36]) start ∧ Completable dialect (p.stem ++ [0x36]) := by
  intro left
  have here : left = percentSign :: format.drop (start + 1) := drop_eq_cons sign
  have strict {e : FormatError} := @parse_strict_of_complaint dialect format start e sign
  rw [drop_eq_cons sign] at malformed widths
  rw [here]
  by_cases unbroken : ∀ p : Standard, ¬ p.BreaksOff (percentSign :: format.drop (start + 1))
  · rcases complaint_of_unbroken malformed widths unbroken start with
      ⟨completable, said⟩ | ⟨quoted, hopeless, said⟩
    · exact ⟨_, said, strict said, fun _ => ⟨iff_of_true rfl completable, absurd completable⟩,
        fun p breaks => absurd breaks (unbroken p)⟩
    · exact ⟨_, said, strict said, fun _ => ⟨iff_of_false nofun hopeless.not_completable,
        fun _ => ⟨quoted, hopeless, rfl⟩⟩, fun p breaks => absurd breaks (unbroken p)⟩
  · obtain ⟨p, breaks⟩ := Classical.not_forall.1 unbroken
    have said := complaint_of_breaksOff malformed (Classical.not_not.1 breaks) start
    refine ⟨_, said, strict said, (absurd · unbroken), fun q breaks => ?_⟩
    have same := Option.some.inj (said.symm.trans (complaint_of_breaksOff malformed breaks start))
    exact ⟨same, completable_six breaks.native⟩

/-- Three `h` behind a width: the last one is what no directive has there. -/
theorem complaint_tells_cut_from_wrong_third_h :
    let format := ascii "a%5hhh!".toList
    let quoted := ascii "%5hhh".toList
    format[1]? = some percentSign ∧ Malformed .modern (format.drop 1) ∧
      (∀ w : Overlong, w.IsGreedy → ¬ w.stem <+: format.drop 1) ∧
      FirstHopeless .modern quoted (format.drop 1) ∧
      parse .modern .strict format = .error (.format (.unrecognized quoted 1)) := by
  intro format quoted
  have sign : format[1]? = some percentSign := rfl
  have malformed : Malformed .modern (format.drop 1) :=
    @malformed_of_complaint .modern (format.drop 2) 1 (.unrecognized quoted 1) rfl
  have widths (w : Overlong) (_ : w.IsGreedy) : ¬ w.stem <+: format.drop 1 :=
    w.not_stem_prefix (by decide)
  have unbroken (p : Standard) : ¬ p.BreaksOff (format.drop 1) := by
    intro breaks
    exact absurd (breaks.six.subset (by simp)) (by decide : (0x36 : UInt8) ∉ format.drop 1)
  obtain ⟨e, said, strict, whole, -⟩ :=
    complaint_tells_cut_from_wrong .modern sign malformed widths
  have here : e = .unrecognized quoted 1 := Option.some.inj said.symm
  subst here
  obtain ⟨cut, wrong⟩ := whole unbroken
  obtain ⟨_, hopeless, same⟩ := wrong fun completable => nomatch cut.mpr completable
  cases same
  have reads : Reads .modern 0 (format.take 1) [.literal (ascii ['a'])] :=
    .byte (by decide) (.nil 1)
  exact ⟨sign, malformed, widths, hopeless, strict _ (reads.parseFrom_eq .strict)⟩

/-- With `4d` behind it `%5I6` is a directive, but it is not called unterminated. -/
theorem broken_off_length_unrecognized :
    let left := ascii "%5I6".toList
    Malformed .modern left ∧ (∀ w : Overlong, w.IsGreedy → ¬ w.stem <+: left) ∧
      Word .modern (left ++ ascii ['4', 'd']) ∧ Completable .modern left ∧
      parse .modern .strict left = .error (.format (.unrecognized left 0)) := by
  intro left
  have said : (scan .modern (left.drop 1)).complaint? 0 (left.drop 1) =
      some (.unrecognized left 0) := rfl
  let p : Standard := ⟨false, none, [], [0x35], some .fixed64, .decimal, .inl rfl, by simp,
    by simp, by simp, by decide⟩
  have isWord : Word .modern (left ++ ascii ['4', 'd']) := .standard p
  exact ⟨malformed_of_complaint said, fun w _ => w.not_stem_prefix (by decide), isWord,
    completable_of_prefix_word isWord (List.prefix_append _ _), parseFrom_complaint said .strict⟩

end ExtendedFormat.Template
