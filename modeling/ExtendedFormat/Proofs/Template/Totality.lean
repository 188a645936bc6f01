/-
# ExtendedFormat.Proofs.Template.Totality -- what compatible mode takes

Compatible mode reads a format up to the first directive that cannot be read, and keeps the
rest as it stands (`Covers`).  No format is too strange for it: whatever follows a percent
sign is a directive, or is malformed, or has a width of more digits than can be converted
(`HasOverlong`).  Only the last is refused, although a wide field is cut to `maxWidth` in
any case and the first three digits tell that it is (`Standard.width_eq_max`).
-/
import ExtendedFormat.Proofs.Directive.Overlong
import ExtendedFormat.Proofs.Number.Bounds
import ExtendedFormat.Proofs.Output.Modes
import ExtendedFormat.Proofs.Template.RoundTrip

namespace ExtendedFormat

set_option autoImplicit false

/-! ## Widths -/

namespace Standard

theorem width_le (p : Standard) : p.specification.width ≤ maxWidth := Nat.min_le_right _ _

/-- Three digits are more than any width needs. -/
theorem width_eq_max {p : Standard} (many : 2 < p.digits.length) :
    p.specification.width = maxWidth := by
  show min (decimalValue p.digits) maxWidth = maxWidth
  rw [← natOfDigits_eq]
  apply Nat.min_eq_right
  cases digits : p.digits with
  | nil => simp [digits] at many
  | cons b more =>
    have digit := p.areDigits b (by simp [digits])
    have nonzero : b ≠ 0x30 := by simpa [digits] using p.noLeadingZero
    have worth : b.toNat - 0x30 ≠ 0 := by
      intro none
      exact nonzero (UInt8.toNat_inj.mp (by show b.toNat = 0x30; omega))
    have two : 2 ≤ (more.map fun b => b.toNat - 0x30).length := by
      rw [digits, List.length_cons] at many
      rw [List.length_map]
      omega
    calc maxWidth ≤ 10 ^ 2 := by decide
      _ ≤ 10 ^ (more.map fun b => b.toNat - 0x30).length := Nat.pow_le_pow_right (by decide) two
      _ ≤ _ := Numeral.pow_le_natOfDigits _ worth

end Standard

namespace Template

variable {dialect : Dialect} {format tail : Bytes} {pieces : Template}

/-! ## What a template may be made of -/

/-- No directive begins the bytes. -/
def Malformed (dialect : Dialect) (bs : Bytes) : Prop :=
  ∀ word, Word dialect word → ¬ word <+: bs

/-- The template stands for the whole format, or for all before the first directive that is
malformed, and the rest is its last literal. -/
inductive Covers (dialect : Dialect) : Bytes → Template → Prop
  | whole {format : Bytes} {pieces : Template} (reads : Reads dialect 0 format pieces) :
      Covers dialect format pieces
  | cut {front tail : Bytes} {before : Template} (reads : Reads dialect 0 front before)
      (malformed : Malformed dialect (percentSign :: tail)) :
      Covers dialect (front ++ percentSign :: tail)
        (before.join [.literal (percentSign :: tail)])

/-- Behind a well-formed beginning stands a width of too many digits. -/
def HasOverlong (dialect : Dialect) (format : Bytes) : Prop :=
  ∃ (front rest : Bytes) (before : Template) (w : Overlong), Reads dialect 0 front before ∧
    w.IsGreedy ∧ dialect.SpellsNothing w.text ∧ format = front ++ (w.text ++ rest)

/-- A directive means what it says, and its width is within the limit: it is one of the
dialect's operations, or a standard directive, whose width is cut if it has three digits. -/
def Means (dialect : Dialect) (d : Directive) : Prop :=
  (∃ s ∈ dialect.spellings, d.text = operationText s.1 ∧ d.toSpecification = .ofLegacy s.2) ∨
  ∃ p : Standard, p.IsGreedy ∧ d.text = p.text ∧ d.toSpecification = p.specification ∧
    d.width ≤ maxWidth ∧ (2 < p.digits.length → d.width = maxWidth)

/-! ## Parts of the parse -/

theorem malformed_of_complaint {start : Nat} {e : FormatError}
    (said : (scan dialect tail).complaint? start tail = some e) :
    Malformed dialect (percentSign :: tail) := by
  intro word isWord begins
  obtain ⟨front, m, denotes, inside, -⟩ := isWord.denotes
  -- A word that begins the bytes is scanned as itself, whatever follows, so the scan there is
  -- no complaint.
  obtain ⟨text, rfl, reads⟩ := denotes.scan
  obtain ⟨rest, eq⟩ := inside.trans begins
  have same : text ++ rest = tail := (List.cons.inj eq).2
  have read := reads rest
  rw [same] at read
  cases scanned : scan dialect tail with
  | percent | complete | tooLong =>
    rw [scanned] at said
    cases said
  | wrong | truncated =>
    rw [scanned] at read
    cases read

theorem means_of_denotes {d : Directive}
    (denotes : Denotes dialect d.text (.directive d.toSpecification)) : Means dialect d := by
  generalize meaning : Meaning.directive d.toSpecification = m at denotes
  generalize word : d.text = text at denotes
  cases denotes with
  | percent => cases meaning
  | operation spelled =>
    injection meaning with same
    exact .inl ⟨_, spelled, word, same⟩
  | standard p greedy clear =>
    injection meaning with same
    refine .inr ⟨p, greedy, word, same, ?_, ?_⟩
    · rw [same]
      exact p.width_le
    · intro many
      rw [same]
      exact Standard.width_eq_max many

theorem directives_join_literal (p : Template) (bs : Bytes) :
    directives (p.join [.literal bs]) = directives p := by
  match p with
  | [] => rfl
  | [.literal more] => rfl
  | .literal more :: piece :: rest => exact directives_join_literal (piece :: rest) bs
  | .directive d :: rest =>
    rw [join_directive, directives_directive, directives_directive,
      directives_join_literal rest bs]

theorem Covers.means (covers : Covers dialect format pieces) :
    ∀ d ∈ directives pieces, Means dialect d := by
  cases covers with
  | whole reads =>
    intro d member
    exact means_of_denotes (reads.of_mem_directives d member).1
  | cut reads malformed =>
    intro d member
    rw [directives_join_literal] at member
    exact means_of_denotes (reads.of_mem_directives d member).1

theorem parse_overlong (overlong : HasOverlong dialect format) (mode : Mode) :
    parse dialect mode format = .error .numeralTooLong := by
  obtain ⟨front, rest, before, w, reads, greedy, clear, rfl⟩ := overlong
  have refused : scan dialect (w.afterPercent ++ rest) = .tooLong := greedy.scan clear rest
  rw [parse, reads.parseFrom_append, Overlong.text, List.cons_append, parseFrom_tooLong refused]
  rfl

/-- A format is well-formed, or has a first directive that is complained of or has an overlong
width. -/
theorem reads_or_stops (dialect : Dialect) (format : Bytes) :
    (∃ pieces, Reads dialect 0 format pieces) ∨
      (∃ front tail before said, format = front ++ percentSign :: tail ∧
        Reads dialect 0 front before ∧
        (scan dialect tail).complaint? front.length tail = some said) ∨
      HasOverlong dialect format := by
  cases strict : parse dialect .strict format with
  | ok pieces => exact .inl ⟨pieces, reads_of_strict strict⟩
  | error e =>
    obtain ⟨front, tail, before, rfl, reads, stops⟩ := stopsAt_of_strict strict
    rw [Nat.zero_add] at stops
    rcases stops with ⟨said, here, -⟩ | ⟨refused, -⟩
    · exact .inr (.inl ⟨front, tail, before, said, rfl, reads, here⟩)
    · obtain ⟨w, rest, greedy, clear, eq⟩ := scan_eq_tooLong_iff.mp refused
      exact .inr (.inr ⟨front, rest, before, w, reads, greedy, clear, by rw [eq]⟩)

/-- Parsing fails for an overlong width, or else with a complaint in strict mode. -/
theorem parse_error {mode : Mode} {e : Failure} (failed : parse dialect mode format = .error e) :
    HasOverlong dialect format ∧ e = .numeralTooLong ∨
      mode = .strict ∧ ∃ said, e = .format said := by
  rcases reads_or_stops dialect format with
    ⟨pieces, reads⟩ | ⟨front, tail, before, said, rfl, reads, here⟩ | overlong
  · rw [parse, reads.parseFrom_eq mode] at failed
    cases failed
  · rw [reads.parse_complaint here mode] at failed
    cases mode with
    | strict =>
      cases failed
      exact .inr ⟨rfl, said, rfl⟩
    | compatible => cases failed
  · rw [parse_overlong overlong mode] at failed
    cases failed
    exact .inl ⟨overlong, rfl⟩

theorem not_hasOverlong_of_parse {mode : Mode} (parsed : parse dialect mode format = .ok pieces) :
    ¬ HasOverlong dialect format := by
  intro overlong
  rw [parse_overlong overlong mode] at parsed
  cases parsed

/-- **Compatible mode takes every format without an overlong width.**  It gives a template,
which stands for the format as far as it is well-formed and holds the rest as a
literal, and whose directives have their widths cut to the limit.  A format with an overlong
width it refuses. -/
theorem compatible_takes (dialect : Dialect) (format : Bytes) :
    HasOverlong dialect format ∧
        parse dialect .compatible format = .error .numeralTooLong ∨
      ¬ HasOverlong dialect format ∧
        ∃ pieces, parse dialect .compatible format = .ok pieces ∧
          Covers dialect format pieces ∧ ∀ d ∈ directives pieces, Means dialect d := by
  rcases reads_or_stops dialect format with
    ⟨pieces, reads⟩ | ⟨front, tail, before, said, rfl, reads, here⟩ | overlong
  · have parsed : parse dialect .compatible format = .ok pieces := reads.parseFrom_eq .compatible
    have covers : Covers dialect format pieces := .whole reads
    exact .inr ⟨not_hasOverlong_of_parse parsed, pieces, parsed, covers, covers.means⟩
  · have parsed := reads.parse_complaint here .compatible
    have covers := Covers.cut reads (malformed_of_complaint here)
    exact .inr ⟨not_hasOverlong_of_parse parsed, _, parsed, covers, covers.means⟩
  · exact .inl ⟨overlong, parse_overlong overlong .compatible⟩

/-- A width of ones, one more of them than can be converted. -/
def onesOverlong : Overlong where
  kFlag := false
  early := none
  flags := []
  digits := List.replicate (Numeral.digitLimit + 1) 0x31
  next := 0x64
  areFlags := by simp
  areDigits := by
    intro b member
    rw [List.eq_of_mem_replicate member]
    decide
  noLeadingZero := by
    rw [List.replicate_succ, List.head?_cons]
    decide
  tooMany := by
    rw [List.length_replicate]
    exact Nat.lt_succ_self _
  noDigit := by decide

theorem onesOverlong_text : onesOverlong.text =
    percentSign :: 0x31 :: (List.replicate Numeral.digitLimit 0x31 ++ [0x64]) := by
  simp [onesOverlong, Overlong.text, Overlong.afterPercent, Overlong.body, Overlong.front,
    Length.written, List.replicate_succ]

theorem onesOverlong_isGreedy : onesOverlong.IsGreedy := by
  intro l begins
  obtain ⟨b, tail, eq, -, notDigit, -⟩ := l.bytes_eq_cons
  have front : onesOverlong.front = 0x31 :: List.replicate Numeral.digitLimit 0x31 := rfl
  rw [eq, front] at begins
  have same : b = 0x31 := (List.cons_prefix_cons.mp begins).1
  rw [same] at notDigit
  exact absurd notDigit (by decide)

theorem onesOverlong_spellsNothing (dialect : Dialect) :
    dialect.SpellsNothing onesOverlong.text := by
  intro s _ begins
  rw [onesOverlong_text, operationText, List.cons_prefix_cons, List.cons_prefix_cons] at begins
  exact absurd begins.2.1 (by decide)

/-- Neither dialect takes a width of 4301 ones before a `d`. -/
theorem compatible_refuses_ones :
    parse .modern .compatible onesOverlong.text = .error .numeralTooLong ∧
      parse .legacy .compatible onesOverlong.text = .error .numeralTooLong := by
  have overlong (dialect : Dialect) : HasOverlong dialect onesOverlong.text :=
    ⟨[], [], [], onesOverlong, .nil 0, onesOverlong_isGreedy,
      onesOverlong_spellsNothing dialect, by simp⟩
  exact ⟨parse_overlong (overlong .modern) .compatible,
    parse_overlong (overlong .legacy) .compatible⟩

end Template

end ExtendedFormat
