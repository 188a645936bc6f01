/-
# ExtendedFormat.Proofs.Output.Dialects -- where the two dialects part

Four operations of the legacy dialect only group a number's digits, as the modern dialect
does for the `k` flag and a letter: `%kd`, `%ku`, `%kI64d` and `%kI64u` stand for other
specifications in the two, and do the same work (`field_twin`).  Four more spellings have
meanings that differ (`Dialect.disputed`).  All others mean the same, or mean nothing.

A format in which no disputed word stands is therefore read alike up to such twins, and
complained of in the same words (`parseFrom_twin`), and calls have the same outcome in
both dialects (`dialects_agree`).
-/
import ExtendedFormat.Proofs.Directive.Field
import ExtendedFormat.Proofs.Output.Run

namespace ExtendedFormat

set_option autoImplicit false

/-! ## Operations that a flag stands for -/

/-- The length and letter that ask for the same work behind a `k` flag. -/
def LegacyOp.asFlag? : LegacyOp → Option (Option Length × Letter)
  | .grouped => some (none, .decimal)
  | .groupedUnsigned => some (none, .unsigned)
  | .grouped64 => some (some .fixed64, .decimal)
  | .groupedUnsigned64 => some (some .fixed64, .unsigned)
  | _ => none

/-- A number grouped by the `k` flag, with no other flag and no width. -/
def Specification.flagged (length : Option Length) (l : Letter) : Specification :=
  ⟨.standard l, true, length, false, false, 0⟩

/-- The same specification, or an operation and the flag that stands for it. -/
inductive Specification.Twin : Specification → Specification → Prop
  | same (s : Specification) : Twin s s
  | flag {op : LegacyOp} {length : Option Length} {l : Letter}
      (work : op.asFlag? = some (length, l)) : Twin (.ofLegacy op) (.flagged length l)

/-- Words that mean one thing in the legacy dialect and another, if anything, in the
modern one. -/
def Dialect.disputed : List Bytes :=
  [ascii ['%', 'k', 's'], ascii ['%', 'k', 'S'], ascii ['%', 'k', 'l', 's'],
    ascii ['%', 'k', 't']]

/-- No disputed word stands anywhere in the bytes. -/
def Dialect.Undisputed (bs : Bytes) : Prop := ∀ word ∈ Dialect.disputed, ¬ word <:+: bs

theorem Dialect.Undisputed.suffix {bs rest : Bytes} (clear : Dialect.Undisputed bs)
    (suffix : rest <:+ bs) : Dialect.Undisputed rest :=
  fun word member inside => clear word member (inside.trans suffix.isInfix)

/-- A legacy operation is in the modern dialect, too, or it is disputed, or it is spelled
like the flag that stands for it. -/
theorem Dialect.legacy_spelling : ∀ s ∈ Dialect.legacy.spellings,
    s ∈ Dialect.modern.spellings ∨ operationText s.1 ∈ Dialect.disputed ∨
      (s.2.asFlag?.map fun flag => Length.written flag.1 ++ [flag.2.byte]) = some (ascii s.1) := by
  decide

theorem Dialect.modern_subset_legacy : Dialect.modern.spellings ⊆ Dialect.legacy.spellings := by
  decide

/-- In the modern dialect the word is the flag with its letter. -/
theorem LegacyOp.denotes_flagged {op : LegacyOp} {length : Option Length} {l : Letter}
    (work : op.asFlag? = some (length, l)) :
    Denotes .modern (percentSign :: kByte :: (Length.written length ++ [l.byte]))
      (.directive (.flagged length l)) := by
  let p : Standard := ⟨true, length, [], [], none, l, .inr rfl, by simp, by simp, by simp, by simp⟩
  have greedy : p.IsGreedy := by
    cases op <;> cases work
    · exact Standard.isGreedy_of_early_none rfl
    · exact Standard.isGreedy_of_early_none rfl
    · exact Standard.isGreedy_of_early_fixed64 rfl
    · exact Standard.isGreedy_of_early_fixed64 rfl
  have spec : p.specification = .flagged length l := by
    simp [p, Standard.specification, Standard.length, Specification.flagged,
      Standard.width, decimalValue]
  exact spec ▸ .standard p greedy (Dialect.modern_spellsNothing p)

/-! ## Reading a directive -/

theorem Denotes.scan_complete {dialect : Dialect} {text : Bytes} {spec : Specification}
    (denotes : Denotes dialect (percentSign :: text) (.directive spec)) (rest : Bytes) :
    ExtendedFormat.scan dialect (text ++ rest) = .complete spec rest := by
  obtain ⟨_, same, reads⟩ := denotes.scan
  cases same
  exact Template.scan_eq_complete (reads rest)

/-- An operation of the legacy dialect that is not disputed is in the modern one, perhaps as
its twin. -/
theorem scan_modern_of_operation {spelling : List Char} {op : LegacyOp} {rest : Bytes}
    (spelled : (spelling, op) ∈ Dialect.legacy.spellings)
    (clear : Dialect.Undisputed (operationText spelling ++ rest)) :
    ∃ spec, scan .modern (kByte :: ascii spelling ++ rest) = .complete spec rest ∧
      (Specification.ofLegacy op).Twin spec := by
  rcases Dialect.legacy_spelling _ spelled with shared | disputed | spelledAlike
  · exact ⟨_, Denotes.scan_complete (.operation shared) rest, .same _⟩
  · exact absurd (List.prefix_append _ _).isInfix (clear _ disputed)
  · obtain ⟨⟨length, l⟩, work, same⟩ := Option.map_eq_some_iff.1 spelledAlike
    have modern := (LegacyOp.denotes_flagged work).scan_complete rest
    rw [same] at modern
    exact ⟨_, modern, .flag work⟩

/-- Where no word is disputed, both dialects make the same of what follows a percent sign,
or they read twins from the same bytes. -/
theorem scan_twin {tail : Bytes} (clear : Dialect.Undisputed (percentSign :: tail)) :
    scan .modern tail = scan .legacy tail ∨
      ∃ spec spec' rest, scan .legacy tail = .complete spec rest ∧
        scan .modern tail = .complete spec' rest ∧ spec.Twin spec' := by
  cases tail with
  | nil => exact .inl rfl
  | cons b tail =>
    by_cases k : b = kByte
    · subst k
      cases found : firstSpelling? Dialect.legacy.spellings tail with
      | none =>
        have absent := (firstSpelling?_eq_none_iff Dialect.legacy.spelled).1 found
        have found' : firstSpelling? Dialect.modern.spellings tail = none :=
          (firstSpelling?_eq_none_iff Dialect.modern.spelled).2 fun s member =>
            absent s (Dialect.modern_subset_legacy member)
        left
        simp [scan, found, found', kByte, percentSign]
      | some read =>
        obtain ⟨op, rest⟩ := read
        obtain ⟨spelling, spelled, rfl, -⟩ :=
          longest_of_firstSpelling? Dialect.legacy.spelled found
        obtain ⟨spec, modern, twin⟩ := scan_modern_of_operation spelled clear
        exact .inr ⟨_, spec, rest, Denotes.scan_complete (.operation spelled) rest, modern, twin⟩
    · -- The dialects have different spellings behind a `k` only.
      left
      have notK : ¬ b = 0x6B := k
      simp only [scan, if_neg notK]

theorem scan_modern_of_incomplete {tail : Bytes} {scanned : Scan}
    (clear : Dialect.Undisputed (percentSign :: tail)) (legacy : scan .legacy tail = scanned)
    (incomplete : ∀ spec rest, scanned ≠ .complete spec rest) : scan .modern tail = scanned := by
  rcases scan_twin clear with same | ⟨spec, -, rest, complete, -⟩
  · exact same.trans legacy
  · exact absurd (legacy.symm.trans complete) (incomplete spec rest)

theorem scan_modern_of_complete {tail rest : Bytes} {spec : Specification}
    (clear : Dialect.Undisputed (percentSign :: tail))
    (legacy : scan .legacy tail = .complete spec rest) :
    ∃ spec', scan .modern tail = .complete spec' rest ∧ spec.Twin spec' := by
  rcases scan_twin clear with same | ⟨_, spec', _, complete, modern, twin⟩
  · exact ⟨spec, same.trans legacy, .same spec⟩
  · cases legacy.symm.trans complete
    exact ⟨spec', modern, twin⟩

/-! ## Reading a format -/

namespace Template

/-- Piece by piece the same literals, and directives of twin specifications with the same
text in the same place. -/
inductive Twin : Template → Template → Prop
  | nil : Twin [] []
  | literal (bs : Bytes) {p q : Template} (rest : Twin p q) :
      Twin (.literal bs :: p) (.literal bs :: q)
  | directive {spec spec' : Specification} (twin : spec.Twin spec') (start : Nat) (text : Bytes)
      {p q : Template} (rest : Twin p q) :
      Twin (.directive ⟨spec, start, text⟩ :: p) (.directive ⟨spec', start, text⟩ :: q)

theorem Twin.refl (p : Template) : Twin p p := by
  induction p with
  | nil => exact .nil
  | cons piece rest ih =>
    cases piece with
    | literal bs => exact .literal bs ih
    | directive d => exact .directive (.same _) d.start d.text ih

theorem Twin.consLiteral {p q : Template} (twin : Twin p q) (bs : Bytes) :
    Twin (consLiteral bs p) (consLiteral bs q) := by
  cases twin with
  | nil => exact .literal bs .nil
  | literal more rest => exact .literal (bs ++ more) rest
  | directive twin start text rest => exact .literal bs (.directive twin start text rest)

/-- Twin templates, or the same failure. -/
inductive TwinResults : Except Failure Template → Except Failure Template → Prop
  | ok {p q : Template} (twin : Twin p q) : TwinResults (.ok p) (.ok q)
  | error (e : Failure) : TwinResults (.error e) (.error e)

theorem TwinResults.refl (r : Except Failure Template) : TwinResults r r := by
  cases r with
  | ok p => exact .ok (.refl p)
  | error e => exact .error e

theorem TwinResults.map {r r' : Except Failure Template} {f f' : Template → Template}
    (results : TwinResults r r') (keeps : ∀ p q, Twin p q → Twin (f p) (f' q)) :
    TwinResults (r.map f) (r'.map f') := by
  cases results with
  | ok twin => exact .ok (keeps _ _ twin)
  | error e => exact .error e

/-- A format without disputed words is read alike. -/
theorem parseFrom_twin {mode : Mode} {start : Nat} {bs : Bytes} (clear : Dialect.Undisputed bs) :
    TwinResults (parseFrom .legacy mode start bs) (parseFrom .modern mode start bs) := by
  fun_induction parseFrom .legacy mode start bs with
  | case1 start =>
    rw [parseFrom_nil]
    exact .ok .nil
  | case2 start b tail plain ih =>
    rw [parseFrom_byte tail plain]
    exact (ih (clear.suffix (List.suffix_cons b tail))).map fun _ _ twin => twin.consLiteral [b]
  | case3 start b tail sign rest scanned ih =>
    obtain rfl : b = percentSign := Classical.not_not.1 sign
    have suffix : rest <:+ percentSign :: tail :=
      eq_of_scan_percent scanned ▸ (List.suffix_cons _ rest).trans (List.suffix_cons _ _)
    rw [parseFrom_sign, scan_modern_of_incomplete clear scanned fun _ _ => Scan.noConfusion]
    exact (ih (clear.suffix suffix)).map fun _ _ twin => twin.consLiteral [percentSign]
  | case4 start b tail sign spec rest scanned text =>
    rename_i ih
    obtain rfl : b = percentSign := Classical.not_not.1 sign
    have suffix : rest <:+ percentSign :: tail := ⟨_, (denotes_of_scan_complete scanned).1.symm⟩
    obtain ⟨spec', scanned', twin⟩ := scan_modern_of_complete clear scanned
    rw [parseFrom_sign, scanned']
    exact (ih (clear.suffix suffix)).map fun _ _ rest => .directive twin start text rest
  | case5 start b tail sign rest scanned =>
    obtain rfl : b = percentSign := Classical.not_not.1 sign
    rw [parseFrom_sign, scan_modern_of_incomplete clear scanned fun _ _ => Scan.noConfusion]
    exact .refl _
  | case6 start b tail sign scanned =>
    obtain rfl : b = percentSign := Classical.not_not.1 sign
    rw [parseFrom_sign, scan_modern_of_incomplete clear scanned fun _ _ => Scan.noConfusion]
    exact .refl _
  | case7 start b tail sign scanned =>
    obtain rfl : b = percentSign := Classical.not_not.1 sign
    rw [parseFrom_sign, scan_modern_of_incomplete clear scanned fun _ _ => Scan.noConfusion]
    exact .refl _

end Template

/-! ## Printing -/

variable {cb : Callbacks}

/-- An operation and the flag that stands for it read the same argument, print the same and
fail with the same words. -/
theorem content_flagged {op : LegacyOp} {length : Option Length} {l : Letter}
    (work : op.asFlag? = some (length, l)) (start : Nat) (text : Bytes) (c : Cursor) :
    Directive.content cb ⟨.ofLegacy op, start, text⟩ c =
      Directive.content cb ⟨.flagged length l, start, text⟩ c := by
  cases op <;> cases work <;> rfl

theorem field_twin {spec spec' : Specification} (twin : spec.Twin spec') (start : Nat)
    (text : Bytes) (c : Cursor) :
    Directive.field cb ⟨spec, start, text⟩ c = Directive.field cb ⟨spec', start, text⟩ c := by
  cases twin with
  | same => rfl
  | @flag op length l work =>
    -- The two are filled by different rules, but neither has a width.
    have narrow (fill : Fill) : pad 0 fill = id := funext (pad_zero fill)
    rw [Directive.field_eq, Directive.field_eq, content_flagged work]
    simp only [Specification.ofLegacy, Specification.flagged, narrow]

namespace Template

theorem runFrom_twin {p q : Template} (twin : Twin p q) (c : Cursor) :
    runFrom cb p c = runFrom cb q c := by
  induction twin generalizing c with
  | nil => rfl
  | literal bs _ ih => exact congrArg (Run.cons bs) (ih c)
  | @directive spec spec' twin start text p q _ ih =>
    rw [runFrom_directive, runFrom_directive, field_twin twin]
    cases (Directive.field cb ⟨spec', start, text⟩ c).1 with
    | ok bs => exact congrArg (Run.cons bs) (ih _)
    | error e => rfl

end Template

/-! ## Calls -/

theorem formatInto_twin {format : Value} {mode : Mode} {r r' : Except Failure Template}
    (legacy : Template.ofValue .legacy mode format = r)
    (modern : Template.ofValue .modern mode format = r') (results : Template.TwinResults r r')
    (args : List Value) {s s' : Sink} (equal : s.contents = s'.contents) :
    (formatInto cb ⟨.legacy, mode⟩ format args s).1.contents =
        (formatInto cb ⟨.modern, mode⟩ format args s').1.contents ∧
      (formatInto cb ⟨.legacy, mode⟩ format args s).2 =
        (formatInto cb ⟨.modern, mode⟩ format args s').2 := by
  cases results with
  | error e =>
    simp only [formatInto, legacy, modern]
    exact ⟨equal, trivial⟩
  | @ok p q twin =>
    have same : p.run cb args = q.run cb args := Template.runFrom_twin twin _
    rw [@formatInto_of_ok cb ⟨.legacy, mode⟩ format p legacy,
      @formatInto_of_ok cb ⟨.modern, mode⟩ format q modern, same]
    refine ⟨?_, rfl⟩
    rw [Sink.contents_appendAll, Sink.contents_appendAll, equal]

/-- **Without the disputed words, the dialects agree.**  Onto sinks with the same contents
both print the same, and fail with the same failure. -/
theorem dialects_agree {format : Value} {bs : Bytes}
    (holds : Template.formatBytes format = .ok bs) (clear : Dialect.Undisputed bs)
    (cb : Callbacks) (mode : Mode) (args : List Value) {s s' : Sink}
    (equal : s.contents = s'.contents) :
    (formatInto cb ⟨.legacy, mode⟩ format args s).1.contents =
        (formatInto cb ⟨.modern, mode⟩ format args s').1.contents ∧
      (formatInto cb ⟨.legacy, mode⟩ format args s).2 =
        (formatInto cb ⟨.modern, mode⟩ format args s').2 := by
  have read (dialect : Dialect) :
      Template.ofValue dialect mode format = Template.parseFrom dialect mode 0 bs := by
    rw [Template.ofValue, holds]
    rfl
  exact formatInto_twin (read .legacy) (read .modern) (Template.parseFrom_twin clear) args equal

/-- The operation and the flag refuse a text in the same words, behind a doubled sign. -/
theorem dialects_agree_mismatch :
    Dialect.Undisputed (ascii ['%', '%', 'k', '%', 'k', 'I', '6', '4', 'd', 's']) ∧
      (formatInto .unset ⟨.legacy, .strict⟩
          (.bytes .fixed (ascii ['%', '%', 'k', '%', 'k', 'I', '6', '4', 'd', 's']))
          [.text []] Sink.empty).2 =
        (formatInto .unset ⟨.modern, .strict⟩
          (.bytes .fixed (ascii ['%', '%', 'k', '%', 'k', 'I', '6', '4', 'd', 's']))
          [.text []] (Sink.empty.need 1)).2 := by
  have clear : Dialect.Undisputed
      (ascii ['%', '%', 'k', '%', 'k', 'I', '6', '4', 'd', 's']) := by
    unfold Dialect.Undisputed
    decide
  have equal : Sink.empty.contents = (Sink.empty.need 1).contents := rfl
  exact ⟨clear, (dialects_agree rfl clear .unset .strict [.text []] equal).2⟩

end ExtendedFormat
