/-
# ExtendedFormat.Proofs.Output.Modes -- where the two modes part

Both modes read a format alike up to the first directive that cannot be read.  There
strict mode complains, and compatible mode takes the rest as it stands: as literal
bytes, behind what the format cut before that directive stands for (`modes_agree`).

A call in compatible mode so prints what a call with the cut format prints and then the
rest, for which it takes no argument.
-/
import ExtendedFormat.Proofs.Output.Run

namespace ExtendedFormat

set_option autoImplicit false

open Outcome

/-! ## The directive that cannot be read -/

/-- The offset that a complaint names. -/
def FormatError.offset? : FormatError → Option Nat
  | .unterminated _ start | .unrecognized _ start | .exhausted _ start => some start
  | .mismatch _ start _ _ => some start
  | .notText .. => none

/-- What strict mode says of a directive at offset `start`, when this is what was made of
the bytes behind its percent sign. -/
def Scan.complaint? (start : Nat) (tail : Bytes) : Scan → Option FormatError
  | .wrong rest =>
      some (.unrecognized (percentSign :: tail.take (tail.length - rest.length)) start)
  | .truncated => some (.unterminated (percentSign :: tail) start)
  | _ => none

theorem Scan.offset_complaint {start : Nat} {tail : Bytes} {scanned : Scan} {e : FormatError}
    (said : scanned.complaint? start tail = some e) : e.offset? = some start := by
  cases scanned <;> cases said <;> rfl

namespace Template

variable {dialect : Dialect} {start : Nat}

theorem parseFrom_complaint {tail : Bytes} {e : FormatError}
    (said : (scan dialect tail).complaint? start tail = some e) (mode : Mode) :
    parseFrom dialect mode start (percentSign :: tail) =
      malformed mode e (percentSign :: tail) := by
  rw [parseFrom_sign]
  cases scanned : scan dialect tail <;> rw [scanned] at said <;> cases said <;> rfl

theorem parseFrom_tooLong {tail : Bytes} (scanned : scan dialect tail = .tooLong) (mode : Mode) :
    parseFrom dialect mode start (percentSign :: tail) = .error .numeralTooLong := by
  rw [parseFrom_sign, scanned]

/-- What becomes of a format with a complaint behind a well-formed beginning. -/
theorem Reads.parse_complaint {f tail : Bytes} {before : Template} {e : FormatError}
    (reads : Reads dialect 0 f before)
    (said : (scan dialect tail).complaint? f.length tail = some e) (mode : Mode) :
    parse dialect mode (f ++ percentSign :: tail) =
      (malformed mode e (percentSign :: tail)).map before.join := by
  rw [parse, reads.parseFrom_append, Nat.zero_add, parseFrom_complaint said]

/-- The directive behind a percent sign, here at offset `start`, is what strict mode
fails with. -/
def StopsAt (dialect : Dialect) (start : Nat) (tail : Bytes) (e : Failure) : Prop :=
  (∃ said, (scan dialect tail).complaint? start tail = some said ∧ e = .format said) ∨
    scan dialect tail = .tooLong ∧ e = .numeralTooLong

/-- Strict mode fails at a percent sign behind a well-formed beginning. -/
theorem stopsAt_of_strict {bs : Bytes} {e : Failure}
    (failed : parseFrom dialect .strict start bs = .error e) :
    ∃ f tail pieces, bs = f ++ percentSign :: tail ∧ Reads dialect start f pieces ∧
      StopsAt dialect (start + f.length) tail e := by
  fun_induction parseFrom dialect .strict start bs with
  | case1 start => cases failed
  | case2 start b tail plain ih =>
    obtain ⟨f, more, pieces, rfl, reads, stops⟩ := ih (map_eq_error_iff.1 failed)
    have offset : start + (b :: f).length = start + 1 + f.length := by
      rw [List.length_cons]; omega
    exact ⟨b :: f, more, _, rfl, .byte plain reads, offset ▸ stops⟩
  | case3 start b tail sign rest scanned ih =>
    obtain ⟨f, more, pieces, rfl, reads, stops⟩ := ih (map_eq_error_iff.1 failed)
    have offset : start + (percentSign :: percentSign :: f).length = start + 2 + f.length := by
      rw [List.length_cons, List.length_cons]; omega
    refine ⟨percentSign :: percentSign :: f, more, _, ?_, .percent reads, offset ▸ stops⟩
    rw [Classical.not_not.1 sign, eq_of_scan_percent scanned]
    rfl
  | case4 start b tail sign spec rest scanned text =>
    rename_i ih
    obtain ⟨f, more, pieces, eq, reads, stops⟩ := ih (map_eq_error_iff.1 failed)
    obtain rfl : b = percentSign := Classical.not_not.1 sign
    obtain ⟨split, denotes⟩ := denotes_of_scan_complete scanned
    have offset : start + (text ++ f).length = start + text.length + f.length := by
      rw [List.length_append]; omega
    refine ⟨text ++ f, more, _, ?_, .directive denotes reads, offset ▸ stops⟩
    rw [List.append_assoc, ← eq]
    exact split
  | case5 start b tail sign rest scanned =>
    obtain rfl : b = percentSign := Classical.not_not.1 sign
    cases failed
    exact ⟨[], tail, [], rfl, .nil start, .inl ⟨_, by rw [scanned]; rfl, rfl⟩⟩
  | case6 start b tail sign scanned =>
    obtain rfl : b = percentSign := Classical.not_not.1 sign
    cases failed
    exact ⟨[], tail, [], rfl, .nil start, .inl ⟨_, by rw [scanned]; rfl, rfl⟩⟩
  | case7 start b tail sign scanned =>
    obtain rfl : b = percentSign := Classical.not_not.1 sign
    cases failed
    exact ⟨[], tail, [], rfl, .nil start, .inr ⟨scanned, rfl⟩⟩

/-! ## A literal at the end -/

variable {cb : Callbacks}

theorem leave_append (p q : Template) (c : Cursor) :
    leave cb (p ++ q) c = leave cb q (leave cb p c) := by
  induction p generalizing c with
  | nil => rfl
  | cons piece rest ih =>
    cases piece with
    | literal bs => exact ih c
    | directive d => exact ih _

theorem leave_consLiteral (bs : Bytes) (p : Template) (c : Cursor) :
    leave cb (consLiteral bs p) c = leave cb p c := by
  match p with
  | [] | .directive _ :: _ | .literal _ :: _ => rfl

theorem leave_join (p q : Template) (c : Cursor) : leave cb (join p q) c = leave cb (p ++ q) c := by
  match p with
  | [] => rfl
  | [.literal bs] => exact leave_consLiteral bs q c
  | .literal bs :: piece :: rest => exact leave_join (piece :: rest) q c
  | .directive d :: rest =>
    rw [join_directive]
    exact leave_join rest q _

/-- Literal bytes at the end take no argument. -/
theorem leave_join_literal (p : Template) (bs : Bytes) (c : Cursor) :
    leave cb (join p [.literal bs]) c = leave cb p c := by
  rw [leave_join, leave_append]
  rfl

/-- Literal bytes at the end are printed if all that stands before them is. -/
theorem run_join_literal (p : Template) (bs : Bytes) (args : List Value) :
    (run cb (join p [.literal bs]) args).Alike ((run cb p args).andThen ⟨[bs], none⟩) := by
  have alike := @alike_join cb p [.literal bs] (Cursor.start args)
  rwa [runFrom_append] at alike

end Template

/-! ## Formats and calls -/

theorem formatInto_join_literal {cb : Callbacks} {how : Reading} {whole cut : Value}
    {pieces : Template} {rest : Bytes}
    (readWhole : Template.ofValue how.dialect how.mode whole = .ok (pieces.join [.literal rest]))
    (readCut : Template.ofValue how.dialect how.mode cut = .ok pieces) (args : List Value)
    (s : Sink) :
    (∀ s₁, formatInto cb how cut args s = (s₁, none) →
      ∃ s', formatInto cb how whole args s = (s', none) ∧ s'.contents = s₁.contents ++ rest) ∧
    ∀ s₁ e, formatInto cb how cut args s = (s₁, some e) →
      ∃ s', formatInto cb how whole args s = (s', some e) ∧ s'.contents = s₁.contents := by
  have alike := @Template.run_join_literal cb pieces rest args
  rw [formatInto_of_ok readWhole, formatInto_of_ok readCut]
  constructor
  · intro s₁ done
    rw [Prod.mk.injEq] at done
    obtain ⟨rfl, done⟩ := done
    rw [Run.andThen_of_done done] at alike
    refine ⟨_, Prod.ext rfl alike.failure, ?_⟩
    have bytes := alike.bytes
    rw [Run.bytes, Run.bytes, List.flatten_append] at bytes
    rw [Sink.contents_appendAll, Sink.contents_appendAll, bytes, List.append_assoc]
    simp
  · intro s₁ e failed
    rw [Prod.mk.injEq] at failed
    obtain ⟨rfl, failed⟩ := failed
    rw [Run.andThen_of_failure failed] at alike
    refine ⟨_, Prod.ext rfl (alike.failure.trans failed), ?_⟩
    rw [Sink.contents_appendAll, Sink.contents_appendAll]
    exact congrArg (s.contents ++ ·) alike.bytes

namespace Template

/-- **Compatible mode goes as far as strict mode and prints the rest.**  What strict mode
reads, compatible mode reads.  Where strict mode complains of the directive at an offset,
compatible mode gives the pieces of the format cut there, and the rest as a literal; a
call prints the rest behind the output of the cut format, and takes no argument for it.
Strict mode fails without complaint for a width too long to be converted only, and then
compatible mode does. -/
theorem modes_agree (dialect : Dialect) (format : Bytes) :
    (∀ pieces, parse dialect .strict format = .ok pieces →
      parse dialect .compatible format = .ok pieces) ∧
    (∀ said, parse dialect .strict format = .error (.format said) →
      ∃ p before, said.offset? = some p ∧ format[p]? = some percentSign ∧
        parse dialect .strict (format.take p) = .ok before ∧
        parse dialect .compatible format = .ok (before.join [.literal (format.drop p)]) ∧
        (∀ cb c, leave cb (before.join [.literal (format.drop p)]) c = leave cb before c) ∧
        ∀ whole cut : Value, formatBytes whole = .ok format →
          formatBytes cut = .ok (format.take p) →
          ∀ (cb : Callbacks) (args : List Value) (s : Sink),
            (∀ s₁, formatInto cb ⟨dialect, .compatible⟩ cut args s = (s₁, none) →
              ∃ s', formatInto cb ⟨dialect, .compatible⟩ whole args s = (s', none) ∧
                s'.contents = s₁.contents ++ format.drop p) ∧
            ∀ s₁ e, formatInto cb ⟨dialect, .compatible⟩ cut args s = (s₁, some e) →
              ∃ s', formatInto cb ⟨dialect, .compatible⟩ whole args s = (s', some e) ∧
                s'.contents = s₁.contents) ∧
    ∀ e, parse dialect .strict format = .error e → (∀ said, e ≠ .format said) →
      e = .numeralTooLong ∧ parse dialect .compatible format = .error .numeralTooLong := by
  refine ⟨?_, ?_, ?_⟩
  · intro pieces parsed
    exact (reads_of_strict parsed).parseFrom_eq .compatible
  · intro said failed
    obtain ⟨f, tail, before, rfl, reads, stops⟩ := stopsAt_of_strict failed
    rw [Nat.zero_add] at stops
    rcases stops with ⟨_, here, ⟨⟩⟩ | ⟨-, ⟨⟩⟩
    have parsed : parse dialect .compatible (f ++ percentSign :: tail) =
        .ok (before.join [.literal (percentSign :: tail)]) := reads.parse_complaint here .compatible
    refine ⟨f.length, before, Scan.offset_complaint here, by simp, ?_⟩
    rw [List.take_left, List.drop_left]
    refine ⟨reads.parseFrom_eq .strict, parsed, ?_, ?_⟩
    · intro cb c
      exact leave_join_literal before _ c
    · intro whole cut wholeBytes cutBytes cb args s
      apply formatInto_join_literal
      · rw [ofValue, wholeBytes]
        exact parsed
      · rw [ofValue, cutBytes]
        exact reads.parseFrom_eq .compatible
  · intro e failed noComplaint
    obtain ⟨f, tail, before, rfl, reads, stops⟩ := stopsAt_of_strict failed
    rcases stops with ⟨said, -, rfl⟩ | ⟨scanned, rfl⟩
    · exact absurd rfl (noComplaint said)
    · refine ⟨rfl, ?_⟩
      rw [parse, reads.parseFrom_append, parseFrom_tooLong scanned]
      rfl

/-- The rest meets a literal, and a doubled percent sign in it stays doubled. -/
theorem modes_agree_literal :
    parse .legacy .strict (ascii ['5', '%', '%', '%', 'k', 'Q', '%', '%', '%', 'd']) =
      .error (.format (.unrecognized (ascii ['%', 'k', 'Q']) 3)) ∧
    ∃ before, parse .legacy .strict (ascii ['5', '%', '%']) = .ok before ∧
      parse .legacy .compatible (ascii ['5', '%', '%', '%', 'k', 'Q', '%', '%', '%', 'd']) =
        .ok (before.join [.literal (ascii ['%', 'k', 'Q', '%', '%', '%', 'd'])]) := by
  have reads : Reads .legacy 0 (ascii ['5', '%', '%']) [.literal (ascii ['5', '%'])] :=
    .byte (by decide) (.percent (.nil _))
  have failed : parse .legacy .strict
      (ascii ['5', '%', '%', '%', 'k', 'Q', '%', '%', '%', 'd']) =
        .error (.format (.unrecognized (ascii ['%', 'k', 'Q']) 3)) :=
    @Reads.parse_complaint .legacy _ (ascii ['k', 'Q', '%', '%', '%', 'd']) _ _ reads rfl .strict
  obtain ⟨p, before, offset, -, parsed, whole, -⟩ := (modes_agree .legacy _).2.1 _ failed
  cases offset
  exact ⟨failed, before, parsed, whole⟩

end Template

end ExtendedFormat
