/-
# ExtendedFormat.Proofs.Template.Reads -- what a format stands for

A well-formed format is a sequence of literal bytes, doubled percent signs and
directives.  `Template.Reads` says which template it stands for.  Parsing finds that
template (`Reads.parseFrom_eq`); in strict mode it succeeds on nothing else
(`reads_of_strict`), and in either mode it does not look behind a well-formed
beginning (`Reads.parseFrom_append`).
-/
import ExtendedFormat.Proofs.Directive.Acceptance
import ExtendedFormat.Proofs.Outcome
import ExtendedFormat.Template

namespace ExtendedFormat.Template

set_option autoImplicit false

open Outcome

variable {dialect : Dialect} {mode : Mode} {start : Nat}

/-! ## Joining templates -/

/-- One template behind another.  Literals that meet are one piece. -/
def join : Template → Template → Template
  | [], q => q
  | [.literal bs], q => consLiteral bs q
  | piece :: rest, q => piece :: join rest q

theorem consLiteral_consLiteral (xs ys : Bytes) (q : Template) :
    consLiteral xs (consLiteral ys q) = consLiteral (xs ++ ys) q := by
  match q with
  | [] | .directive _ :: _ => rfl
  | .literal zs :: _ => simp [consLiteral]

theorem join_nil (p : Template) : join p [] = p := by
  match p with
  | [] | [.literal _] => rfl
  | .directive d :: rest => simp [join, join_nil rest]
  | .literal bs :: piece :: rest => simp [join, join_nil (piece :: rest)]

theorem join_directive (d : Directive) (p q : Template) :
    join (.directive d :: p) q = .directive d :: join p q := by
  simp [join]

theorem join_consLiteral (bs : Bytes) (p q : Template) :
    join (consLiteral bs p) q = consLiteral bs (join p q) := by
  match p with
  | [] => rfl
  | .directive d :: rest => rw [join_directive]; simp [consLiteral, join]
  | [.literal more] => exact (consLiteral_consLiteral bs more q).symm
  | .literal more :: piece :: rest => simp [consLiteral, join]

/-! ## One step of the parser -/

theorem parseFrom_nil : parseFrom dialect mode start [] = .ok [] := by
  rw [parseFrom]

theorem parseFrom_byte {b : UInt8} (tail : Bytes) (plain : b ≠ percentSign) :
    parseFrom dialect mode start (b :: tail) =
      (parseFrom dialect mode (start + 1) tail).map (consLiteral [b]) := by
  rw [parseFrom, if_pos plain]

/-- At a percent sign, one directive is read. -/
theorem parseFrom_sign (tail : Bytes) :
    parseFrom dialect mode start (percentSign :: tail) =
      match scan dialect tail with
      | .percent rest => (parseFrom dialect mode (start + 2) rest).map (consLiteral [percentSign])
      | .complete spec rest =>
          let text := percentSign :: tail.take (tail.length - rest.length)
          (parseFrom dialect mode (start + text.length) rest).map
            (.directive ⟨spec, start, text⟩ :: ·)
      | .wrong rest =>
          malformed mode
            (.unrecognized (percentSign :: tail.take (tail.length - rest.length)) start)
            (percentSign :: tail)
      | .truncated =>
          malformed mode (.unterminated (percentSign :: tail) start) (percentSign :: tail)
      | .tooLong => .error .numeralTooLong := by
  rw [parseFrom, if_neg (by simp)]
  split <;> rename_i scanned <;> rw [scanned]

theorem parseFrom_percent (tail : Bytes) :
    parseFrom dialect mode start (percentSign :: percentSign :: tail) =
      (parseFrom dialect mode (start + 2) tail).map (consLiteral [percentSign]) := by
  have scanned : scan dialect (percentSign :: tail) = .percent tail := by simp [scan]
  rw [parseFrom_sign, scanned]

theorem scan_eq_complete {tail rest : Bytes} {spec : Specification}
    (read : (scan dialect tail).read? = some (.directive spec, rest)) :
    scan dialect tail = .complete spec rest := by
  cases scanned : scan dialect tail <;> rw [scanned] at read <;> cases read
  rfl

theorem parseFrom_directive {text : Bytes} {spec : Specification}
    (denotes : Denotes dialect text (.directive spec)) (rest : Bytes) :
    parseFrom dialect mode start (text ++ rest) =
      (parseFrom dialect mode (start + text.length) rest).map
        (.directive ⟨spec, start, text⟩ :: ·) := by
  obtain ⟨tail, rfl, reads⟩ := denotes.scan
  rw [List.cons_append, parseFrom_sign, scan_eq_complete (reads rest)]
  simp

/-! ## The template of a well-formed format -/

/-- `pieces` is what the bytes, which begin at offset `start` of a format, stand for. -/
inductive Reads (dialect : Dialect) : Nat → Bytes → Template → Prop
  | nil (start : Nat) : Reads dialect start [] []
  | byte {start : Nat} {b : UInt8} {tail : Bytes} {pieces : Template} (plain : b ≠ percentSign)
      (rest : Reads dialect (start + 1) tail pieces) :
      Reads dialect start (b :: tail) (consLiteral [b] pieces)
  | percent {start : Nat} {tail : Bytes} {pieces : Template}
      (rest : Reads dialect (start + 2) tail pieces) :
      Reads dialect start (percentSign :: percentSign :: tail) (consLiteral [percentSign] pieces)
  | directive {start : Nat} {text tail : Bytes} {spec : Specification} {pieces : Template}
      (denotes : Denotes dialect text (.directive spec))
      (rest : Reads dialect (start + text.length) tail pieces) :
      Reads dialect start (text ++ tail) (.directive ⟨spec, start, text⟩ :: pieces)

theorem Denotes.eq_percent {word : Bytes} (denotes : Denotes dialect word .percent) :
    word = [percentSign, percentSign] := by
  cases denotes
  rfl

theorem eq_of_scan_percent {tail rest : Bytes} (scanned : scan dialect tail = .percent rest) :
    tail = percentSign :: rest := by
  obtain ⟨text, rfl, denotes⟩ := denotes_of_scan (m := .percent) (by rw [scanned]; rfl)
  cases Denotes.eq_percent denotes
  rfl

theorem denotes_of_scan_complete {tail rest : Bytes} {spec : Specification}
    (scanned : scan dialect tail = .complete spec rest) :
    percentSign :: tail = (percentSign :: tail.take (tail.length - rest.length)) ++ rest ∧
      Denotes dialect (percentSign :: tail.take (tail.length - rest.length)) (.directive spec) := by
  obtain ⟨text, rfl, denotes⟩ := denotes_of_scan (m := .directive spec) (by rw [scanned]; rfl)
  have taken : (text ++ rest).take ((text ++ rest).length - rest.length) = text := by simp
  rw [taken]
  exact ⟨rfl, denotes⟩

theorem reads_of_strict {bs : Bytes} {pieces : Template}
    (parsed : parseFrom dialect .strict start bs = .ok pieces) :
    Reads dialect start bs pieces := by
  fun_induction parseFrom dialect .strict start bs generalizing pieces with
  | case1 start =>
    cases parsed
    exact .nil start
  | case2 start b tail plain ih =>
    obtain ⟨more, parsedTail, rfl⟩ := map_eq_ok_iff.1 parsed
    exact .byte plain (ih parsedTail)
  | case3 start b tail sign rest scanned ih =>
    obtain ⟨more, parsedRest, rfl⟩ := map_eq_ok_iff.1 parsed
    rw [Classical.not_not.1 sign, eq_of_scan_percent scanned]
    exact .percent (ih parsedRest)
  | case4 start b tail sign spec rest scanned text =>
    rename_i ih
    obtain ⟨more, parsedRest, rfl⟩ := map_eq_ok_iff.1 parsed
    obtain rfl : b = percentSign := Classical.not_not.1 sign
    obtain ⟨split, denotes⟩ := denotes_of_scan_complete scanned
    rw [split]
    exact .directive denotes (ih parsedRest)
  | case5 => cases parsed
  | case6 => cases parsed
  | case7 => cases parsed

/-- Parsing does not look behind a well-formed beginning. -/
theorem Reads.parseFrom_append {f : Bytes} {pieces : Template}
    (reads : Reads dialect start f pieces) (mode : Mode) (g : Bytes) :
    parseFrom dialect mode start (f ++ g) =
      (parseFrom dialect mode (start + f.length) g).map (join pieces) := by
  induction reads with
  | nil start =>
    rw [List.nil_append, List.length_nil, Nat.add_zero]
    cases parseFrom dialect mode start g <;> rfl
  | @byte start b tail pieces plain _ ih =>
    have offset : start + (b :: tail).length = start + 1 + tail.length := by
      rw [List.length_cons]; omega
    rw [List.cons_append, parseFrom_byte _ plain, ih, map_map, offset,
      funext (join_consLiteral [b] pieces)]
  | @percent start tail pieces _ ih =>
    have offset :
        start + (percentSign :: percentSign :: tail).length = start + 2 + tail.length := by
      rw [List.length_cons, List.length_cons]; omega
    rw [List.cons_append, List.cons_append, parseFrom_percent, ih, map_map, offset,
      funext (join_consLiteral [percentSign] pieces)]
  | @directive start text tail spec pieces denotes _ ih =>
    rw [List.append_assoc, parseFrom_directive denotes, ih, map_map, List.length_append,
      ← Nat.add_assoc, funext (join_directive ⟨spec, start, text⟩ pieces)]

/-- The template of a well-formed format is found in either mode. -/
theorem Reads.parseFrom_eq {bs : Bytes} {pieces : Template} (reads : Reads dialect start bs pieces)
    (mode : Mode) : parseFrom dialect mode start bs = .ok pieces := by
  have parsed := reads.parseFrom_append mode []
  rw [List.append_nil, parseFrom_nil] at parsed
  rw [parsed, Except.map, join_nil]

/-! ## What stands before a directive -/

theorem consLiteral_eq_append {bs : Bytes} {p before after : Template} {d : Directive}
    (eq : consLiteral bs p = before ++ .directive d :: after) :
    ∃ between, p = between ++ .directive d :: after ∧ before = consLiteral bs between := by
  match p with
  | [] =>
    rcases List.cons_eq_append_iff.1 eq with ⟨-, here⟩ | ⟨between, -, later⟩
    · cases here
    · cases between <;> cases later
  | .directive e :: rest =>
    rcases List.cons_eq_append_iff.1 eq with ⟨-, here⟩ | ⟨between, rfl, later⟩
    · cases here
    · refine ⟨between, later, ?_⟩
      cases between with
      | nil => rfl
      | cons piece more =>
        cases later
        rfl
  | .literal more :: rest =>
    rcases List.cons_eq_append_iff.1 eq with ⟨-, here⟩ | ⟨between, rfl, later⟩
    · cases here
    · exact ⟨.literal more :: between, congrArg (.literal more :: ·) later, rfl⟩

theorem malformed_ne_directive {e : FormatError} {rest : Bytes} {before after : Template}
    {d : Directive} : malformed mode e rest ≠ .ok (before ++ .directive d :: after) := by
  intro eq
  cases mode with
  | strict => cases eq
  | compatible => cases before with
    | nil => cases eq
    | cons piece more => cases more <;> cases eq

/-- In either mode, the bytes before a directive stand for the pieces before it. -/
theorem split_at_directive {bs : Bytes} {before after : Template} {d : Directive}
    (parsed : parseFrom dialect mode start bs = .ok (before ++ .directive d :: after)) :
    ∃ f g, bs = f ++ (d.text ++ g) ∧ d.start = start + f.length ∧ Reads dialect start f before ∧
      Denotes dialect d.text (.directive d.toSpecification) := by
  fun_induction parseFrom dialect mode start bs generalizing before with
  | case1 start =>
    cases before <;> cases parsed
  | case2 start b tail plain ih =>
    obtain ⟨more, parsedTail, eq⟩ := map_eq_ok_iff.1 parsed
    obtain ⟨between, rfl, rfl⟩ := consLiteral_eq_append eq
    obtain ⟨f, g, rfl, offset, reads, denotes⟩ := ih parsedTail
    exact ⟨b :: f, g, rfl, by rw [offset, List.length_cons]; omega, .byte plain reads, denotes⟩
  | case3 start b tail sign rest scanned ih =>
    obtain ⟨more, parsedRest, eq⟩ := map_eq_ok_iff.1 parsed
    obtain ⟨between, rfl, rfl⟩ := consLiteral_eq_append eq
    obtain ⟨f, g, rfl, offset, reads, denotes⟩ := ih parsedRest
    refine ⟨percentSign :: percentSign :: f, g, ?_, ?_, .percent reads, denotes⟩
    · rw [Classical.not_not.1 sign, eq_of_scan_percent scanned]; rfl
    · rw [offset, List.length_cons, List.length_cons]; omega
  | case4 start b tail sign spec rest scanned text =>
    rename_i ih
    obtain ⟨more, parsedRest, eq⟩ := map_eq_ok_iff.1 parsed
    obtain rfl : b = percentSign := Classical.not_not.1 sign
    obtain ⟨split, here⟩ := denotes_of_scan_complete scanned
    -- Either this is the directive, or it is one of the pieces before it.
    rcases List.cons_eq_append_iff.1 eq with ⟨rfl, first⟩ | ⟨between, rfl, later⟩
    · cases first
      exact ⟨[], rest, split, rfl, .nil start, here⟩
    · rw [later] at parsedRest
      obtain ⟨f, g, rfl, offset, reads, denotes⟩ := ih parsedRest
      refine ⟨text ++ f, g, ?_, ?_, .directive here reads, denotes⟩
      · rw [split, List.append_assoc]
      · rw [offset, List.length_append]; omega
  | case5 => exact absurd parsed malformed_ne_directive
  | case6 => exact absurd parsed malformed_ne_directive
  | case7 => cases parsed

end ExtendedFormat.Template
