/-
# ExtendedFormat.Proofs.Template.Shift -- the same bytes further on

Bytes that stand `k` bytes further on in a format are parsed as before, with every
offset moved by `k`, in a template as well as in a complaint (`parseFrom_shift`).  So
what stands behind a well-formed format is parsed as it would be alone, and joined to
what stands before (`parse_append`).
-/
import ExtendedFormat.Proofs.Template.Reads

namespace ExtendedFormat

set_option autoImplicit false

open Outcome

/-! ## Offsets moved -/

def FormatError.shift (k : Nat) : FormatError → FormatError
  | .unterminated text start => .unterminated text (start + k)
  | .unrecognized text start => .unrecognized text (start + k)
  | .exhausted text start => .exhausted text (start + k)
  | .mismatch text start expected got => .mismatch text (start + k) expected got
  | .notText role got => .notText role got

def Failure.shift (k : Nat) : Failure → Failure
  | .format e => .format (e.shift k)
  | e => e

def Directive.shift (k : Nat) (d : Directive) : Directive := { d with start := d.start + k }

namespace Template

variable {dialect : Dialect} {mode : Mode} {start : Nat}

def shift (k : Nat) (p : Template) : Template :=
  p.map fun
    | .literal bs => .literal bs
    | .directive d => .directive (d.shift k)

theorem shift_consLiteral (k : Nat) (bs : Bytes) (p : Template) :
    shift k (consLiteral bs p) = consLiteral bs (shift k p) := by
  match p with
  | [] | .directive _ :: _ | .literal _ :: _ => rfl

theorem shift_directive (k : Nat) (d : Directive) (p : Template) :
    shift k (.directive d :: p) = .directive (d.shift k) :: shift k p := rfl

/-! ## Parsing further on -/

/-- The result of a parse, further on. -/
def shiftResult (k : Nat) (r : Except Failure Template) : Except Failure Template :=
  (r.mapError (Failure.shift k)).map (shift k)

theorem shiftResult_map {f g : Template → Template} {k : Nat}
    (commutes : ∀ p, shift k (f p) = g (shift k p)) (r : Except Failure Template) :
    shiftResult k (r.map f) = (shiftResult k r).map g := by
  cases r with
  | error e => rfl
  | ok p => exact congrArg Except.ok (commutes p)

theorem shiftResult_malformed (k : Nat) (e : FormatError) (rest : Bytes) :
    shiftResult k (malformed mode e rest) = malformed mode (e.shift k) rest := by
  cases mode <;> rfl

theorem parseFrom_shift (k : Nat) (bs : Bytes) :
    parseFrom dialect mode (start + k) bs = shiftResult k (parseFrom dialect mode start bs) := by
  fun_induction parseFrom dialect mode start bs with
  | case1 start => exact parseFrom_nil
  | case2 start b tail plain ih =>
    rw [parseFrom_byte tail plain, shiftResult_map (shift_consLiteral k [b]), ← ih,
      Nat.add_right_comm]
  | case3 start b tail sign rest scanned ih =>
    obtain rfl : b = percentSign := Classical.not_not.1 sign
    rw [parseFrom_sign, scanned, shiftResult_map (shift_consLiteral k [percentSign]), ← ih,
      Nat.add_right_comm]
  | case4 start b tail sign spec rest scanned text =>
    rename_i ih
    obtain rfl : b = percentSign := Classical.not_not.1 sign
    rw [parseFrom_sign, scanned, shiftResult_map (shift_directive k ⟨spec, start, text⟩), ← ih,
      Nat.add_right_comm start text.length k]
    rfl
  | case5 start b tail sign rest scanned =>
    obtain rfl : b = percentSign := Classical.not_not.1 sign
    rw [parseFrom_sign, scanned, shiftResult_malformed]
    rfl
  | case6 start b tail sign scanned =>
    obtain rfl : b = percentSign := Classical.not_not.1 sign
    rw [parseFrom_sign, scanned, shiftResult_malformed]
    rfl
  | case7 start b tail sign scanned =>
    obtain rfl : b = percentSign := Classical.not_not.1 sign
    rw [parseFrom_sign, scanned]
    rfl

/-- A format behind a well-formed one is parsed as it would be alone. -/
theorem parse_append {f : Bytes} {p : Template} (parsed : parse dialect .strict f = .ok p)
    (mode : Mode) (g : Bytes) :
    parse dialect mode (f ++ g) = (shiftResult f.length (parse dialect mode g)).map (join p) := by
  unfold parse at *
  rw [(reads_of_strict parsed).parseFrom_append, parseFrom_shift]

end Template

end ExtendedFormat
