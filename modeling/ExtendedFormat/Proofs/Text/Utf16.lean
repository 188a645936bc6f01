/-
# ExtendedFormat.Proofs.Text.Utf16 -- UTF-16, there and back

A code point outside the basic plane is written as a high and a low surrogate, which the
decoder joins again; every other code point that is no surrogate stands for itself.  So
decoding undoes `units` for every text without surrogates (`Utf16.decode_units`).
-/
import ExtendedFormat.Proofs.Text.Utf8
import ExtendedFormat.Text.Utf16

namespace ExtendedFormat.Utf16

set_option autoImplicit false

theorem eq_unit_iff {u : UInt16} {n : Nat} (small : n < 0x10000) :
    u = n.toUInt16 ↔ u.toNat = n := by
  rw [← UInt16.toNat_inj, Nat.toUInt16, UInt16.toNat_ofNat_of_lt' small]

/-- A unit below the surrogates stands for nothing but itself. -/
theorem toNat_eq_of_mem_unitsOf {c : CodePoint} {u : UInt16} (basic : u.toNat < 0xD800)
    (mem : u ∈ unitsOf c) : u.toNat = c.val := by
  have below := c.isLt
  rw [unitsOf] at mem
  split at mem
  all_goals
    simp (disch := omega) only [List.mem_cons, List.not_mem_nil, or_false, eq_unit_iff] at mem
    omega

/-- A unit that is no surrogate is read by itself, whatever comes next. -/
theorem decode_cons_of_not_high {u : UInt16} (alone : isHigh u = false) (rest : List UInt16) :
    decode (u :: rest) = single u :: decode rest := by
  cases rest with
  | nil => rfl
  | cons v rest => rw [decode, alone, Bool.false_and, if_neg Bool.false_ne_true]

theorem decode_cons_cons_of_pair {u v : UInt16} (high : isHigh u = true) (low : isLow v = true)
    (rest : List UInt16) : decode (u :: v :: rest) = join u v :: decode rest := by
  rw [decode, high, low, Bool.and_self, if_pos rfl]

theorem decode_unitsOf_append {c : CodePoint} (scalar : c.isSurrogate = false)
    (rest : List UInt16) : decode (unitsOf c ++ rest) = c :: decode rest := by
  have below := c.isLt
  rw [CodePoint.isSurrogate_eq_false_iff] at scalar
  rw [unitsOf]
  split
  · have value := (eq_unit_iff (n := c.val) (by omega)).mp rfl
    generalize c.val.toUInt16 = u at value ⊢
    have notHigh : isHigh u = false := by simp only [isHigh, decide_eq_false_iff_not]; omega
    have notLow : isLow u = false := by simp only [isLow, decide_eq_false_iff_not]; omega
    have itself : single u = c := by
      rw [single, notHigh, notLow, Bool.or_self, if_neg Bool.false_ne_true,
        CodePoint.ofNat_eq_iff (by omega)]
      exact value.symm
    rw [List.singleton_append, decode_cons_of_not_high notHigh, itself]
  · have first := (eq_unit_iff (n := 0xD800 + (c.val - 0x10000) / 0x400) (by omega)).mp rfl
    have second := (eq_unit_iff (n := 0xDC00 + (c.val - 0x10000) % 0x400) (by omega)).mp rfl
    generalize (0xD800 + (c.val - 0x10000) / 0x400).toUInt16 = u at first ⊢
    generalize (0xDC00 + (c.val - 0x10000) % 0x400).toUInt16 = v at second ⊢
    have high : isHigh u = true := by simp only [isHigh, decide_eq_true_eq]; omega
    have low : isLow v = true := by simp only [isLow, decide_eq_true_eq]; omega
    have joined : join u v = c := by
      rw [join, CodePoint.ofNat_eq_iff (by omega)]
      omega
    rw [List.cons_append, List.singleton_append, decode_cons_cons_of_pair high low, joined]

/-- Decoding undoes splitting into code units. -/
theorem decode_units {t : Text} (scalar : t.IsScalar) : decode (units t) = t := by
  induction t with
  | nil => rfl
  | cons c t ih =>
    obtain ⟨first, others⟩ := List.forall_mem_cons.mp scalar
    have split : units (c :: t) = unitsOf c ++ units t := List.flatMap_cons
    rw [split, decode_unitsOf_append first, ih others]

end ExtendedFormat.Utf16
