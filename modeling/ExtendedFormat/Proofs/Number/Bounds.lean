/-
# ExtendedFormat.Proofs.Number.Bounds -- how many digits a number has

A numeral of `k` digits is worth less than `10 ^ k`, and at least `10 ^ (k - 1)` if it does not
begin with a zero.  So the integers that can be shown are those below `10 ^ digitLimit`, whatever
their sign (`Value.decimal?_isSome_iff`), and every integer that was read from a numeral is one
of them (`Numeral.natAbs_lt_of_int?`).
-/
import ExtendedFormat.Value.Display
import Mathlib.Data.List.Induction
import Mathlib.Data.Nat.Digits.Defs

namespace ExtendedFormat

set_option autoImplicit false

namespace Numeral

/-! ## The value of digits -/

theorem natOfDigits_concat (ds : List Nat) (d : Nat) :
    natOfDigits (ds ++ [d]) = 10 * natOfDigits ds + d := by
  simp [natOfDigits]

theorem natOfDigits_lt {ds : List Nat} (digits : ∀ d ∈ ds, d < 10) :
    natOfDigits ds < 10 ^ ds.length := by
  induction ds using List.reverseRecOn with
  | nil => decide
  | append_singleton ds d ih =>
    have before := ih fun x member => digits x (List.mem_append_left _ member)
    have last : d < 10 := digits d (by simp)
    rw [natOfDigits_concat, List.length_append, List.length_singleton, Nat.pow_succ]
    omega

theorem pow_le_natOfDigits {d : Nat} (ds : List Nat) (nonzero : d ≠ 0) :
    10 ^ ds.length ≤ natOfDigits (d :: ds) := by
  induction ds using List.reverseRecOn with
  | nil =>
    have one : natOfDigits [d] = d := by simp [natOfDigits]
    rw [one]
    exact Nat.one_le_iff_ne_zero.mpr nonzero
  | append_singleton ds e ih =>
    rw [← List.cons_append, natOfDigits_concat, List.length_append, List.length_singleton,
      Nat.pow_succ]
    omega

/-! ## Numerals -/

theorem digit?_lt {c : CodePoint} {d : Nat} (digit : digit? c = some d) : d < 10 := by
  obtain ⟨nought, found, rfl⟩ := Option.map_eq_some_iff.mp digit
  have within : nought ≤ c.val ∧ c.val < nought + 10 := by
    simpa using List.find?_some found
  omega

theorem lt_of_mem_digits? {t : Text} {ds : List Nat} (read : digits? t = some ds) :
    ∀ d ∈ ds, d < 10 := by
  fun_induction digits? t generalizing ds with
  | case1 => cases read
  | case2 c =>
    obtain ⟨d, digit, rfl⟩ := Option.map_eq_some_iff.mp read
    simpa using digit?_lt digit
  | case3 => cases read
  | case4 c u rest d digit underscore ih =>
    obtain ⟨more, readRest, rfl⟩ := Option.map_eq_some_iff.mp read
    exact List.forall_mem_cons.mpr ⟨digit?_lt digit, ih readRest⟩
  | case5 c u rest d digit plain ih =>
    obtain ⟨more, readRest, rfl⟩ := Option.map_eq_some_iff.mp read
    exact List.forall_mem_cons.mpr ⟨digit?_lt digit, ih readRest⟩

theorem lt_of_nat? {t : Text} {n : Nat} (read : nat? t = some n) : n < 10 ^ digitLimit := by
  unfold nat? at read
  split at read
  · rename_i ds digits
    split at read
    · rename_i short
      cases read
      calc natOfDigits ds < 10 ^ ds.length := natOfDigits_lt (lt_of_mem_digits? digits)
        _ ≤ 10 ^ digitLimit := Nat.pow_le_pow_right (by decide) short
    · cases read
  · cases read

theorem natAbs_lt_of_int? {t : Text} {n : Int} (read : int? t = some n) :
    n.natAbs < 10 ^ digitLimit := by
  unfold int? at read
  split at read
  · cases read
  · rename_i c rest _
    split at read
    · cases natural : nat? rest with
      | none => simp [natural] at read
      | some m =>
        have same : -(m : Int) = n := by simpa [natural] using read
        rw [← same, Int.natAbs_neg, Int.natAbs_natCast]
        exact lt_of_nat? natural
    · split at read
      all_goals
        obtain ⟨m, natural, rfl⟩ := Option.map_eq_some_iff.mp read
        exact lt_of_nat? natural

end Numeral

/-! ## Numerals of integers -/

theorem Text.length_ofString (s : String) : (Text.ofString s).length = s.length := by
  simp [Text.ofString, String.length_toList]

theorem Text.length_ofInt (n : Int) :
    (Text.ofInt n).length = (Nat.repr n.natAbs).length + if n < 0 then 1 else 0 := by
  rw [Text.ofInt, length_ofString]
  cases n with
  | ofNat m => simp [toString, Int.repr]
  | negSucc m =>
    simp only [toString, Int.repr, String.length_append, Int.natAbs_negSucc, Int.negSucc_lt_zero,
      if_true]
    exact Nat.add_comm _ _

/-- The integer that the value is or stands for, if there is one, has no more digits than can be
converted. -/
def Value.IsNameable (v : Value) : Prop :=
  ∀ n, v.index? = some n → n.natAbs < 10 ^ Numeral.digitLimit

/-- The integers that can be shown. -/
theorem Value.decimal?_isSome_iff (n : Int) :
    (decimal? n).isSome ↔ n.natAbs < 10 ^ Numeral.digitLimit := by
  have positive : 0 < Numeral.digitLimit := by decide
  rw [← Nat.length_repr_le_iff positive]
  simp only [decimal?, Text.length_ofInt, Nat.add_le_add_iff_right]
  split <;> rename_i fits <;> simp [fits]

end ExtendedFormat
