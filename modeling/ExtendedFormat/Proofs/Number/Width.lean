/-
# ExtendedFormat.Proofs.Number.Width -- integers cut to a width

Both readings of an integer at a width are congruent to it modulo `2 ^ bits`, and lie in
their ranges; so they are the same for integers that are congruent.  Reading an argument
chooses among them by the length modifier (`Cursor.numberAt`), with -1 for a size of all
ones, which is congruent to it, too.
-/
import ExtendedFormat.Cursor
import Mathlib.Data.Int.ModEq

namespace ExtendedFormat

set_option autoImplicit false

namespace TwosComplement

variable {bits : Nat}

theorem cast_pow (bits : Nat) : ((Nat.pow 2 bits : Nat) : Int) = 2 ^ bits := by
  rw [Nat.pow_eq]
  exact Nat.cast_pow 2 bits

theorem unsigned_modEq (bits : Nat) (n : Int) : unsigned bits n ≡ n [ZMOD 2 ^ bits] := by
  rw [unsigned, cast_pow]
  exact Int.mod_modEq n _

theorem unsigned_bounds (bits : Nat) (n : Int) :
    0 ≤ unsigned bits n ∧ unsigned bits n < 2 ^ bits := by
  rw [unsigned, cast_pow]
  exact ⟨Int.emod_nonneg n (pow_ne_zero bits two_ne_zero),
    Int.emod_lt_of_pos n (Int.pow_pos (by decide))⟩

theorem unsigned_congr {m n : Int} (same : m ≡ n [ZMOD 2 ^ bits]) :
    unsigned bits m = unsigned bits n := by
  rw [unsigned, unsigned, cast_pow]
  exact same

theorem signed_modEq (bits : Nat) (n : Int) : signed bits n ≡ n [ZMOD 2 ^ bits] := by
  rw [Int.ModEq, ← cast_pow, signed]
  exact Int.bmod_emod

theorem two_mul_half (pos : 0 < bits) : (2 : Int) ^ bits = 2 * 2 ^ (bits - 1) := by
  obtain ⟨k, rfl⟩ := Nat.exists_eq_add_of_lt pos
  rw [Nat.zero_add, Nat.add_sub_cancel, pow_succ']

theorem signed_bounds (pos : 0 < bits) (n : Int) :
    -2 ^ (bits - 1) ≤ signed bits n ∧ signed bits n < 2 ^ (bits - 1) := by
  have positive := Nat.pow_pos (n := bits) Nat.two_pos
  have lower := Int.le_bmod (x := n) positive
  have upper := Int.bmod_lt (x := n) positive
  have modulus := cast_pow bits
  have half := two_mul_half pos
  rw [Nat.pow_eq] at modulus
  rw [signed, Nat.pow_eq]
  omega

theorem signed_congr {m n : Int} (same : m ≡ n [ZMOD 2 ^ bits]) :
    signed bits m = signed bits n := by
  rw [Int.ModEq, ← cast_pow] at same
  rw [signed, signed, ← Int.emod_bmod, same, Int.emod_bmod]

end TwosComplement

/-! ## An integer as an argument -/

namespace Length

theorem bits_pos (length : Option Length) : 0 < bits length := by
  rcases length with _ | _ | _ <;> decide

/-- Whether an integer is read as a size: without a sign, and as -1 if it is all ones. -/
def asSize (length : Option Length) (signed : Bool) : Bool :=
  isSize length || (length == some .difference && !signed)

theorem bits_of_size {length : Option Length} {signed : Bool}
    (size : asSize length signed = true) : bits length = 64 := by
  match length, size with
  | some .size, _ | some .native, _ | some .difference, _ => rfl

end Length

namespace Cursor

open TwosComplement

variable {length : Option Length} {signed : Bool}

theorem numberAt_of_size (size : Length.asSize length signed = true) (n : Int) :
    numberAt length signed n =
      if unsigned 64 n = 2 ^ 64 - 1 then -1 else unsigned 64 n := by
  rw [numberAt, ← Length.asSize, if_pos size, Length.bits_of_size size]
  rfl

theorem numberAt_of_not_size (plain : Length.asSize length signed = false) (n : Int) :
    numberAt length signed n =
      if signed then TwosComplement.signed (Length.bits length) n
      else unsigned (Length.bits length) n := by
  rw [numberAt, ← Length.asSize, if_neg (Bool.eq_false_iff.1 plain)]

theorem numberAt_modEq (length : Option Length) (signed : Bool) (n : Int) :
    numberAt length signed n ≡ n [ZMOD 2 ^ Length.bits length] := by
  cases size : Length.asSize length signed with
  | true =>
    rw [numberAt_of_size size, Length.bits_of_size size]
    have reduced := unsigned_modEq 64 n
    split
    · rename_i allOnes
      rw [allOnes] at reduced
      -- All ones and -1 differ by the modulus.
      exact (Int.modEq_iff_dvd.2 ⟨1, by omega⟩ : (-1 : Int) ≡ 2 ^ 64 - 1 [ZMOD 2 ^ 64]).trans
        reduced
    · exact reduced
  | false =>
    rw [numberAt_of_not_size size]
    split
    · exact signed_modEq _ n
    · exact unsigned_modEq _ n

/-- An integer is read by its low bits alone. -/
theorem numberAt_congr {m n : Int} (same : m ≡ n [ZMOD 2 ^ Length.bits length]) :
    numberAt length signed m = numberAt length signed n := by
  simp only [numberAt, unsigned_congr same, signed_congr same]

theorem numberAt_inj {m n : Int} :
    numberAt length signed m = numberAt length signed n ↔
      m ≡ n [ZMOD 2 ^ Length.bits length] := by
  refine ⟨fun same => ?_, numberAt_congr⟩
  have reduced := numberAt_modEq length signed m
  rw [same] at reduced
  exact reduced.symm.trans (numberAt_modEq length signed n)

/-! ### Where it lies -/

theorem numberAt_bounds_of_size (size : Length.asSize length signed = true) (n : Int) :
    -1 ≤ numberAt length signed n ∧ numberAt length signed n ≤ 2 ^ 64 - 2 := by
  rw [numberAt_of_size size]
  have bounds := unsigned_bounds 64 n
  split <;> omega

theorem numberAt_bounds_signed (plain : Length.isSize length = false) (n : Int) :
    -2 ^ (Length.bits length - 1) ≤ numberAt length true n ∧
      numberAt length true n < 2 ^ (Length.bits length - 1) := by
  have noSize : Length.asSize length true = false := by
    rw [Length.asSize, plain, Bool.not_true, Bool.and_false, Bool.or_false]
  rw [numberAt_of_not_size noSize, if_pos rfl]
  exact signed_bounds (Length.bits_pos length) n

theorem numberAt_bounds_unsigned (plain : Length.isSize length = false)
    (other : length ≠ some .difference) (n : Int) :
    0 ≤ numberAt length false n ∧ numberAt length false n < 2 ^ Length.bits length := by
  have noSize : Length.asSize length false = false := by
    rw [Length.asSize, plain, beq_false_of_ne other, Bool.false_and, Bool.or_false]
  rw [numberAt_of_not_size noSize, if_neg Bool.false_ne_true]
  exact unsigned_bounds (Length.bits length) n

end Cursor

end ExtendedFormat
