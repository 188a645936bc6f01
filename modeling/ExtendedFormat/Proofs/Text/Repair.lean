/-
# ExtendedFormat.Proofs.Text.Repair -- unpaired surrogates, repaired in place

The built-in transcoder reads code units as UTF-16 and writes UTF-8, which is always well
formed, as the decoder answers no half of a surrogate pair (`Utf16.decode_isScalar`).  Written
as code units again, the text is what it was read from, except that U+FFFD stands for every
unpaired surrogate (`Utf16.units_decode`).

Which units are unpaired is said by their neighbours alone (`Utf16.isUnpairedAt`).  The decoder
takes two units at a time where they pair; what is behind a pair does not see it, since its
second unit is not a high one.
-/
import ExtendedFormat.Callbacks
import ExtendedFormat.Proofs.Text.Utf16

namespace ExtendedFormat

set_option autoImplicit false

namespace Utf16

/-! ## Units that are repaired -/

/-- The unit at the position is a high surrogate without a low one right behind it, or a low
one without a high one right before it. -/
def isUnpairedAt (us : List UInt16) (i : Nat) : Bool :=
  (us[i]?.any isHigh && !us[i + 1]?.any isLow) ||
    (us[i]?.any isLow && (i == 0 || !us[i - 1]?.any isHigh))

/-- U+FFFD as a unit. -/
def replacementUnit : UInt16 := 0xFFFD

/-- The units with U+FFFD for every unpaired surrogate. -/
def repaired (us : List UInt16) : List UInt16 :=
  us.mapIdx fun i u => if isUnpairedAt us i then replacementUnit else u

variable {u v : UInt16} {rest : List UInt16}

theorem not_low_of_high (high : isHigh u = true) : isLow u = false := by
  simp only [isHigh, isLow, decide_eq_true_eq, decide_eq_false_iff_not] at high ⊢
  omega

theorem not_high_of_low (low : isLow u = true) : isHigh u = false := by
  cases high : isHigh u with
  | false => rfl
  | true => rw [not_low_of_high high] at low; cases low

/-- A unit in front matters to the next one alone, and only if they pair. -/
theorem isUnpairedAt_cons (apart : (isHigh u && rest.head?.any isLow) = false) (i : Nat) :
    isUnpairedAt (u :: rest) (i + 1) = isUnpairedAt rest i := by
  cases i with
  | succ i => simp [isUnpairedAt]
  | zero =>
    rw [List.head?_eq_getElem?] at apart
    cases low : rest[0]?.any isLow with
    | false => simp [isUnpairedAt, low]
    | true =>
      rw [low, Bool.and_true] at apart
      simp [isUnpairedAt, low, apart]

theorem isUnpairedAt_zero (u : UInt16) (rest : List UInt16) :
    isUnpairedAt (u :: rest) 0 = (isHigh u && !rest.head?.any isLow || isLow u) := by
  simp [isUnpairedAt, List.head?_eq_getElem?]

/-- Behind a unit that does not pair, units are repaired as if it were not there. -/
theorem repaired_cons (apart : (isHigh u && rest.head?.any isLow) = false) :
    repaired (u :: rest) =
      (if isHigh u || isLow u then replacementUnit else u) :: repaired rest := by
  have first : isUnpairedAt (u :: rest) 0 = (isHigh u || isLow u) := by
    rw [isUnpairedAt_zero]
    cases high : isHigh u with
    | false => rfl
    | true =>
      rw [high, Bool.true_and] at apart
      rw [apart]
      rfl
  simp only [repaired, List.mapIdx_cons, first, isUnpairedAt_cons apart]

/-- A pair stays as it is. -/
theorem repaired_pair (high : isHigh u = true) (low : isLow v = true) :
    repaired (u :: v :: rest) = u :: v :: repaired rest := by
  have first : isUnpairedAt (u :: v :: rest) 0 = false := by
    simp [isUnpairedAt, low, not_low_of_high high]
  have second : isUnpairedAt (u :: v :: rest) 1 = false := by
    simp [isUnpairedAt, high, not_high_of_low low]
  have behind (i : Nat) : isUnpairedAt (u :: v :: rest) (i + 2) = isUnpairedAt rest i := by
    have unseen : isUnpairedAt (u :: v :: rest) (i + 2) = isUnpairedAt (v :: rest) (i + 1) := by
      simp [isUnpairedAt]
    rw [unseen, isUnpairedAt_cons (by rw [not_high_of_low low, Bool.false_and])]
  simp [repaired, List.mapIdx_cons, first, second, behind]

/-! ## There and back -/

theorem unitsOf_single (u : UInt16) :
    unitsOf (single u) = [if isHigh u || isLow u then replacementUnit else u] := by
  unfold single
  split
  · rfl
  · have small := u.toNat_lt
    have value : (CodePoint.ofNat u.toNat).val = u.toNat :=
      (CodePoint.ofNat_eq_iff (by omega)).mp rfl
    rw [unitsOf, value, if_pos (by omega)]
    exact congrArg (fun w => [w]) ((eq_unit_iff (by omega)).mpr rfl).symm

theorem val_join (high : isHigh u = true) (low : isLow v = true) :
    (join u v).val = 0x10000 + (u.toNat - 0xD800) * 0x400 + (v.toNat - 0xDC00) := by
  simp only [isHigh, isLow, decide_eq_true_eq] at high low
  exact (CodePoint.ofNat_eq_iff (by omega)).mp rfl

theorem unitsOf_join (high : isHigh u = true) (low : isLow v = true) :
    unitsOf (join u v) = [u, v] := by
  have value := val_join high low
  simp only [isHigh, isLow, decide_eq_true_eq] at high low
  have first : u = (0xD800 + ((join u v).val - 0x10000) / 0x400).toUInt16 :=
    (eq_unit_iff (by omega)).mpr (by omega)
  have second : v = (0xDC00 + ((join u v).val - 0x10000) % 0x400).toUInt16 :=
    (eq_unit_iff (by omega)).mpr (by omega)
  rw [unitsOf, if_neg (by omega), ← first, ← second]

/-- Units that are decoded and written again are repaired, each in its place. -/
theorem units_decode (us : List UInt16) : units (decode us) = repaired us := by
  fun_induction decode us with
  | case1 => rfl
  | case2 u =>
    rw [repaired_cons (by simp), units, List.flatMap_singleton, unitsOf_single]
    rfl
  | case3 u v rest pair ih =>
    rw [Bool.and_eq_true] at pair
    rw [repaired_pair pair.1 pair.2, ← ih, units, List.flatMap_cons, unitsOf_join pair.1 pair.2]
    rfl
  | case4 u v rest apart ih =>
    rw [repaired_cons (Bool.eq_false_iff.mpr apart), ← ih, units, List.flatMap_cons,
      unitsOf_single]
    rfl

theorem single_isScalar (u : UInt16) : (single u).isSurrogate = false := by
  unfold single
  split
  · rfl
  · rename_i plain
    have small := u.toNat_lt
    have value : (CodePoint.ofNat u.toNat).val = u.toNat :=
      (CodePoint.ofNat_eq_iff (by omega)).mp rfl
    simp only [isHigh, isLow, Bool.or_eq_true, decide_eq_true_eq] at plain
    rw [CodePoint.isSurrogate_eq_false_iff, value]
    omega

/-- Decoded units hold no half of a surrogate pair. -/
theorem decode_isScalar (us : List UInt16) : (decode us).IsScalar := by
  fun_induction decode us with
  | case1 => exact List.forall_mem_nil _
  | case2 u => exact List.forall_mem_singleton.mpr (single_isScalar u)
  | case3 u v rest pair ih =>
    rw [Bool.and_eq_true] at pair
    have value := val_join pair.1 pair.2
    refine List.forall_mem_cons.mpr ⟨?_, ih⟩
    rw [CodePoint.isSurrogate_eq_false_iff]
    omega
  | case4 u v rest apart ih => exact List.forall_mem_cons.mpr ⟨single_isScalar u, ih⟩

end Utf16

/-! ## The transcoder -/

/-- A code unit is an integer's residue. -/
theorem Value.toNat_codeUnit (n : Int) : ((codeUnit n).toNat : Int) = n % 0x10000 := by
  have nonneg : 0 ≤ n % 0x10000 := Int.emod_nonneg n (by decide)
  have below : n % 0x10000 < 0x10000 := Int.emod_lt_of_pos n (by decide)
  have value : (codeUnit n).toNat = (n % 0x10000).toNat :=
    (Utf16.eq_unit_iff (by omega)).mp rfl
  rw [value, Int.toNat_of_nonneg nonneg]

theorem Callbacks.decode?_defaultTranscode (us : List UInt16) :
    Utf8.decode? (defaultTranscode us) = some (Utf16.decode us) :=
  Utf8.decode?_eq_some_iff.mpr (Utf8.items_encode (Utf16.decode_isScalar us))

/-- **Transcoding repairs exactly the unpaired surrogates.**  Integers of any size count by their
low sixteen bits.  What the built-in transcoder gives for them is well-formed UTF-8, and the
text in it has the same units, but for U+FFFD in the place of every unpaired surrogate.  For
the units of a text without surrogates it gives that text. -/
theorem transcoding_repairs :
    (∀ ns : List Int,
      let us := ns.map Value.codeUnit
      us.map (fun u => (u.toNat : Int)) = ns.map (fun n => n % 0x10000) ∧
        ∃ t, Utf8.decode? (Callbacks.defaultTranscode us) = some t ∧
          Utf16.units t = Utf16.repaired us) ∧
      ∀ t : Text, t.IsScalar →
        Utf8.decode? (Callbacks.defaultTranscode (Utf16.units t)) = some t := by
  refine ⟨fun ns => ⟨?_, ?_⟩, fun t scalar => ?_⟩
  · rw [List.map_map]
    exact List.map_congr_left fun n _ => Value.toNat_codeUnit n
  · exact ⟨_, Callbacks.decode?_defaultTranscode _, Utf16.units_decode _⟩
  · rw [Callbacks.decode?_defaultTranscode, Utf16.decode_units scalar]

/-- Two high surrogates before a low one, at the end a high one, and a byte order mark that is
no surrogate.  As a text, the mark and a character outside the basic plane. -/
theorem transcoding_repairs_high_run :
    Text.IsScalar [CodePoint.byteOrderMark, ⟨0x1F600, by decide⟩] ∧
      Utf8.decode? (Callbacks.defaultTranscode
        (Utf16.units [CodePoint.byteOrderMark, ⟨0x1F600, by decide⟩])) =
        some [CodePoint.byteOrderMark, ⟨0x1F600, by decide⟩] ∧
      ∃ t, Utf8.decode? (Callbacks.defaultTranscode
          ([0xD83D, 0x1D83D, 0xDE00, 0xFEFF, -0x2400, 0xD83D].map Value.codeUnit)) = some t ∧
        Utf16.units t = [0xFFFD, 0xD83D, 0xDE00, 0xFEFF, 0xFFFD, 0xFFFD] := by
  have scalar : Text.IsScalar [CodePoint.byteOrderMark, ⟨0x1F600, by decide⟩] := by
    unfold Text.IsScalar
    decide
  obtain ⟨repairs, inverts⟩ := transcoding_repairs
  obtain ⟨-, t, decoded, units⟩ := repairs [0xD83D, 0x1D83D, 0xDE00, 0xFEFF, -0x2400, 0xD83D]
  refine ⟨scalar, inverts _ scalar, t, decoded, units.trans ?_⟩
  decide

end ExtendedFormat
