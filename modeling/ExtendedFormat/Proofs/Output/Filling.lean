/-
# ExtendedFormat.Proofs.Output.Filling -- what a width does to a field

A width is the only part of a directive that nothing but the fill depends on.  Without its
width digits a directive is still one, with the same letter, length and flags, wherever the
length modifier stands (`Standard.widthless`).  Both take the same arguments, and the width
makes of what is printed without it what `Standard.Fills` says (`width_only_fills`).
-/
import ExtendedFormat.Proofs.Output.Comparison
import ExtendedFormat.Proofs.Output.Integers

namespace ExtendedFormat

set_option autoImplicit false

open Outcome

/-! ## Padding -/

section Padding

variable {width : Nat} {fill : Fill} {bs : Bytes}

theorem length_pad (width : Nat) (fill : Fill) (bs : Bytes) :
    (pad width fill bs).length = max width bs.length := by
  simp only [pad]
  split
  · omega
  split
  · rw [List.length_append, List.length_replicate]
    omega
  split
  · cases bs with
    | nil =>
      rw [List.length_replicate, List.length_nil]
      omega
    | cons b digits =>
      simp only
      split
      · simp only [List.length_cons, List.length_append, List.length_replicate]
        omega
      · rw [List.length_append, List.length_replicate]
        omega
  · rw [List.length_append, List.length_replicate]
    omega

theorem pad_of_le (enough : width ≤ bs.length) : pad width fill bs = bs :=
  if_pos (Nat.sub_eq_zero_of_le enough)

theorem pad_left (short : bs.length < width) (left : fill.leftAlign = true) :
    pad width fill bs = bs ++ List.replicate (width - bs.length) 0x20 := by
  simp only [pad]
  rw [if_neg (by omega), if_pos left]

/-- Zeros come behind a minus sign, if there is one in front. -/
theorem pad_zeros (short : bs.length < width) (right : fill.leftAlign = false)
    (zeros : (fill.zeroPad && fill.integral) = true) :
    ∃ sign digits, bs = sign ++ digits ∧
      (sign = [minusByte] ∨ sign = [] ∧ digits.head? ≠ some minusByte) ∧
      pad width fill bs = sign ++ (List.replicate (width - bs.length) 0x30 ++ digits) := by
  simp only [pad]
  rw [if_neg (by omega), right, if_neg Bool.false_ne_true, if_pos zeros]
  cases bs with
  | nil => exact ⟨[], [], rfl, .inr ⟨rfl, by simp⟩, (List.append_nil _).symm⟩
  | cons b digits =>
    by_cases minus : b = minusByte
    · subst minus
      exact ⟨[minusByte], digits, rfl, .inl rfl, rfl⟩
    · refine ⟨[], b :: digits, rfl, .inr ⟨rfl, fun first => minus (Option.some.inj first)⟩, ?_⟩
      exact if_neg minus

theorem pad_blanks (short : bs.length < width) (right : fill.leftAlign = false)
    (noZeros : (fill.zeroPad && fill.integral) = false) :
    pad width fill bs = List.replicate (width - bs.length) 0x20 ++ bs := by
  simp only [pad]
  rw [if_neg (by omega), right, if_neg Bool.false_ne_true, noZeros, if_neg Bool.false_ne_true]

end Padding

/-! ## The width of a directive -/

theorem Letter.isIntegral_iff {l : Letter} : l.isIntegral = true ↔
    l ∈ [decimal, integer, unsigned, octal, hexLower, hexUpper] := by
  cases l <;> decide

namespace Standard

/-- The directive without its width digits. -/
def widthless (p : Standard) : Standard :=
  { p with
    digits := []
    areDigits := List.forall_mem_nil _
    noLeadingZero := nofun
    convertible := Nat.zero_le _ }

theorem text_widthless (p : Standard) :
    ∃ front back, p.text = front ++ (p.digits ++ back) ∧ p.widthless.text = front ++ back := by
  refine ⟨percentSign :: ((if p.kFlag then [kByte] else []) ++ Length.written p.early ++ p.flags),
    p.ending, ?_, ?_⟩
  · cases flagged : p.kFlag <;> simp [text, afterPercent, body, flagged]
  · cases flagged : p.kFlag <;> simp [text, afterPercent, body, ending, widthless, flagged]

/-- What the width makes of bytes that are printed without it. -/
structure Fills (p : Standard) (bare filled : Bytes) : Prop where
  length : filled.length = max p.width bare.length
  enough : p.width ≤ bare.length → filled = bare
  left : bare.length < p.width → 0x2D ∈ p.flags →
    filled = bare ++ List.replicate (p.width - bare.length) 0x20
  zeros : bare.length < p.width → 0x2D ∉ p.flags → 0x30 ∈ p.flags →
    p.letter ∈ [.decimal, .integer, .unsigned, .octal, .hexLower, .hexUpper] →
    ∃ sign digits, bare = sign ++ digits ∧
      (sign = [minusByte] ∨ sign = [] ∧ digits.head? ≠ some minusByte) ∧
      filled = sign ++ (List.replicate (p.width - bare.length) 0x30 ++ digits)
  right : bare.length < p.width → 0x2D ∉ p.flags →
    ¬ (0x30 ∈ p.flags ∧
      p.letter ∈ [.decimal, .integer, .unsigned, .octal, .hexLower, .hexUpper]) →
    filled = List.replicate (p.width - bare.length) 0x20 ++ bare

theorem fills_pad (p : Standard) (bs : Bytes) :
    p.Fills bs (pad p.width p.specification.fill bs) := by
  have leftAlign : p.specification.fill.leftAlign = true ↔ 0x2D ∈ p.flags := List.contains_iff_mem
  have zeroFill : (p.specification.fill.zeroPad && p.specification.fill.integral) = true ↔
      0x30 ∈ p.flags ∧
        p.letter ∈ [.decimal, .integer, .unsigned, .octal, .hexLower, .hexUpper] := by
    rw [Bool.and_eq_true, ← Letter.isIntegral_iff]
    exact and_congr_left' List.contains_iff_mem
  exact {
    length := length_pad _ _ bs
    enough := pad_of_le
    left := fun short flag => pad_left short (leftAlign.mpr flag)
    zeros := fun short noFlag zero integral =>
      pad_zeros short (Bool.eq_false_iff.mpr (mt leftAlign.mp noFlag))
        (zeroFill.mpr ⟨zero, integral⟩)
    right := fun short noFlag noZeros =>
      pad_blanks short (Bool.eq_false_iff.mpr (mt leftAlign.mp noFlag))
        (Bool.eq_false_iff.mpr (mt zeroFill.mp noZeros)) }

theorem field_widthless (p : Standard) (cb : Callbacks) (start start' : Nat) (c : Cursor) :
    Related p.Fills (Directive.field cb ⟨p.widthless.specification, start, p.widthless.text⟩ c).1
      (Directive.field cb ⟨p.specification, start', p.text⟩ c).1 := by
  have contents : Related Eq
      (Directive.content cb ⟨p.widthless.specification, start, p.widthless.text⟩ c).1
      (Directive.content cb ⟨p.specification, start', p.text⟩ c).1 := by
    refine Directive.related_content (l := p.letter) ?_ ?_ ?_ ?_ ?_ c
    · rfl
    · rfl
    · rfl
    · exact fun _ _ => rfl
    · exact fun _ _ => Related.refl (fun _ => rfl) _
  rw [Directive.field_eq, Directive.field_eq]
  refine contents.map fun bs bs' same => ?_
  subst same
  show p.Fills (pad 0 p.widthless.specification.fill bs) (pad p.width p.specification.fill bs)
  rw [pad_zero]
  exact p.fills_pad bs

end Standard

/-- **A width changes nothing but the fill.**  Let a directive be given as it is read: its length
modifier is the longest that can be read in its place, and its width can be converted.  Without
its width digits it fails for the same arguments, wherever in a format the two stand and
whatever the callbacks.  Where they print something, the width makes of it what
`Standard.Fills` says. -/
theorem width_only_fills {p : Standard} (greedy : p.IsGreedy) (cb : Callbacks) :
    (∃ front back, p.text = front ++ (p.digits ++ back) ∧ p.widthless.text = front ++ back) ∧
      (∀ start start' c, Related p.Fills
        (Directive.field cb ⟨p.widthless.specification, start, p.widthless.text⟩ c).1
        (Directive.field cb ⟨p.specification, start', p.text⟩ c).1) ∧
      ∀ mode kind args s, CallsRelate p.Fills s
        (formatInto cb ⟨.modern, mode⟩ (.bytes kind p.widthless.text) args s)
        (formatInto cb ⟨.modern, mode⟩ (.bytes kind p.text) args s) := by
  have fields := p.field_widthless cb
  refine ⟨p.text_widthless, fields, fun mode kind args s => ?_⟩
  have bare : p.widthless.IsGreedy := Standard.isGreedy_of_no_digits rfl
  exact callsRelate_words (Standard.denotes_modern bare) (Standard.denotes_modern greedy)
    (fields 0 0 (Cursor.start args)) mode kind s

/-- The directive `%k0100hd`. -/
def widerThanAllowed : Standard where
  kFlag := true
  early := none
  flags := [0x30]
  digits := ascii ['1', '0', '0']
  late := some .short
  letter := .decimal
  oneLength := .inl rfl
  areFlags := by simp
  areDigits := by simp [ascii]
  noLeadingZero := by decide
  convertible := by decide

/-- Zeros up to the twentieth byte, between the sign and the first group. -/
theorem width_only_fills_twenty :
    widerThanAllowed.text = ascii "%k0100hd".toList ∧ widerThanAllowed.IsGreedy ∧
      (Directive.field .unset
        ⟨widerThanAllowed.widthless.specification, 0, widerThanAllowed.widthless.text⟩
        (Cursor.start [.int (-1234)])).1 = .ok (ascii "-1,234".toList) ∧
      (Directive.field .unset ⟨widerThanAllowed.specification, 0, widerThanAllowed.text⟩
        (Cursor.start [.int (-1234)])).1 = .ok (ascii "-000000000000001,234".toList) := by
  have greedy : widerThanAllowed.IsGreedy := Standard.isGreedy_of_early_none rfl
  have bare : (Directive.field .unset
      ⟨widerThanAllowed.widthless.specification, 0, widerThanAllowed.widthless.text⟩
      (Cursor.start [.int (-1234)])).1 = .ok (ascii "-1,234".toList) := by
    rw [Directive.field_integer (l := .decimal) (n := -1234) rfl rfl (fun _ => rfl) rfl rfl]
    exact congrArg Except.ok (by decide +kernel)
  refine ⟨by decide, greedy, bare, ?_⟩
  have related := (width_only_fills greedy .unset).2.1 0 0 (Cursor.start [.int (-1234)])
  rw [bare] at related
  generalize (Directive.field .unset ⟨widerThanAllowed.specification, 0, widerThanAllowed.text⟩
    (Cursor.start [.int (-1234)])).1 = field at related ⊢
  cases related with
  | done fills =>
    obtain ⟨sign, digits, split, signed, filled⟩ :=
      fills.zeros (by decide) (by decide) (by decide) (by decide)
    rcases signed with rfl | ⟨rfl, unsigned⟩
    · obtain rfl : digits = ascii "1,234".toList := (List.cons.inj split).2.symm
      rw [filled]
      rfl
    · obtain rfl : digits = ascii "-1,234".toList := split.symm
      exact absurd rfl unsigned

end ExtendedFormat
