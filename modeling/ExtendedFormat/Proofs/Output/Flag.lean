/-
# ExtendedFormat.Proofs.Output.Flag -- what the flag `k` does to a field

In the modern dialect a `k` behind the percent sign of a standard directive is never the
beginning of an operation, so what was a directive still is, with the same letter, length and
flags.  It takes the same arguments.  Text comes in quotes, whatever it was read from;
a decimal comes in groups of three; other numbers come as they were
(`flag_wraps_or_groups`).
-/
import ExtendedFormat.Proofs.Output.Filling

namespace ExtendedFormat

set_option autoImplicit false

open Outcome Numerals

/-! ## What becomes of the bytes -/

/-- What the flag makes of the bytes that a directive with the letter prints without it.
Commas stand between groups of digits, behind the sign if there is one. -/
inductive Letter.Marks : Letter → Bytes → Bytes → Prop
  | quoted {l : Letter} (text : l ∈ [char, wideChar, string, wideString, view]) (plain : Bytes) :
      Marks l plain (0x22 :: plain ++ [0x22])
  | grouped {l : Letter} (decimal : l ∈ [decimal, integer, unsigned]) {sign : Bytes}
      (isSign : sign = [] ∨ sign = [minusByte]) {groups : List Bytes}
      (digits : ∀ b ∈ groups.flatten, 0x30 ≤ b.toNat ∧ b.toNat ≤ 0x39)
      (threes : Digits.InThrees groups) :
      Marks l (sign ++ groups.flatten) (sign ++ List.intercalate [0x2C] groups)
  | same {l : Letter} (radix : l ∈ [octal, hexLower, hexUpper]) (plain : Bytes) :
      Marks l plain plain

namespace Letter

variable {l : Letter} {cb : Callbacks}

theorem marks_quoted (text : l.isIntegral = false) (bs : Bytes) :
    l.Marks (Render.quotedIf false bs) (Render.quotedIf true bs) := by
  refine .quoted ?_ bs
  revert text
  cases l <;> decide

theorem radix_of_decimal (decimal : l ∈ [decimal, integer, unsigned]) :
    Render.radix l = (10, false) := by
  revert decimal
  cases l <;> decide

theorem decimal_or_other (integral : l.isIntegral = true) :
    l ∈ [decimal, integer, unsigned] ∨ l ∈ [octal, hexLower, hexUpper] :=
  List.mem_append.1 (isIntegral_iff.1 integral)

theorem narrow_sign (n : Int) :
    narrow (Digits.sign n) = [] ∨ narrow (Digits.sign n) = [minusByte] := by
  unfold Digits.sign
  split
  · exact .inr rfl
  · exact .inl rfl

/-- The digits of a decimal, in their bytes. -/
theorem digits_of_magnitude (n : Int) :
    ∀ b ∈ narrow (Digits.magnitude 10 false n), 0x30 ≤ b.toNat ∧ b.toNat ≤ 0x39 := by
  intro b mem
  obtain ⟨c, inside, rfl⟩ := List.mem_map.1 mem
  have decimal := of_decide_eq_true (Digits.isDecimal_of_mem_magnitude inside)
  have same : c.val.toUInt8.toNat = c.val := Nat.mod_eq_of_lt (by omega)
  omega

theorem marks_numeral (decimal : l ∈ [decimal, integer, unsigned]) (n : Int) :
    l.Marks (l.numeral false n) (l.numeral true n) := by
  let digits := Digits.magnitude 10 false n
  let groups := (Digits.groups digits).map narrow
  have together : groups.flatten = narrow digits := by
    have mapped := List.map_flatten (f := fun c : CodePoint => c.val.toUInt8)
      (L := Digits.groups digits)
    rw [Digits.flatten_groups] at mapped
    exact mapped.symm
  have plain : l.numeral false n = narrow (Digits.sign n) ++ groups.flatten := by
    rw [together, numeral, radix_of_decimal decimal]
    exact List.map_append
  have flagged : l.numeral true n = narrow (Digits.sign n) ++ List.intercalate [0x2C] groups := by
    rw [numeral, radix_of_decimal decimal]
    refine List.map_append.trans (congrArg (narrow (Digits.sign n) ++ ·) ?_)
    exact Digits.map_intercalate _ Digits.defaultSeparator (Digits.groups digits)
  have nonempty : digits ≠ [] := Digits.magnitude_ne_nil 10 false n
  rw [plain, flagged]
  refine .grouped decimal (narrow_sign n) ?_ ((Digits.inThrees_groups nonempty).map _)
  rw [together]
  exact digits_of_magnitude n

/-- Only decimals are grouped. -/
theorem number_of_other (other : l ∈ [octal, hexLower, hexUpper]) (k : Bool) (n : Int) :
    Render.number cb (Render.radix l).1 (Render.radix l).2 k n =
      Render.number cb (Render.radix l).1 (Render.radix l).2 false n := by
  have base : ((Render.radix l).1 == 10) = false := by
    revert other
    cases l <;> decide
  rw [Render.number, Render.number, base, Bool.and_false, Bool.and_false]

theorem related_numbers (integral : l.isIntegral = true)
    (builtIn : l ∈ [decimal, integer, unsigned] → cb.groupDigits = none) (n : Int) :
    Related l.Marks (Render.number cb (Render.radix l).1 (Render.radix l).2 false n)
      (Render.number cb (Render.radix l).1 (Render.radix l).2 true n) := by
  have unflagged : Render.number cb (Render.radix l).1 (Render.radix l).2 false n =
      .ok (l.numeral false n) := Render.number_eq l Bool.noConfusion n
  rcases decimal_or_other integral with decimal | other
  · rw [unflagged, Render.number_eq l fun _ => builtIn decimal]
    exact .done (marks_numeral decimal n)
  · rw [number_of_other other true, unflagged]
    exact .done (.same other _)

end Letter

/-! ## The flag of a directive -/

namespace Standard

variable {p : Standard}

/-- The directive with the flag. -/
def flagged (p : Standard) : Standard := { p with kFlag := true }

theorem text_flagged (unflagged : p.kFlag = false) :
    p.flagged.text = percentSign :: kByte :: p.text.tail := by
  rw [text, text, afterPercent, afterPercent, unflagged]
  rfl

theorem field_flagged (unflagged : p.kFlag = false) (widthless : p.digits = []) {cb : Callbacks}
    (builtIn : p.letter ∈ [.decimal, .integer, .unsigned] → cb.groupDigits = none)
    (start start' : Nat) (c : Cursor) :
    Related p.letter.Marks (Directive.field cb ⟨p.specification, start, p.text⟩ c).1
      (Directive.field cb ⟨p.flagged.specification, start', p.flagged.text⟩ c).1 := by
  have kFlag : p.specification.kFlag = false := unflagged
  have width : p.specification.width = 0 := by
    show min (decimalValue p.digits) 20 = 0
    rw [widthless]
    rfl
  have contents : Related p.letter.Marks
      (Directive.content cb ⟨p.specification, start, p.text⟩ c).1
      (Directive.content cb ⟨p.flagged.specification, start', p.flagged.text⟩ c).1 := by
    refine Directive.related_content (l := p.letter) rfl ?_ ?_ ?_ ?_ c
    · rfl
    · rfl
    · intro text
      rw [kFlag]
      exact Letter.marks_quoted text
    · intro integral
      rw [kFlag]
      exact Letter.related_numbers integral builtIn
  rw [Directive.field_eq, Directive.field_eq]
  refine contents.map fun bs bs' marks => ?_
  have bare (fill : Fill) (bs : Bytes) : pad p.specification.width fill bs = bs := by
    rw [width, pad_zero]
  rw [bare]
  exact (bare p.flagged.specification.fill bs').symm ▸ marks

end Standard

/-- **The flag `k` only wraps or groups.**  Put right behind the percent sign of a directive
without flag and width, it makes a directive that fails for the same arguments, wherever in a
format the two stand and whatever the transcoder and the look-ups.  Where they print
something, the flag makes of it what `Letter.Marks` says: text is quoted, decimals are
grouped (the built-in grouping provided), and the rest is left alone. -/
theorem flag_wraps_or_groups {p : Standard} (unflagged : p.kFlag = false)
    (widthless : p.digits = []) {cb : Callbacks}
    (builtIn : p.letter ∈ [.decimal, .integer, .unsigned] → cb.groupDigits = none) :
    p.flagged.text = percentSign :: kByte :: p.text.tail ∧
      (∀ start start' c, Related p.letter.Marks
        (Directive.field cb ⟨p.specification, start, p.text⟩ c).1
        (Directive.field cb ⟨p.flagged.specification, start', p.flagged.text⟩ c).1) ∧
      ∀ mode kind args s, CallsRelate p.letter.Marks s
        (formatInto cb ⟨.modern, mode⟩ (.bytes kind p.text) args s)
        (formatInto cb ⟨.modern, mode⟩ (.bytes kind p.flagged.text) args s) := by
  have fields := Standard.field_flagged unflagged widthless builtIn
  refine ⟨Standard.text_flagged unflagged, fields, fun mode kind args s => ?_⟩
  have greedy : p.IsGreedy := Standard.isGreedy_of_no_digits widthless
  have greedy' : p.flagged.IsGreedy := Standard.isGreedy_of_no_digits widthless
  exact callsRelate_words (Standard.denotes_modern greedy) (Standard.denotes_modern greedy')
    (fields 0 0 (Cursor.start args)) mode kind s

/-- The directive `%0lld`. -/
def longDecimal : Standard :=
  { widerThanAllowed.widthless with
    kFlag := false
    late := some .longLong
    oneLength := .inl rfl }

/-- Two commas behind a sign. -/
theorem flag_wraps_or_groups_millions :
    longDecimal.kFlag = false ∧ longDecimal.digits = [] ∧
      longDecimal.flagged.text = ascii "%k0lld".toList ∧
      (Directive.field .unset ⟨longDecimal.specification, 0, longDecimal.text⟩
        (Cursor.start [.int (-1234567)])).1 = .ok (ascii "-1234567".toList) ∧
      (Directive.field .unset ⟨longDecimal.flagged.specification, 0, longDecimal.flagged.text⟩
        (Cursor.start [.int (-1234567)])).1 = .ok (ascii "-1,234,567".toList) := by
  have plain : (Directive.field .unset ⟨longDecimal.specification, 0, longDecimal.text⟩
      (Cursor.start [.int (-1234567)])).1 = .ok (ascii "-1234567".toList) := by
    rw [Directive.field_integer (l := .decimal) (n := -1234567) rfl rfl (fun _ => rfl) rfl rfl]
    exact congrArg Except.ok (by decide +kernel)
  refine ⟨rfl, rfl, by decide, plain, ?_⟩
  have related := (@flag_wraps_or_groups longDecimal rfl rfl .unset fun _ => rfl).2.1 0 0
    (Cursor.start [.int (-1234567)])
  rw [plain] at related
  generalize (Directive.field .unset
    ⟨longDecimal.flagged.specification, 0, longDecimal.flagged.text⟩
    (Cursor.start [.int (-1234567)])).1 = field at related ⊢
  cases related with
  | done marks =>
    generalize bytes : ascii "-1234567".toList = plain at marks
    cases marks with
    | quoted text => exact absurd text (by decide)
    | same radix => exact absurd radix (by decide)
    | @grouped _ _ isSign groups digits threes =>
      rcases isSign with rfl | rfl
      · -- The sign would be a digit.
        have first : minusByte ∈ [] ++ groups.flatten := bytes ▸ List.mem_cons_self
        exact absurd (digits _ first).1 (by decide)
      · have together : groups.flatten = ascii "1234567".toList := (List.cons.inj bytes).2.symm
        rw [threes.eq_groups, together]
        exact congrArg Except.ok (by decide +kernel)

end ExtendedFormat
