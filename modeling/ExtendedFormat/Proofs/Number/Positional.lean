/-
# ExtendedFormat.Proofs.Number.Positional -- numerals are canonical

Digits come from dividing by the base until nothing is left, the lowest first.  A round of
this loop keeps the number that its digits make up with what is left (`Division.Sums.round`),
and leaves less; so the loop ends (`Division.exists_ends`) with digits that make up the number
alone (`Division.Ends.sums`).  They are those of a numeral, from behind
(`Division.Ends.digits_eq`).

These digits have no zero in front that they could do without.  There is only one such row of
digits for a number (`canonical_iff`), so an integer has one numeral in each base and letter
case, and shares it with no other (`render_canonical`).
-/
import ExtendedFormat.Proofs.Number.Digits
import Mathlib.Data.Nat.Digits.Defs
import Mathlib.Tactic.Ring

namespace ExtendedFormat.Digits

set_option autoImplicit false

/-! ## Division by the base -/

/-- What is left to divide, and the digits found so far, the lowest first. -/
structure Division where
  left : Nat
  digits : List Nat

namespace Division

variable {base n : Nat} {s s' : Division}

def start (n : Nat) : Division := ⟨n, []⟩

/-- One round: the remainder is the next digit, and the quotient is left. -/
def round (base : Nat) (s : Division) : Division := ⟨s.left / base, s.digits ++ [s.left % base]⟩

/-- The loop takes at least one round, and ends behind the first that leaves nothing. -/
inductive Ends (base : Nat) : Division → Division → Prop
  | last {s : Division} (done : (s.round base).left = 0) : Ends base s (s.round base)
  | again {s s' : Division} (more : (s.round base).left ≠ 0)
      (ends : Ends base (s.round base) s') : Ends base s s'

/-- Digits of the base, which make up the number together with what is left, counted at the
next place. -/
structure Sums (base n : Nat) (s : Division) : Prop where
  total : Nat.ofDigits base s.digits + base ^ s.digits.length * s.left = n
  below : ∀ d ∈ s.digits, d < base

theorem sums_start (base n : Nat) : Sums base n (start n) :=
  ⟨by simp [start], by simp [start]⟩

theorem Sums.round (positive : 0 < base) (sums : Sums base n s) : Sums base n (s.round base) := by
  constructor
  · calc Nat.ofDigits base (s.digits ++ [s.left % base]) +
          base ^ (s.digits ++ [s.left % base]).length * (s.left / base)
        = Nat.ofDigits base s.digits +
          base ^ s.digits.length * (s.left % base + base * (s.left / base)) := by
          rw [Nat.ofDigits_append, Nat.ofDigits_singleton, List.length_append,
            List.length_singleton]
          ring
      _ = n := by rw [Nat.mod_add_div, sums.total]
  · intro d mem
    rcases List.mem_append.mp mem with earlier | newest
    · exact sums.below d earlier
    · rw [List.mem_singleton.mp newest]
      exact Nat.mod_lt _ positive

theorem Ends.left_eq_zero (ends : Ends base s s') : s'.left = 0 := by
  induction ends with
  | last done => exact done
  | again _ _ ih => exact ih

theorem Ends.sums (ends : Ends base s s') (positive : 0 < base) (sums : Sums base n s) :
    Sums base n s' := by
  induction ends with
  | last done => exact sums.round positive
  | again _ _ ih => exact ih (sums.round positive)

/-- The digit found last is the quotient that it was divided from. -/
theorem Ends.getLast?_ne_zero (ends : Ends base s s') (nonzero : s.left ≠ 0) :
    s'.digits.getLast? ≠ some 0 := by
  induction ends with
  | @last s done =>
    have rest : s.left % base = s.left := by
      have split := Nat.mod_add_div s.left base
      rwa [show s.left / base = 0 from done, Nat.mul_zero, Nat.add_zero] at split
    rw [round, List.getLast?_concat, rest]
    exact fun zero => nonzero (Option.some.inj zero)
  | again more _ ih => exact ih more

/-- The quotient gets smaller until it is zero. -/
theorem exists_ends (two : 2 ≤ base) (s : Division) : ∃ s', Ends base s s' := by
  induction left : s.left using Nat.strongRecOn generalizing s with
  | ind n ih =>
    by_cases done : (s.round base).left = 0
    · exact ⟨_, .last done⟩
    · have positive : 0 < s.left := Nat.pos_of_ne_zero fun none => done (by simp [round, none])
      have smaller : (s.round base).left < n := left ▸ Nat.div_lt_self positive two
      obtain ⟨s', ends⟩ := ih _ smaller (s.round base) rfl
      exact ⟨s', .again done ends⟩

theorem Ends.digits_eq (two : 2 ≤ base) (ends : Ends base s s') :
    s'.digits = s.digits ++ (positional base s.left).reverse := by
  induction ends with
  | @last s done =>
    have below : s.left < base := (Nat.div_eq_zero_iff_lt (by omega)).mp done
    rw [round, positional_of_lt below, Nat.mod_eq_of_lt below]
    rfl
  | @again s s' more _ ih =>
    have large : base ≤ s.left := by
      by_contra small
      exact more (Nat.div_eq_of_lt (Nat.lt_of_not_le small))
    rw [ih, positional_of_le two large, List.reverse_concat]
    simp [round]

theorem ends_iff (two : 2 ≤ base) :
    Ends base (start n) s ↔ s = ⟨0, (positional base n).reverse⟩ := by
  have only {s : Division} (ends : Ends base (start n) s) :
      s = ⟨0, (positional base n).reverse⟩ := by
    cases s
    exact congrArg₂ mk ends.left_eq_zero (ends.digits_eq two)
  constructor
  · exact only
  · rintro rfl
    obtain ⟨s, ends⟩ := exists_ends two (start n)
    exact only ends ▸ ends

end Division

/-! ## Canonical digits -/

/-- Digits of a number in a base, the highest first: there is at least one, and a zero in front
only if it is all there is. -/
structure Canonical (base n : Nat) (ds : List Nat) : Prop where
  nonempty : ds ≠ []
  below : ∀ d ∈ ds, d < base
  front : ds.head? = some 0 → n = 0 ∧ ds = [0]
  value : Nat.ofDigits base ds.reverse = n

variable {base n : Nat}

/-- What dividing by the base gives. -/
theorem canonical_positional (two : 2 ≤ base) (n : Nat) : Canonical base n (positional base n) := by
  obtain ⟨s, ends⟩ := Division.exists_ends two (.start n)
  have sums := ends.sums (Nat.lt_of_lt_of_le Nat.two_pos two) (Division.sums_start base n)
  have digits : s.digits = (positional base n).reverse := ends.digits_eq two
  constructor
  · exact positional_ne_nil
  · intro d
    exact lt_of_mem_positional two
  · intro front
    have zero : n = 0 := by
      by_contra nonzero
      have last := ends.getLast?_ne_zero nonzero
      rw [digits, List.getLast?_reverse] at last
      exact last front
    subst zero
    exact ⟨rfl, positional_of_lt (Nat.lt_of_lt_of_le Nat.two_pos two)⟩
  · have total := sums.total
    rw [ends.left_eq_zero, Nat.mul_zero, Nat.add_zero, digits] at total
    exact total

section Uniqueness

variable {ds : List Nat}

theorem Canonical.reverse_eq_digits (two : 2 ≤ base) (canonical : Canonical base n ds)
    (leading : ds.head? ≠ some 0) : ds.reverse = Nat.digits base n := by
  rw [← canonical.value]
  refine (Nat.digits_ofDigits base two ds.reverse ?_ ?_).symm
  · intro d mem
    exact canonical.below d (List.mem_reverse.mp mem)
  · intro nonempty zero
    have last := List.getLast?_eq_some_getLast nonempty
    rw [zero, List.getLast?_reverse] at last
    exact leading last

theorem Canonical.eq_zero (two : 2 ≤ base) (canonical : Canonical base 0 ds) : ds = [0] := by
  by_contra other
  have leading : ds.head? ≠ some 0 := fun front => other (canonical.front front).2
  have nothing := canonical.reverse_eq_digits two leading
  rw [Nat.digits_zero, List.reverse_eq_nil_iff] at nothing
  exact canonical.nonempty nothing

theorem canonical_iff (two : 2 ≤ base) : Canonical base n ds ↔ ds = positional base n := by
  constructor
  · intro canonical
    have divided := canonical_positional two n
    rcases eq_or_ne n 0 with rfl | nonzero
    · exact (canonical.eq_zero two).trans (divided.eq_zero two).symm
    · have leading {es : List Nat} (canonical : Canonical base n es) : es.head? ≠ some 0 :=
        fun front => nonzero (canonical.front front).1
      apply List.reverse_inj.mp
      rw [canonical.reverse_eq_digits two (leading canonical),
        divided.reverse_eq_digits two (leading divided)]
  · rintro rfl
    exact canonical_positional two n

end Uniqueness

/-! ## Numerals -/

/-- The digits from zero on, with letters in one case. -/
def table (upper : Bool) : Text :=
  Text.ofString (if upper then "0123456789ABCDEF" else "0123456789abcdef")

variable {upper : Bool}

theorem getElem?_table (upper : Bool) {d : Nat} (digit : d < 16) :
    (table upper)[d]? = some (symbol upper d) := by
  revert d
  cases upper <;> decide +kernel

theorem idxOf_symbol (upper : Bool) {d : Nat} (digit : d < 16) :
    (table upper).idxOf (symbol upper d) = d := by
  revert d
  cases upper <;> decide +kernel

theorem symbol_ne_minus (upper : Bool) {d : Nat} (digit : d < 16) : symbol upper d ≠ minus := by
  revert d
  cases upper <;> decide

section Render

variable (two : 2 ≤ base) (sixteen : base ≤ 16)

include two sixteen

theorem lt_sixteen_of_mem {n d : Nat} (mem : d ∈ positional base n) : d < 16 :=
  Nat.lt_of_lt_of_le (lt_of_mem_positional two mem) sixteen

theorem map_magnitude (upper : Bool) (n : Int) :
    (magnitude base upper n).map some = (positional base n.natAbs).map ((table upper)[·]?) := by
  rw [magnitude, List.map_map]
  refine List.map_congr_left fun d mem => ?_
  exact (getElem?_table upper (lt_sixteen_of_mem two sixteen mem)).symm

/-- The digits are found again in the table. -/
theorem idxOf_magnitude (upper : Bool) (n : Int) :
    (magnitude base upper n).map (table upper).idxOf = positional base n.natAbs := by
  have found : ∀ d ∈ positional base n.natAbs, (table upper).idxOf (symbol upper d) = d :=
    fun d mem => idxOf_symbol upper (lt_sixteen_of_mem two sixteen mem)
  rw [magnitude, List.map_map]
  exact (List.map_congr_left found).trans (List.map_id' _)

theorem minus_mem_render_iff (upper : Bool) (n : Int) : minus ∈ render base upper n ↔ n < 0 := by
  have unsigned : minus ∉ magnitude base upper n := by
    intro mem
    obtain ⟨d, digit, same⟩ := List.mem_map.mp mem
    exact symbol_ne_minus upper (lt_sixteen_of_mem two sixteen digit) same
  rw [render_eq, sign, List.mem_append, or_iff_left unsigned]
  split <;> simp_all

theorem render_inj {m n : Int} (same : render base upper m = render base upper n) : m = n := by
  have signs : m < 0 ↔ n < 0 := by
    rw [← minus_mem_render_iff two sixteen upper, same, minus_mem_render_iff two sixteen upper]
  have digits : magnitude base upper m = magnitude base upper n := by
    rw [render_eq, render_eq, sign, sign, if_congr signs rfl rfl] at same
    exact List.append_cancel_left same
  have sizes : m.natAbs = n.natAbs := by
    rw [← (canonical_positional two m.natAbs).value, ← idxOf_magnitude two sixteen upper, digits,
      idxOf_magnitude two sixteen upper, (canonical_positional two n.natAbs).value]
  omega

end Render

/-- **Numerals are canonical.**  In a base from two to sixteen and either letter case, dividing
the magnitude of an integer by the base comes to an end, and with the only row of canonical
digits that the magnitude has, from behind.  The integer is rendered as a minus sign, if it is
negative, and the characters of these digits; no other integer is rendered alike. -/
theorem render_canonical {base : Nat} (two : 2 ≤ base) (sixteen : base ≤ 16) (upper : Bool)
    (n : Int) :
    ∃ ds t,
      (∀ s, Division.Ends base (.start n.natAbs) s ↔ s = ⟨0, ds.reverse⟩) ∧
      (∀ es, Canonical base n.natAbs es ↔ es = ds) ∧
      t.map some = ds.map ((table upper)[·]?) ∧
      render base upper n = sign n ++ t ∧
      (minus ∈ render base upper n ↔ n < 0) ∧
      ∀ m, render base upper m = render base upper n → m = n := by
  refine ⟨positional base n.natAbs, magnitude base upper n, ?_, ?_, ?_, ?_, ?_, ?_⟩
  · exact fun s => Division.ends_iff two
  · exact fun es => canonical_iff two
  · exact map_magnitude two sixteen upper n
  · exact render_eq base upper n
  · exact minus_mem_render_iff two sixteen upper n
  · exact fun m same => render_inj two sixteen same

/-- A remainder of zero does not end the loop. -/
theorem render_canonical_hexadecimal :
    2 ≤ 16 ∧ 16 ≤ 16 ∧
      (∀ s, Division.Ends 16 (.start 2574) s ↔ s = ⟨0, [14, 0, 10]⟩) ∧
      (∀ es, Canonical 16 2574 es ↔ es = [10, 0, 14]) ∧
      render 16 true (-2574) = Text.ofString "-A0E" ∧
      ∀ m, render 16 true m = Text.ofString "-A0E" → m = -2574 := by
  have shown : render 16 true (-2574) = Text.ofString "-A0E" := by decide +kernel
  have digits : positional 16 2574 = [10, 0, 14] := by decide +kernel
  obtain ⟨ds, t, ends, canonical, -, -, -, injective⟩ :=
    render_canonical (by decide : 2 ≤ 16) (by decide) true (-2574)
  obtain rfl : [10, 0, 14] = ds := digits ▸ (canonical _).mp (canonical_positional (by decide) _)
  rw [shown] at injective
  exact ⟨by decide, by decide, ends, canonical, shown, injective⟩

end ExtendedFormat.Digits
