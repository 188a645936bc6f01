/-
# ExtendedFormat.Proofs.Json.Values -- what JSON text stands for

JSON text stands for null, booleans, numbers, text, lists of such values and tables of them, and
an integer in it has no more digits than can be converted (`Json.makes_of_read`).  So an
argument that was given as JSON is never an integer too long to be named, whatever shape it
is given (`Argument.isNameable_ofText`): a double without a fraction is an integer of at most 1024
bits.
-/
import ExtendedFormat.Argument
import ExtendedFormat.Proofs.Number.Bounds
import ExtendedFormat.Proofs.Outcome

namespace ExtendedFormat

set_option autoImplicit false

open Outcome

/-! ## Doubles -/

namespace Binary64

theorem mantissa_lt (x : Binary64) : x.mantissa < 2 ^ 53 := by
  have fraction : x.magnitude % Nat.pow 2 52 < 2 ^ 52 := Nat.mod_lt _ (by decide)
  have unit : Nat.pow 2 52 = 2 ^ 52 := rfl
  simp only [mantissa]
  split <;> omega

theorem exponent_le {x : Binary64} (finite : x.isFinite = true) : x.exponent ≤ 971 := by
  have below : x.magnitude < infinite := by simpa [isFinite] using finite
  have field : x.magnitude / Nat.pow 2 52 < 0x7FF :=
    (Nat.div_lt_iff_lt_mul (by decide)).mpr below
  unfold exponent
  omega

/-- A whole number that a double stands for has at most 1024 bits. -/
theorem natAbs_lt_of_toInt? {x : Binary64} {n : Int} (whole : x.toInt? = some n) :
    ∃ bits ≤ 1024, n.natAbs < 2 ^ bits := by
  have signless (m : Nat) : ((if x.isNegative then -1 else 1 : Int) * (m : Int)).natAbs = m := by
    split <;> simp
  have small := x.mantissa_lt
  simp only [toInt?] at whole
  split at whole
  · cases whole
  · rename_i finite
    have top := @exponent_le x (by simpa using finite)
    split at whole
    · cases whole
      refine ⟨53 + x.exponent.toNat, by omega, ?_⟩
      rw [signless, Nat.pow_add]
      exact Nat.mul_lt_mul_of_pos_right small (Nat.two_pow_pos _)
    · split at whole
      · cases whole
        refine ⟨53, by decide, ?_⟩
        rw [signless]
        exact Nat.lt_of_le_of_lt (Nat.div_le_self _ _) small
      · cases whole

end Binary64

/-! ## Tables -/

namespace Table

/-- What is in a table is old or was just written. -/
theorem value_mem_insert {t : Table} {key value : Value} {e : Value × Value}
    (member : e ∈ t.insert key value) : e ∈ t ∨ e.2 = value := by
  unfold insert at member
  split at member
  · obtain ⟨old, inside, changed⟩ := List.mem_map.mp member
    split at changed
    · exact .inr (changed ▸ rfl)
    · exact .inl (changed ▸ inside)
  · rcases List.mem_append.mp member with inside | new
    · exact .inl inside
    · rw [List.mem_singleton.mp new]
      exact .inr rfl

theorem forall_values_foldl {P : Value → Prop} {entries : List (Value × Value)} {t : Table}
    (new : ∀ e ∈ entries, P e.2) (old : ∀ e ∈ t, P e.2) :
    ∀ e ∈ entries.foldl (fun t e => Table.insert t e.1 e.2) t, P e.2 := by
  induction entries generalizing t with
  | nil => exact old
  | cons entry more ih =>
    refine ih (fun e later => new e (List.mem_cons_of_mem entry later)) ?_
    intro e member
    rcases value_mem_insert member with inside | written
    · exact old e inside
    · exact written ▸ new entry List.mem_cons_self

theorem forall_values_ofEntries {P : Value → Prop} {entries : List (Value × Value)}
    (each : ∀ e ∈ entries, P e.2) : ∀ e ∈ ofEntries entries, P e.2 :=
  forall_values_foldl each nofun

theorem mem_of_get? {t : Table} {key v : Value} (found : t.get? key = some v) :
    ∃ e ∈ t, e.2 = v := by
  obtain ⟨e, first, rfl⟩ := Option.map_eq_some_iff.mp found
  exact ⟨e, List.mem_of_find?_eq_some first, rfl⟩

end Table

/-! ## Values -/

namespace Json

inductive Makes : Value → Prop
  | null : Makes .null
  | bool (b : Bool) : Makes (.bool b)
  | int {n : Int} (short : n.natAbs < 10 ^ Numeral.digitLimit) : Makes (.int n)
  | float (x : Binary64) : Makes (.float x)
  | text (t : Text) : Makes (.text t)
  | list {items : List Value} (each : ∀ v ∈ items, Makes v) : Makes (.list items)
  | dict {entries : List (Value × Value)} (each : ∀ e ∈ entries, Makes e.2) :
      Makes (.dict entries)

theorem Makes.isNameable {v : Value} (makes : Makes v) : v.IsNameable := by
  intro n index
  cases makes with
  | bool b =>
    cases index
    have one : (if b then (1 : Int) else 0).natAbs ≤ 1 := by cases b <;> decide
    exact Nat.lt_of_le_of_lt one (Nat.one_lt_pow (by decide) (by decide))
  | int short =>
    cases index
    exact short
  | null | float | text | list | dict => cases index

/-! ## Numbers -/

theorem natOf_lt {digits : Text} (areDigits : ∀ c ∈ digits, isDigit c = true) :
    natOf digits < 10 ^ digits.length := by
  have each : ∀ d ∈ digits.map (fun c => c.val - 0x30), d < 10 := by
    intro d member
    obtain ⟨c, inside, rfl⟩ := List.mem_map.mp member
    have digit : 0x30 ≤ c.val ∧ c.val ≤ 0x39 := by simpa [isDigit] using areDigits c inside
    show c.val - 0x30 < 10
    omega
  have bound := Numeral.natOfDigits_lt each
  rwa [List.length_map] at bound

theorem isDigit_of_number? {t rest : Text} {n : Number} (read : number? t = some (n, rest)) :
    ∀ c ∈ n.whole, isDigit c = true := by
  unfold number? at read
  simp only at read
  split at read
  · cases read
  · rename_i first after _
    split at read
    · cases read
    · rename_i digit
      have digit : isDigit first = true := by simpa using digit
      cases read
      intro c member
      simp only at member
      split at member
      · rw [List.mem_singleton.mp member]
        exact digit
      · rcases List.mem_cons.mp member with rfl | later
        · exact digit
        · exact List.all_eq_true.mp List.all_takeWhile c later

theorem makes_of_number {t rest : Text} {v : Value} (read : number t = .ok (v, rest)) :
    Makes v := by
  unfold number at read
  split at read
  · rename_i n after found
    obtain ⟨w, made, same⟩ := map_eq_ok_iff.mp read
    cases same
    unfold Number.toValue at made
    split at made
    · cases made
      exact .float _
    · split at made
      · cases made
      · rename_i short
        cases made
        refine .int ?_
        have same : n.toInt.natAbs = natOf n.whole := by
          unfold Number.toInt
          split <;> simp
        rw [same]
        calc natOf n.whole < 10 ^ n.whole.length := natOf_lt (isDigit_of_number? found)
          _ ≤ 10 ^ Numeral.digitLimit := Nat.pow_le_pow_right (by decide) (Nat.le_of_not_lt short)
  · cases read

theorem makes_of_scalar {t rest : Text} {v : Value} (read : scalar t = .ok (v, rest)) :
    Makes v := by
  unfold scalar at read
  split at read
  · cases read
    exact .null
  · split at read
    · cases read
      exact .bool true
    · split at read
      · cases read
        exact .bool false
      · exact makes_of_number read

/-! ## Lists and tables -/

/-- What the three parsers make with this much fuel. -/
structure MakesWith (fuel : Nat) : Prop where
  value : ∀ t v rest, Json.value fuel t = .ok (v, rest) → Makes v
  elements : ∀ t vs rest, Json.elements fuel t = .ok (vs, rest) → ∀ v ∈ vs, Makes v
  members : ∀ t es rest, Json.members fuel t = .ok (es, rest) → ∀ e ∈ es, Makes e.2

theorem MakesWith.value_succ {fuel : Nat} (makes : MakesWith fuel) {t rest : Text} {v : Value}
    (read : Json.value (fuel + 1) t = .ok (v, rest)) : Makes v := by
  cases t with
  | nil =>
    rw [Json.value] at read
    cases read
  | cons c more =>
    rw [Json.value] at read
    split at read
    · obtain ⟨⟨s, after⟩, -, same⟩ := map_eq_ok_iff.mp read
      cases same
      exact .text s
    · split at read
      · split at read
        · cases read
          exact .list (by simp)
        · obtain ⟨⟨vs, after⟩, items, same⟩ := map_eq_ok_iff.mp read
          cases same
          exact .list (makes.elements _ vs after items)
      · split at read
        · split at read
          · cases read
            exact .dict (by simp)
          · obtain ⟨⟨es, after⟩, entries, same⟩ := map_eq_ok_iff.mp read
            cases same
            exact .dict (Table.forall_values_ofEntries (makes.members _ es after entries))
        · exact makes_of_scalar read

theorem MakesWith.elements_succ {fuel : Nat} (makes : MakesWith fuel) {t rest : Text}
    {vs : List Value} (read : Json.elements (fuel + 1) t = .ok (vs, rest)) :
    ∀ v ∈ vs, Makes v := by
  rw [Json.elements] at read
  obtain ⟨⟨first, more⟩, one, read⟩ := bind_eq_ok_iff.mp read
  have made := makes.value t first more one
  simp only at read
  split at read
  · obtain ⟨⟨others, after⟩, later, read⟩ := bind_eq_ok_iff.mp read
    cases read
    exact List.forall_mem_cons.mpr ⟨made, makes.elements _ others after later⟩
  · split at read
    · split at read
      · cases read
        simpa using made
      · cases read
    · cases read

theorem MakesWith.members_succ {fuel : Nat} (makes : MakesWith fuel) {t rest : Text}
    {es : List (Value × Value)} (read : Json.members (fuel + 1) t = .ok (es, rest)) :
    ∀ e ∈ es, Makes e.2 := by
  cases t with
  | nil =>
    rw [Json.members] at read
    cases read
  | cons q more =>
    rw [Json.members] at read
    split at read
    · cases read
    · obtain ⟨⟨key, afterKey⟩, -, read⟩ := bind_eq_ok_iff.mp read
      simp only at read
      split at read
      · cases read
      · obtain ⟨⟨v, afterValue⟩, one, read⟩ := bind_eq_ok_iff.mp read
        have made := makes.value _ v afterValue one
        simp only at read
        split at read
        · obtain ⟨⟨others, after⟩, later, read⟩ := bind_eq_ok_iff.mp read
          cases read
          exact List.forall_mem_cons.mpr ⟨made, makes.members _ others after later⟩
        · split at read
          · split at read
            · cases read
              simpa using made
            · cases read
          · cases read

theorem makesWith (fuel : Nat) : MakesWith fuel := by
  induction fuel with
  | zero =>
    constructor
    · intro t v rest read
      rw [Json.value] at read
      cases read
    · intro t vs rest read
      rw [Json.elements] at read
      cases read
    · intro t es rest read
      rw [Json.members] at read
      cases read
  | succ fuel ih =>
    exact ⟨fun _ _ _ => ih.value_succ, fun _ _ _ => ih.elements_succ, fun _ _ _ => ih.members_succ⟩

theorem makes_of_read {t : Text} {v : Value} (read : Json.read t = .ok v) : Makes v := by
  unfold Json.read at read
  obtain ⟨⟨w, rest⟩, made, read⟩ := bind_eq_ok_iff.mp read
  simp only at read
  split at read
  · cases read
    exact (makesWith _).value _ v rest made
  · cases read

end Json

/-! ## Arguments -/

namespace Argument

theorem isNameable_dataOf {v : Value} (nameable : v.IsNameable) : (dataOf v).IsNameable := by
  unfold dataOf
  split
  · intro n index
    cases index
  · exact nameable

theorem isNameable_view {data : Value} (nameable : data.IsNameable) (length : Option Value) :
    (view data length).IsNameable := by
  unfold view
  split
  · intro n index
    cases index
  · exact isNameable_dataOf nameable
  · intro n index
    cases index

theorem isNameable_ofJson {v : Value} (makes : Json.Makes v) : (ofJson v).IsNameable := by
  unfold ofJson
  split
  · rename_i entries
    split
    · rename_i data found
      cases makes with
      | dict each =>
        obtain ⟨e, inside, rfl⟩ := Table.mem_of_get? found
        exact isNameable_view (each e inside).isNameable _
    · exact makes.isNameable
  · split
    · rename_i whole
      intro n index
      cases index
      obtain ⟨bits, few, below⟩ := Binary64.natAbs_lt_of_toInt? whole
      have within : bits ≤ Numeral.digitLimit := Nat.le_trans few (by decide)
      calc _ < 2 ^ bits := below
        _ ≤ 10 ^ bits := Nat.pow_le_pow_left (by decide) _
        _ ≤ 10 ^ Numeral.digitLimit := Nat.pow_le_pow_right (by decide) within
    · exact makes.isNameable
  · exact makes.isNameable

theorem isNameable_ofText {json : Text → Except JsonError Value} {t : Text} {v : Value}
    (makes : ∀ w, json t = .ok w → Json.Makes w) (read : ofText json t = .ok v) :
    v.IsNameable := by
  unfold ofText at read
  split at read
  · rename_i w made
    cases read
    exact isNameable_ofJson (makes w made)
  · cases read
    intro n index
    cases index
  · cases read

end Argument

end ExtendedFormat
