/-
# ExtendedFormat.Proofs.Number.Digits -- numerals and their groups

A numeral is a sign and the digits of the magnitude (`render_eq`), of which there is at
least one and each is below the base.  Grouping keeps the sign in front of the digits
(`group_render`) and adds nothing but separators: the groups together are what was
grouped, and what is no separator stays as it was (`filter_intercalate`).  Every group has
three digits, but for the first, which may have fewer; there is one way to group so
(`InThrees.eq_groups`).
-/
import ExtendedFormat.Number.Digits

namespace ExtendedFormat.Digits

set_option autoImplicit false

/-! ## Digits -/

section Positional

variable {base n : Nat}

theorem positional_of_lt (below : n < base) : positional base n = [n] := by
  rw [positional, dif_neg fun large => Nat.not_lt.2 large.2 below]

theorem positional_of_le (two : 2 ≤ base) (large : base ≤ n) :
    positional base n = positional base (n / base) ++ [n % base] := by
  rw [positional, dif_pos ⟨two, large⟩]

theorem positional_ne_nil : positional base n ≠ [] := by
  unfold positional
  split
  · exact List.concat_ne_nil _ _
  · exact List.cons_ne_nil _ _

theorem lt_of_mem_positional (two : 2 ≤ base) {d : Nat} (mem : d ∈ positional base n) :
    d < base := by
  induction n using Nat.strongRecOn with
  | ind n ih =>
    rcases Nat.lt_or_ge n base with below | large
    · rw [positional_of_lt below, List.mem_singleton] at mem
      exact mem ▸ below
    · rw [positional_of_le two large, List.mem_append, List.mem_singleton] at mem
      rcases mem with higher | rfl
      · exact ih (n / base) (Nat.div_lt_self (by omega) two) higher
      · exact Nat.mod_lt n (by omega)

end Positional

/-! ## Groups -/

section Groups

variable {α : Type}

theorem flatten_triples (xs : List α) : (triples xs).flatten = xs := by
  fun_induction triples xs with
  | case1 a b c rest ih => rw [List.flatten_cons, ih]; rfl
  | case2 => rfl
  | case3 short => exact List.append_nil short

theorem flatten_groups (xs : List α) : (groups xs).flatten = xs := by
  rw [groups, List.flatten_cons, flatten_triples, List.take_append_drop]

/-- A first group of one to three, and behind it groups of three. -/
inductive InThrees : List (List α) → Prop
  | mk {first : List α} {rest : List (List α)} (least : 1 ≤ first.length)
      (most : first.length ≤ 3) (others : ∀ g ∈ rest, g.length = 3) : InThrees (first :: rest)

theorem length_of_mem_triples {xs : List α} (whole : xs.length % 3 = 0) :
    ∀ g ∈ triples xs, g.length = 3 := by
  fun_induction triples xs with
  | case1 a b c rest ih =>
    simp only [List.length_cons] at whole
    exact List.forall_mem_cons.2 ⟨rfl, ih (by omega)⟩
  | case2 => exact List.forall_mem_nil _
  | case3 short notThree notNone =>
    -- One or two elements are left over.
    match short with
    | [] => exact absurd rfl notNone
    | [a] | [a, b] => cases whole
    | a :: b :: c :: rest => exact absurd rfl (notThree a b c rest)

theorem inThrees_groups {xs : List α} (nonempty : xs ≠ []) : InThrees (groups xs) := by
  have positive := List.length_pos_iff.2 nonempty
  have cut : ∃ n, groups xs = xs.take n :: triples (xs.drop n) ∧ 1 ≤ n ∧ n ≤ 3 ∧ n ≤ xs.length ∧
      (xs.length - n) % 3 = 0 := by
    refine ⟨_, rfl, ?_⟩
    split <;> omega
  obtain ⟨n, eq, least, most, inside, whole⟩ := cut
  have length : (xs.take n).length = n := List.length_take_of_le inside
  rw [eq]
  refine .mk (by rw [length]; exact least) (by rw [length]; exact most) ?_
  exact length_of_mem_triples (by rw [List.length_drop]; exact whole)

theorem triples_flatten {gs : List (List α)} (others : ∀ g ∈ gs, g.length = 3) :
    triples gs.flatten = gs ∧ gs.flatten.length = 3 * gs.length := by
  induction gs with
  | nil => exact ⟨rfl, rfl⟩
  | cons g gs ih =>
    obtain ⟨three, others⟩ := List.forall_mem_cons.1 others
    obtain ⟨cut, length⟩ := ih others
    constructor
    · match g, three with
      | [a, b, c], _ => exact congrArg ([a, b, c] :: ·) cut
    · rw [List.flatten_cons, List.length_append, length, three, List.length_cons]
      omega

/-- There is one way to group. -/
theorem InThrees.eq_groups {gs : List (List α)} (threes : InThrees gs) :
    gs = groups gs.flatten := by
  cases threes with
  | @mk first rest least most others =>
    obtain ⟨cut, length⟩ := triples_flatten others
    have firstLength : (if (first ++ rest.flatten).length % 3 = 0 then 3
        else (first ++ rest.flatten).length % 3) = first.length := by
      rw [List.length_append, length]
      split <;> omega
    rw [groups, List.flatten_cons]
    simp only [firstLength, List.take_left, List.drop_left, cut]

theorem InThrees.map {β : Type} (f : α → β) {gs : List (List α)} (threes : InThrees gs) :
    InThrees (gs.map (List.map f)) := by
  cases threes with
  | mk least most others =>
    refine .mk (by rw [List.length_map]; exact least) (by rw [List.length_map]; exact most) ?_
    exact List.forall_mem_map.2 fun g mem => by rw [List.length_map]; exact others g mem

theorem intercalate_cons (separator g : List α) (gs : List (List α)) :
    separator.intercalate (g :: gs) =
      g ++ if gs = [] then [] else separator ++ separator.intercalate gs := by
  cases gs <;> simp [List.intercalate]

theorem map_intercalate {β : Type} (f : α → β) (separator : List α) (gs : List (List α)) :
    (separator.intercalate gs).map f = (separator.map f).intercalate (gs.map (List.map f)) := by
  induction gs with
  | nil => rfl
  | cons g gs ih =>
    rw [List.map_cons, intercalate_cons, intercalate_cons, List.map_append, ← ih]
    cases gs with
    | nil => rfl
    | cons => rw [if_neg (List.cons_ne_nil _ _), List.map_append]; rfl

/-- What is no separator stays as it was. -/
theorem filter_intercalate {p : α → Bool} {separator : List α} (dropped : separator.filter p = [])
    (gs : List (List α)) : (separator.intercalate gs).filter p = gs.flatten.filter p := by
  induction gs with
  | nil => rfl
  | cons g gs ih =>
    rw [intercalate_cons, List.filter_append, List.flatten_cons, List.filter_append, ← ih]
    split
    · rename_i last
      rw [last]
      rfl
    · rw [List.filter_append, dropped, List.nil_append]

theorem mem_intercalate {separator : List α} {gs : List (List α)} {a : α}
    (mem : a ∈ separator.intercalate gs) : a ∈ separator ∨ a ∈ gs.flatten := by
  induction gs with
  | nil => cases mem
  | cons g gs ih =>
    rw [intercalate_cons, List.mem_append] at mem
    rw [List.flatten_cons, List.mem_append]
    rcases mem with inside | after
    · exact .inr (.inl inside)
    · split at after
      · cases after
      · rcases List.mem_append.1 after with inSeparator | later
        · exact .inl inSeparator
        · exact (ih later).imp_right .inr

end Groups

/-! ## Numerals -/

def sign (n : Int) : Text := if n < 0 then [minus] else []

/-- A numeral without its sign. -/
def magnitude (base : Nat) (upper : Bool) (n : Int) : Text :=
  (positional base n.natAbs).map (symbol upper)

theorem render_eq (base : Nat) (upper : Bool) (n : Int) :
    render base upper n = sign n ++ magnitude base upper n := by
  simp only [render, sign]
  split <;> rfl

theorem magnitude_ne_nil (base : Nat) (upper : Bool) (n : Int) : magnitude base upper n ≠ [] := by
  rw [magnitude, ne_eq, List.map_eq_nil_iff]
  exact positional_ne_nil

def isDecimal (c : CodePoint) : Bool := decide (0x30 ≤ c.val ∧ c.val ≤ 0x39)

theorem isDecimal_of_mem_magnitude {n : Int} {c : CodePoint} (mem : c ∈ magnitude 10 false n) :
    isDecimal c = true := by
  have symbols : ∀ d < 10, isDecimal (symbol false d) = true := by decide
  obtain ⟨d, digit, rfl⟩ := List.mem_map.1 mem
  exact symbols d (lt_of_mem_positional (by decide) digit)

/-- Digits are grouped behind the sign. -/
theorem group_render (base : Nat) (upper : Bool) (n : Int) (separator : Text) :
    group (render base upper n) (decide (n < 0)) separator =
      sign n ++ separator.intercalate (groups (magnitude base upper n)) := by
  rw [render_eq, sign, group]
  by_cases negative : n < 0 <;> simp [negative]

end ExtendedFormat.Digits
