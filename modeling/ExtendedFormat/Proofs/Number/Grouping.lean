/-
# ExtendedFormat.Proofs.Number.Grouping -- grouping undone

Grouping cuts what stands behind a sign into groups of three and puts a separator between
them.  A separator without digits and without minus signs is found again where it was put
and nowhere else: it never meets the sign or an end of the numeral.  So cutting it out
(`cutOut`) gives the numeral back, and integers that are grouped alike are equal
(`grouping_is_undone`).
-/
import ExtendedFormat.Proofs.Number.Positional

namespace ExtendedFormat.Digits

set_option autoImplicit false

/-! ## Cutting out a part -/

section CutOut

variable {α : Type} [DecidableEq α] {part : List α}

/-- Cuts out every occurrence of a part that is not empty.  The next one is looked for behind
the last. -/
def cutOut (part : List α) : List α → List α
  | [] => []
  | a :: rest =>
      if part <+: a :: rest then cutOut part (rest.drop (part.length - 1))
      else a :: cutOut part rest
termination_by xs => xs.length
decreasing_by
  · simp only [List.length_drop, List.length_cons]
    omega
  · simp

theorem cutOut_part (nonempty : part ≠ []) (rest : List α) :
    cutOut part (part ++ rest) = cutOut part rest := by
  cases part with
  | nil => exact absurd rfl nonempty
  | cons a more =>
    have here : a :: more <+: a :: (more ++ rest) := List.prefix_append (a :: more) rest
    rw [List.cons_append, cutOut, if_pos here]
    simp

omit [DecidableEq α] in
theorem not_prefix_of_head {a : α} {rest : List α} (nonempty : part ≠ []) (plain : a ∉ part) :
    ¬ part <+: a :: rest := by
  intro begins
  cases part with
  | nil => exact absurd rfl nonempty
  | cons b more =>
    apply plain
    simp [(List.cons_prefix_cons.1 begins).1]

theorem cutOut_plain (nonempty : part ≠ []) {xs : List α} (plain : ∀ a ∈ xs, a ∉ part)
    (rest : List α) : cutOut part (xs ++ rest) = xs ++ cutOut part rest := by
  induction xs with
  | nil => rfl
  | cons a xs ih =>
    obtain ⟨first, others⟩ := List.forall_mem_cons.1 plain
    rw [List.cons_append, cutOut, if_neg (not_prefix_of_head nonempty first), ih others,
      List.cons_append]

/-- What was joined comes together again. -/
theorem cutOut_intercalate (nonempty : part ≠ []) {gs : List (List α)}
    (plain : ∀ a ∈ gs.flatten, a ∉ part) : cutOut part (part.intercalate gs) = gs.flatten := by
  induction gs with
  | nil => simp [List.intercalate, cutOut]
  | cons g gs ih =>
    obtain ⟨first, others⟩ := List.forall_mem_append.1 (List.flatten_cons ▸ plain)
    rw [intercalate_cons, cutOut_plain nonempty first, List.flatten_cons]
    congr 1
    split
    · rename_i last
      rw [last]
      simp [cutOut]
    · rw [cutOut_part nonempty, ih others]

end CutOut

/-! ## Where separators stand -/

section Joined

variable {α : Type} {separator : List α} {gs : List (List α)}

theorem InThrees.ne_nil (threes : InThrees gs) : gs ≠ [] ∧ ∀ g ∈ gs, g ≠ [] := by
  cases threes with
  | mk least most others =>
    refine ⟨List.cons_ne_nil _ _, List.forall_mem_cons.2 ⟨?_, fun g mem none => ?_⟩⟩
    · exact List.ne_nil_of_length_pos least
    · have three := others g mem
      rw [none] at three
      cases three

theorem exists_head_intercalate (separator : List α) (some : gs ≠ []) (filled : ∀ g ∈ gs, g ≠ []) :
    ∃ a ∈ gs.flatten, ∃ more, separator.intercalate gs = a :: more := by
  cases gs with
  | nil => exact absurd rfl some
  | cons g gs =>
    obtain ⟨a, more, rfl⟩ := List.exists_cons_of_ne_nil (filled g List.mem_cons_self)
    exact ⟨a, by simp, _, intercalate_cons separator (a :: more) gs⟩

theorem exists_last_intercalate (separator : List α) (some : gs ≠ []) (filled : ∀ g ∈ gs, g ≠ []) :
    ∃ a ∈ gs.flatten, ∃ more, separator.intercalate gs = more ++ [a] := by
  induction gs with
  | nil => exact absurd rfl some
  | cons g gs ih =>
    obtain ⟨first, others⟩ := List.forall_mem_cons.1 filled
    rw [intercalate_cons, List.flatten_cons]
    by_cases last : gs = []
    · refine ⟨g.getLast first, by simp, g.dropLast, ?_⟩
      rw [if_pos last, List.append_nil, List.dropLast_concat_getLast]
    · obtain ⟨a, mem, more, eq⟩ := ih last others
      refine ⟨a, List.mem_append_right g mem, g ++ (separator ++ more), ?_⟩
      rw [if_neg last, eq]
      simp

/-- An occurrence does not begin among elements that are none of the separator's. -/
theorem prefix_of_plain {xs before after rest : List α} (nonempty : separator ≠ [])
    (plain : ∀ a ∈ xs, a ∉ separator) (eq : xs ++ rest = before ++ (separator ++ after)) :
    xs <+: before := by
  rcases List.append_eq_append_iff.1 eq with ⟨more, here, -⟩ | ⟨more, here, behind⟩
  · exact ⟨more, here.symm⟩
  · cases more with
    | nil => exact ⟨[], by simpa using here⟩
    | cons a more =>
      obtain ⟨b, others, rfl⟩ := List.exists_cons_of_ne_nil nonempty
      have same : b = a := (List.cons.inj behind).1
      exact absurd List.mem_cons_self (same ▸ plain a (by simp [here]))

/-- An occurrence that begins in a separator begins with it, as it would go on behind its end. -/
theorem eq_nil_or_prefix {before after rest : List α} {a : α} (plain : a ∉ separator)
    (eq : separator ++ a :: rest = before ++ (separator ++ after)) :
    before = [] ∨ separator <+: before := by
  by_cases short : before.length < separator.length
  · refine .inl (Classical.byContradiction fun begun => plain ?_)
    have positive := List.length_pos_iff.2 begun
    have there : (before ++ (separator ++ after))[separator.length]? = some a := by
      rw [← eq, List.getElem?_append_right (Nat.le_refl _), Nat.sub_self]
      rfl
    rw [List.getElem?_append_right (by omega), List.getElem?_append_left (by omega)] at there
    exact List.mem_of_getElem? there
  · have begins : separator <+: before ++ (separator ++ after) := ⟨_, eq⟩
    exact .inr (List.prefix_of_prefix_length_le begins (List.prefix_append _ _) (by omega))

/-- A separator is found where it was put, between two groups, and nowhere else. -/
theorem exists_groups_of_occurrence (nonempty : separator ≠ [])
    (plain : ∀ a ∈ gs.flatten, a ∉ separator) (filled : ∀ g ∈ gs, g ≠ []) {before after : List α}
    (eq : separator.intercalate gs = before ++ (separator ++ after)) :
    ∃ front back, gs = front ++ back ∧ front ≠ [] ∧ back ≠ [] ∧
      before = separator.intercalate front ∧ after = separator.intercalate back := by
  induction gs generalizing before with
  | nil => simp [List.intercalate, nonempty] at eq
  | cons g gs ih =>
    obtain ⟨digits, others⟩ := List.forall_mem_append.1 (List.flatten_cons ▸ plain)
    have filledRest := (List.forall_mem_cons.1 filled).2
    rw [intercalate_cons] at eq
    obtain ⟨between, rfl⟩ := prefix_of_plain nonempty digits eq
    rw [List.append_assoc] at eq
    have behind := List.append_cancel_left eq
    by_cases last : gs = []
    · simp [last, nonempty] at behind
    · obtain ⟨a, mem, more, first⟩ :=
        exists_head_intercalate separator last filledRest
      rw [if_neg last, first] at behind
      rcases eq_nil_or_prefix (others a mem) behind with rfl | ⟨inner, rfl⟩
      · refine ⟨[g], gs, rfl, by simp, last, by simp [List.intercalate], ?_⟩
        rw [first]
        exact (List.append_cancel_left behind).symm
      · rw [List.append_assoc] at behind
        obtain ⟨front, back, rfl, some, rest, rfl, rfl⟩ :=
          ih others filledRest (first.trans (List.append_cancel_left behind))
        refine ⟨g :: front, back, rfl, List.cons_ne_nil _ _, rest, ?_, rfl⟩
        rw [intercalate_cons, if_neg some]

end Joined

/-! ## Grouped integers -/

/-- The decimal numeral of an integer, in groups. -/
def grouped (separator : Text) (n : Int) : Text :=
  group (render 10 false n) (decide (n < 0)) separator

theorem render_injective {m n : Int} (same : render 10 false m = render 10 false n) : m = n :=
  render_inj (by decide) (by decide) same

/-- The groups of any text, one of which may be empty only if it is the only one. -/
theorem inThrees_or_nothing (xs : Text) : InThrees (groups xs) ∨ groups xs = [[]] := by
  by_cases nothing : xs = []
  · rw [nothing]
    exact .inr rfl
  · exact .inl (inThrees_groups nothing)

section Separator

variable {separator : Text} (nonempty : separator ≠ [])
  (apart : ∀ c ∈ separator, c ≠ minus ∧ isDecimal c = false)

include apart

theorem sign_apart (n : Int) : ∀ c ∈ sign n, c ∉ separator := by
  unfold Digits.sign
  split
  · exact List.forall_mem_singleton.2 fun mem => (apart minus mem).1 rfl
  · exact List.forall_mem_nil _

theorem digits_apart (n : Int) : ∀ c ∈ (groups (magnitude 10 false n)).flatten, c ∉ separator := by
  intro c digit mem
  rw [flatten_groups] at digit
  have decimal := isDecimal_of_mem_magnitude digit
  rw [(apart c mem).2] at decimal
  cases decimal

include nonempty

theorem cutOut_grouped (n : Int) : cutOut separator (grouped separator n) = render 10 false n := by
  rw [grouped, group_render, render_eq, cutOut_plain nonempty (sign_apart apart n),
    cutOut_intercalate nonempty (digits_apart apart n), flatten_groups]

/-- Wherever the separator is found, it has a digit on either side. -/
theorem digits_around {n : Int} {before after : Text}
    (eq : grouped separator n = before ++ (separator ++ after)) :
    (∃ c front, before = front ++ [c] ∧ isDecimal c = true) ∧
      ∃ c rest, after = c :: rest ∧ isDecimal c = true := by
  have digits : ∀ c ∈ (groups (magnitude 10 false n)).flatten, isDecimal c = true := by
    rw [flatten_groups]
    intro c mem
    exact isDecimal_of_mem_magnitude mem
  have filled := (inThrees_groups (magnitude_ne_nil 10 false n)).ne_nil.2
  rw [grouped, group_render] at eq
  obtain ⟨inner, rfl⟩ := prefix_of_plain nonempty (sign_apart apart n) eq
  rw [List.append_assoc] at eq
  obtain ⟨front, back, all, someFront, someBack, rfl, rfl⟩ :=
    exists_groups_of_occurrence nonempty (digits_apart apart n) filled (List.append_cancel_left eq)
  rw [all] at digits filled
  rw [List.flatten_append] at digits
  obtain ⟨filledFront, filledBack⟩ := List.forall_mem_append.1 filled
  obtain ⟨c, mem, more, ends⟩ :=
    exists_last_intercalate separator someFront filledFront
  obtain ⟨d, mem', rest, begins⟩ :=
    exists_head_intercalate separator someBack filledBack
  refine ⟨⟨c, sign n ++ more, ?_, digits c (List.mem_append_left _ mem)⟩,
    d, rest, begins, digits d (List.mem_append_right _ mem')⟩
  rw [ends, List.append_assoc]

end Separator

/-- **Grouping is right for every length, and can be undone.**  Whatever is grouped comes with
its sign in front, if it is said to have one, and with the rest in groups of three, of which the
first may be shorter.  Of an integer, the numeral is what remains when the separators are cut
out, if nothing in a separator may stand in a numeral.  A separator then has a digit on
either side, so it is never first or last or next to the sign. -/
theorem grouping_is_undone (separator : Text) :
    (∀ number signed, ∃ gs,
      group number signed separator =
        (if signed then number.take 1 else []) ++ separator.intercalate gs ∧
      gs.flatten = (if signed then number.drop 1 else number) ∧ (InThrees gs ∨ gs = [[]])) ∧
    (separator ≠ [] → (∀ c ∈ separator, c ≠ minus ∧ isDecimal c = false) → ∀ n,
      cutOut separator (grouped separator n) = render 10 false n ∧
      (∀ before after, grouped separator n = before ++ (separator ++ after) →
        (∃ c front, before = front ++ [c] ∧ isDecimal c = true) ∧
          ∃ c rest, after = c :: rest ∧ isDecimal c = true) ∧
      ∀ m, grouped separator m = grouped separator n → m = n) := by
  constructor
  · intro number signed
    exact ⟨_, rfl, flatten_groups _, inThrees_or_nothing _⟩
  · intro nonempty apart n
    refine ⟨cutOut_grouped nonempty apart n, ?_, ?_⟩
    · intro before after eq
      exact digits_around nonempty apart eq
    · intro m same
      apply render_injective
      rw [← cutOut_grouped nonempty apart m, same, cutOut_grouped nonempty apart n]

/-- A separator of two characters, and a first group of one digit behind a sign. -/
theorem grouping_is_undone_dotted :
    Text.ofString ". " ≠ [] ∧
      (∀ c ∈ Text.ofString ". ", c ≠ minus ∧ isDecimal c = false) ∧
      grouped (Text.ofString ". ") (-1234567) = Text.ofString "-1. 234. 567" ∧
      cutOut (Text.ofString ". ") (grouped (Text.ofString ". ") (-1234567)) =
        Text.ofString "-1234567" ∧
      ∀ m, grouped (Text.ofString ". ") m = Text.ofString "-1. 234. 567" → m = -1234567 := by
  have nonempty : Text.ofString ". " ≠ [] := by decide
  have apart : ∀ c ∈ Text.ofString ". ", c ≠ minus ∧ isDecimal c = false := by decide
  have shown : grouped (Text.ofString ". ") (-1234567) = Text.ofString "-1. 234. 567" := by
    decide +kernel
  have plain : render 10 false (-1234567) = Text.ofString "-1234567" := by decide +kernel
  obtain ⟨undone, -, injective⟩ :=
    (grouping_is_undone (Text.ofString ". ")).2 nonempty apart (-1234567)
  rw [plain] at undone
  rw [shown] at injective
  exact ⟨nonempty, apart, shown, undone, injective⟩

end ExtendedFormat.Digits
