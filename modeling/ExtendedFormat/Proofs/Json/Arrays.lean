/-
# ExtendedFormat.Proofs.Json.Arrays -- texts as the elements of an array

A JSON text means the same alone and as an element of an array (`Json.read_arrayText`).  Alone,
it is read to its end; in an array, up to the comma or the bracket behind it, and with more fuel.
Neither matters, since no token goes on into a comma or a bracket: what a reader makes of a text
without finding it malformed, it makes of the text with more behind it (`Json.Continues`).
That is shown for the tokens first, and for the three readers that call each other by one
induction on fuel (`Json.continuesWith`).  A failure other than a malformed text is kept too, so
an integer that is too long is found in either place.
-/
import ExtendedFormat.Json
import ExtendedFormat.Proofs.Number.Digits
import ExtendedFormat.Proofs.Outcome

namespace ExtendedFormat

set_option autoImplicit false

namespace Json

/-! ## What comes behind a text -/

/-- The text begins with a comma or a closing bracket. -/
inductive Separates : Text → Prop
  | mk {c : CodePoint} (rest : Text) (separator : c.val = 0x2C ∨ c.val = 0x5D) :
      Separates (c :: rest)

/-- The second result is the first one, with more behind the rest; nothing is said where the
first finds its text malformed. -/
def Continues {α : Type} (more : Text) (alone inside : Parsed α) : Prop :=
  alone ≠ .error .malformed → inside = alone.map fun r => (r.1, r.2 ++ more)

namespace Continues

variable {α β : Type} {more : Text} {alone inside : Parsed α}

theorem ok (a : α) (rest : Text) : Continues more (.ok (a, rest)) (.ok (a, rest ++ more)) :=
  fun _ => rfl

theorem malformed (inside : Parsed α) : Continues more (.error .malformed) inside :=
  fun accepted => absurd rfl accepted

theorem bind (first : Continues more alone inside) {f f' : α × Text → Parsed β}
    (next : ∀ a rest, Continues more (f (a, rest)) (f' (a, rest ++ more))) :
    Continues more (alone.bind f) (inside.bind f') := by
  intro accepted
  cases alone with
  | error e =>
    have kept : e ≠ .malformed := fun broken => accepted (congrArg Except.error broken)
    have same : inside = .error e := first fun broken => kept (Except.error.inj broken)
    rw [same]
    rfl
  | ok r =>
    have same : inside = .ok (r.1, r.2 ++ more) := first nofun
    rw [same]
    exact next r.1 r.2 accepted

theorem map (first : Continues more alone inside) (f : α → β) :
    Continues more (alone.map fun r => (f r.1, r.2)) (inside.map fun r => (f r.1, r.2)) :=
  first.bind fun a rest => .ok (f a) rest

end Continues

variable {more : Text}

theorem takeWhile_append_of_head {p : CodePoint → Bool} {c : CodePoint} (stops : p c = false)
    (t rest : Text) : (t ++ c :: rest).takeWhile p = t.takeWhile p := by
  induction t with
  | nil => simp [stops]
  | cons d t ih => simp only [List.cons_append, List.takeWhile_cons, ih]

theorem dropWhile_append_of_head {p : CodePoint → Bool} {c : CodePoint} (stops : p c = false)
    (t rest : Text) : (t ++ c :: rest).dropWhile p = t.dropWhile p ++ c :: rest := by
  induction t with
  | nil => simp [stops]
  | cons d t ih =>
    simp only [List.cons_append, List.dropWhile_cons, ih]
    split <;> rfl

/-- A numeral behind its sign. -/
def unsigned? (negative : Bool) : Text → Option (Number × Text)
  | [] => none
  | c :: rest =>
      if !isDigit c then none
      else
        let whole := if c.val = 0x30 then [c] else c :: rest.takeWhile isDigit
        let (fraction, afterFraction) := fractionPart ((c :: rest).drop whole.length)
        let (exponent, after) := exponentPart afterFraction
        some (⟨negative, whole, fraction, exponent⟩, after)

theorem number?_minus {c : CodePoint} (sign : c.val = 0x2D) (rest : Text) :
    number? (c :: rest) = unsigned? true rest := by
  have minus : (c.val == 0x2D) = true := beq_iff_eq.mpr sign
  unfold number?
  simp only [minus, if_true, List.drop_succ_cons, List.drop_zero]
  cases rest with
  | nil => rfl
  | cons d rest => rfl

theorem number?_plain {c : CodePoint} (sign : ¬ c.val = 0x2D) (rest : Text) :
    number? (c :: rest) = unsigned? false (c :: rest) := by
  have minus : (c.val == 0x2D) = false := beq_eq_false_iff_ne.mpr sign
  unfold number?
  simp only [minus, Bool.false_eq_true, if_false]
  rfl

namespace Separates

theorem skipBlanks_append (stops : Separates more) (t : Text) :
    skipBlanks (t ++ more) = skipBlanks t ++ more := by
  obtain ⟨rest, separator⟩ := stops
  refine dropWhile_append_of_head ?_ t rest
  rcases separator with comma | bracket
  · simp [isBlank, comma]
  · simp [isBlank, bracket]

theorem isDigit_head {c : CodePoint} (separator : c.val = 0x2C ∨ c.val = 0x5D) :
    isDigit c = false := by
  rw [isDigit, decide_eq_false_iff_not]
  omega

theorem mark_append (stops : Separates more) {t : Text} (filled : skipBlanks t ≠ []) (n : Nat) :
    mark n (t ++ more) = (mark n t).map (· ++ more) := by
  unfold mark
  rw [stops.skipBlanks_append]
  cases blanks : skipBlanks t with
  | nil => exact absurd blanks filled
  | cons c rest =>
    simp only [List.cons_append]
    split
    · rw [stops.skipBlanks_append]
      rfl
    · rfl

/-! ## Tokens -/

theorem fractionPart_append (stops : Separates more) (t : Text) :
    fractionPart (t ++ more) = ((fractionPart t).1, (fractionPart t).2 ++ more) := by
  obtain ⟨rest, separator⟩ := stops
  have stop := isDigit_head separator
  cases t with
  | nil =>
    rw [List.nil_append, fractionPart]
    exact if_neg fun point => by omega
  | cons p t =>
    simp only [List.cons_append, fractionPart, takeWhile_append_of_head stop,
      dropWhile_append_of_head stop]
    split <;> rfl

theorem exponentPart_append (stops : Separates more) (t : Text) :
    exponentPart (t ++ more) = ((exponentPart t).1, (exponentPart t).2 ++ more) := by
  obtain ⟨rest, separator⟩ := stops
  have stop := isDigit_head separator
  cases t with
  | nil =>
    rw [List.nil_append, exponentPart.eq_def]
    exact if_neg fun letter => by omega
  | cons e t =>
    cases t with
    | nil =>
      rename_i c
      have unsigned : (c.val == 0x2B || c.val == 0x2D) = false := by
        rw [Bool.or_eq_false_iff, beq_eq_false_iff_ne, beq_eq_false_iff_ne]
        omega
      simp [exponentPart, unsigned, stop]
    | cons s t =>
      simp only [List.cons_append, exponentPart]
      split
      · simp only [List.drop_succ_cons, List.drop_zero, takeWhile_append_of_head stop,
          dropWhile_append_of_head stop]
        split <;> rfl
      · simp only [← List.cons_append, takeWhile_append_of_head stop,
          dropWhile_append_of_head stop]
        split <;> rfl

theorem unsigned?_append (stops : Separates more) {negative : Bool} {t rest : Text} {n : Number}
    (read : unsigned? negative t = some (n, rest)) :
    unsigned? negative (t ++ more) = some (n, rest ++ more) := by
  cases t with
  | nil => cases read
  | cons c t =>
    have whole : (t ++ more).takeWhile isDigit = t.takeWhile isDigit := by
      obtain ⟨after, separator⟩ := stops
      exact takeWhile_append_of_head (isDigit_head separator) t after
    have within : (if c.val = 0x30 then [c] else c :: t.takeWhile isDigit).length ≤
        (c :: t).length := by
      split
      · exact Nat.le_add_left 1 t.length
      · exact Nat.succ_le_succ (List.takeWhile_sublist isDigit).length_le
    unfold unsigned? at read ⊢
    simp only [List.cons_append, whole] at read ⊢
    split at read
    · cases read
    · cases read
      rename_i digit
      rw [if_neg digit, ← List.cons_append, List.drop_append_of_le_length within,
        stops.fractionPart_append, stops.exponentPart_append]

theorem number?_append (stops : Separates more) {t rest : Text} {n : Number}
    (read : number? t = some (n, rest)) : number? (t ++ more) = some (n, rest ++ more) := by
  cases t with
  | nil => cases read
  | cons c t =>
    by_cases sign : c.val = 0x2D
    · rw [number?_minus sign] at read
      rw [List.cons_append, number?_minus sign]
      exact stops.unsigned?_append read
    · rw [number?_plain sign] at read
      rw [List.cons_append, number?_plain sign]
      exact stops.unsigned?_append read

theorem number_append (stops : Separates more) (t : Text) :
    Continues more (number t) (number (t ++ more)) := by
  unfold number
  cases read : number? t with
  | none => exact .malformed _
  | some found =>
    obtain ⟨n, rest⟩ := found
    rw [stops.number?_append read]
    simp only
    cases n.toValue with
    | error e => exact fun _ => rfl
    | ok v => exact .ok v rest

theorem dropWord?_append (stops : Separates more) {word : List Char}
    (plain : ∀ w ∈ word, w.toNat ≠ 0x2C ∧ w.toNat ≠ 0x5D) (t : Text) :
    dropWord? word (t ++ more) = (dropWord? word t).map (· ++ more) := by
  induction word generalizing t with
  | nil => rfl
  | cons w word ih =>
    obtain ⟨first, others⟩ := List.forall_mem_cons.mp plain
    cases t with
    | nil =>
      obtain ⟨rest, separator⟩ := stops
      rw [List.nil_append, dropWord?, dropWord?, if_neg (by omega)]
      rfl
    | cons c t =>
      rw [List.cons_append, dropWord?, dropWord?]
      split
      · exact ih others t
      · rfl

theorem scalar_append (stops : Separates more) (t : Text) :
    Continues more (scalar t) (scalar (t ++ more)) := by
  unfold scalar
  rw [stops.dropWord?_append (by simp), stops.dropWord?_append (by simp),
    stops.dropWord?_append (by simp)]
  cases dropWord? ['n', 'u', 'l', 'l'] t with
  | some rest => exact .ok Value.null rest
  | none =>
    cases dropWord? ['t', 'r', 'u', 'e'] t with
    | some rest => exact .ok (Value.bool true) rest
    | none =>
      cases dropWord? ['f', 'a', 'l', 's', 'e'] t with
      | some rest => exact .ok (Value.bool false) rest
      | none => exact stops.number_append t

end Separates

/-! ## Strings -/

section Strings

variable {c e : CodePoint}

theorem stringItems_quote (quote : c.val = 0x22) (rest : Text) :
    stringItems (c :: rest) = .ok ([], rest) := by
  unfold stringItems
  exact if_pos quote

theorem stringItems_plain (quote : ¬ c.val = 0x22) (control : ¬ c.val < 0x20)
    (plain : c.val ≠ 0x5C) (rest : Text) :
    stringItems (c :: rest) = (stringItems rest).map fun r => (.plain c :: r.1, r.2) := by
  rw [stringItems.eq_def]
  simp only [if_neg quote, if_neg control, if_pos plain]

theorem stringItems_unit (escape : c.val = 0x5C) (letter : e.val = 0x75)
    {h₁ h₂ h₃ h₄ : CodePoint} {u : UInt16} (digits : unit? h₁ h₂ h₃ h₄ = some u) (rest : Text) :
    stringItems (c :: e :: h₁ :: h₂ :: h₃ :: h₄ :: rest) =
      (stringItems rest).map fun r => (.escaped u :: r.1, r.2) := by
  rw [stringItems.eq_def]
  simp [escape, letter, digits]

theorem stringItems_short (escape : c.val = 0x5C) (letter : ¬ e.val = 0x75) {s : CodePoint}
    (short : shortEscape? e = some s) (rest : Text) :
    stringItems (c :: e :: rest) = (stringItems rest).map fun r => (.plain s :: r.1, r.2) := by
  rw [stringItems.eq_def]
  simp [escape, letter, short]

/-- A string ends at its quote, whatever comes behind. -/
theorem stringItems_append (t : Text) :
    Continues more (stringItems t) (stringItems (t ++ more)) := by
  fun_induction stringItems t with
  | case2 c rest quote =>
    rw [List.cons_append, stringItems_quote quote]
    exact .ok [] rest
  | case4 c rest quote control plain ih =>
    rw [List.cons_append, stringItems_plain quote control plain]
    exact ih.map (.plain c :: ·)
  | case6 c quote control escape e letter h₁ h₂ h₃ h₄ rest u digits ih =>
    simp only [List.cons_append]
    rw [stringItems_unit (Decidable.not_not.mp escape) letter digits]
    exact ih.map (.escaped u :: ·)
  | case9 c quote control escape e tail letter s short ih =>
    simp only [List.cons_append]
    rw [stringItems_short (Decidable.not_not.mp escape) letter short]
    exact ih.map (.plain s :: ·)
  | _ => exact .malformed _

theorem string_append (t : Text) : Continues more (string t) (string (t ++ more)) :=
  (stringItems_append t).map joinItems

end Strings

/-! ## Values -/

/-- All three readers go on, with any fuel that is no less. -/
structure ContinuesWith (more : Text) (fuel : Nat) : Prop where
  value : ∀ t fuel', fuel ≤ fuel' →
    Continues more (Json.value fuel t) (Json.value fuel' (t ++ more))
  elements : ∀ t fuel', fuel ≤ fuel' →
    Continues more (Json.elements fuel t) (Json.elements fuel' (t ++ more))
  members : ∀ t fuel', fuel ≤ fuel' →
    Continues more (Json.members fuel t) (Json.members fuel' (t ++ more))

theorem value_nil (fuel : Nat) : value fuel [] = .error .malformed := by
  cases fuel <;> rw [value]

theorem elements_nil (fuel : Nat) : elements fuel [] = .error .malformed := by
  cases fuel with
  | zero => rw [elements]
  | succ fuel =>
    rw [elements, value_nil]
    rfl

theorem members_nil (fuel : Nat) : members fuel [] = .error .malformed := by
  cases fuel <;> rw [members]

/-- Nothing begins with a closing bracket. -/
theorem value_bracket {c : CodePoint} (bracket : c.val = 0x5D) (fuel : Nat) (rest : Text) :
    value fuel (c :: rest) = .error .malformed := by
  have noDigit : isDigit c = false := Separates.isDigit_head (.inr bracket)
  cases fuel with
  | zero => rw [value]
  | succ fuel =>
    rw [value]
    simp [bracket, scalar, dropWord?, number, number?, noDigit]

theorem mark_of_blank {t : Text} (blank : skipBlanks t = []) (n : Nat) : mark n t = none := by
  rw [mark, blank]

/-- Behind an opening bracket: the closing one, or what the bracket holds. -/
theorem Separates.opened_append (stops : Separates more) {α : Type} {close : Nat} {v : Value}
    {inner inner' : Text → Parsed α} {f : α → Value} {rest : Text}
    (nothing : inner [] = .error .malformed)
    (within : Continues more (inner (skipBlanks rest)) (inner' (skipBlanks rest ++ more))) :
    Continues more
      (match mark close rest with
        | some _ => .ok (v, (skipBlanks rest).drop 1)
        | none => (inner (skipBlanks rest)).map fun r => (f r.1, r.2))
      (match mark close (rest ++ more) with
        | some _ => .ok (v, (skipBlanks (rest ++ more)).drop 1)
        | none => (inner' (skipBlanks (rest ++ more))).map fun r => (f r.1, r.2)) := by
  by_cases blank : skipBlanks rest = []
  · rw [mark_of_blank blank, blank, nothing]
    exact .malformed _
  rw [stops.mark_append blank, stops.skipBlanks_append]
  cases mark close rest with
  | some _ =>
    simp only [Option.map_some]
    rw [List.drop_append_of_le_length (List.length_pos_iff.mpr blank)]
    exact .ok v _
  | none => exact within.map f

/-- Behind an element: a comma and further ones, or the closing bracket. -/
theorem Separates.closed_append (stops : Separates more) {α : Type} {close : Nat} {last : α}
    {further further' : Text → Parsed α} (rest : Text)
    (next : ∀ t, Continues more (further t) (further' (t ++ more))) :
    Continues more
      (match mark 0x2C rest with
        | some t => further t
        | none =>
            match skipBlanks rest with
            | c :: after => if c.val = close then .ok (last, after) else .error .malformed
            | [] => .error .malformed)
      (match mark 0x2C (rest ++ more) with
        | some t => further' t
        | none =>
            match skipBlanks (rest ++ more) with
            | c :: after => if c.val = close then .ok (last, after) else .error .malformed
            | [] => .error .malformed) := by
  by_cases blank : skipBlanks rest = []
  · rw [mark_of_blank blank, blank]
    exact .malformed _
  rw [stops.mark_append blank, stops.skipBlanks_append]
  cases mark 0x2C rest with
  | some t => exact next t
  | none =>
    cases skipBlanks rest with
    | nil => exact .malformed _
    | cons c after =>
      simp only [List.cons_append, Option.map_none]
      split
      · exact .ok last after
      · exact .malformed _

namespace ContinuesWith

variable {fuel fuel' : Nat}

theorem value_succ (stops : Separates more) (ih : ContinuesWith more fuel)
    (enough : fuel ≤ fuel') (t : Text) :
    Continues more (Json.value (fuel + 1) t) (Json.value (fuel' + 1) (t ++ more)) := by
  cases t with
  | nil =>
    rw [value_nil]
    exact .malformed _
  | cons c rest =>
    rw [List.cons_append, Json.value, Json.value]
    split
    · exact (string_append rest).map Value.text
    split
    · exact stops.opened_append (f := Value.list) (elements_nil fuel) (ih.elements _ fuel' enough)
    split
    · exact stops.opened_append (f := fun es => Value.dict (Table.ofEntries es))
        (members_nil fuel) (ih.members _ fuel' enough)
    · exact stops.scalar_append (c :: rest)

theorem elements_succ (stops : Separates more) (ih : ContinuesWith more fuel)
    (enough : fuel ≤ fuel') (t : Text) :
    Continues more (Json.elements (fuel + 1) t) (Json.elements (fuel' + 1) (t ++ more)) := by
  rw [Json.elements, Json.elements]
  refine (ih.value t fuel' enough).bind fun v rest => stops.closed_append rest fun t => ?_
  exact (ih.elements t fuel' enough).bind fun vs after => .ok (v :: vs) after

theorem members_succ (stops : Separates more) (ih : ContinuesWith more fuel)
    (enough : fuel ≤ fuel') (t : Text) :
    Continues more (Json.members (fuel + 1) t) (Json.members (fuel' + 1) (t ++ more)) := by
  cases t with
  | nil =>
    rw [members_nil]
    exact .malformed _
  | cons q t =>
    rw [List.cons_append, Json.members, Json.members]
    split
    · exact .malformed _
    refine (string_append t).bind fun key rest => ?_
    simp only
    by_cases blank : skipBlanks rest = []
    · rw [mark_of_blank blank]
      exact .malformed _
    rw [stops.mark_append blank]
    cases mark 0x3A rest with
    | none => exact .malformed _
    | some valueText =>
      refine (ih.value valueText fuel' enough).bind fun v rest =>
        stops.closed_append rest fun t => ?_
      exact (ih.members t fuel' enough).bind fun others after =>
        .ok ((Value.text key, v) :: others) after

end ContinuesWith

theorem continuesWith (stops : Separates more) (fuel : Nat) : ContinuesWith more fuel := by
  induction fuel with
  | zero =>
    constructor
    · intro t fuel' _
      rw [value]
      exact .malformed _
    · intro t fuel' _
      rw [elements]
      exact .malformed _
    · intro t fuel' _
      rw [members]
      exact .malformed _
  | succ fuel ih =>
    constructor
    all_goals
      intro t fuel' enough
      obtain ⟨fuel', rfl⟩ := Nat.exists_eq_succ_of_ne_zero (Nat.ne_zero_of_lt enough)
      have enough := Nat.le_of_succ_le_succ enough
    · exact ih.value_succ stops enough t
    · exact ih.elements_succ stops enough t
    · exact ih.members_succ stops enough t

/-! ## Elements of an array -/

/-- The text holds one value of JSON and nothing else, not even a mark in front. -/
structure IsText (t : Text) : Prop where
  unmarked : skipMark t = t
  accepted : read t ≠ .error .malformed

def openBracket : CodePoint := .ofChar '['

def closeBracket : CodePoint := .ofChar ']'

def comma : CodePoint := .ofChar ','

/-- The texts between brackets, with commas between them. -/
def arrayText (ts : List Text) : Text :=
  openBracket :: [comma].intercalate ts ++ [closeBracket]

theorem separates_comma (rest : Text) : Separates (comma :: rest) := ⟨rest, .inl rfl⟩

theorem separates_bracket (rest : Text) : Separates (closeBracket :: rest) := ⟨rest, .inr rfl⟩

/-- Behind an element comes the comma of another one, or the end. -/
theorem separates_others (ts : List Text) (after : Text) :
    Separates ((if ts = [] then [] else [comma] ++ [comma].intercalate ts) ++
      closeBracket :: after) := by
  split
  · exact separates_bracket after
  · exact separates_comma _

variable {t : Text}

theorem read_of_unmarked (unmarked : skipMark t = t) :
    read t = (value ((skipBlanks t).length + 1) (skipBlanks t)).bind fun r =>
      if (skipBlanks r.2).isEmpty then .ok r.1 else .error .malformed := by
  rw [read, unmarked]
  rfl

namespace IsText

/-- What a text holds is found in front of a separator, with blanks behind it, and so is an
integer that is too long. -/
theorem value_append (json : IsText t) (stops : Separates more) {fuel : Nat}
    (enough : (skipBlanks t).length < fuel) :
    (∃ v rest, read t = .ok v ∧ skipBlanks rest = [] ∧
      value fuel (skipBlanks t ++ more) = .ok (v, rest ++ more)) ∨
    ∃ e, read t = .error e ∧ value fuel (skipBlanks t ++ more) = .error e := by
  have reads := read_of_unmarked json.unmarked
  have goesOn := (continuesWith stops ((skipBlanks t).length + 1)).value (skipBlanks t) fuel enough
  have accepted := json.accepted
  cases alone : value ((skipBlanks t).length + 1) (skipBlanks t) with
  | error e =>
    rw [alone] at reads goesOn
    have kept : e ≠ .malformed := by
      rintro rfl
      exact accepted reads
    exact .inr ⟨e, reads, goesOn fun broken => kept (Except.error.inj broken)⟩
  | ok r =>
    obtain ⟨v, rest⟩ := r
    rw [alone] at reads goesOn
    simp only [Except.bind] at reads
    split at reads
    · rename_i blank
      exact .inl ⟨v, rest, reads, List.isEmpty_iff.mp blank, goesOn nofun⟩
    · exact absurd reads accepted

theorem elements_comma (json : IsText t) {fuel : Nat} (enough : (skipBlanks t).length < fuel)
    (others : Text) :
    elements (fuel + 1) (skipBlanks t ++ comma :: others) =
      (read t).bind fun v => (elements fuel (skipBlanks others)).map fun r => (v :: r.1, r.2) := by
  rw [elements]
  rcases json.value_append (separates_comma others) enough with
    ⟨v, rest, reads, blank, found⟩ | ⟨e, reads, found⟩
  · rw [reads, found]
    have next : mark 0x2C (rest ++ comma :: others) = some (skipBlanks others) := by
      rw [mark, (separates_comma others).skipBlanks_append, blank]
      rfl
    simp only [Except.bind, bind, next]
    cases elements fuel (skipBlanks others) <;> rfl
  · rw [reads, found]
    rfl

theorem elements_bracket (json : IsText t) {fuel : Nat} (enough : (skipBlanks t).length < fuel)
    (after : Text) :
    elements (fuel + 1) (skipBlanks t ++ closeBracket :: after) =
      (read t).map fun v => ([v], after) := by
  rw [elements]
  rcases json.value_append (separates_bracket after) enough with
    ⟨v, rest, reads, blank, found⟩ | ⟨e, reads, found⟩
  · rw [reads, found]
    have behind : skipBlanks (rest ++ closeBracket :: after) = closeBracket :: after := by
      rw [(separates_bracket after).skipBlanks_append, blank]
      rfl
    have last : mark 0x2C (rest ++ closeBracket :: after) = none := by
      rw [mark, behind]
      rfl
    simp only [bind, Except.bind, last, behind]
    rfl
  · rw [reads, found]
    rfl

/-- There is something in the text, and it is not a closing bracket. -/
theorem mark_append (json : IsText t) (stops : Separates more) :
    mark 0x5D (t ++ more) = none := by
  have accepted := json.accepted
  rw [read_of_unmarked json.unmarked] at accepted
  rw [mark, stops.skipBlanks_append]
  cases body : skipBlanks t with
  | nil =>
    rw [body, value_nil] at accepted
    exact absurd rfl accepted
  | cons c rest =>
    refine if_neg fun bracket => accepted ?_
    rw [body, value_bracket bracket]
    rfl

end IsText

/-- Texts are read one after the other as the elements of an array. -/
theorem elements_intercalate {ts : List Text} (filled : ts ≠ []) (json : ∀ t ∈ ts, IsText t)
    {fuel : Nat} (enough : ([comma].intercalate ts).length < fuel) (after : Text) :
    elements (fuel + 1) (skipBlanks ([comma].intercalate ts ++ closeBracket :: after)) =
      (ts.mapM read).map fun vs => (vs, after) := by
  induction ts generalizing fuel with
  | nil => exact absurd rfl filled
  | cons t ts ih =>
    obtain ⟨first, others⟩ := List.forall_mem_cons.mp json
    have shorter : (skipBlanks t).length ≤ t.length :=
      (List.dropWhile_sublist isBlank).length_le
    rw [Digits.intercalate_cons] at enough ⊢
    rw [List.mapM_cons]
    by_cases last : ts = []
    · subst last
      rw [if_pos rfl, List.append_nil] at enough ⊢
      rw [(separates_bracket after).skipBlanks_append,
        first.elements_bracket (Nat.lt_of_le_of_lt shorter enough)]
      cases read t <;> rfl
    · rw [if_neg last] at enough ⊢
      simp only [List.length_append, List.length_singleton] at enough
      obtain ⟨fuel, rfl⟩ := Nat.exists_eq_succ_of_ne_zero (Nat.ne_zero_of_lt enough)
      simp only [List.append_assoc, List.cons_append, List.nil_append]
      rw [(separates_comma _).skipBlanks_append, first.elements_comma (by omega),
        ih last others (by omega)]
      cases read t with
      | error e => rfl
      | ok v => cases ts.mapM read <;> rfl

/-- **An array of texts is the list of what each of them is.** -/
theorem read_arrayText {ts : List Text} (json : ∀ t ∈ ts, IsText t) :
    read (arrayText ts) = (ts.mapM read).map Value.list := by
  have unmarked : skipMark (arrayText ts) = arrayText ts := by
    rw [arrayText, List.cons_append, skipMark, if_neg (by decide), if_neg]
    intro mark
    rw [List.take_succ_cons, List.map_cons] at mark
    exact absurd (List.cons.inj mark).1 (by decide)
  have body : skipBlanks (arrayText ts) = arrayText ts := rfl
  rw [read_of_unmarked unmarked, body, arrayText, List.cons_append, value, if_neg (by decide),
    if_pos (by decide)]
  cases ts with
  | nil => rfl
  | cons t ts =>
    have filled : mark 0x5D ([comma].intercalate (t :: ts) ++ [closeBracket]) = none := by
      rw [Digits.intercalate_cons, List.append_assoc]
      exact (json t List.mem_cons_self).mark_append (separates_others ts [])
    have within := elements_intercalate (List.cons_ne_nil t ts) json (Nat.lt_succ_self _) []
    rw [filled, List.length_cons, List.length_append, List.length_singleton, within]
    cases (t :: ts).mapM read <;> rfl

end Json

end ExtendedFormat
