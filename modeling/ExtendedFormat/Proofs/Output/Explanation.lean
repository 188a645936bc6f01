/-
# ExtendedFormat.Proofs.Output.Explanation -- what the explanation of a directive promises

An explanation is made from a directive alone.  Of its phrases, four say something about the
runs: that digits are grouped, that text is quoted, and how a field is filled
(`Directive.lists_iff`).  Whether a directive does so is seen in its runs: in what becomes of the
callback's answer (`Directive.SendsToGrouping`), in what the flag makes of the bytes
(`Directive.WrapsInQuotes`), and in what a width makes of them (`Directive.InsertsZeros`,
`Directive.AppendsBlanks`).

The two agree for every standard directive, but for the grouping of a number that is no decimal,
and for a quoted character in a field of three bytes, which it always fills
(`explanation_fits_runs`, `explanation_overstates`).
-/
import ExtendedFormat.Explanation
import ExtendedFormat.Proofs.Directive.Jobs
import ExtendedFormat.Proofs.Output.Flag

namespace ExtendedFormat

set_option autoImplicit false

open Outcome

/-! ## Phrases -/

namespace Trait

/-- The first letters of the phrase, which tell the kinds of traits apart. -/
def initials : Trait → List Char
  | .conversion _ => ['c', 'o', 'n']
  | .legacyOperation _ => ['l', 'e', 'g']
  | .grouped => ['g', 'r', 'o']
  | .quoted => ['q', 'u', 'o']
  | .length _ => ['l', 'e', 'n']
  | .width _ => ['w', 'i', 'd']
  | .leftAligned => ['l', 'e', 'f']
  | .zeroPadded => ['z', 'e', 'r']

theorem take_phrase (t : Trait) : t.phrase.toList.take 3 = t.initials := by
  have front (a b : String) (long : 3 ≤ a.toList.length) :
      (a ++ b).toList.take 3 = a.toList.take 3 := by
    rw [String.toList_append, List.take_append_of_le_length long]
  cases t with
  | grouped | quoted | leftAligned | zeroPadded => decide
  | width w =>
    show ("width " ++ toString w).toList.take 3 = ['w', 'i', 'd']
    rw [front _ _ (by decide)]
    decide
  | conversion name =>
    show ("conversion '" ++ name ++ "'").toList.take 3 = ['c', 'o', 'n']
    rw [String.append_assoc, front _ _ (by decide)]
    decide
  | legacyOperation name =>
    show ("legacy operation '" ++ name ++ "'").toList.take 3 = ['l', 'e', 'g']
    rw [String.append_assoc, front _ _ (by decide)]
    decide
  | length l =>
    show ("length '" ++ l.name ++ "'").toList.take 3 = ['l', 'e', 'n']
    rw [String.append_assoc, front _ _ (by decide)]
    decide

/-- A trait without a value is told by its phrase. -/
theorem eq_of_phrase {t w : Trait} (word : w ∈ [grouped, quoted, leftAligned, zeroPadded])
    (same : t.phrase = w.phrase) : t = w := by
  have initials : t.initials = w.initials := by rw [← take_phrase, ← take_phrase, same]
  simp only [List.mem_cons, List.not_mem_nil, or_false] at word
  rcases word with rfl | rfl | rfl | rfl <;> cases t <;> first | rfl | cases initials

end Trait

namespace Directive

variable {d : Directive} {l : Letter}

/-- The explanation of the directive has the phrase. -/
def Lists (d : Directive) (phrase : String) : Prop := phrase ∈ d.traits.map Trait.phrase

theorem lists_phrase_iff {w : Trait}
    (word : w ∈ [.grouped, .quoted, .leftAligned, .zeroPadded]) :
    d.Lists w.phrase ↔ w ∈ d.traits := by
  constructor
  · intro listed
    obtain ⟨t, member, same⟩ := List.mem_map.mp listed
    exact Trait.eq_of_phrase word same ▸ member
  · exact List.mem_map_of_mem

theorem mem_traits_iff (standard : d.conversion.isLegacy = false) {t : Trait} : t ∈ d.traits ↔
    t = .conversion d.conversion.name ∨
    (d.kFlag = true ∧ t = if d.conversion.isIntegral then .grouped else .quoted) ∨
    (∃ length, d.length = some length ∧ t = .length length) ∨
    (d.width ≠ 0 ∧ t = .width d.width) ∨
    (d.leftAlign = true ∧ t = .leftAligned) ∨
    (d.leftAlign = false ∧ d.zeroPad = true ∧ d.conversion.isIntegral = true ∧
      t = .zeroPadded) := by
  have flag : t ∈ (if d.kFlag then
      [if d.conversion.isIntegral then Trait.grouped else .quoted] else []) ↔
      d.kFlag = true ∧ t = if d.conversion.isIntegral then .grouped else .quoted := by
    split <;> simp [*]
  have width : t ∈ (if d.width = 0 then [] else [Trait.width d.width]) ↔
      d.width ≠ 0 ∧ t = .width d.width := by
    split <;> simp [*]
  have fill : t ∈ (if d.leftAlign then [Trait.leftAligned]
      else if d.zeroPad && d.conversion.isIntegral then [.zeroPadded] else []) ↔
      (d.leftAlign = true ∧ t = .leftAligned) ∨
        (d.leftAlign = false ∧ d.zeroPad = true ∧ d.conversion.isIntegral = true ∧
          t = .zeroPadded) := by
    cases d.leftAlign <;> cases d.zeroPad <;> cases d.conversion.isIntegral <;> simp
  rw [Specification.traits, standard, if_neg Bool.false_ne_true, List.mem_append,
    List.mem_append, List.mem_append, List.mem_cons]
  refine (or_congr (or_congr (or_congr (or_congr_right flag)
    (?_ : _ ↔ ∃ length, d.length = some length ∧ t = .length length)) width) fill).trans ?_
  · cases d.length <;> simp
  · simp only [or_assoc]

/-- What the four phrases stand for in the directive itself. -/
theorem lists_iff (standard : d.conversion = .standard l) :
    (d.Lists "grouped" ↔ d.kFlag = true ∧ l.isIntegral = true) ∧
    (d.Lists "quoted" ↔ d.kFlag = true ∧ l.isIntegral = false) ∧
    (d.Lists "zero-padded" ↔ d.leftAlign = false ∧ d.zeroPad = true ∧ l.isIntegral = true) ∧
    (d.Lists "left-aligned" ↔ d.leftAlign = true) := by
  have modern : d.conversion.isLegacy = false := by rw [standard]; rfl
  have integral : d.conversion.isIntegral = l.isIntegral := by rw [standard]; rfl
  refine ⟨(lists_phrase_iff (w := .grouped) (by decide)).trans ?_,
    (lists_phrase_iff (w := .quoted) (by decide)).trans ?_,
    (lists_phrase_iff (w := .zeroPadded) (by decide)).trans ?_,
    (lists_phrase_iff (w := .leftAligned) (by decide)).trans ?_⟩
  all_goals
    rw [mem_traits_iff modern, integral]
    cases l.isIntegral <;> simp

end Directive

/-! ## Fill that is seen -/

/-- What is the same behind and in front of something repeated is made of nothing else. -/
theorem eq_of_replicate_append {α : Type} {a : α} {n : Nat} {xs : List α}
    (same : List.replicate (n + 1) a ++ xs = xs ++ List.replicate (n + 1) a) :
    ∀ x ∈ xs, x = a := by
  induction xs with
  | nil => exact List.forall_mem_nil _
  | cons x xs ih =>
    rw [List.replicate_succ, List.cons_append, List.cons_append, ← List.replicate_succ] at same
    obtain ⟨rfl, rest⟩ := List.cons.inj same
    refine List.forall_mem_cons.mpr ⟨rfl, ih ?_⟩
    rw [← rest, List.replicate_succ', List.append_assoc, List.singleton_append]

section Padding

variable {width : Nat} {fill : Fill} {bs : Bytes}

theorem count_blanks (n : Nat) : (List.replicate n (0x20 : UInt8)).count 0x30 = 0 :=
  List.count_eq_zero.mpr fun member => absurd (List.eq_of_mem_replicate member) (by decide)

theorem count_zeros (n : Nat) : (List.replicate n (0x30 : UInt8)).count 0x30 = n :=
  List.count_replicate_self

/-- Zeros are put in only where they are asked for. -/
theorem zeros_of_pad {sign digits : Bytes} {count : Nat}
    (zeros : pad width fill (sign ++ digits) =
      sign ++ (List.replicate (count + 1) 0x30 ++ digits)) :
    fill.leftAlign = false ∧ (fill.zeroPad && fill.integral) = true := by
  have longer := congrArg List.length zeros
  have more := congrArg (List.count 0x30) zeros
  rw [length_pad] at longer
  simp only [List.length_append, List.length_replicate] at longer
  have short : (sign ++ digits).length < width := by
    rw [List.length_append]
    omega
  simp only [List.count_append, count_zeros] at more
  cases left : fill.leftAlign with
  | true =>
    rw [pad_left short left, List.count_append, List.count_append, count_blanks] at more
    omega
  | false =>
    refine ⟨rfl, ?_⟩
    by_contra noZeros
    rw [pad_blanks short left (Bool.eq_false_iff.mpr noZeros), List.count_append,
      List.count_append, count_blanks] at more
    omega

/-- Blanks are put behind bytes that are not all blank only where this is asked for. -/
theorem left_of_pad {count : Nat} (dark : ∃ b ∈ bs, b ≠ 0x20)
    (blanks : pad width fill bs = bs ++ List.replicate (count + 1) 0x20) :
    fill.leftAlign = true := by
  have longer := congrArg List.length blanks
  rw [length_pad, List.length_append, List.length_replicate] at longer
  have short : bs.length < width := by omega
  by_contra right
  have right : fill.leftAlign = false := Bool.eq_false_iff.mpr right
  cases zeros : fill.zeroPad && fill.integral with
  | true =>
    obtain ⟨sign, digits, rfl, -, filled⟩ := pad_zeros short right zeros
    rw [filled] at blanks
    have more := congrArg (List.count 0x30) blanks
    simp only [List.count_append, count_zeros, count_blanks] at more
    omega
  | false =>
    have filled := pad_blanks short right zeros
    have missing : width - bs.length = count + 1 := by omega
    rw [missing] at filled
    obtain ⟨b, member, other⟩ := dark
    exact other (eq_of_replicate_append (filled.symm.trans blanks) b member)

end Padding

/-! ## What a run shows -/

namespace Directive

variable {d : Directive} {l : Letter} {cb : Callbacks} {c : Cursor} {v : Value}

/-- Without callbacks, the directive prints something for the argument. -/
def Accepts (d : Directive) (v : Value) : Prop :=
  ∃ bs, (d.content .unset (Cursor.start [v])).1 = .ok bs

/-- The number that is read from the argument goes to the callback that groups digits, and what
the callback makes of it is printed. -/
def SendsToGrouping (d : Directive) (v : Value) : Prop :=
  ∃ n, ∀ cb f c, cb.groupDigits = some f → c.next? = some v →
    (d.content cb c).1 = (f (Digits.render 10 false n) (decide (n < 0))).bind Text.exactBytes ∧
      (d.content cb c).2.lastNumber = n

def unflagged (d : Directive) : Directive := { d with kFlag := false }

/-- What is printed for the argument, before it is filled to a width, is in double quotes what
is printed without the flag. -/
def WrapsInQuotes (d : Directive) (v : Value) : Prop :=
  ∀ cb c, c.next? = some v → ∀ bs, (d.unflagged.content cb c).1 = .ok bs →
    (d.content cb c).1 = .ok (quote bs)

/-- The field has zeros in it that are not of the content: between the sign, if there is one, and
the rest. -/
def InsertsZeros (d : Directive) (cb : Callbacks) (c : Cursor) : Prop :=
  ∃ sign digits count, (sign = [] ∨ sign = [minusByte]) ∧
    (d.content cb c).1 = .ok (sign ++ digits) ∧
    (d.field cb c).1 = .ok (sign ++ (List.replicate (count + 1) 0x30 ++ digits))

/-- The field has blanks behind the content.  The content is not all blank, so that these are
not blanks in front. -/
def AppendsBlanks (d : Directive) (cb : Callbacks) (c : Cursor) : Prop :=
  ∃ bare count, (∃ b ∈ bare, b ≠ 0x20) ∧ (d.content cb c).1 = .ok bare ∧
    (d.field cb c).1 = .ok (bare ++ List.replicate (count + 1) 0x20)

theorem field_of_content {bs : Bytes} (printed : (d.content cb c).1 = .ok bs) :
    (d.field cb c).1 = .ok (pad d.width d.fill bs) := by
  rw [field_eq, printed]
  rfl

/-! ### Numbers -/

/-- Only integers, and what stands for one, are accepted as numbers. -/
theorem index_of_accepts (standard : d.conversion = .standard l)
    (integral : l.isIntegral = true) (accepts : d.Accepts v) : ∃ n, v.index? = some n := by
  obtain ⟨bs, printed⟩ := accepts
  cases index : v.index? with
  | some n => exact ⟨n, rfl⟩
  | none =>
    have rejected : Accept.number d.length (Render.isSigned l) v =
        .error ⟨.integer, v.typeName⟩ := by
      rw [Accept.number, Accept.integer, index]
      rfl
    have next : (Cursor.start [v]).next? = some v := rfl
    rw [content_integral standard integral] at printed
    simp only [Render.integer, Cursor.readNumber_eq_readAs, Cursor.readAs, next, rejected,
      Render.reading] at printed
    cases printed

theorem sendsToGrouping (standard : d.conversion = .standard l) (flag : d.kFlag = true)
    (decimal : l ∈ [.decimal, .integer, .unsigned]) (accepts : d.Accepts v) :
    d.SendsToGrouping v := by
  have integral : l.isIntegral = true := by
    revert decimal
    cases l <;> decide
  obtain ⟨n, index⟩ := index_of_accepts standard integral accepts
  refine ⟨Cursor.numberAt d.length (Render.isSigned l) n, fun cb f c installed next => ?_⟩
  rw [content_integer standard integral next index, flag, Letter.radix_of_decimal decimal]
  refine ⟨?_, rfl⟩
  show (cb.group _ _).bind _ = _
  rw [Callbacks.group, installed]

/-- A callback whose answer is seen is one that the directive asks for. -/
theorem asks_of_sendsToGrouping (sends : d.SendsToGrouping v) : d.Asks .groupDigits := by
  obtain ⟨n, sends⟩ := sends
  by_contra silent
  let answering (t : Text) : Callbacks :=
    { Callbacks.unset with groupDigits := some fun _ _ => .ok t }
  have agree (t : Text) : ∀ job, d.Asks job → (answering []).get job = (answering t).get job := by
    intro job asks
    cases job with
    | groupDigits => exact absurd asks silent
    | transcode | resolveResource | resolveSystemError => rfl
  have same := content_of_agree (agree [⟨0x41, by decide⟩]) (Cursor.start [v])
  have first := (sends (answering []) _ (Cursor.start [v]) rfl rfl).1
  have second := (sends (answering [⟨0x41, by decide⟩]) _ (Cursor.start [v]) rfl rfl).1
  rw [same, second] at first
  cases first

theorem decimal_of_asks (standard : d.conversion = .standard l) (asks : d.Asks .groupDigits) :
    d.kFlag = true ∧ l ∈ [.decimal, .integer, .unsigned] := by
  cases asks with
  | grouped flag decimal =>
    refine ⟨flag, ?_⟩
    rw [standard] at decimal
    revert decimal
    cases l <;> decide
  | legacyGrouped operation =>
    have never : (Conversion.standard l).name ∉ ["kd", "ku", "kt", "kI64d", "kI64u"] := by
      cases l <;> decide
    rw [standard] at operation
    exact absurd operation never

/-! ### Text -/

theorem related_flag (standard : d.conversion = .standard l) (flag : d.kFlag = true)
    (builtIn : l ∈ [.decimal, .integer, .unsigned] → cb.groupDigits = none) (c : Cursor) :
    Related l.Marks (d.unflagged.content cb c).1 (d.content cb c).1 := by
  refine related_content (d := d.unflagged) (l := l) standard ?_ ?_ ?_ ?_ c
  · rfl
  · rfl
  · intro text
    rw [flag]
    exact Letter.marks_quoted text
  · intro integral
    rw [flag]
    exact Letter.related_numbers integral builtIn

theorem quoted_of_marks {plain flagged : Bytes} (text : l.isIntegral = false)
    (marks : l.Marks plain flagged) : flagged = quote plain := by
  have number {ls : List Letter} (numbers : ∀ l ∈ ls, l.isIntegral = true) : l ∉ ls :=
    fun member => Bool.false_ne_true (text.symm.trans (numbers l member))
  cases marks with
  | quoted => rfl
  | grouped decimal => exact absurd decimal (number (by decide))
  | same radix => exact absurd radix (number (by decide))

/-- No numeral is another one in quotes. -/
theorem unquoted_of_marks {plain flagged : Bytes} (integral : l.isIntegral = true)
    (marks : l.Marks plain flagged) : flagged ≠ quote plain := by
  intro wrapped
  cases marks with
  | quoted text =>
    have never : l ∉ [.char, .wideChar, .string, .wideString, .view] := by
      revert integral
      cases l <;> decide
    exact never text
  | same radix =>
    have longer := congrArg List.length wrapped
    simp only [quote, List.length_append, List.length_cons, List.length_nil] at longer
    omega
  | @grouped _ sign isSign groups digits threes =>
    -- A quotation mark would be a sign, a comma or a digit.
    have first : 0x22 ∈ sign ++ [0x2C].intercalate groups := wrapped ▸ List.mem_cons_self
    rcases List.mem_append.mp first with inSign | inside
    · rcases isSign with rfl | rfl
      · cases inSign
      · exact absurd (List.mem_singleton.mp inSign) (by decide)
    · rcases Digits.mem_intercalate inside with comma | digit
      · exact absurd (List.mem_singleton.mp comma) (by decide)
      · exact absurd (digits _ digit).1 (by decide)

theorem wrapsInQuotes (standard : d.conversion = .standard l) (flag : d.kFlag = true)
    (text : l.isIntegral = false) (v : Value) : d.WrapsInQuotes v := by
  intro cb c _ bs plain
  have noNumber : l ∉ [.decimal, .integer, .unsigned] := by
    revert text
    cases l <;> decide
  have related := @related_flag d l cb standard flag (fun number => absurd number noNumber) c
  rw [plain] at related
  cases wrapped : (d.content cb c).1 with
  | error e =>
    rw [wrapped] at related
    cases related
  | ok bs' =>
    rw [wrapped] at related
    cases related with
    | done marks => rw [quoted_of_marks text marks]

/-- What is not quoted text comes out otherwise without callbacks. -/
theorem not_wrapsInQuotes (standard : d.conversion = .standard l)
    (other : ¬ (d.kFlag = true ∧ l.isIntegral = false)) (accepts : d.Accepts v) :
    ¬ d.WrapsInQuotes v := by
  intro wraps
  obtain ⟨bs, printed⟩ := accepts
  have wraps := wraps .unset (Cursor.start [v]) rfl
  cases flag : d.kFlag with
  | false =>
    have same : d.unflagged = d := by rw [unflagged, ← flag]
    rw [same] at wraps
    have longer := congrArg List.length (Except.ok.inj (printed.symm.trans (wraps bs printed)))
    simp only [quote, List.length_append, List.length_cons, List.length_nil] at longer
    omega
  | true =>
    have integral : l.isIntegral = true := by
      by_contra text
      exact other ⟨flag, Bool.eq_false_iff.mpr text⟩
    have related := @related_flag d l .unset standard flag (fun _ => rfl) (Cursor.start [v])
    rw [printed] at related
    generalize plain : (d.unflagged.content .unset (Cursor.start [v])).1 = result at related
    cases related with
    | done marks =>
      have same := Except.ok.inj (printed.symm.trans (wraps _ plain))
      exact unquoted_of_marks integral marks same

/-! ### Samples -/

def letterA : CodePoint := ⟨0x41, by decide⟩

theorem content_zero (standard : d.conversion = .standard l) (integral : l.isIntegral = true) :
    (d.content .unset (Cursor.start [.int 0])).1 = .ok [0x30] := by
  have zero : Cursor.numberAt d.length (Render.isSigned l) 0 = 0 := by
    rcases d.length with _ | length
    · cases Render.isSigned l <;> rfl
    · cases length <;> cases Render.isSigned l <;> rfl
  have numeral : l.numeral d.kFlag 0 = [0x30] := by
    cases d.kFlag <;> revert integral <;> cases l <;> decide +kernel
  rw [content_integer (v := .int 0) standard integral rfl rfl]
  dsimp only
  rw [zero, Render.number_eq l fun _ => rfl, numeral]

theorem content_letter (standard : d.conversion = .standard l) (text : l.isIntegral = false) :
    (d.content .unset (Cursor.start [.text [letterA]])).1 =
      .ok (Render.quotedIf d.kFlag [0x41]) := by
  cases l with
  | char =>
    rw [content_char (.inl standard), Render.char]
    split <;> rfl
  | wideChar =>
    rw [content_char (.inr standard), Render.char]
    split <;> rfl
  | string | wideString =>
    have taken : d.extent? = some .terminated := by rw [Specification.extent?, standard]
    rw [content_string taken, Render.string]
    split <;> rfl
  | view =>
    have taken : d.extent? = some .view := by rw [Specification.extent?, standard]
    rw [content_string taken, Render.string]
    split <;> rfl
  | decimal | integer | unsigned | octal | hexLower | hexUpper => cases text

theorem content_nothing (standard : d.conversion = .standard l)
    (string : l ∈ [.string, .wideString, .view]) :
    (d.content .unset (Cursor.start [.text []])).1 = .ok (Render.quotedIf d.kFlag []) := by
  have taken : d.extent? = some .terminated ∨ d.extent? = some .view := by
    rw [Specification.extent?, standard]
    revert string
    cases l <;> decide
  rcases taken with taken | taken
  all_goals
    rw [content_string taken, Render.string]
    split <;> rfl

/-- For some argument there is little to print, and not all of it blank: a digit, a letter or
a pair of quotes, but a quoted character is three bytes. -/
theorem exists_short (standard : d.conversion = .standard l) :
    ∃ v bs, (d.content .unset (Cursor.start [v])).1 = .ok bs ∧ (∃ b ∈ bs, b ≠ 0x20) ∧
      (bs.length ≤ 2 ∨ bs.length = 3 ∧ d.kFlag = true ∧ l ∈ [.char, .wideChar]) := by
  have quoted (bs : Bytes) : ∃ b ∈ quote bs, b ≠ 0x20 := ⟨0x22, List.mem_cons_self, by decide⟩
  cases integral : l.isIntegral with
  | true => exact ⟨_, _, content_zero standard integral, ⟨0x30, by decide⟩, .inl (by decide)⟩
  | false =>
    have letter := content_letter standard integral
    cases flag : d.kFlag with
    | false =>
      rw [flag] at letter
      exact ⟨_, _, letter, ⟨0x41, by decide⟩, .inl (by decide)⟩
    | true =>
      rw [flag] at letter
      by_cases character : l ∈ [.char, .wideChar]
      · exact ⟨_, _, letter, quoted _, .inr ⟨rfl, rfl, character⟩⟩
      · have string : l ∈ [.string, .wideString, .view] := by
          revert character integral
          cases l <;> decide
        have nothing := content_nothing standard string
        rw [flag] at nothing
        exact ⟨_, _, nothing, quoted [], .inl (by decide)⟩

/-! ## The explanation and the runs -/

/-- What is explained of a directive with the letter is what its runs show, in either direction.
An argument counts if it is accepted without callbacks; the fill that the last two phrases stand
for is not seen without them under any callbacks. -/
structure IsExplained (d : Directive) (l : Letter) : Prop where
  accepts : ∃ v, d.Accepts v
  grouped : ¬ (d.kFlag = true ∧ l ∈ [.octal, .hexLower, .hexUpper]) →
    ∀ v, d.Accepts v → (d.Lists "grouped" ↔ d.SendsToGrouping v)
  quoted : ∀ v, d.Accepts v → (d.Lists "quoted" ↔ d.WrapsInQuotes v)
  zeros : 2 < d.width →
    (d.Lists "zero-padded" ↔ ∃ v, d.InsertsZeros .unset (Cursor.start [v]))
  zerosListed : ∀ cb c, d.InsertsZeros cb c → d.Lists "zero-padded"
  blanks : 2 < d.width → (d.kFlag = true → l ∈ [.char, .wideChar] → 3 < d.width) →
    (d.Lists "left-aligned" ↔ ∃ v, d.AppendsBlanks .unset (Cursor.start [v]))
  blanksListed : ∀ cb c, d.AppendsBlanks cb c → d.Lists "left-aligned"

theorem zeroPadded_of_insertsZeros (standard : d.conversion = .standard l)
    (inserts : d.InsertsZeros cb c) :
    d.leftAlign = false ∧ d.zeroPad = true ∧ l.isIntegral = true := by
  obtain ⟨sign, digits, count, -, printed, filled⟩ := inserts
  rw [field_of_content printed] at filled
  obtain ⟨right, zeros⟩ := zeros_of_pad (Except.ok.inj filled)
  obtain ⟨zeroPad, integral⟩ := Bool.and_eq_true_iff.mp zeros
  have same : d.fill.integral = l.isIntegral := by
    rw [Specification.fill, standard]
    rfl
  exact ⟨right, zeroPad, same ▸ integral⟩

theorem insertsZeros_zero (standard : d.conversion = .standard l) (right : d.leftAlign = false)
    (zeroPad : d.zeroPad = true) (integral : l.isIntegral = true) (wide : 2 < d.width) :
    d.InsertsZeros .unset (Cursor.start [.int 0]) := by
  have printed := content_zero standard integral
  have short : [(0x30 : UInt8)].length < d.width := Nat.lt_trans (by decide) wide
  have zeros : (d.fill.zeroPad && d.fill.integral) = true := by
    rw [Specification.fill, standard, zeroPad]
    exact integral
  obtain ⟨sign, digits, whole, signed, filled⟩ := pad_zeros short right zeros
  have missing : d.width - [(0x30 : UInt8)].length = d.width - 2 + 1 := by
    rw [List.length_singleton]
    omega
  refine ⟨sign, digits, d.width - 2, (signed.imp_right And.left).symm, whole ▸ printed, ?_⟩
  rw [field_of_content printed, filled, missing]

theorem leftAlign_of_appendsBlanks (appends : d.AppendsBlanks cb c) : d.leftAlign = true := by
  obtain ⟨bare, count, dark, printed, filled⟩ := appends
  rw [field_of_content printed] at filled
  exact left_of_pad dark (Except.ok.inj filled)

theorem appendsBlanks_of_short {bs : Bytes} (printed : (d.content cb c).1 = .ok bs)
    (dark : ∃ b ∈ bs, b ≠ 0x20) (left : d.leftAlign = true) (short : bs.length < d.width) :
    d.AppendsBlanks cb c := by
  refine ⟨bs, d.width - bs.length - 1, dark, printed, ?_⟩
  have missing : d.width - bs.length - 1 + 1 = d.width - bs.length := by omega
  rw [field_of_content printed, pad_left short left, missing]

end Directive

/-- **The explanation says what the run does**, for every standard directive.  `grouped` and
`quoted` are listed just if digits are grouped by the callback and text comes in quotes; nothing
is said of the grouping of a number that is no decimal.  In a field that is wide enough for the
fill to be seen, which is one of more than two bytes, or of more than three for a quoted
character, `zero-padded` and `left-aligned` are listed just if some argument has zeros put in or
blanks behind. -/
theorem explanation_fits_runs {d : Directive} {l : Letter}
    (standard : d.conversion = .standard l) : d.IsExplained l := by
  obtain ⟨listsGrouped, listsQuoted, listsZeros, listsBlanks⟩ := Directive.lists_iff standard
  obtain ⟨v, bs, printed, dark, short⟩ := Directive.exists_short standard
  refine {
    accepts := ⟨v, bs, printed⟩
    grouped := fun noOther v accepts => listsGrouped.trans ⟨fun ⟨flag, integral⟩ => ?_,
      fun sends => ?_⟩
    quoted := fun v accepts => listsQuoted.trans ⟨fun ⟨flag, text⟩ => ?_, fun wraps => ?_⟩
    zeros := fun wide => listsZeros.trans ⟨fun ⟨right, zeroPad, integral⟩ => ?_, ?_⟩
    zerosListed := fun cb c inserts =>
      listsZeros.mpr (Directive.zeroPadded_of_insertsZeros standard inserts)
    blanks := fun wide wider => listsBlanks.trans ⟨fun left => ?_, ?_⟩
    blanksListed := fun cb c appends =>
      listsBlanks.mpr (Directive.leftAlign_of_appendsBlanks appends) }
  · have decimal : l ∈ [.decimal, .integer, .unsigned] :=
      (Letter.decimal_or_other integral).resolve_right fun other => noOther ⟨flag, other⟩
    exact Directive.sendsToGrouping standard flag decimal accepts
  · obtain ⟨flag, decimal⟩ :=
      Directive.decimal_of_asks standard (Directive.asks_of_sendsToGrouping sends)
    exact ⟨flag, Letter.isIntegral_iff.mpr (List.mem_append_left _ decimal)⟩
  · exact Directive.wrapsInQuotes standard flag text v
  · by_contra other
    exact Directive.not_wrapsInQuotes standard other accepts wraps
  · exact ⟨_, Directive.insertsZeros_zero standard right zeroPad integral wide⟩
  · rintro ⟨v, inserts⟩
    exact Directive.zeroPadded_of_insertsZeros standard inserts
  · refine ⟨v, Directive.appendsBlanks_of_short printed dark left ?_⟩
    rcases short with two | ⟨three, flag, character⟩
    · exact Nat.lt_of_le_of_lt two wide
    · exact three ▸ wider flag character
  · rintro ⟨v, appends⟩
    exact Directive.leftAlign_of_appendsBlanks appends

/-- A character in quotes that is aligned to the left in four bytes. -/
theorem explanation_fits_runs_quoted_character :
    let d : Directive := ⟨⟨.standard .char, true, none, true, false, 4⟩, 0, ascii "%k-4c".toList⟩
    d.conversion = .standard .char ∧ d.Accepts (.text [Directive.letterA]) ∧
      d.WrapsInQuotes (.text [Directive.letterA]) ∧
      ¬ d.SendsToGrouping (.text [Directive.letterA]) ∧
      ∃ v, d.AppendsBlanks .unset (Cursor.start [v]) := by
  intro d
  have accepts : d.Accepts (.text [Directive.letterA]) := ⟨_, Directive.content_letter rfl rfl⟩
  have explained := @explanation_fits_runs d .char rfl
  refine ⟨rfl, accepts, ?_, ?_, ?_⟩
  · exact (explained.quoted _ accepts).mp (by unfold Directive.Lists; decide)
  · exact mt (explained.grouped (by decide) _ accepts).mpr (by unfold Directive.Lists; decide)
  · exact (explained.blanks (by decide) fun _ _ => by decide).mp (by unfold Directive.Lists; decide)

theorem Utf8.encode_singleton_ne_nil (c : CodePoint) : encode [c] ≠ [] := by
  rw [encode, List.flatMap_singleton]
  split
  · exact List.cons_ne_nil _ _
  · simp only [encodeScalar]
    split_ifs <;> exact List.cons_ne_nil _ _

theorem Accept.character_ne_nil {v : Value} {bs : Bytes} (accepted : Accept.character v = .ok bs) :
    bs ≠ [] := by
  unfold Accept.character at accepted
  split at accepted
  · cases accepted
    exact Utf8.encode_singleton_ne_nil _
  · cases accepted
    exact List.cons_ne_nil _ _
  · split at accepted
    · cases accepted
      exact List.cons_ne_nil _ _
    · cases accepted

/-- A quoted character is three bytes at least. -/
theorem Directive.three_le_quoted {d : Directive} (conversion : d.conversion = .standard .char)
    (narrow : d.isWide = false) (flag : d.kFlag = true) {cb : Callbacks} {c : Cursor} {bs : Bytes}
    (printed : (d.content cb c).1 = .ok bs) : 3 ≤ bs.length := by
  rw [content_char (.inl conversion), Render.char, narrow, if_neg Bool.false_ne_true] at printed
  cases next : c.next? with
  | none =>
    rw [Cursor.read_eq_readAs, Cursor.readAs, next] at printed
    cases printed
  | some v =>
    rw [Render.reading_of_next next] at printed
    cases accepted : Accept.character v with
    | error m =>
      rw [accepted] at printed
      cases printed
    | ok plain =>
      rw [accepted, flag] at printed
      obtain rfl : quote plain = bs := Except.ok.inj printed
      have some := List.length_pos_iff.mpr (Accept.character_ne_nil accepted)
      simp only [quote, List.length_append, List.length_cons, List.length_nil]
      omega

/-- **The explanation says more than the run does** of two directives.  `%k-3c` is
`left-aligned`, and its width is more than two bytes; but a character in quotes fills three, so
that no blanks come behind any.  `%kx` is `grouped`, and no digits go to the callback. -/
theorem explanation_overstates :
    let character : Directive :=
      ⟨⟨.standard .char, true, none, true, false, 3⟩, 0, ascii "%k-3c".toList⟩
    let hex : Directive :=
      ⟨⟨.standard .hexLower, true, none, false, false, 0⟩, 0, ascii "%kx".toList⟩
    (Template.parse .modern .compatible (ascii "%k-3c".toList) = .ok [.directive character] ∧
      character.Lists "left-aligned" ∧ 2 < character.width ∧
      ∀ cb c bs, (character.content cb c).1 = .ok bs → (character.field cb c).1 = .ok bs) ∧
    (Template.parse .modern .compatible (ascii "%kx".toList) = .ok [.directive hex] ∧
      hex.Lists "grouped" ∧ hex.Accepts (.int 0) ∧ ∀ v, ¬ hex.SendsToGrouping v) := by
  intro character hex
  let characterWord : Standard :=
    ⟨true, none, [0x2D], [0x33], none, .char, .inl rfl, by simp, by simp, by simp, by decide⟩
  let hexWord : Standard :=
    ⟨true, none, [], [], none, .hexLower, .inl rfl, by simp, by simp, by simp, by decide⟩
  have parsed (p : Standard) (noEarly : p.early = none) :
      Template.parse .modern .compatible p.text =
        .ok [.directive ⟨p.specification, 0, p.text⟩] := by
    have denotes := Standard.denotes_modern (Standard.isGreedy_of_early_none noEarly)
    have read : Template.parseFrom .modern .compatible 0 (p.text ++ []) =
        .ok [.directive ⟨p.specification, 0, p.text⟩] :=
      (Template.Reads.directive denotes (.nil _)).parseFrom_eq .compatible
    rwa [List.append_nil] at read
  refine ⟨⟨?_, by unfold Directive.Lists; decide, by decide, fun cb c bs printed => ?_⟩,
    ?_, by unfold Directive.Lists; decide, ⟨_, Directive.content_zero rfl rfl⟩, fun v sends => ?_⟩
  · exact parsed characterWord rfl
  · have enough : 3 ≤ bs.length := Directive.three_le_quoted rfl rfl rfl printed
    rw [Directive.field_of_content printed]
    exact congrArg Except.ok (pad_of_le enough)
  · exact parsed hexWord rfl
  · have asks := Directive.asks_of_sendsToGrouping sends
    exact absurd asks (by decide)

end ExtendedFormat
