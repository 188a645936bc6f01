/-
# ExtendedFormat.Proofs.Number.Numerals -- numerals read back

`Numerals.int?` reads an integer from bytes: a minus sign or none, and at least one
digit of an alphabet, whose size is the base.  `Numerals.field?` looks past what a field
may add for the eye, blanks and commas.

A numeral reads back as the number that it was rendered from, with or without commas
(`field?_numeral`), and filling a field does not change what is read (`field?_pad`).
-/
import ExtendedFormat.Padding
import ExtendedFormat.Proofs.Number.Digits

namespace ExtendedFormat

set_option autoImplicit false

namespace Numerals

/-! ## The reader -/

/-- Reads digits behind those that have the value `n`. -/
def readFrom (alphabet : Bytes) (n : Nat) : Bytes → Option Nat
  | [] => some n
  | b :: rest =>
      (alphabet.idxOf? b).bind fun d => readFrom alphabet (alphabet.length * n + d) rest

def nat? (alphabet : Bytes) : Bytes → Option Nat
  | [] => none
  | b :: rest => readFrom alphabet 0 (b :: rest)

def int? (alphabet : Bytes) : Bytes → Option Int
  | [] => none
  | b :: rest =>
      if b = minusByte then (nat? alphabet rest).map fun n : Nat => -(n : Int)
      else (nat? alphabet (b :: rest)).map fun n : Nat => (n : Int)

def isFiller (b : UInt8) : Bool := b == 0x20 || b == 0x2C

/-- What is left without blanks and commas. -/
def bare (bs : Bytes) : Bytes := bs.filter fun b => !isFiller b

/-- The integer that a field shows. -/
def field? (alphabet bs : Bytes) : Option Int := int? alphabet (bare bs)

variable {alphabet : Bytes}

theorem readFrom_append (n : Nat) (xs ys : Bytes) :
    readFrom alphabet n (xs ++ ys) =
      (readFrom alphabet n xs).bind fun m => readFrom alphabet m ys := by
  induction xs generalizing n with
  | nil => rfl
  | cons b rest ih =>
    simp only [List.cons_append, readFrom, Option.bind_assoc]
    exact congrArg _ (funext fun d => ih _)

theorem nat?_of_ne_nil {bs : Bytes} (some : bs ≠ []) :
    nat? alphabet bs = readFrom alphabet 0 bs := by
  cases bs with
  | nil => exact absurd rfl some
  | cons => rfl

theorem ne_nil_of_nat? {bs : Bytes} {n : Nat} (read : nat? alphabet bs = some n) : bs ≠ [] := by
  rintro rfl
  cases read

theorem int?_minus (bs : Bytes) :
    int? alphabet (minusByte :: bs) = (nat? alphabet bs).map fun n : Nat => -(n : Int) := by
  rw [int?, if_pos rfl]

theorem int?_of_no_minus {bs : Bytes} (unsigned : minusByte ∉ bs) :
    int? alphabet bs = (nat? alphabet bs).map fun n : Nat => (n : Int) := by
  cases bs with
  | nil => rfl
  | cons b rest => exact if_neg (List.ne_of_not_mem_cons unsigned).symm

theorem bare_append (xs ys : Bytes) : bare (xs ++ ys) = bare xs ++ bare ys := List.filter_append ..

theorem bare_of_no_filler {bs : Bytes} (plain : ∀ b ∈ bs, isFiller b = false) : bare bs = bs :=
  List.filter_eq_self.2 fun b mem => by rw [plain b mem]; rfl

theorem bare_blanks (k : Nat) : bare (List.replicate k 0x20) = [] :=
  List.filter_eq_nil_iff.2 fun b mem => by rw [List.eq_of_mem_replicate mem]; decide

theorem bare_zeros (k : Nat) : bare (List.replicate k 0x30) = List.replicate k 0x30 :=
  bare_of_no_filler fun b mem => by rw [List.eq_of_mem_replicate mem]; rfl

theorem bare_minus (bs : Bytes) : bare (minusByte :: bs) = minusByte :: bare bs := rfl

/-! ## Filling -/

section Filling

variable (zero : alphabet.idxOf? 0x30 = some 0)

include zero

theorem readFrom_zeros (k : Nat) (bs : Bytes) :
    readFrom alphabet 0 (List.replicate k 0x30 ++ bs) = readFrom alphabet 0 bs := by
  induction k with
  | zero => rfl
  | succ k ih =>
    rw [List.replicate_succ, List.cons_append, readFrom, zero, Option.bind_some, Nat.mul_zero]
    exact ih

theorem nat?_zeros {bs : Bytes} (some : bs ≠ []) (k : Nat) :
    nat? alphabet (List.replicate k 0x30 ++ bs) = nat? alphabet bs := by
  rw [nat?_of_ne_nil (List.append_ne_nil_of_right_ne_nil _ some), readFrom_zeros zero,
    nat?_of_ne_nil some]

theorem field?_zeros {bs : Bytes} {n : Int} (unsigned : minusByte ∉ bs)
    (read : field? alphabet bs = some n) (k : Nat) :
    field? alphabet (List.replicate k 0x30 ++ bs) = some n := by
  have unsignedBare : minusByte ∉ bare bs := fun mem => unsigned (List.mem_filter.1 mem).1
  have unsignedZeros : minusByte ∉ List.replicate k 0x30 := fun mem =>
    absurd (List.eq_of_mem_replicate mem) (by decide)
  rw [field?, int?_of_no_minus unsignedBare] at read
  obtain ⟨m, digits, rfl⟩ := Option.map_eq_some_iff.1 read
  rw [field?, bare_append, bare_zeros,
    int?_of_no_minus fun mem => (List.mem_append.1 mem).elim unsignedZeros unsignedBare,
    nat?_zeros zero (ne_nil_of_nat? digits), digits]
  rfl

theorem field?_minus_zeros {bs : Bytes} {n : Int}
    (read : field? alphabet (minusByte :: bs) = some n) (k : Nat) :
    field? alphabet (minusByte :: (List.replicate k 0x30 ++ bs)) = some n := by
  rw [field?, bare_minus, int?_minus] at read ⊢
  obtain ⟨m, digits, rfl⟩ := Option.map_eq_some_iff.1 read
  rw [bare_append, bare_zeros, nat?_zeros zero (ne_nil_of_nat? digits), digits]
  rfl

/-- Filling does not change what is read, unless a minus sign comes to stand behind
zeros. -/
theorem field?_pad {bs : Bytes} {n : Int} (noInner : minusByte ∉ bs.tail)
    (read : field? alphabet bs = some n) (width : Nat) (fill : Fill) :
    field? alphabet (pad width fill bs) = some n := by
  cases bs with
  | nil => cases read
  | cons b digits =>
    simp only [pad]
    split
    · exact read
    · split
      · rw [field?, bare_append, bare_blanks, List.append_nil]
        exact read
      · split
        · split
          · rename_i minus
            subst minus
            exact field?_minus_zeros zero read _
          · rename_i other
            have unsigned : minusByte ∉ b :: digits :=
              List.not_mem_cons_of_ne_of_not_mem (Ne.symm other) noInner
            exact field?_zeros zero unsigned read _
        · rw [field?, bare_append, bare_blanks, List.nil_append]
          exact read

end Filling

/-! ## What is rendered -/

/-- The bytes of a text in ASCII. -/
def narrow (t : Text) : Bytes := t.map fun c => c.val.toUInt8

/-- The alphabet has the digits that numerals are rendered with. -/
structure Spells (alphabet : Bytes) (upper : Bool) : Prop where
  two_le : 2 ≤ alphabet.length
  le_sixteen : alphabet.length ≤ 16
  reads : ∀ d < alphabet.length,
    alphabet.idxOf? (Digits.symbol upper d).val.toUInt8 = some d

open Digits

variable {upper : Bool}

theorem Spells.zero (spells : Spells alphabet upper) : alphabet.idxOf? 0x30 = some 0 :=
  spells.reads 0 (Nat.lt_of_lt_of_le Nat.two_pos spells.two_le)

theorem Spells.readFrom_positional (spells : Spells alphabet upper) (n : Nat) :
    readFrom alphabet 0 (narrow ((positional alphabet.length n).map (symbol upper))) = some n := by
  induction n using Nat.strongRecOn with
  | ind n ih =>
    rcases Nat.lt_or_ge n alphabet.length with below | large
    · simp only [positional_of_lt below, narrow, List.map_cons, List.map_nil, readFrom,
        spells.reads n below, Option.bind_some, Nat.mul_zero, Nat.zero_add]
    · have two := spells.two_le
      have higher := ih (n / alphabet.length) (Nat.div_lt_self (by omega) two)
      have last : n % alphabet.length < alphabet.length := Nat.mod_lt n (by omega)
      rw [positional_of_le two large, List.map_append, narrow, List.map_append, ← narrow,
        readFrom_append, higher]
      simp only [List.map_cons, List.map_nil, Option.bind_some, readFrom,
        spells.reads _ last, Nat.div_add_mod]

theorem Spells.nat?_magnitude (spells : Spells alphabet upper) (n : Int) :
    nat? alphabet (narrow (magnitude alphabet.length upper n)) = some n.natAbs := by
  rw [nat?_of_ne_nil, magnitude, spells.readFrom_positional]
  rw [narrow, ne_eq, List.map_eq_nil_iff]
  exact magnitude_ne_nil alphabet.length upper n

/-- Digits are ASCII, and neither a sign nor a filler. -/
theorem symbol_plain (upper : Bool) {d : Nat} (digit : d < 16) :
    (symbol upper d).val < 0x80 ∧ (symbol upper d).val.toUInt8 ≠ minusByte ∧
      isFiller (symbol upper d).val.toUInt8 = false := by
  revert d
  cases upper <;> decide

theorem Spells.magnitude_plain (spells : Spells alphabet upper) (n : Int) :
    ∀ c ∈ magnitude alphabet.length upper n, c.val < 0x80 ∧ c.val.toUInt8 ≠ minusByte ∧
      isFiller c.val.toUInt8 = false := by
  intro c mem
  obtain ⟨d, digit, rfl⟩ := List.mem_map.1 mem
  have below := lt_of_mem_positional spells.two_le digit
  exact symbol_plain upper (Nat.lt_of_lt_of_le below spells.le_sixteen)

/-- Digits, in groups if asked for. -/
def spaced (grouped : Bool) (digits : Text) : Text :=
  if grouped then defaultSeparator.intercalate (groups digits) else digits

theorem mem_spaced {grouped : Bool} {digits : Text} {c : CodePoint}
    (mem : c ∈ spaced grouped digits) : c ∈ defaultSeparator ∨ c ∈ digits := by
  unfold spaced at mem
  split at mem
  · exact (mem_intercalate mem).imp_right fun inGroups => flatten_groups digits ▸ inGroups
  · exact .inr mem

theorem bare_spaced (grouped : Bool) (digits : Text) :
    bare (narrow (spaced grouped digits)) = bare (narrow digits) := by
  unfold spaced
  split
  · rw [bare, bare, narrow, narrow, List.filter_map, List.filter_map,
      filter_intercalate (by decide), flatten_groups]
  · rfl

/-- An integer as it is rendered, in groups if asked for. -/
def numeral (base : Nat) (upper grouped : Bool) (n : Int) : Text :=
  sign n ++ spaced grouped (magnitude base upper n)

theorem Spells.spaced_plain (spells : Spells alphabet upper) (grouped : Bool) (n : Int) :
    ∀ c ∈ spaced grouped (magnitude alphabet.length upper n),
      c.val < 0x80 ∧ c.val.toUInt8 ≠ minusByte := by
  intro c mem
  rcases mem_spaced mem with separator | digit
  · exact List.mem_singleton.1 separator ▸ by decide
  · exact (spells.magnitude_plain n c digit).imp_right And.left

theorem sign_ascii (n : Int) : ∀ c ∈ sign n, c.val < 0x80 := by
  unfold sign
  split
  · exact List.forall_mem_singleton.2 (by decide)
  · exact List.forall_mem_nil _

theorem Spells.numeral_ascii (spells : Spells alphabet upper) (grouped : Bool) (n : Int) :
    ∀ c ∈ numeral alphabet.length upper grouped n, c.val < 0x80 :=
  List.forall_mem_append.2
    ⟨sign_ascii n, fun c mem => (spells.spaced_plain grouped n c mem).1⟩

theorem Spells.minus_not_mem_spaced (spells : Spells alphabet upper) (grouped : Bool) (n : Int) :
    minusByte ∉ narrow (spaced grouped (magnitude alphabet.length upper n)) := by
  intro mem
  obtain ⟨c, inside, minus⟩ := List.mem_map.1 mem
  exact (spells.spaced_plain grouped n c inside).2 minus

theorem Spells.minus_not_mem_tail (spells : Spells alphabet upper) (grouped : Bool) (n : Int) :
    minusByte ∉ (narrow (numeral alphabet.length upper grouped n)).tail := by
  have unsigned := spells.minus_not_mem_spaced grouped n
  unfold numeral sign
  split
  · exact unsigned
  · exact fun mem => unsigned (List.mem_of_mem_tail mem)

/-- A numeral reads back. -/
theorem Spells.field?_numeral (spells : Spells alphabet upper) (grouped : Bool) (n : Int) :
    field? alphabet (narrow (numeral alphabet.length upper grouped n)) = some n := by
  have unsigned : minusByte ∉ narrow (magnitude alphabet.length upper n) :=
    spells.minus_not_mem_spaced false n
  have plain : bare (narrow (magnitude alphabet.length upper n)) =
      narrow (magnitude alphabet.length upper n) :=
    bare_of_no_filler fun b mem => by
      obtain ⟨c, inside, rfl⟩ := List.mem_map.1 mem
      exact (spells.magnitude_plain n c inside).2.2
  have digits : bare (narrow (spaced grouped (magnitude alphabet.length upper n))) =
      narrow (magnitude alphabet.length upper n) := (bare_spaced ..).trans plain
  rw [field?, numeral, narrow, List.map_append, ← narrow, ← narrow, bare_append, digits, sign]
  split
  · rename_i negative
    rw [show bare (narrow [minus]) = [minusByte] from rfl, List.singleton_append, int?_minus,
      spells.nat?_magnitude, Option.map_some, Option.some_inj]
    omega
  · rename_i nonneg
    rw [show bare (narrow []) = [] from rfl, List.nil_append, int?_of_no_minus unsigned,
      spells.nat?_magnitude, Option.map_some, Option.some_inj]
    omega

end Numerals

end ExtendedFormat
