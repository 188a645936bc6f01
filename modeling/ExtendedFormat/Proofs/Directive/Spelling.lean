/-
# ExtendedFormat.Proofs.Directive.Spelling -- tables of spellings

`firstSpelling?` takes the first entry of a table that the bytes begin with.  In a
table where no spelling begins a later one (`Spelled`), that is the longest entry
there is; `Length.take_eq_iff` says so of the length modifiers.
-/
import ExtendedFormat.Proofs.Directive.Grammar

namespace ExtendedFormat

set_option autoImplicit false

/-! ## The first spelling -/

/-- A word that cannot go on after its end: what follows does not matter. -/
theorem prefix_of_prefix_append {α : Type} {w xs rest : List α} {c : α}
    (begins : w <+: (xs ++ [c]) ++ rest) (last : c ∉ w.dropLast) : w <+: xs ++ [c] := by
  by_cases short : w.length ≤ (xs ++ [c]).length
  · exact List.prefix_of_prefix_length_le begins (List.prefix_append _ _) short
  · have within : xs ++ [c] <+: w :=
      List.prefix_of_prefix_length_le (List.prefix_append _ _) begins (by omega)
    have shorter : (xs ++ [c]).length ≤ w.dropLast.length := by
      rw [List.length_dropLast]; omega
    have inside := List.prefix_of_prefix_length_le within (List.dropLast_prefix w) shorter
    exact absurd (inside.subset (by simp)) last

theorem dropLetters?_eq_some_iff {cs : List Char} (narrow : ∀ c ∈ cs, c.toNat < 256)
    {bs rest : Bytes} : dropLetters? cs bs = some rest ↔ bs = ascii cs ++ rest := by
  fun_induction dropLetters? cs bs with
  | case1 bs => simp [ascii, eq_comm]
  | case2 c cs => simp [ascii]
  | case3 c cs b bs same ih =>
    have byte : c.toNat.toUInt8 = b := by simp [same]
    rw [ih fun x member => narrow x (List.mem_cons_of_mem c member)]
    simp [ascii, byte]
  | case4 c cs b bs different =>
    have small := narrow c List.mem_cons_self
    have byte : b ≠ c.toNat.toUInt8 := by
      rintro rfl
      exact different (by simp [Nat.mod_eq_of_lt small])
    simp [ascii, byte]

section Spellings

variable {α : Type} {table : List (List Char × α)} {bs rest : Bytes} {a : α}

/-- The table is written in Latin letters, and no spelling begins a later one. -/
structure Spelled (table : List (List Char × α)) : Prop where
  narrow : ∀ s ∈ table, ∀ c ∈ s.1, c.toNat < 256
  ordered : table.Pairwise fun s t => ¬ ascii s.1 <+: ascii t.1

theorem Spelled.tail {s : List Char × α} (spelled : Spelled (s :: table)) : Spelled table :=
  ⟨fun t member => spelled.narrow t (List.mem_cons_of_mem s member), spelled.ordered.of_cons⟩

theorem firstSpelling?_eq_none_iff (spelled : Spelled table) :
    firstSpelling? table bs = none ↔ ∀ s ∈ table, ¬ ascii s.1 <+: bs := by
  fun_induction firstSpelling? table bs with
  | case1 => simp
  | case2 s m others bs rest dropped =>
    have begins := (dropLetters?_eq_some_iff (spelled.narrow _ List.mem_cons_self)).1 dropped
    simp only [reduceCtorEq, false_iff]
    exact fun absent => absent _ List.mem_cons_self ⟨rest, begins.symm⟩
  | case3 s m others bs passed ih =>
    have here : ¬ ascii s <+: bs := by
      rintro ⟨rest, begins⟩
      rw [(dropLetters?_eq_some_iff (spelled.narrow _ List.mem_cons_self)).2 begins.symm] at passed
      cases passed
    rw [ih spelled.tail, List.forall_mem_cons]
    exact ⟨fun absent => ⟨here, absent⟩, And.right⟩

/-- The longest spelling at the front of the bytes is found, as no shorter one stands
before it. -/
theorem firstSpelling?_of_longest (spelled : Spelled table) {s : List Char}
    (member : (s, a) ∈ table)
    (longest : ∀ t ∈ table, ascii t.1 <+: ascii s ++ rest → (ascii t.1).length ≤ (ascii s).length) :
    firstSpelling? table (ascii s ++ rest) = some (a, rest) := by
  induction table with
  | nil => simp at member
  | cons t others ih =>
    obtain ⟨first, m⟩ := t
    have drops (more : Bytes) :
        dropLetters? first (ascii s ++ rest) = some more ↔ ascii s ++ rest = ascii first ++ more :=
      dropLetters?_eq_some_iff (spelled.narrow _ List.mem_cons_self)
    rcases List.mem_cons.1 member with same | later
    · cases same
      simp only [firstSpelling?, (drops rest).2 rfl]
    · have apart : ¬ ascii first <+: ascii s := List.rel_of_pairwise_cons spelled.ordered later
      have passed : dropLetters? first (ascii s ++ rest) = none := by
        rw [Option.eq_none_iff_forall_ne_some]
        intro more dropped
        have begins : ascii first <+: ascii s ++ rest := ⟨more, ((drops more).1 dropped).symm⟩
        exact apart (List.prefix_of_prefix_length_le begins (List.prefix_append _ _)
          (longest _ List.mem_cons_self begins))
      simp only [firstSpelling?, passed]
      exact ih spelled.tail later fun t' member' => longest t' (List.mem_cons_of_mem _ member')

theorem longest_of_firstSpelling? (spelled : Spelled table)
    (found : firstSpelling? table bs = some (a, rest)) :
    ∃ s, (s, a) ∈ table ∧ bs = ascii s ++ rest ∧
      ∀ t ∈ table, ascii t.1 <+: bs → (ascii t.1).length ≤ (ascii s).length := by
  induction table with
  | nil => simp [firstSpelling?] at found
  | cons t others ih =>
    obtain ⟨first, m⟩ := t
    have drops (more : Bytes) : dropLetters? first bs = some more ↔ bs = ascii first ++ more :=
      dropLetters?_eq_some_iff (spelled.narrow _ List.mem_cons_self)
    simp only [firstSpelling?] at found
    split at found
    · rename_i more dropped
      cases found
      have here := (drops rest).1 dropped
      refine ⟨first, List.mem_cons_self, here, fun t' member begins => ?_⟩
      rcases List.mem_cons.1 member with rfl | later
      · exact Nat.le_refl _
      · have apart : ¬ ascii first <+: ascii t'.1 :=
          List.rel_of_pairwise_cons spelled.ordered later
        refine Nat.le_of_not_lt fun longer => apart ?_
        exact List.prefix_of_prefix_length_le ⟨rest, here.symm⟩ begins (Nat.le_of_lt longer)
    · rename_i passed
      obtain ⟨s, member, here, longest⟩ := ih spelled.tail found
      refine ⟨s, List.mem_cons_of_mem _ member, here, fun t' member' begins => ?_⟩
      rcases List.mem_cons.1 member' with rfl | later
      · obtain ⟨more, eq⟩ := begins
        rw [(drops more).2 eq.symm] at passed
        cases passed
      · exact longest t' later begins

end Spellings

/-! ## Length modifiers -/

theorem Length.spelled : Spelled (Length.all.map fun l => (l.letters, l)) where
  narrow := by simp [Length.all, Length.letters]
  ordered := by decide

theorem Length.mem_table {cs : List Char} {l : Length} :
    (cs, l) ∈ Length.all.map (fun l => (l.letters, l)) ↔ cs = l.letters := by
  cases l <;> simp [Length.all, Length.letters]

/-- The modifier taken is the longest one at the front, and none only if none is there. -/
theorem Length.take_eq_iff {bs rest : Bytes} {o : Option Length} :
    Length.take bs = (o, rest) ↔ bs = Length.written o ++ rest ∧
      ∀ l : Length, l.bytes <+: bs → l.bytes.length ≤ (Length.written o).length := by
  have table (l : Length) : (l.letters, l) ∈ Length.all.map fun l => (l.letters, l) :=
    Length.mem_table.2 rfl
  constructor
  · intro taken
    unfold Length.take at taken
    split at taken
    · rename_i l rest' found
      cases taken
      obtain ⟨cs, member, here, longest⟩ := longest_of_firstSpelling? Length.spelled found
      obtain rfl := Length.mem_table.1 member
      exact ⟨here, fun l' begins => longest _ (table l') begins⟩
    · rename_i passed
      cases taken
      refine ⟨rfl, fun l begins => absurd begins ?_⟩
      exact (firstSpelling?_eq_none_iff Length.spelled).1 passed _ (table l)
  · rintro ⟨rfl, longest⟩
    cases o with
    | none =>
      have passed : firstSpelling? (Length.all.map fun l => (l.letters, l)) rest = none := by
        refine (firstSpelling?_eq_none_iff Length.spelled).2 fun (cs, l) member begins => ?_
        rw [Length.mem_table.1 member] at begins
        obtain ⟨b, tail, eq, -⟩ := l.bytes_eq_cons
        have fits := longest l begins
        simp [Length.written, eq] at fits
      simp [Length.take, Length.written, passed]
    | some l =>
      have found : firstSpelling? (Length.all.map fun l => (l.letters, l))
          (ascii l.letters ++ rest) = some (l, rest) := by
        refine firstSpelling?_of_longest Length.spelled (table l) fun (cs, l') member begins => ?_
        rw [Length.mem_table.1 member] at begins ⊢
        exact longest l' begins
      simp only [Length.take, Length.written, Length.bytes, found]

theorem Length.take_spec (bs : Bytes) :
    bs = Length.written (Length.take bs).1 ++ (Length.take bs).2 ∧
      ∀ l : Length, l.bytes <+: bs → l.bytes.length ≤ (Length.written (Length.take bs).1).length :=
  Length.take_eq_iff.1 rfl

end ExtendedFormat
