/-
# ExtendedFormat.Proofs.Template.RoundTrip -- parsing and writing undo each other

A template that was parsed is merged: no literal is empty and none follows another.
Its directives lie one behind the other in the format, each where its `start` says.
Writing such a template gives the format back, and parsing what was written gives the
template back, with its directives where they were written (`unparse_parse`).
-/
import ExtendedFormat.Proofs.Template.Reads

namespace ExtendedFormat.Template

set_option autoImplicit false

variable {dialect : Dialect} {start : Nat}

/-! ## Merged templates, and where their directives stand -/

/-- No literal is empty, and none follows another. -/
def IsMerged : Template → Prop
  | [] => True
  | .directive _ :: rest => IsMerged rest
  | .literal _ :: .literal _ :: _ => False
  | .literal bs :: rest => bs ≠ [] ∧ IsMerged rest

/-- The template with every directive moved to the offset where its text comes to stand
when the template is written from `start` on. -/
def placeFrom (start : Nat) : Template → Template
  | [] => []
  | .literal bs :: rest => .literal bs :: placeFrom (start + (double bs).length) rest
  | .directive d :: rest =>
      .directive { d with start := start } :: placeFrom (start + d.text.length) rest

/-! ## Literals in front -/

theorem double_append (xs ys : Bytes) : double (xs ++ ys) = double xs ++ double ys :=
  List.flatMap_append

theorem double_plain {b : UInt8} (plain : b ≠ percentSign) : double [b] = [b] := by
  simp [double, plain]

theorem double_percent : double [percentSign] = [percentSign, percentSign] := by
  simp [double]

theorem unparse_consLiteral (bs : Bytes) (p : Template) :
    unparse (consLiteral bs p) = double bs ++ unparse p := by
  match p with
  | [] | .directive _ :: _ => simp [consLiteral, unparse]
  | .literal more :: rest => simp [consLiteral, unparse, double_append]

theorem directives_consLiteral (bs : Bytes) (p : Template) :
    directives (consLiteral bs p) = directives p := by
  match p with
  | [] | .directive _ :: _ | .literal _ :: _ => simp [consLiteral, directives]

theorem isMerged_consLiteral {bs : Bytes} {p : Template} (merged : IsMerged p)
    (nonempty : bs ≠ []) : IsMerged (consLiteral bs p) := by
  match p with
  | [] => exact ⟨nonempty, trivial⟩
  | .directive _ :: _ => exact ⟨nonempty, merged⟩
  | [.literal more] => exact ⟨by simp [nonempty], trivial⟩
  | .literal more :: .directive _ :: _ => exact ⟨by simp [nonempty], merged.2⟩
  | .literal _ :: .literal _ :: _ => exact merged.elim

/-! ## What was parsed -/

theorem Reads.unparse_eq {bs : Bytes} {p : Template} (reads : Reads dialect start bs p) :
    unparse p = bs := by
  induction reads with
  | nil => rfl
  | byte plain _ ih => rw [unparse_consLiteral, double_plain plain, ih, List.singleton_append]
  | percent _ ih => rw [unparse_consLiteral, double_percent, ih]; rfl
  | directive _ _ ih => simpa [unparse] using ih

theorem Reads.isMerged {bs : Bytes} {p : Template} (reads : Reads dialect start bs p) :
    IsMerged p := by
  induction reads with
  | nil => trivial
  | byte _ _ ih => exact isMerged_consLiteral ih (List.cons_ne_nil _ _)
  | percent _ ih => exact isMerged_consLiteral ih (List.cons_ne_nil _ _)
  | directive _ _ ih => exact ih

theorem directives_directive (d : Directive) (p : Template) :
    directives (.directive d :: p) = d :: directives p := rfl

/-- A directive's text stands in the format where its `start` says. -/
theorem Reads.of_mem_directives {bs : Bytes} {p : Template} (reads : Reads dialect start bs p) :
    ∀ d ∈ directives p, Denotes dialect d.text (.directive d.toSpecification) ∧
      start ≤ d.start ∧ d.text <+: bs.drop (d.start - start) := by
  induction reads with
  | nil => simp [directives]
  | @byte start b tail pieces plain _ ih =>
    rw [directives_consLiteral]
    intro d member
    obtain ⟨denotes, after, here⟩ := ih d member
    have offset : d.start - start = d.start - (start + 1) + 1 := by omega
    exact ⟨denotes, by omega, by rwa [offset, List.drop_succ_cons]⟩
  | @percent start tail pieces _ ih =>
    rw [directives_consLiteral]
    intro d member
    obtain ⟨denotes, after, here⟩ := ih d member
    have offset : d.start - start = d.start - (start + 2) + 2 := by omega
    exact ⟨denotes, by omega, by rwa [offset, List.drop_succ_cons, List.drop_succ_cons]⟩
  | @directive start text tail spec pieces denotes _ ih =>
    rw [directives_directive]
    intro d member
    rcases List.mem_cons.1 member with rfl | later
    · exact ⟨denotes, Nat.le_refl _, by simp⟩
    · obtain ⟨denotes', after, here⟩ := ih d later
      have offset : d.start - start = text.length + (d.start - (start + text.length)) := by omega
      exact ⟨denotes', by omega, by rwa [offset, ← List.drop_drop, List.drop_left]⟩

theorem Reads.pairwise_directives {bs : Bytes} {p : Template} (reads : Reads dialect start bs p) :
    (directives p).Pairwise fun d e => d.stop ≤ e.start := by
  induction reads with
  | nil => exact .nil
  | byte _ _ ih => rwa [directives_consLiteral]
  | percent _ ih => rwa [directives_consLiteral]
  | directive denotes rest ih =>
    rw [directives_directive]
    exact .cons (fun e later => (rest.of_mem_directives e later).2.1) ih

theorem Directive.start_lt_stop {d : Directive}
    (denotes : Denotes dialect d.text (.directive d.toSpecification)) : d.start < d.stop := by
  obtain ⟨tail, eq, -⟩ := denotes.scan
  simp [Directive.stop, eq]

/-! ## What was written -/

theorem Reads.double_byte {b : UInt8} {rest : Bytes} {p : Template}
    (reads : Reads dialect (start + (double [b]).length) rest p) :
    Reads dialect start (double [b] ++ rest) (consLiteral [b] p) := by
  by_cases percent : b = percentSign
  · rw [percent, double_percent] at reads ⊢
    exact .percent reads
  · rw [double_plain percent] at reads ⊢
    exact .byte percent reads

theorem Reads.double_append {bs rest : Bytes} {p : Template} (nonempty : bs ≠ [])
    (reads : Reads dialect (start + (double bs).length) rest p) :
    Reads dialect start (double bs ++ rest) (consLiteral bs p) := by
  induction bs generalizing start with
  | nil => exact absurd rfl nonempty
  | cons b more ih =>
    by_cases last : more = []
    · rw [last] at reads ⊢
      exact reads.double_byte
    · rw [← List.singleton_append, Template.double_append] at reads ⊢
      rw [List.length_append, ← Nat.add_assoc] at reads
      rw [List.append_assoc, ← consLiteral_consLiteral]
      exact (ih last reads).double_byte

theorem IsMerged.of_literal {bs : Bytes} {rest : Template}
    (merged : IsMerged (.literal bs :: rest)) :
    bs ≠ [] ∧ IsMerged rest ∧
      ∀ start, consLiteral bs (placeFrom start rest) = .literal bs :: placeFrom start rest := by
  match rest with
  | [] => exact ⟨merged.1, trivial, fun _ => rfl⟩
  | .directive _ :: _ => exact ⟨merged.1, merged.2, fun _ => rfl⟩
  | .literal _ :: _ => exact merged.elim

theorem reads_unparse {p : Template} (merged : IsMerged p)
    (complete : ∀ d ∈ directives p, Denotes dialect d.text (.directive d.toSpecification)) :
    Reads dialect start (unparse p) (placeFrom start p) := by
  induction p generalizing start with
  | nil => exact .nil start
  | cons piece rest ih =>
    cases piece with
    | directive d =>
      rw [directives_directive, List.forall_mem_cons] at complete
      have reads : Reads dialect start (d.text ++ unparse rest) _ :=
        .directive complete.1 (ih merged complete.2)
      simpa [unparse, placeFrom] using reads
    | literal bs =>
      obtain ⟨nonempty, mergedRest, same⟩ := merged.of_literal
      have reads : Reads dialect start (double bs ++ unparse rest) _ :=
        (ih mergedRest complete).double_append nonempty
      rw [same] at reads
      simpa [unparse, placeFrom] using reads

/-! ## Both ways -/

/-- **Writing undoes parsing, and parsing undoes writing.**  Directives of a parsed
format have their texts where they start, one behind the other; a template of merged
literals and complete directives is read back with its directives where they were
written. -/
theorem unparse_parse (dialect : Dialect) :
    (∀ (format : Bytes) (pieces : Template), parse dialect .strict format = .ok pieces →
      (∀ mode, parse dialect mode format = .ok pieces) ∧ unparse pieces = format ∧
      IsMerged pieces ∧
      (∀ d ∈ directives pieces, d.start < d.stop ∧
        d.text = (format.drop d.start).take (d.stop - d.start)) ∧
      (directives pieces).Pairwise fun d e => d.stop ≤ e.start) ∧
    (∀ pieces : Template, IsMerged pieces →
      (∀ d ∈ directives pieces, Denotes dialect d.text (.directive d.toSpecification)) →
      ∀ mode, parse dialect mode (unparse pieces) = .ok (placeFrom 0 pieces)) ∧
    ∀ bs mode, parse dialect mode (double bs) = .ok (if bs = [] then [] else [.literal bs]) := by
  refine ⟨?_, ?_, ?_⟩
  · intro format pieces parsed
    have reads := reads_of_strict parsed
    refine ⟨reads.parseFrom_eq, reads.unparse_eq, reads.isMerged, ?_, reads.pairwise_directives⟩
    intro d member
    obtain ⟨denotes, -, here⟩ := reads.of_mem_directives d member
    refine ⟨Directive.start_lt_stop denotes, ?_⟩
    rw [Nat.sub_zero] at here
    rw [Directive.stop, Nat.add_sub_cancel_left]
    exact List.prefix_iff_eq_take.1 here
  · intro pieces merged complete mode
    exact (reads_unparse merged complete).parseFrom_eq mode
  · intro bs mode
    split
    · rename_i nothing
      rw [nothing]
      exact parseFrom_nil
    · rename_i nonempty
      have reads : Reads dialect 0 (double bs ++ []) _ := (Reads.nil _).double_append nonempty
      rw [List.append_nil] at reads
      exact reads.parseFrom_eq mode

/-- A literal behind an operation that its first byte could extend. -/
theorem unparse_parse_touching :
    parse .legacy .strict (ascii ['5', '%', '%', '%', 'k', 't', 'd']) =
        .ok [.literal (ascii ['5', '%']),
          .directive ⟨.ofLegacy .groupedSize, 3, ascii ['%', 'k', 't']⟩, .literal (ascii ['d'])] ∧
      unparse [.literal (ascii ['5', '%']),
          .directive ⟨.ofLegacy .groupedSize, 3, ascii ['%', 'k', 't']⟩, .literal (ascii ['d'])] =
        ascii ['5', '%', '%', '%', 'k', 't', 'd'] := by
  have complete : Denotes .legacy (ascii ['%', 'k', 't']) (.directive (.ofLegacy .groupedSize)) :=
    @Denotes.operation .legacy ['t'] .groupedSize (by decide)
  have parsed := (unparse_parse .legacy).2.1 [.literal (ascii ['5', '%']),
    .directive ⟨.ofLegacy .groupedSize, 3, ascii ['%', 'k', 't']⟩, .literal (ascii ['d'])]
    (by simp [IsMerged, ascii]) (by simpa [directives] using complete) .strict
  exact ⟨parsed, ((unparse_parse .legacy).1 _ _ parsed).2.1⟩

end ExtendedFormat.Template
