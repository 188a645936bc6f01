/-
# ExtendedFormat.Proofs.Output.Units -- code units in any container

A wide string may be given as a sequence of values that are or stand for integers, each of
which counts by its low bits.  Lists, tuples and arrays with the same integers are read alike
(`Directive.field_tuple`, `Directive.field_array`), but for one kind of tuple: a wide view takes
a pair for data and a length, unless an integer proper stands first.  Two units, of which the
first only stands for an integer, are rejected in this way as a tuple and printed as a list
(`pair_of_handles_rejected`).

`units_print_alike` says what the bare directives make of each container.
-/
import ExtendedFormat.Proofs.Output.Strings
import ExtendedFormat.Proofs.Text.Repair

namespace ExtendedFormat

set_option autoImplicit false

open Outcome

/-! ## What is read -/

section Reads

variable {items : List Value} {ns : List Int} {us : List UInt16}

namespace Value

theorem mapM_codeUnit (integers : items.mapM index? = some ns) :
    (items.mapM fun item => item.index?.map codeUnit) = some (ns.map codeUnit) := by
  induction items generalizing ns with
  | nil =>
    cases integers
    rfl
  | cons v items ih =>
    simp only [List.mapM_cons, Option.bind_eq_bind, Option.bind_eq_some_iff, Option.pure_def,
      Option.some_inj] at integers ⊢
    obtain ⟨n, index, rest, others, rfl⟩ := integers
    exact ⟨codeUnit n, by rw [index]; rfl, rest.map codeUnit, ih others, rfl⟩

theorem units?_list (integers : items.mapM index? = some ns) :
    (list items).units? = some (ns.map codeUnit) := mapM_codeUnit integers

theorem units?_tuple (integers : items.mapM index? = some ns) :
    (tuple items).units? = some (ns.map codeUnit) := mapM_codeUnit integers

/-- A unit is its own low bits. -/
theorem codeUnit_toNat (u : UInt16) : codeUnit u.toNat = u := by
  have residue := toNat_codeUnit u.toNat
  have below := u.toNat_lt
  apply UInt16.toNat_inj.mp
  omega

/-- The list of an array's elements holds the array's units, and so does the array. -/
theorem units?_elements (us : List UInt16) :
    (list (us.map fun u => .int u.toNat)).units? = some us := by
  have integers : (us.map fun u : UInt16 => int u.toNat).mapM index? =
      some (us.map fun u => (u.toNat : Int)) := by
    induction us with
    | nil => rfl
    | cons u us ih => rw [List.map_cons, List.mapM_cons, ih]; rfl
  rw [units?_list integers, List.map_map]
  exact congrArg some ((List.map_congr_left fun u _ => codeUnit_toNat u).trans us.map_id)

theorem units?_array (us : List UInt16) : (array us).units? = some us := units?_elements us

end Value

/-- Data that hold code units are read as a whole by a wide view, if they are no pair to it. -/
theorem Accept.wideString_view {v : Value} (held : v.units? = some us)
    (noPair : ∀ data length, v = .tuple [data, length] → isUnit data = true) :
    wideString .view v = .ok (some us) := by
  have data : wideData v = .ok us := by rw [wideData, held]
  unfold wideString
  split
  · cases held
  · contradiction
  · rename_i first second _
    rw [if_pos (noPair first second rfl), data]
    rfl
  · rw [data]
    rfl

/-- A pair that begins with what only stands for an integer is rejected for its length, or
else for its data. -/
theorem Accept.wideString_pair {first second : Value} {n k : Int} (index : first.index? = some n)
    (unit : isUnit first = false) (index' : second.index? = some k) :
    wideString .view (.tuple [first, second]) =
      .error (if k < 0 then ⟨.viewLength, "int"⟩ else ⟨.wideString, "Handle"⟩) := by
  cases first with
  | int | bool => cases unit
  | handle n =>
    have counted : viewLength (.handle n) second =
        if k < 0 then .error ⟨.viewLength, "int"⟩ else .ok k.toNat := by
      rw [viewLength, index']
      rfl
    show (viewed wideData (.handle n) second).map some = _
    rw [viewed, counted]
    split <;> rfl
  | _ => cases index

/-- What a wide directive reads does not depend on the container of the units. -/
theorem Specification.readsAs_units {s : Specification} (wide : s.isWide = true)
    {extent : Accept.Extent} {v w : Value} (held : v.units? = some us) (held' : w.units? = some us)
    (noPair : ∀ data length, v = .tuple [data, length] ∨ w = .tuple [data, length] →
      extent = .view → Accept.isUnit data = true) :
    s.readsAs extent v = s.readsAs extent w := by
  have same : Accept.wideString extent v = Accept.wideString extent w := by
    cases extent with
    | terminated =>
      rw [Accept.wideString_terminated_iff.mpr ⟨us, held, rfl⟩,
        Accept.wideString_terminated_iff.mpr ⟨us, held', rfl⟩]
    | view =>
      rw [Accept.wideString_view held fun data length pair => noPair data length (.inl pair) rfl,
        Accept.wideString_view held' fun data length pair => noPair data length (.inr pair) rfl]
  simp only [readsAs, wide, if_true, same]

variable {cb : Callbacks} {d : Directive} {extent : Accept.Extent} {c c' : Cursor}

/-- With any flags and width, a tuple prints like the list of its elements, or fails as that
does. -/
theorem Directive.field_tuple (taken : d.extent? = some extent) (wide : d.isWide = true)
    (integers : items.mapM Value.index? = some ns)
    (noPair : ∀ first second, items = [first, second] → extent = .view →
      Accept.isUnit first = true)
    (next : c.next? = some (.tuple items)) (next' : c'.next? = some (.list items)) :
    (d.field cb c).1 = (d.field cb c').1 := by
  rw [field_readsAs taken next, field_readsAs taken next']
  refine congrArg (d.answer cb) (Specification.readsAs_units wide (Value.units?_tuple integers)
    (Value.units?_list integers) ?_)
  rintro first second (pair | pair) view
  · exact noPair first second (Value.tuple.inj pair) view
  · cases pair

/-- So does an array. -/
theorem Directive.field_array (taken : d.extent? = some extent) (wide : d.isWide = true)
    (next : c.next? = some (.array us))
    (next' : c'.next? = some (.list (us.map fun u => .int u.toNat))) :
    (d.field cb c).1 = (d.field cb c').1 := by
  rw [field_readsAs taken next, field_readsAs taken next']
  refine congrArg (d.answer cb) (Specification.readsAs_units wide (Value.units?_array us)
    (Value.units?_elements us) ?_)
  rintro first second (pair | pair) <;> cases pair

end Reads

/-! ## What is printed -/

/-- The built-in transcoder does not fail. -/
theorem Sink.appendWide_of_builtin {cb : Callbacks} (builtin : cb.transcode = none)
    (us : List UInt16) (s : Sink) :
    s.appendWide cb us = (s.append (Callbacks.defaultTranscode us), none) := by
  rw [appendWide, Callbacks.transcoded, builtin]

/-- **Code units print the same in any container, unless they look like a view.**  A list and
a tuple of the same integers, or of what stands for them, are both read up to the first zero
by the terminated directives, and in full by the view as a list.  So they are as a tuple, but
for two units of which the first only stands for an integer: that tuple is taken for data and
a length, and rejected.  An array prints like the list of its elements.  Flags and a width make
no difference.  With the built-in transcoder, whatever is read is printed. -/
theorem units_print_alike (cb : Callbacks) (how : Reading) {items : List Value} {ns : List Int}
    (integers : items.mapM Value.index? = some ns) (others : List Value) (s : Sink) :
    let call := fun (word : String) (v : Value) =>
      formatInto cb how (.text (Text.ofString word)) (v :: others) s
    let us := ns.map Value.codeUnit
    (∀ word ∈ ["%S", "%ls"], ∀ v ∈ [Value.list items, .tuple items],
      call word v = s.appendWide cb (us.take (us.idxOf 0))) ∧
    call "%lv" (.list items) = s.appendWide cb us ∧
    ((∀ first second, items = [first, second] → Accept.isUnit first = true) →
      call "%lv" (.tuple items) = s.appendWide cb us) ∧
    (∀ first second, items = [first, second] → Accept.isUnit first = false →
      ∃ m : Mismatch, (m = ⟨.viewLength, "int"⟩ ∨ m = ⟨.wideString, "Handle"⟩) ∧
        call "%lv" (.tuple items) =
          (s, some (.format (.mismatch (ascii "%lv".toList) 0 m.expected m.got)))) ∧
    (∀ (d : Directive) (extent : Accept.Extent) (c c' : Cursor),
      d.extent? = some extent → d.isWide = true →
      (∀ first second, items = [first, second] → extent = .view → Accept.isUnit first = true) →
      c.next? = some (.tuple items) → c'.next? = some (.list items) →
      (d.field cb c).1 = (d.field cb c').1) ∧
    (cb.transcode = none →
      ∀ us, s.appendWide cb us = (s.append (Callbacks.defaultTranscode us), none)) ∧
    ∀ vs : List UInt16,
      let elements := Value.list (vs.map fun u => .int u.toNat)
      (∀ word ∈ ["%S", "%ls"], ∀ v ∈ [Value.array vs, elements],
        call word v = s.appendWide cb (vs.take (vs.idxOf 0))) ∧
      (∀ v ∈ [Value.array vs, elements], call "%lv" v = s.appendWide cb vs) ∧
      ∀ (d : Directive) (extent : Accept.Extent) (c c' : Cursor),
        d.extent? = some extent → d.isWide = true →
        c.next? = some (.array vs) → c'.next? = some elements →
        (d.field cb c).1 = (d.field cb c').1 := by
  intro call us
  have terminated {v : Value} {us : List UInt16} (held : v.units? = some us) :
      ∀ word ∈ ["%S", "%ls"], call word v = s.appendWide cb (us.take (us.idxOf 0)) := by
    have read := Accept.wideString_terminated_iff.mpr ⟨us, held, rfl⟩
    simp only [List.forall_mem_cons, List.not_mem_nil, false_implies, implies_true, and_true]
    exact ⟨formatInto_wide none .wideString rfl rfl rfl read,
      formatInto_wide (some .long) .string rfl rfl rfl read⟩
  have view {v : Value} {us : List UInt16} (held : v.units? = some us)
      (noPair : ∀ data length, v = .tuple [data, length] → Accept.isUnit data = true) :
      call "%lv" v = s.appendWide cb us :=
    formatInto_wide (some .long) .view rfl rfl rfl (Accept.wideString_view held noPair)
  have list := Value.units?_list integers
  have tuple := Value.units?_tuple integers
  refine ⟨fun word spelled => ?_, ?_, fun noPair => ?_, ?_, ?_, ?_, fun vs => ⟨?_, ?_, ?_⟩⟩
  · exact List.forall_mem_cons.mpr ⟨terminated list word spelled,
      List.forall_mem_singleton.mpr (terminated tuple word spelled)⟩
  · exact view list nofun
  · exact view tuple fun first second pair => noPair first second (Value.tuple.inj pair)
  · rintro first second rfl unit
    obtain ⟨n, k, index, index'⟩ : ∃ n k, first.index? = some n ∧ second.index? = some k := by
      simp only [List.mapM_cons, Option.bind_eq_bind, Option.bind_eq_some_iff] at integers
      obtain ⟨n, index, -, ⟨k, index', -⟩, -⟩ := integers
      exact ⟨n, k, index, index'⟩
    have rejected := Accept.wideString_pair index unit index'
    refine ⟨_, ?_, formatInto_wide_rejected (some .long) .view rfl rfl rfl rejected⟩
    split
    · exact .inl rfl
    · exact .inr rfl
  · intro d extent c c' taken wide noPair next next'
    exact Directive.field_tuple taken wide integers noPair next next'
  · exact fun builtin us => Sink.appendWide_of_builtin builtin us s
  · intro word spelled
    exact List.forall_mem_cons.mpr ⟨terminated (Value.units?_array vs) word spelled,
      List.forall_mem_singleton.mpr (terminated (Value.units?_elements vs) word spelled)⟩
  · exact List.forall_mem_cons.mpr ⟨view (Value.units?_array vs) nofun,
      List.forall_mem_singleton.mpr (view (Value.units?_elements vs) nofun)⟩
  · intro d extent c c' taken wide next next'
    exact Directive.field_array taken wide next next'

/-- A truth value and two handles, of which the last has the low bits of a letter. -/
theorem units_print_alike_mixed :
    let items : List Value := [.bool true, .handle 104, .handle (105 - 2 ^ 70)]
    items.mapM Value.index? = some [1, 104, 105 - 2 ^ 70] ∧
      (∀ first second, items = [first, second] → Accept.isUnit first = true) ∧
      ∀ s, formatInto .unset ⟨.modern, .strict⟩ (.text (Text.ofString "%lv")) [.tuple items] s =
        (s.append [1, 104, 105], none) := by
  intro items
  have integers : items.mapM Value.index? = some [1, 104, 105 - 2 ^ 70] := rfl
  have noPair (first second : Value) (pair : items = [first, second]) :
      Accept.isUnit first = true := by
    simp [items] at pair
  refine ⟨integers, noPair, fun s => ?_⟩
  obtain ⟨-, -, tuple, -, -, builtin, -⟩ :=
    units_print_alike .unset ⟨.modern, .strict⟩ integers [] s
  exact (tuple noPair).trans (builtin rfl _)

/-- Two handles print as a list, and are rejected as a tuple. -/
theorem pair_of_handles_rejected :
    let items : List Value := [.handle 104, .handle 105]
    let call := fun (v : Value) =>
      formatInto .unset ⟨.modern, .strict⟩ (.text (Text.ofString "%lv")) [v] Sink.empty
    items.mapM Value.index? = some [104, 105] ∧
      call (.list items) = (Sink.empty.append (ascii "hi".toList), none) ∧
      call (.tuple items) =
        (Sink.empty, some (.format (.mismatch (ascii "%lv".toList) 0 .wideString "Handle"))) := by
  intro items call
  have read : Accept.wideString .view (.list items) = .ok (some [104, 105]) := rfl
  have rejected : Accept.wideString .view (.tuple items) = .error ⟨.wideString, "Handle"⟩ := rfl
  exact ⟨rfl, formatInto_wide (some .long) .view rfl rfl rfl read,
    formatInto_wide_rejected (some .long) .view rfl rfl rfl rejected⟩

end ExtendedFormat
