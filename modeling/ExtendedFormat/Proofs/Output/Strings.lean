/-
# ExtendedFormat.Proofs.Output.Strings -- strings up to a zero, and views

A string directive finds a string in its argument (`Specification.whole`) and keeps a part of
it.  A terminated one keeps what stands before the first zero.  A view of a pair keeps as much as
the pair's length says, however much that is.  So what a terminated string prints is what
the view prints that ends at the first zero, with any flags and width
(`Directive.field_terminated`).

`terminated_strings_are_views` says so of calls with the bare directives.
-/
import ExtendedFormat.Proofs.Argument.Views
import ExtendedFormat.Proofs.Output.Run

namespace ExtendedFormat

set_option autoImplicit false

open Outcome

/-! ## What is kept -/

namespace Accept

theorem beforeZero_eq_take {α : Type} [BEq α] [OfNat α 0] (xs : List α) :
    beforeZero xs = xs.take (xs.idxOf 0) := by
  unfold beforeZero
  rw [List.takeWhile_eq_take_findIdx_not]
  simp [List.idxOf, bne]

variable {v : Value}

/-- What holds bytes is accepted as a terminated string. -/
theorem string_terminated_iff {taken : Bytes} :
    string .terminated v = .ok (some taken) ↔
      ∃ bs, v.bytes? = some bs ∧ taken = bs.take (bs.idxOf 0) := by
  by_cases missing : v = .null
  · simp [missing, string, Value.bytes?]
  · have cut : string .terminated v = (narrowData v).map fun bs => some (beforeZero bs) := by
      cases v with
      | null => exact absurd rfl missing
      | _ => rfl
    rw [cut, narrowData]
    cases v.bytes? with
    | none => simp [reject, Except.map]
    | some bs => simp [Except.map, beforeZero_eq_take, eq_comm]

/-- What holds code units is accepted as a terminated wide string. -/
theorem wideString_terminated_iff {taken : List UInt16} :
    wideString .terminated v = .ok (some taken) ↔
      ∃ us, v.units? = some us ∧ taken = us.take (us.idxOf 0) := by
  by_cases missing : v = .null
  · simp [missing, wideString, Value.units?, Value.elements?]
  · have cut : wideString .terminated v = (wideData v).map fun us => some (beforeZero us) := by
      cases v with
      | null => exact absurd rfl missing
      | _ => rfl
    rw [cut, wideData]
    cases v.units? with
    | none => simp [reject, Except.map]
    | some us => simp [Except.map, beforeZero_eq_take, eq_comm]

/-- An integer holds no code units. -/
theorem isUnit_of_units? {us : List UInt16} (held : v.units? = some us) : isUnit v = false := by
  cases v with
  | int | bool => cases held
  | _ => rfl

variable {length : Value} {n : Int}

/-- A view of a pair keeps as much as the length says, whatever is in it. -/
theorem string_counted {bs : Bytes} (held : v.bytes? = some bs) (index : length.index? = some n)
    (nonneg : 0 ≤ n) : string .view (.tuple [v, length]) = .ok (some (bs.take n.toNat)) := by
  have data : narrowData v = .ok bs := by rw [narrowData, held]
  have kept := Specification.viewed_eq_ok_iff.mpr ⟨n, bs, index, nonneg, data, rfl⟩
  rw [string, kept]
  rfl

theorem wideString_counted {us : List UInt16} (held : v.units? = some us)
    (index : length.index? = some n) (nonneg : 0 ≤ n) :
    wideString .view (.tuple [v, length]) = .ok (some (us.take n.toNat)) := by
  have data : wideData v = .ok us := by rw [wideData, held]
  have kept := Specification.viewed_eq_ok_iff.mpr ⟨n, us, index, nonneg, data, rfl⟩
  rw [wideString, isUnit_of_units? held, if_neg Bool.false_ne_true, kept]
  rfl

end Accept

/-- Where the first zero stands, or the end. -/
def StringData.zeroIndex : StringData → Nat
  | .bytes bs => bs.idxOf 0
  | .units us => us.idxOf 0

namespace Specification

variable {s : Specification} {v : Value} {found : StringData}

theorem whole_eq_ok_iff :
    s.whole v = .ok found ↔
      if s.isWide then ∃ us, v.units? = some us ∧ found = .units us
      else ∃ bs, v.bytes? = some bs ∧ found = .bytes bs := by
  unfold whole
  split
  · rw [Accept.wideData]
    cases v.units? <;> simp [Accept.reject, Except.map, eq_comm]
  · rw [Accept.narrowData]
    cases v.bytes? <;> simp [Accept.reject, Except.map, eq_comm]

theorem readsAs_terminated (held : s.whole v = .ok found) :
    s.readsAs .terminated v = .ok (some (found.take found.zeroIndex)) := by
  rw [whole_eq_ok_iff] at held
  unfold readsAs
  split at held
  · rename_i wide
    obtain ⟨us, units, rfl⟩ := held
    rw [if_pos wide, Accept.wideString_terminated_iff.mpr ⟨us, units, rfl⟩]
    rfl
  · rename_i narrow
    obtain ⟨bs, bytes, rfl⟩ := held
    rw [if_neg narrow, Accept.string_terminated_iff.mpr ⟨bs, bytes, rfl⟩]
    rfl

theorem readsAs_counted (held : s.whole v = .ok found) {length : Value} {n : Int}
    (index : length.index? = some n) (nonneg : 0 ≤ n) :
    s.readsAs .view (.tuple [v, length]) = .ok (some (found.take n.toNat)) := by
  rw [whole_eq_ok_iff] at held
  unfold readsAs
  split at held
  · rename_i wide
    obtain ⟨us, units, rfl⟩ := held
    rw [if_pos wide, Accept.wideString_counted units index nonneg]
    rfl
  · rename_i narrow
    obtain ⟨bs, bytes, rfl⟩ := held
    rw [if_neg narrow, Accept.string_counted bytes index nonneg]
    rfl

/-- The two print a string alike. -/
structure PrintsAlike (s s' : Specification) : Prop where
  wide : s'.isWide = s.isWide
  kFlag : s'.kFlag = s.kFlag
  width : s'.width = s.width
  fill : s'.fill = s.fill

theorem PrintsAlike.shows {s' : Specification} (alike : s.PrintsAlike s') (cb : Callbacks)
    (found : Option StringData) : s'.shows cb found = s.shows cb found := by
  unfold Specification.shows
  rw [alike.wide, alike.kFlag, alike.width, alike.fill]

theorem PrintsAlike.whole {s' : Specification} (alike : s.PrintsAlike s') (v : Value) :
    s'.whole v = s.whole v := by
  unfold Specification.whole
  rw [alike.wide]

end Specification

/-- A terminated string prints like the view that ends at its first zero. -/
theorem Directive.field_terminated {cb : Callbacks} {d d' : Directive} {c c' : Cursor} {v : Value}
    {found : StringData} (terminated : d.extent? = some .terminated)
    (view : d'.extent? = some .view) (alike : d.PrintsAlike d'.toSpecification)
    (held : d.whole v = .ok found) (next : c.next? = some v)
    (next' : c'.next? = some (.tuple [v, .int found.zeroIndex])) :
    (d.field cb c).1 = (d'.field cb c').1 := by
  have held' : d'.whole v = .ok found := (alike.whole v).trans held
  rw [field_readsAs terminated next, field_readsAs view next',
    Specification.readsAs_terminated held,
    Specification.readsAs_counted held' rfl (Int.natCast_nonneg _)]
  exact (alike.shows cb _).symm

/-- Appends the text of code units, or fails as their transcoding does. -/
def Sink.appendWide (cb : Callbacks) (us : List UInt16) (s : Sink) : Sink × Option Failure :=
  match cb.transcoded us with
  | .ok bs => (s.append bs, none)
  | .error e => (s, some e)

/-! ## Bare directives -/

section Calls

variable {cb : Callbacks} {how : Reading} {a : Value} {others : List Value} {s : Sink}
  {word : String} (length : Option Length) (l : Letter) {extent : Accept.Extent}

/-- A call with a bare string directive prints what the directive reads, or fails as its
argument is rejected. -/
theorem formatInto_bare
    (spelled : (Text.ofString word).exactBytes = .ok (Standard.bare length l).text)
    (taken : (Standard.bare length l).specification.extent? = some extent) :
    formatInto cb how (.text (Text.ofString word)) (a :: others) s =
      (Run.behind (Directive.answer cb
          ⟨(Standard.bare length l).specification, 0, (Standard.bare length l).text⟩
          ((Standard.bare length l).specification.readsAs extent a)) ⟨[], none⟩).onto s := by
  have holds : Template.formatBytes (.text (Text.ofString word)) =
      .ok (Standard.bare length l).text := spelled
  have next : (Cursor.start (a :: others)).next? = some a := rfl
  refine (formatInto_of_word (Standard.denotes_bare how.dialect length l) holds cb how.mode
    (a :: others) s).trans ?_
  rw [Directive.field_readsAs taken next]

theorem formatInto_narrow
    (spelled : (Text.ofString word).exactBytes = .ok (Standard.bare length l).text)
    (taken : (Standard.bare length l).specification.extent? = some extent)
    (narrow : (Standard.bare length l).specification.isWide = false) {bs : Bytes}
    (read : Accept.string extent a = .ok (some bs)) :
    formatInto cb how (.text (Text.ofString word)) (a :: others) s = (s.append bs, none) := by
  have found : (Standard.bare length l).specification.readsAs extent a =
      .ok (some (.bytes bs)) := by
    rw [Specification.readsAs, narrow, if_neg Bool.false_ne_true, read]
    rfl
  have shown : (Standard.bare length l).specification.shows cb (some (.bytes bs)) = .ok bs :=
    congrArg Except.ok (pad_zero _ bs)
  rw [formatInto_bare length l spelled taken, found, Directive.answer, shown]
  rfl

theorem formatInto_wide
    (spelled : (Text.ofString word).exactBytes = .ok (Standard.bare length l).text)
    (taken : (Standard.bare length l).specification.extent? = some extent)
    (wide : (Standard.bare length l).specification.isWide = true) {us : List UInt16}
    (read : Accept.wideString extent a = .ok (some us)) :
    formatInto cb how (.text (Text.ofString word)) (a :: others) s = s.appendWide cb us := by
  have found : (Standard.bare length l).specification.readsAs extent a =
      .ok (some (.units us)) := by
    rw [Specification.readsAs, wide, if_pos rfl, read]
    rfl
  have shown : (Standard.bare length l).specification.shows cb (some (.units us)) =
      cb.transcoded us := by
    show ((cb.transcoded us).map (Render.quotedIf false)).map (pad 0 _) = _
    rw [map_map]
    cases cb.transcoded us with
    | error e => rfl
    | ok bs => exact congrArg Except.ok (pad_zero _ bs)
  rw [formatInto_bare length l spelled taken, found, Directive.answer, shown, Sink.appendWide]
  cases cb.transcoded us <;> rfl

/-- A call leaves the sink as it was where the argument is rejected. -/
theorem formatInto_wide_rejected
    (spelled : (Text.ofString word).exactBytes = .ok (Standard.bare length l).text)
    (taken : (Standard.bare length l).specification.extent? = some extent)
    (wide : (Standard.bare length l).specification.isWide = true) {m : Mismatch}
    (rejected : Accept.wideString extent a = .error m) :
    formatInto cb how (.text (Text.ofString word)) (a :: others) s =
      (s, some (.format (.mismatch (Standard.bare length l).text 0 m.expected m.got))) := by
  have failed : (Standard.bare length l).specification.readsAs extent a = .error m := by
    rw [Specification.readsAs, wide, if_pos rfl, rejected]
    rfl
  rw [formatInto_bare length l spelled taken, failed]
  rfl

end Calls

/-- **A terminated string is the view up to its first zero.**  What is accepted by the bare
directives for terminated strings prints like the pair of itself and the index of its first zero,
or its whole length if there is none, does as a view.  A view reads exactly as much as it counts,
zeros included, or all there is if it counts more.  Flags and a width make no difference, if
both directives have them. -/
theorem terminated_strings_are_views (cb : Callbacks) (how : Reading) (a : Value)
    (others : List Value) (s : Sink) :
    let call := fun (word : String) (v : Value) =>
      formatInto cb how (.text (Text.ofString word)) (v :: others) s
    (∀ taken, Accept.string .terminated a = .ok (some taken) ↔
      ∃ bs, a.bytes? = some bs ∧ taken = bs.take (bs.idxOf 0)) ∧
    (∀ bs, a.bytes? = some bs →
      call "%s" a = call "%v" (.tuple [a, .int (bs.idxOf 0)]) ∧
      ∀ length n, length.index? = some n → 0 ≤ n →
        Accept.string .view (.tuple [a, length]) = .ok (some (bs.take n.toNat)) ∧
        call "%v" (.tuple [a, length]) = (s.append (bs.take n.toNat), none)) ∧
    (∀ taken, Accept.wideString .terminated a = .ok (some taken) ↔
      ∃ us, a.units? = some us ∧ taken = us.take (us.idxOf 0)) ∧
    (∀ us, a.units? = some us →
      (∀ word ∈ ["%S", "%ls"], call word a = call "%lv" (.tuple [a, .int (us.idxOf 0)])) ∧
      ∀ length n, length.index? = some n → 0 ≤ n →
        Accept.wideString .view (.tuple [a, length]) = .ok (some (us.take n.toNat)) ∧
        call "%lv" (.tuple [a, length]) = s.appendWide cb (us.take n.toNat)) ∧
    ∀ (d d' : Directive) (c c' : Cursor) (found : StringData),
      d.extent? = some .terminated → d'.extent? = some .view →
      d.PrintsAlike d'.toSpecification → d.whole a = .ok found → c.next? = some a →
      c'.next? = some (.tuple [a, .int found.zeroIndex]) →
      (d.field cb c).1 = (d'.field cb c').1 := by
  intro call
  refine ⟨fun _ => Accept.string_terminated_iff, ?_,
    fun _ => Accept.wideString_terminated_iff, ?_, ?_⟩
  · intro bs held
    have terminated := Accept.string_terminated_iff.mpr ⟨bs, held, rfl⟩
    have counted (length : Value) (n : Int) (index : length.index? = some n) (nonneg : 0 ≤ n) :=
      Accept.string_counted held index nonneg
    have prints (length : Value) (n : Int) (index : length.index? = some n) (nonneg : 0 ≤ n) :
        formatInto cb how (.text (Text.ofString "%v")) (.tuple [a, length] :: others) s =
          (s.append (bs.take n.toNat), none) :=
      formatInto_narrow none .view rfl rfl rfl (counted length n index nonneg)
    refine ⟨?_, fun length n index nonneg =>
      ⟨counted length n index nonneg, prints length n index nonneg⟩⟩
    show formatInto _ _ _ _ _ = formatInto _ _ _ _ _
    rw [prints _ _ rfl (Int.natCast_nonneg _)]
    exact formatInto_narrow none .string rfl rfl rfl terminated
  · intro us held
    have terminated := Accept.wideString_terminated_iff.mpr ⟨us, held, rfl⟩
    have counted (length : Value) (n : Int) (index : length.index? = some n) (nonneg : 0 ≤ n) :=
      Accept.wideString_counted held index nonneg
    have prints (length : Value) (n : Int) (index : length.index? = some n) (nonneg : 0 ≤ n) :
        formatInto cb how (.text (Text.ofString "%lv")) (.tuple [a, length] :: others) s =
          s.appendWide cb (us.take n.toNat) :=
      formatInto_wide (some .long) .view rfl rfl rfl (counted length n index nonneg)
    refine ⟨?_, fun length n index nonneg =>
      ⟨counted length n index nonneg, prints length n index nonneg⟩⟩
    simp only [List.forall_mem_cons, List.not_mem_nil, false_implies, implies_true, and_true]
    show formatInto _ _ _ _ _ = formatInto _ _ _ _ _ ∧ formatInto _ _ _ _ _ = formatInto _ _ _ _ _
    rw [prints _ _ rfl (Int.natCast_nonneg _)]
    exact ⟨formatInto_wide none .wideString rfl rfl rfl terminated,
      formatInto_wide (some .long) .string rfl rfl rfl terminated⟩
  · intro d d' c c' found terminated view alike held next next'
    exact Directive.field_terminated terminated view alike held next next'

/-- A pair of units, of which the second is zero in its low bits only, and a window on bytes. -/
theorem terminated_strings_are_views_units :
    let units : Value := .tuple [.handle 104, .int 65536]
    let window : Value := .bytes .window [97, 0, 98]
    let word : Directive :=
      ⟨⟨.standard .string, true, none, true, false, 8⟩, 0, ascii "%k-8s".toList⟩
    let word' : Directive :=
      ⟨⟨.standard .view, true, none, true, false, 8⟩, 0, ascii "%k-8v".toList⟩
    units.units? = some [104, 0] ∧ window.bytes? = some [97, 0, 98] ∧
      (Value.int (2 ^ 64)).index? = some (2 ^ 64) ∧ (0 : Int) ≤ 2 ^ 64 ∧
      (∀ cb s, formatInto cb ⟨.modern, .strict⟩ (.text (Text.ofString "%S")) [units] s =
        formatInto cb ⟨.modern, .strict⟩ (.text (Text.ofString "%lv"))
          [.tuple [units, .int 1]] s) ∧
      (∀ cb s, formatInto cb ⟨.legacy, .compatible⟩ (.text (Text.ofString "%v"))
        [.tuple [window, .int (2 ^ 64)]] s = (s.append [97, 0, 98], none)) ∧
      ∀ cb, (word.field cb (Cursor.start [window])).1 =
        (word'.field cb (Cursor.start [.tuple [window, .int 1]])).1 := by
  intro units window word word'
  have nonneg : (0 : Int) ≤ 2 ^ 64 := by decide
  refine ⟨rfl, rfl, rfl, nonneg, ?_, ?_, ?_⟩
  · intro cb s
    obtain ⟨-, -, -, wide, -⟩ := terminated_strings_are_views cb ⟨.modern, .strict⟩ units [] s
    exact (wide [104, 0] rfl).1 "%S" List.mem_cons_self
  · intro cb s
    obtain ⟨-, narrow, -⟩ := terminated_strings_are_views cb ⟨.legacy, .compatible⟩ window [] s
    exact ((narrow [97, 0, 98] rfl).2 (.int (2 ^ 64)) (2 ^ 64) rfl nonneg).2
  · intro cb
    obtain ⟨-, -, -, -, fields⟩ :=
      terminated_strings_are_views cb ⟨.modern, .strict⟩ window [] Sink.empty
    exact fields word word' (Cursor.start [window]) (Cursor.start [.tuple [window, .int 1]])
      (.bytes [97, 0, 98]) rfl rfl ⟨rfl, rfl, rfl, rfl⟩ rfl rfl rfl

end ExtendedFormat
