/-
# ExtendedFormat.Proofs.Argument.Views -- when a JSON argument is a view

A view directive reads a value as a whole, unless the value is a pair that it takes for
data and a length (`Specification.TakesPair`).  A JSON object with data and a length is handed
on as such a pair, and shows so much of its data; an argument of any other form is read as
a whole (`json_views`).

There are two exceptions, as a pair does not say where it comes from.  A wide directive takes
a pair that begins with an integer for two code units, even if the integer was given as
data.  And two elements given as data, without a length, become a pair themselves.
-/
import ExtendedFormat.Proofs.Directive.Field
import ExtendedFormat.Proofs.Json.Values

namespace ExtendedFormat

set_option autoImplicit false

open Outcome

/-! ## What a view directive reads -/

/-- What a string directive reads: bytes, or code units if it is wide. -/
inductive StringData where
  | bytes (bs : Bytes)
  | units (us : List UInt16)
deriving DecidableEq

/-- The first bytes or code units. -/
def StringData.take (n : Nat) : StringData → StringData
  | .bytes bs => .bytes (bs.take n)
  | .units us => .units (us.take n)

namespace Specification

variable {s : Specification} {v : Value}

/-- What a view directive makes of its argument; null is a missing string. -/
def reads (s : Specification) (v : Value) : Except Mismatch (Option StringData) :=
  if s.isWide then (Accept.wideString .view v).map fun us => us.map .units
  else (Accept.string .view v).map fun bs => bs.map .bytes

/-- What a string directive of either extent makes of its argument. -/
def readsAs (extent : Accept.Extent) (s : Specification) (v : Value) :
    Except Mismatch (Option StringData) :=
  if s.isWide then (Accept.wideString extent v).map fun us => us.map .units
  else (Accept.string extent v).map fun bs => bs.map .bytes

/-- The value's own string, all of it. -/
def whole (s : Specification) (v : Value) : Except Mismatch StringData :=
  if s.isWide then (Accept.wideData v).map .units else (Accept.narrowData v).map .bytes

/-- What is printed for a string. -/
def shows (cb : Callbacks) (s : Specification) : Option StringData → Except Failure Bytes
  | some (.bytes bs) => .ok (pad s.width s.fill (Render.quotedIf s.kFlag bs))
  | some (.units us) => (Render.wideText cb s.kFlag us).map (pad s.width s.fill)
  | none =>
      let missing := if s.isWide then missingWideString else missingString
      .ok (pad s.width s.fill (Render.quotedIf s.kFlag missing))

/-- The value is a pair that a view directive takes for data and a length. -/
def TakesPair (s : Specification) (v : Value) : Prop :=
  ∃ data length, v = .tuple [data, length] ∧ (s.isWide = true → Accept.isUnit data = false)

/-- What is read where no part of the value is a length. -/
def readsWhole (s : Specification) : Value → Except Mismatch (Option StringData)
  | .null => .ok none
  | v => (s.whole v).map some

theorem readsWhole_of_ne_null (present : v ≠ .null) : s.readsWhole v = (s.whole v).map some := by
  cases v with
  | null => exact absurd rfl present
  | _ => rfl

theorem reads_of_not_pair (noPair : ¬ s.TakesPair v) : s.reads v = s.readsWhole v := by
  by_cases missing : v = .null
  · subst missing
    unfold reads
    split <;> rfl
  rw [readsWhole_of_ne_null missing]
  unfold reads whole
  split
  · rename_i wide
    rw [map_map]
    unfold Accept.wideString
    split
    · exact absurd rfl missing
    · contradiction
    · rename_i data length _
      have unit : Accept.isUnit data = true := by
        by_contra notUnit
        exact noPair ⟨data, length, rfl, fun _ => Bool.eq_false_iff.mpr notUnit⟩
      rw [if_pos unit, map_map]
      rfl
    · rw [map_map]
      rfl
  · rename_i narrow
    rw [map_map]
    unfold Accept.string
    split
    · exact absurd rfl missing
    · contradiction
    · rename_i data length _
      exact absurd ⟨data, length, rfl, fun wide => absurd wide narrow⟩ noPair
    · rw [map_map]
      rfl

theorem viewed_eq_ok_iff {α : Type} {read : Value → Except Mismatch (List α)}
    {data length : Value} {xs : List α} :
    Accept.viewed read data length = .ok xs ↔
      ∃ k all, length.index? = some k ∧ 0 ≤ k ∧ read data = .ok all ∧ xs = all.take k.toNat := by
  have long (n : Nat) : Accept.viewLength data length = .ok n ↔
      ∃ k, length.index? = some k ∧ 0 ≤ k ∧ n = k.toNat := by
    unfold Accept.viewLength Accept.reject
    cases length.index? with
    | none => simp
    | some k =>
      simp only [Option.some_inj]
      split
      · simp only [reduceCtorEq, false_iff]
        rintro ⟨k', rfl, present, -⟩
        omega
      · simp only [Except.ok.injEq, exists_eq_left']
        omega
  unfold Accept.viewed
  constructor
  · intro done
    obtain ⟨n, counted, done⟩ := bind_eq_ok_iff.mp done
    obtain ⟨all, read, done⟩ := bind_eq_ok_iff.mp done
    cases done
    obtain ⟨k, index, positive, rfl⟩ := (long n).mp counted
    exact ⟨k, all, index, positive, read, rfl⟩
  · rintro ⟨k, all, index, positive, read, rfl⟩
    rw [(long k.toNat).mpr ⟨k, index, positive, rfl⟩, read]
    rfl

/-- A view shows so much of the data that its reader finds. -/
theorem viewed_map_eq_ok_iff {α : Type} {wrap : List α → StringData}
    (cut : ∀ n xs, wrap (xs.take n) = (wrap xs).take n)
    {read : Value → Except Mismatch (List α)} {data length : Value} {found : Option StringData} :
    ((Accept.viewed read data length).map fun xs => some (wrap xs)) = .ok found ↔
      ∃ k all, length.index? = some k ∧ 0 ≤ k ∧ (read data).map wrap = .ok all ∧
        found = some (all.take k.toNat) := by
  rw [map_eq_ok_iff]
  constructor
  · rintro ⟨xs, done, rfl⟩
    obtain ⟨k, all, index, positive, held, rfl⟩ := viewed_eq_ok_iff.mp done
    exact ⟨k, wrap all, index, positive, map_eq_ok_iff.mpr ⟨all, held, rfl⟩,
      congrArg some (cut ..)⟩
  · rintro ⟨k, all, index, positive, given, rfl⟩
    obtain ⟨xs, held, rfl⟩ := map_eq_ok_iff.mp given
    exact ⟨_, viewed_eq_ok_iff.mpr ⟨k, xs, index, positive, held, rfl⟩,
      congrArg some (cut ..)⟩

/-- A pair of data and a length shows so much of the data. -/
theorem reads_pair {data length : Value} (takes : s.isWide = true → Accept.isUnit data = false)
    {found : Option StringData} :
    s.reads (.tuple [data, length]) = .ok found ↔
      ∃ k all, length.index? = some k ∧ 0 ≤ k ∧ s.whole data = .ok all ∧
        found = some (all.take k.toNat) := by
  unfold reads whole
  split
  · rename_i wide
    have asView : Accept.wideString .view (.tuple [data, length]) =
        (Accept.viewed Accept.wideData data length).map some := by
      rw [Accept.wideString, if_neg (Bool.eq_false_iff.mp (takes wide))]
    rw [asView, map_map]
    exact viewed_map_eq_ok_iff fun _ _ => rfl
  · have asView : Accept.string .view (.tuple [data, length]) =
        (Accept.viewed Accept.narrowData data length).map some := rfl
    rw [asView, map_map]
    exact viewed_map_eq_ok_iff fun _ _ => rfl

end Specification

/-! ## What is printed -/

/-- What becomes of a string directive, by what it reads. -/
def Directive.answer (cb : Callbacks) (d : Directive) :
    Except Mismatch (Option StringData) → Except Failure Bytes
  | .ok found => d.shows cb found
  | .error m => .error (.format (.mismatch d.text d.start m.expected m.got))

theorem Directive.field_readsAs {cb : Callbacks} {d : Directive} {extent : Accept.Extent}
    {c : Cursor} {v : Value} (taken : d.extent? = some extent) (next : c.next? = some v) :
    (d.field cb c).1 = d.answer cb (d.readsAs extent v) := by
  rw [Directive.field_eq, Directive.content_string taken]
  simp only [Render.string, Specification.readsAs]
  split
  · rename_i wide
    rw [Render.reading_of_next next]
    rcases Accept.wideString extent v with _ | _ | us
    · rfl
    · simp only [Except.map, answer, Option.map_none, Specification.shows, wide, if_true]
    · rfl
  · rename_i narrow
    rw [Render.reading_of_next next]
    rcases Accept.string extent v with _ | _ | bs
    · rfl
    · simp only [Except.map, answer, Option.map_none, Specification.shows, narrow]
      rfl
    · rfl

theorem Directive.field_reads {cb : Callbacks} {d : Directive} {c : Cursor} {v : Value}
    (conversion : d.conversion = .standard .view) (next : c.next? = some v) :
    (d.field cb c).1 = d.answer cb (d.reads v) := by
  have taken : d.extent? = some .view := by rw [Specification.extent?, conversion]
  exact Directive.field_readsAs taken next

/-! ## Objects with data -/

namespace Argument

variable {v data length : Value}

/-- The data that an object is given with; null is no data. -/
def data? : Value → Option Value
  | .dict entries =>
      match Table.get? entries dataKey with
      | some .null => none
      | found => found
  | _ => none

def length? : Value → Option Value
  | .dict entries => Table.get? entries lengthKey
  | _ => none

/-- The object with these data and no length. -/
def withData (data : Value) : Value := .dict [(dataKey, data)]

theorem data?_eq_some_iff :
    data? v = some data ↔
      ∃ entries, v = .dict entries ∧ Table.get? entries dataKey = some data ∧ data ≠ .null := by
  cases v with
  | dict entries =>
    simp only [data?, Value.dict.injEq, exists_eq_left']
    split
    · rename_i found
      simp only [found, reduceCtorEq, Option.some_inj, false_iff, not_and, not_not]
      exact Eq.symm
    · rename_i found other
      constructor
      · intro given
        refine ⟨given, ?_⟩
        rintro rfl
        exact other given
      · exact And.left
  | _ => simp [data?]

theorem ofJson_withData (data : Value) : ofJson (withData data) = dataOf data := by
  cases data <;> rfl

theorem ofJson_of_length (given : data? v = some data) (long : length? v = some length) :
    ofJson v = .tuple [dataOf data, length] := by
  obtain ⟨entries, rfl, found, present⟩ := data?_eq_some_iff.mp given
  have counted : Table.get? entries lengthKey = some length := long
  rw [ofJson]
  simp only [found, counted]
  cases data with
  | null => exact absurd rfl present
  | _ => rfl

theorem ofJson_of_no_length (given : data? v = some data) (short : length? v = none) :
    ofJson v = dataOf data := by
  obtain ⟨entries, rfl, found, present⟩ := data?_eq_some_iff.mp given
  have counted : Table.get? entries lengthKey = none := short
  rw [ofJson]
  simp only [found, counted]
  cases data <;> rfl

theorem ne_tuple_of_makes {items : List Value} (makes : Json.Makes v) : v ≠ .tuple items := by
  rintro rfl
  cases makes

/-- An argument that is given without data is no pair. -/
theorem ofJson_ne_tuple (makes : Json.Makes v) (none : data? v = none) {items : List Value} :
    ofJson v ≠ .tuple items := by
  unfold ofJson
  split
  · rename_i entries
    split
    · rename_i data found
      have null : data = .null := by
        by_contra present
        rw [data?_eq_some_iff.mpr ⟨entries, rfl, found, present⟩] at none
        cases none
      rw [null]
      nofun
    · nofun
  · split
    · nofun
    · nofun
  · exact ne_tuple_of_makes makes

theorem makes_of_data? (makes : Json.Makes v) (given : data? v = some data) :
    Json.Makes data := by
  obtain ⟨entries, rfl, found, -⟩ := data?_eq_some_iff.mp given
  cases makes with
  | dict each =>
    obtain ⟨e, inside, rfl⟩ := Table.mem_of_get? found
    exact each e inside

theorem dataOf_eq_tuple_iff (makes : Json.Makes data) {items : List Value} :
    dataOf data = .tuple items ↔ data = .list items := by
  cases makes <;> simp [dataOf]

theorem isUnit_dataOf (data : Value) : Accept.isUnit (dataOf data) = Accept.isUnit data := by
  cases data <;> rfl

/-- Among JSON values, the integers are the numbers and the booleans. -/
theorem isUnit_of_index? {n : Int} (makes : Json.Makes v) (index : v.index? = some n) :
    Accept.isUnit v = true := by
  cases makes with
  | bool | int => rfl
  | null | float | text | list | dict => cases index

/-- Data that are a string at all are read as a whole where they stand alone. -/
theorem reads_dataOf {s : Specification} {found : StringData} (makes : Json.Makes data)
    (present : data ≠ .null) (held : s.whole (dataOf data) = .ok found) :
    s.reads (dataOf data) = .ok (some found) := by
  have noPair : ¬ s.TakesPair (dataOf data) := by
    rintro ⟨a, b, pair, takes⟩
    rw [pair, Specification.whole] at held
    split at held
    · rename_i wide
      obtain rfl := (dataOf_eq_tuple_iff makes).mp pair
      have notUnit := takes wide
      cases makes with
      | list each =>
        cases index : a.index? with
        | none =>
          simp [Accept.wideData, Value.units?, Value.elements?, index, Accept.reject,
            Except.map] at held
        | some n =>
          rw [isUnit_of_index? (each a List.mem_cons_self) index] at notUnit
          cases notUnit
    · cases held
  have ne : dataOf data ≠ .null := by
    cases data with
    | null => exact absurd rfl present
    | _ => nofun
  rw [Specification.reads_of_not_pair noPair, Specification.readsWhole_of_ne_null ne, held]
  rfl

/-- **An argument is a view just if it has data and a length.**  Such an object shows the first
bytes or code units of what its data show alone, or is rejected, as it is where the data
alone are; and an argument of any other form is read as a whole.  This does not cover a wide
directive that is given an integer as data, nor two elements as data without a length where
they do not begin with one: either is taken for the other. -/
theorem json_views {v : Value} (makes : Json.Makes v) (cb : Callbacks) {d : Directive}
    (view : d.conversion = .standard .view) :
    (∀ w c, c.next? = some w → (d.field cb c).1 = d.answer cb (d.reads w)) ∧
      (∀ data length, data? v = some data → length? v = some length →
        (d.isWide = true → Accept.isUnit data = false) →
        ((∃ n found, length.index? = some n ∧ 0 ≤ n ∧
            d.reads (ofJson (withData data)) = .ok (some found) ∧
            d.reads (ofJson v) = .ok (some (found.take n.toNat))) ∨
          ∃ m, d.reads (ofJson v) = .error m) ∧
        ∀ m, d.reads (ofJson (withData data)) = .error m → ∃ m', d.reads (ofJson v) = .error m') ∧
      (data? v = none ∨ length? v = none →
        (∀ a b, data? v = some (.list [a, b]) → d.isWide = true ∧ Accept.isUnit a = true) →
        d.reads (ofJson v) = d.readsWhole (ofJson v)) := by
  refine ⟨fun w c next => Directive.field_reads view next, ?_, ?_⟩
  · intro data length given long noUnit
    have present := (data?_eq_some_iff.mp given).choose_spec.2.2
    have shown : (∃ n found, length.index? = some n ∧ 0 ≤ n ∧
        d.reads (ofJson (withData data)) = .ok (some found) ∧
        d.reads (ofJson v) = .ok (some (found.take n.toNat))) ∨
        ∃ m, d.reads (ofJson v) = .error m := by
      rw [ofJson_withData, ofJson_of_length given long]
      cases read : d.reads (.tuple [dataOf data, length]) with
      | error m => exact .inr ⟨m, rfl⟩
      | ok shown =>
        obtain ⟨n, found, index, positive, held, rfl⟩ :=
          (Specification.reads_pair (fun wide => (isUnit_dataOf data).trans (noUnit wide))).mp read
        exact .inl ⟨n, found, index, positive,
          reads_dataOf (makes_of_data? makes given) present held, rfl⟩
    refine ⟨shown, fun m rejected => ?_⟩
    rcases shown with ⟨n, found, -, -, alone, -⟩ | failed
    · rw [rejected] at alone
      cases alone
    · exact failed
  · intro lacking noPair
    refine Specification.reads_of_not_pair ?_
    rintro ⟨a, b, pair, takes⟩
    cases given : data? v with
    | none => exact ofJson_ne_tuple makes given pair
    | some data =>
      have short : length? v = none := by
        rcases lacking with none | short
        · rw [given] at none
          cases none
        · exact short
      rw [ofJson_of_no_length given short,
        dataOf_eq_tuple_iff (makes_of_data? makes given)] at pair
      subst pair
      obtain ⟨wide, unit⟩ := noPair a b given
      rw [takes wide] at unit
      cases unit

/-- Two bytes of three. -/
theorem json_views_two :
    Json.Makes (.dict [(dataKey, .text (Text.ofString "abc")), (lengthKey, .int 2)]) ∧
      ∃ n found, (Value.int 2).index? = some n ∧
        (Specification.reads ⟨.standard .view, true, none, true, false, 8⟩
          (ofJson (withData (.text (Text.ofString "abc"))))) = .ok (some found) ∧
        (Directive.field .unset
          ⟨⟨.standard .view, true, none, true, false, 8⟩, 0, ascii ['%', 'k', '-', '8', 'v']⟩
          (Cursor.start [ofJson (.dict [(dataKey, .text (Text.ofString "abc")),
            (lengthKey, .int 2)])])).1 =
          Specification.shows .unset ⟨.standard .view, true, none, true, false, 8⟩
            (some (found.take n.toNat)) := by
  have makes :
      Json.Makes (.dict [(dataKey, .text (Text.ofString "abc")), (lengthKey, .int 2)]) := by
    refine .dict fun e member => ?_
    simp only [List.mem_cons, List.not_mem_nil, or_false] at member
    rcases member with rfl | rfl
    · exact .text _
    · exact .int (Nat.lt_of_lt_of_le (by decide : 2 < 10 ^ 1)
        (Nat.pow_le_pow_right (by decide) (by decide)))
  obtain ⟨prints, views, -⟩ := json_views makes .unset (d := ⟨⟨.standard .view, true, none, true,
    false, 8⟩, 0, ascii ['%', 'k', '-', '8', 'v']⟩) rfl
  rcases (views _ _ rfl rfl fun _ => rfl).1 with ⟨n, found, index, -, alone, shown⟩ | ⟨m, failed⟩
  · refine ⟨makes, n, found, index, alone, ?_⟩
    rw [prints _ _ rfl, shown]
    rfl
  · cases failed

/-- An integer that is rejected alone shows with its length, as two code units; and of two
elements that are given without a length, one acts as the length of the other. -/
theorem pairs_are_confused :
    let counted : Value := .dict [(dataKey, .int 5), (lengthKey, .int 1)]
    let wide : Directive :=
      ⟨⟨.standard .view, false, some .long, false, false, 0⟩, 0, ascii ['%', 'l', 'v']⟩
    let elements : Value := .dict [(dataKey, .list [.text (Text.ofString "abc"), .int 2])]
    let narrow : Directive :=
      ⟨⟨.standard .view, false, none, false, false, 0⟩, 0, ascii ['%', 'v']⟩
    (data? counted = some (.int 5) ∧ length? counted = some (.int 1) ∧
      (wide.field .unset (Cursor.start [ofJson (withData (.int 5))])).1 =
        .error (.format (.mismatch wide.text 0 .wideString "int")) ∧
      (wide.field .unset (Cursor.start [ofJson counted])).1 = .ok [5, 1]) ∧
    length? elements = none ∧
      (narrow.field .unset (Cursor.start [ofJson elements])).1 = .ok (ascii ['a', 'b']) :=
  ⟨⟨rfl, rfl, rfl, rfl⟩, rfl, rfl⟩

end Argument

end ExtendedFormat
