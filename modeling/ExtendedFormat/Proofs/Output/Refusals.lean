/-
# ExtendedFormat.Proofs.Output.Refusals -- a run fails for its arguments only

Callbacks may return any value at all.  As long as they return, a run of a format that was read
comes to its end, or it fails with a `FormatError`: an argument is missing or of the wrong
kind, or a callback has returned something other than text (`formatInto_refuses`).  The one
exception is an integer that is too long to be named in a complaint, handed to a look-up; a
text that was looked up does not help.
-/
import ExtendedFormat.Proofs.Directive.Fault
import ExtendedFormat.Proofs.Number.Bounds
import ExtendedFormat.Proofs.Output.Atomicity

namespace ExtendedFormat

set_option autoImplicit false

variable {cb : Callbacks} {d : Directive} {c : Cursor} {e : Failure}

/-! ## What callbacks and arguments are taken to be -/

/-- Digits are grouped as built in, and the other callbacks return, if they are set: the
transcoder for all code units, and the look-ups for all integers. -/
structure Callbacks.Returns (cb : Callbacks) : Prop where
  builtIn : cb.groupDigits = none
  transcode : ∀ f, cb.transcode = some f → ∀ units, ∃ v, f units = .ok v
  resource : ∀ f, cb.resolveResource = some f → ∀ key : Int, ∃ v, f (.int key) = .ok v
  systemError : ∀ f, cb.resolveSystemError = some f → ∀ code, ∃ v, f code = .ok v

/-- An argument is at fault, or a callback's result is no text. -/
def FormatError.Refuses (fe : FormatError) : Prop :=
  fe.concernsArgument = true ∨ ∃ role got, fe = .notText role got

/-- The directive looks its argument up. -/
def Directive.LooksUp (d : Directive) : Prop :=
  d.conversion = .legacy .resource ∨ d.conversion = .legacy .systemError

/-! ## The arguments of a run -/

theorem Directive.args_field (d : Directive) (c : Cursor) : (d.field cb c).2.args = c.args := by
  by_cases last : d.conversion = .legacy .lastPlural
  · rw [field_lastPlural last]
  · obtain ⟨answer, -, work⟩ := @field_takesOne cb d.toSpecification last
    rw [work d rfl c, Answer.respond]
    cases c.next? with
    | none => rfl
    | some v => rfl

theorem Template.args_leave (p : Template) (c : Cursor) : (p.leave cb c).args = c.args := by
  induction p generalizing c with
  | nil => rfl
  | cons piece rest ih =>
    cases piece with
    | literal bs => exact ih c
    | directive d =>
      rw [leave, ih]
      exact d.args_field c

theorem Cursor.mem_of_next? {v : Value} (next : c.next? = some v) : v ∈ c.args :=
  List.mem_of_getElem? next

/-! ## Why a directive fails -/

theorem Callbacks.textBytes_refuses {role : TextRole} {v : Value}
    (failed : Callbacks.textBytes role v = .error e) : e = .format (.notText role v.typeName) := by
  unfold Callbacks.textBytes at failed
  split at failed <;> cases failed
  rfl

/-- A look-up fails as the callback does, or because its result cannot be printed. -/
theorem Callbacks.found_refuses {role : TextRole} {key : Int}
    {result : Option (Except Failure Value)} (failed : Callbacks.found role key result = .error e) :
    result = some (.error e) ∨ (e = .numeralTooLong ∧ 10 ^ Numeral.digitLimit ≤ key.natAbs) ∨
      ∃ got, e = .format (.notText role got) := by
  unfold Callbacks.found at failed
  split at failed
  · cases failed
  · cases failed
    exact .inl rfl
  · cases failed
  · rename_i v _
    split at failed
    · rename_i long
      cases failed
      have notShown : ¬ (Value.decimal? key).isSome := by simpa using long
      rw [Value.decimal?_isSome_iff, Nat.not_lt] at notShown
      exact .inr (.inl ⟨rfl, notShown⟩)
    · exact .inr (.inr ⟨v.typeName, Callbacks.textBytes_refuses failed⟩)

/-- A look-up that returns fails for its result, or for an argument too long to be named. -/
theorem Directive.LooksUp.refuses (up : d.LooksUp) {role : TextRole} {key : Int} {v : Value}
    {result : Option (Except Failure Value)} (next : c.next? = some v)
    (index : v.index? = some key) (answered : ∀ r, result = some r → ∃ w, r = .ok w)
    (failed : Callbacks.found role key result = .error e) :
    (∃ fe, e = .format fe ∧ fe.Refuses) ∨
      e = .numeralTooLong ∧ d.LooksUp ∧ ∃ v ∈ c.args, ¬ v.IsNameable := by
  rcases Callbacks.found_refuses failed with raised | ⟨rfl, long⟩ | ⟨got, rfl⟩
  · obtain ⟨w, impossible⟩ := answered _ raised
    cases impossible
  · refine .inr ⟨rfl, up, v, Cursor.mem_of_next? next, ?_⟩
    intro nameable
    exact Nat.not_lt.mpr long (nameable key index)
  · exact .inl ⟨_, rfl, .inr ⟨role, got, rfl⟩⟩

/-- Where callbacks return, a directive fails for its argument or for their results. -/
theorem Callbacks.Returns.of_fault (returns : cb.Returns) (fault : d.Fault cb c e) :
    (∃ fe, e = .format fe ∧ fe.Refuses) ∨
      e = .numeralTooLong ∧ d.LooksUp ∧ ∃ v ∈ c.args, ¬ v.IsNameable := by
  cases fault with
  | exhausted nothing => exact .inl ⟨_, rfl, .inl rfl⟩
  | mismatch expected got => exact .inl ⟨_, rfl, .inl rfl⟩
  | transcoded failed =>
    unfold Callbacks.transcoded at failed
    split at failed
    · rename_i f installed
      obtain ⟨v, returned⟩ := returns.transcode f installed _
      rw [returned] at failed
      rw [Callbacks.textBytes_refuses failed]
      exact .inl ⟨_, rfl, .inr ⟨_, _, rfl⟩⟩
    · cases failed
  | grouping groups installed failed =>
    rw [returns.builtIn] at installed
    cases installed
  | resource conversion next index failed =>
    have up : d.LooksUp := .inl conversion
    refine up.refuses next index ?_ failed
    intro r answer
    obtain ⟨f, installed, rfl⟩ := Option.map_eq_some_iff.mp answer
    exact returns.resource f installed _
  | systemError conversion next index failed =>
    have up : d.LooksUp := .inr conversion
    refine up.refuses next index ?_ failed
    intro r answer
    obtain ⟨f, installed, rfl⟩ := Option.map_eq_some_iff.mp answer
    exact returns.systemError f installed _

/-! ## What the tables have to hold -/

/-- The conversion is one that the dialect has, and the name of the length stands for it. -/
structure Directive.InTables (dialect : Dialect) (d : Directive) : Prop where
  conversion : (∃ l ∈ Letter.all, d.conversion = .standard l) ∨
    ∃ s ∈ dialect.spellings, d.conversion = .legacy s.2
  length : Length.named (d.length.map fun l => Text.ofString l.name) = .ok d.length

theorem Length.named_name (length : Option Length) :
    Length.named (length.map fun l => Text.ofString l.name) = .ok length := by
  cases length with
  | none => rfl
  | some l => cases l <;> decide

theorem Denotes.inTables {dialect : Dialect} {word : Bytes}
    (denotes : Denotes dialect word (.directive d.toSpecification)) : d.InTables dialect := by
  refine ⟨?_, Length.named_name d.length⟩
  generalize meaning : Meaning.directive d.toSpecification = m at denotes
  cases denotes with
  | percent => cases meaning
  | @operation spelling op spelled =>
    injection meaning with same
    exact .inr ⟨_, spelled, congrArg Specification.conversion same⟩
  | standard p greedy clear =>
    injection meaning with same
    refine .inl ⟨p.letter, ?_, congrArg Specification.conversion same⟩
    cases p.letter <;> decide

theorem Template.denotes_of_mem {dialect : Dialect} {mode : Mode} {bs : Bytes} {pieces : Template}
    (parsed : parse dialect mode bs = .ok pieces) (member : .directive d ∈ pieces) :
    Denotes dialect d.text (.directive d.toSpecification) := by
  obtain ⟨before, after, rfl⟩ := List.append_of_mem member
  obtain ⟨f, g, -, -, -, denotes⟩ := split_at_directive parsed
  exact denotes

/-! ## Calls -/

/-- **A call fails for its arguments only.**  Its format was read, digits are grouped as built in,
and the look-ups return, whatever they return.  Then all that was read is in the tables that the
run consults.  If the call fails, then with a `FormatError` about an argument or about the result
of a callback, as long as the integers among the arguments have no more than 4300
digits; and a longer one is in the way of nothing but a look-up. -/
theorem formatInto_refuses {how : Reading} {format : Value} {pieces : Template}
    (returns : cb.Returns) (read : Template.ofValue how.dialect how.mode format = .ok pieces)
    (args : List Value) (s : Sink) :
    (∀ d, .directive d ∈ pieces → d.InTables how.dialect) ∧
    ((∀ v ∈ args, v.IsNameable) →
      (∃ s', formatInto cb how format args s = (s', none)) ∨
      ∃ s' fe, formatInto cb how format args s = (s', some (.format fe)) ∧ fe.Refuses) ∧
    ∀ s' e, formatInto cb how format args s = (s', some e) →
      (∃ fe, e = .format fe ∧ fe.Refuses) ∨
      e = .numeralTooLong ∧ (∃ v ∈ args, ¬ v.IsNameable) ∧
        ∃ d, .directive d ∈ pieces ∧ d.LooksUp := by
  have causes : ∀ s' e, formatInto cb how format args s = (s', some e) →
      (∃ fe, e = .format fe ∧ fe.Refuses) ∨
      e = .numeralTooLong ∧ (∃ v ∈ args, ¬ v.IsNameable) ∧
        ∃ d, .directive d ∈ pieces ∧ d.LooksUp := by
    intro s' e failed
    rw [formatInto_of_ok read, Prod.mk.injEq] at failed
    obtain ⟨d, before, after, rfl, -, fails⟩ := Template.failsAt_of_run failed.2
    have fault := Directive.fault_of_field fails
    rcases returns.of_fault fault with refuses | ⟨tooLong, up, v, given, long⟩
    · exact .inl refuses
    · rw [Template.args_leave] at given
      exact .inr ⟨tooLong, ⟨v, given, long⟩, d, by simp, up⟩
  refine ⟨?_, ?_, causes⟩
  · intro d member
    obtain ⟨bs, -, parsed⟩ := Outcome.bind_eq_ok_iff.mp read
    exact (Template.denotes_of_mem parsed member).inTables
  · intro nameable
    cases called : formatInto cb how format args s with
    | mk s' failure =>
      cases failure with
      | none => exact .inl ⟨s', rfl⟩
      | some e =>
        rcases causes s' e called with ⟨fe, rfl, refuses⟩ | ⟨-, ⟨v, given, long⟩, -⟩
        · exact .inr ⟨s', fe, rfl, refuses⟩
        · exact absurd (nameable v given) long

/-- A look-up has found a list. -/
theorem formatInto_refuses_list :
    ∃ cb : Callbacks, ∃ s', ∃ fe : FormatError,
      formatInto cb ⟨.modern, .strict⟩ (.bytes .fixed (ascii ['%', 'k', 'r'])) [.int 5] Sink.empty =
          (s', some (.format fe)) ∧ fe.Refuses := by
  let cb : Callbacks := ⟨none, none, some fun _ => .ok (.list []), none⟩
  let pieces : Template := [.directive ⟨.ofLegacy .resource, 0, ascii ['%', 'k', 'r']⟩]
  have returns : cb.Returns := by
    refine ⟨rfl, nofun, ?_, nofun⟩
    intro f installed key
    cases installed
    exact ⟨_, rfl⟩
  have denotes : Denotes .modern (ascii ['%', 'k', 'r']) (.directive (.ofLegacy .resource)) :=
    @Denotes.operation .modern ['r'] .resource (by decide)
  have reads : Template.Reads .modern 0 (ascii ['%', 'k', 'r'] ++ []) pieces :=
    .directive denotes (.nil _)
  have read : Template.ofValue .modern .strict (.bytes .fixed (ascii ['%', 'k', 'r'])) =
      .ok pieces := reads.parseFrom_eq .strict
  have nameable : ∀ v ∈ [Value.int 5], v.IsNameable := by
    intro v member n index
    cases List.mem_singleton.mp member
    cases index
    exact Nat.lt_of_lt_of_le (by decide : 5 < 10 ^ 1) (Nat.pow_le_pow_right (by decide) (by decide))
  refine ⟨cb, ?_⟩
  rcases (@formatInto_refuses cb ⟨.modern, .strict⟩ _ pieces returns read [.int 5] Sink.empty).2.1
    nameable with ⟨s', done⟩ | refused
  · rw [@formatInto_of_ok cb ⟨.modern, .strict⟩ _ pieces read] at done
    cases congrArg Prod.snd done
  · exact refused

end ExtendedFormat
