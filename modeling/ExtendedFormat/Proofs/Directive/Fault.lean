/-
# ExtendedFormat.Proofs.Directive.Fault -- why a directive fails

A directive fails for want of an argument, or because it does not accept the argument that it
gets, or in one of the four callbacks or what becomes of their results (`Directive.Fault`).
Nothing else fails: numerals are written in ASCII, and all other bytes are printed as they are.
-/
import ExtendedFormat.Proofs.Directive.Field
import ExtendedFormat.Proofs.Output.Integers

namespace ExtendedFormat

set_option autoImplicit false

open Outcome

variable {cb : Callbacks} {d : Directive} {c : Cursor} {e : Failure}

/-- A decimal numeral that a callback has grouped. -/
def Callbacks.regroup (f : Text → Bool → Except Failure Text) (upper : Bool) (n : Int) :
    Except Failure Bytes :=
  (f (Digits.render 10 upper n) (decide (n < 0))).bind Text.exactBytes

/-- The directive may have digits grouped. -/
def Directive.Groups (d : Directive) : Prop := d.kFlag = true ∨ d.conversion.isLegacy = true

/-- The directive fails with `e` where the cursor is at `c`, and why. -/
inductive Directive.Fault (cb : Callbacks) (d : Directive) (c : Cursor) : Failure → Prop
  | exhausted (nothing : c.next? = none) : Fault cb d c (.format (.exhausted d.text d.start))
  | mismatch (expected : Expectation) (got : String) :
      Fault cb d c (.format (.mismatch d.text d.start expected got))
  | transcoded {units : List UInt16} {e : Failure} (failed : cb.transcoded units = .error e) :
      Fault cb d c e
  | grouping {f : Text → Bool → Except Failure Text} {upper : Bool} {n : Int} {e : Failure}
      (groups : d.Groups) (installed : cb.groupDigits = some f)
      (failed : Callbacks.regroup f upper n = .error e) : Fault cb d c e
  | resource {v : Value} {key : Int} {e : Failure}
      (conversion : d.conversion = .legacy .resource) (next : c.next? = some v)
      (index : v.index? = some key) (failed : cb.resource key = .error e) : Fault cb d c e
  | systemError {v : Value} {key : Int} {e : Failure}
      (conversion : d.conversion = .legacy .systemError) (next : c.next? = some v)
      (index : v.index? = some key) (failed : cb.systemError key = .error e) : Fault cb d c e

namespace Directive

/-! ## Reading and rendering -/

theorem fault_of_readAs {α : Type} {accept : Accept α} {remember : α → Option Int}
    {render : α → Except Failure Bytes}
    (failed : (Render.reading (c.readAs accept remember d) render).1 = .error e)
    (rendering : ∀ v a, c.next? = some v → accept v = .ok a → render a = .error e →
      d.Fault cb c e) : d.Fault cb c e := by
  unfold Cursor.readAs at failed
  cases next : c.next? with
  | none =>
    rw [next] at failed
    cases failed
    exact .exhausted next
  | some v =>
    rw [next] at failed
    cases accepted : accept v with
    | ok a =>
      simp only [accepted, Render.reading] at failed
      exact rendering v a next accepted failed
    | error m =>
      simp only [accepted, Render.reading] at failed
      cases failed
      exact .mismatch m.expected m.got

theorem fault_of_read {α : Type} {accept : Accept α} {render : α → Except Failure Bytes}
    (failed : (Render.reading (c.read accept d) render).1 = .error e)
    (rendering : ∀ v a, c.next? = some v → accept v = .ok a → render a = .error e →
      d.Fault cb c e) : d.Fault cb c e := by
  rw [Cursor.read_eq_readAs] at failed
  exact fault_of_readAs failed rendering

theorem fault_of_read_ok {α : Type} {accept : Accept α} {print : α → Bytes}
    (failed : (Render.reading (c.read accept d) fun a => .ok (print a)).1 = .error e) :
    d.Fault cb c e := by
  refine fault_of_read failed ?_
  intro v a _ _ printed
  cases printed

theorem fault_of_readNumber {length : Option Length} {signed : Bool}
    {render : Int → Except Failure Bytes}
    (failed : (Render.reading (c.readNumber length signed d) render).1 = .error e)
    (rendering : ∀ n, render n = .error e → d.Fault cb c e) : d.Fault cb c e := by
  rw [Cursor.readNumber_eq_readAs] at failed
  exact fault_of_readAs failed fun _ n _ _ => rendering n

theorem fault_of_number (l : Letter) {grouped : Bool} {n : Int}
    (groups : grouped = true → d.Groups)
    (failed : Render.number cb (Render.radix l).1 (Render.radix l).2 grouped n = .error e) :
    d.Fault cb c e := by
  cases installed : cb.groupDigits with
  | none =>
    rw [Render.number_eq l fun _ => installed] at failed
    cases failed
  | some f =>
    unfold Render.number at failed
    split at failed
    · rename_i decimal
      obtain ⟨asked, ten⟩ := Bool.and_eq_true_iff.mp decimal
      have ten : (Render.radix l).1 = 10 := by simpa using ten
      simp only [ten, Callbacks.group, installed] at failed
      exact .grouping (groups asked) installed failed
    · rename_i ungrouped
      -- A numeral that is not grouped is the one that is written without any callbacks.
      have plain := @Render.number_eq Callbacks.unset l grouped (fun _ => rfl) n
      rw [Render.number, if_neg ungrouped, failed] at plain
      cases plain

theorem fault_of_wideText {k : Bool} {units : List UInt16}
    (failed : Render.wideText cb k units = .error e) : d.Fault cb c e :=
  .transcoded (map_eq_error_iff.mp failed)

/-! ## The directives -/

theorem fault_of_char (failed : (Render.char cb d c).1 = .error e) : d.Fault cb c e := by
  unfold Render.char at failed
  split at failed
  · exact fault_of_read failed fun _ _ _ _ => fault_of_wideText
  · exact fault_of_read_ok failed

theorem fault_of_string {extent : Accept.Extent}
    (failed : (Render.string cb d extent c).1 = .error e) : d.Fault cb c e := by
  unfold Render.string at failed
  split at failed
  · refine fault_of_read failed ?_
    intro v units _ _ printed
    cases units with
    | none => cases printed
    | some units => exact fault_of_wideText printed
  · exact fault_of_read_ok failed

theorem fault_of_grouped {length : Option Length} {signed : Bool}
    (legacy : d.conversion.isLegacy = true)
    (failed : (Render.reading (c.readNumber length signed d)
      (Render.number cb 10 false true)).1 = .error e) : d.Fault cb c e :=
  fault_of_readNumber failed fun _ => fault_of_number .decimal fun _ => .inr legacy

theorem fault_of_plural {length : Option Length}
    (failed : (Render.reading (c.readNumber length true d)
      fun n => .ok (Render.plural n)).1 = .error e) : d.Fault cb c e := by
  refine fault_of_readNumber failed ?_
  intro n printed
  cases printed

theorem fault_of_integer {render : Int → Except Failure Bytes}
    (failed : (Render.reading (c.read Accept.integer d) render).1 = .error e)
    (rendering : ∀ v n, c.next? = some v → v.index? = some n → render n = .error e →
      d.Fault cb c e) : d.Fault cb c e := by
  refine fault_of_read failed ?_
  intro v n next accepted printed
  unfold Accept.integer at accepted
  split at accepted
  · rename_i index
    cases accepted
    exact rendering v n next index printed
  · cases accepted

theorem fault_of_legacy {op : LegacyOp} (conversion : d.conversion = .legacy op)
    (failed : (Render.legacy cb d c op).1 = .error e) : d.Fault cb c e := by
  cases op with
  | grouped | groupedUnsigned | groupedSize | grouped64 | groupedUnsigned64 =>
    exact fault_of_grouped (by rw [conversion]; rfl) failed
  | plural | plural64 => exact fault_of_plural failed
  | lastPlural => cases failed
  | quoted => exact fault_of_read_ok failed
  | resource =>
    exact fault_of_integer failed fun _ _ next index => .resource conversion next index
  | systemError =>
    exact fault_of_integer failed fun _ _ next index => .systemError conversion next index

/-- A directive fails for one of these reasons. -/
theorem fault_of_field (failed : (d.field cb c).1 = .error e) : d.Fault cb c e := by
  rw [field_eq] at failed
  have failed : (d.content cb c).1 = .error e := map_eq_error_iff.mp failed
  unfold content at failed
  split at failed
  · rename_i l _
    split at failed
    · exact fault_of_char failed
    · exact fault_of_char failed
    · exact fault_of_string failed
    · exact fault_of_string failed
    · exact fault_of_string failed
    · exact fault_of_readNumber failed fun _ => fault_of_number l .inl
  · rename_i op conversion
    exact fault_of_legacy conversion failed

end Directive

end ExtendedFormat
