/-
# ExtendedFormat.Proofs.Argument.Requests -- a cursor keeps its place

All requests are served in one way.  What a request accepts is settled first, which fails
just for a length modifier of an unknown name (`Request.accept_eq_error_iff`); then it is a
reading like a directive's (`Cursor.serve_of_accept`).  So there are four courses that it
can take, and `Serves` says all that each of them does.

`Tracks` is what every request keeps (`Tracks.serve`): the index counts the arguments that
were handed out, accepted or not, and the number remembered is the one that was read last
(`cursor_keeps_place`).
-/
import ExtendedFormat.Proofs.Directive.Field
import ExtendedFormat.Request

namespace ExtendedFormat

set_option autoImplicit false

open Outcome

/-! ## What a request asks for -/

theorem Length.mem_all (l : Length) : l ∈ all := by
  cases l <;> decide

theorem Length.named_eq_error_iff {name : Text} {e : Failure} :
    named (some name) = .error e ↔
      e = .unknownName ∧ ∀ l : Length, Text.ofString l.name ≠ name := by
  rw [named]
  split
  · rename_i l found
    have stands : Text.ofString l.name = name := by simpa using List.find?_some found
    exact ⟨nofun, fun ⟨_, others⟩ => absurd stands (others l)⟩
  · rename_i notFound
    have others : ∀ l ∈ all, Text.ofString l.name ≠ name := by simpa using notFound
    simp only [Except.error.injEq]
    exact ⟨fun same => ⟨same.symm, fun l => others l l.mem_all⟩, fun same => same.1.symm⟩

namespace Request

def directive : Request → Directive
  | .integer d | .number d .. | .character d | .wideCharacter d | .string d _ | .wideString d _ => d

/-- A number is wanted at a length modifier whose name stands for nothing. -/
def Misnames : Request → Prop
  | .number _ (some name) _ => ∀ l : Length, Text.ofString l.name ≠ name
  | _ => False

/-- What the request makes of an argument. -/
def accept : Request → Except Failure (Accept Reply)
  | .integer _ => .ok fun v => (Accept.integer v).map .integer
  | .number _ length signed =>
      (Length.named length).map fun l v => (Accept.number l signed v).map .integer
  | .character _ => .ok fun v => (Accept.character v).map .bytes
  | .wideCharacter _ => .ok fun v => (Accept.wideCharacter v).map .units
  | .string _ extent => .ok fun v => (Accept.string extent v).map .ofBytes
  | .wideString _ extent => .ok fun v => (Accept.wideString extent v).map .ofUnits

/-- The number that is remembered with a reply. -/
def remembered : Request → Reply → Option Int
  | .number .., .integer n => some n
  | _, _ => none

variable {r : Request}

theorem accept_eq_error_iff {e : Failure} :
    r.accept = .error e ↔ e = .unknownName ∧ r.Misnames := by
  cases r with
  | number d length signed =>
    rw [accept, map_eq_error_iff]
    cases length with
    | none => simp [Length.named, Misnames]
    | some name => exact Length.named_eq_error_iff
  | _ => simp [accept, Misnames]

theorem exists_accept (named : ¬ r.Misnames) : ∃ accept, r.accept = .ok accept := by
  cases known : r.accept with
  | ok accept => exact ⟨accept, rfl⟩
  | error e => exact absurd (accept_eq_error_iff.mp known).2 named

end Request

/-! ## What becomes of a request -/

namespace Cursor

variable {c c' : Cursor} {r : Request} {outcome : Except Failure Reply}

theorem replying_readAs {α : Type} {reply : α → Reply} {accept : Accept α}
    {remember : α → Option Int} {remembered : Reply → Option Int}
    (same : ∀ a, remembered (reply a) = remember a) (d : Directive) (c : Cursor) :
    replying reply (c.readAs accept remember d) =
      replying id (c.readAs (fun v => (accept v).map reply) remembered d) := by
  unfold readAs
  cases c.next? with
  | none => rfl
  | some v =>
    cases accepted : accept v with
    | error m =>
      simp only [accepted]
      rfl
    | ok a =>
      simp only [accepted, ← same]
      rfl

theorem serve_of_accept {accept : Accept Reply} (known : r.accept = .ok accept) (c : Cursor) :
    c.serve r = replying id (c.readAs accept r.remembered r.directive) := by
  cases r with
  | number d length signed =>
    obtain ⟨l, named, rfl⟩ := map_eq_ok_iff.mp known
    simp only [serve, named, readNumber_eq_readAs]
    refine replying_readAs ?_ d c
    exact fun _ => rfl
  | _ =>
    cases known
    rw [serve, read_eq_readAs]
    refine replying_readAs ?_ _ c
    exact fun _ => rfl

theorem serve_of_misnames (misnames : r.Misnames) (c : Cursor) :
    c.serve r = (.error .unknownName, c) := by
  have unknown := Request.accept_eq_error_iff.mpr ⟨rfl, misnames⟩
  cases r with
  | number d length signed =>
    have named := map_eq_error_iff.mp unknown
    simp only [serve, named]
  | _ => cases misnames

/-- What a request is given, and the cursor behind it. -/
inductive Serves (c : Cursor) (r : Request) : Except Failure Reply → Cursor → Prop
  | unknown (misnames : r.Misnames) : Serves c r (.error .unknownName) c
  | exhausted (names : ¬ r.Misnames) (nothing : c.next? = none) :
      Serves c r (.error (.format (.exhausted r.directive.text r.directive.start))) c
  | rejected {v : Value} {m : Mismatch} (names : ¬ r.Misnames) (next : c.next? = some v) :
      Serves c r
        (.error (.format (.mismatch r.directive.text r.directive.start m.expected m.got)))
        (c.advance none)
  | accepted {v : Value} {reply : Reply} (names : ¬ r.Misnames) (next : c.next? = some v) :
      Serves c r (.ok reply) (c.advance (r.remembered reply))

theorem serves_serve (c : Cursor) (r : Request) : c.Serves r (c.serve r).1 (c.serve r).2 := by
  by_cases misnames : r.Misnames
  · rw [serve_of_misnames misnames]
    exact .unknown misnames
  · obtain ⟨accept, known⟩ := Request.exists_accept misnames
    rw [serve_of_accept known, readAs]
    cases next : c.next? with
    | none => exact .exhausted misnames next
    | some v =>
      cases answer : accept v with
      | error m =>
        simp only [answer]
        exact .rejected misnames next
      | ok reply =>
        simp only [answer]
        exact .accepted misnames next

/-- Cursors that stand before the same argument serve alike. -/
theorem serve_congr (same : c'.next? = c.next?) (r : Request) : (c'.serve r).1 = (c.serve r).1 := by
  by_cases misnames : r.Misnames
  · rw [serve_of_misnames misnames, serve_of_misnames misnames]
  · obtain ⟨accept, known⟩ := Request.exists_accept misnames
    rw [serve_of_accept known, serve_of_accept known, readAs, readAs, same]
    cases c.next? with
    | none => rfl
    | some v => cases answer : accept v <;> simp only [answer] <;> rfl

end Cursor

/-! ## Counting -/

/-- A request and what it was given. -/
structure Exchange where
  request : Request
  outcome : Except Failure Reply

namespace Exchange

/-- Whether an argument was handed out, be it accepted or rejected. -/
def tookArgument (x : Exchange) : Bool :=
  match x.outcome with
  | .error .unknownName | .error (.format (.exhausted ..)) => false
  | _ => true

/-- The number that was read at a width. -/
def number? (x : Exchange) : Option Int :=
  match x.outcome with
  | .ok reply => x.request.remembered reply
  | .error _ => none

end Exchange

namespace Cursor

variable {c c' : Cursor} {r : Request} {outcome : Except Failure Reply}

theorem next?_eq_none_iff : c.next? = none ↔ c.args.length ≤ c.index :=
  List.getElem?_eq_none_iff

theorem index_lt_of_next? {v : Value} (next : c.next? = some v) : c.index < c.args.length :=
  (List.getElem?_eq_some_iff.mp next).1

theorem Serves.args (serves : c.Serves r outcome c') : c'.args = c.args := by
  cases serves <;> rfl

theorem Serves.index (serves : c.Serves r outcome c') :
    c'.index = c.index + if Exchange.tookArgument ⟨r, outcome⟩ then 1 else 0 := by
  cases serves <;> rfl

theorem Serves.idle (serves : c.Serves r outcome c')
    (nothing : Exchange.tookArgument ⟨r, outcome⟩ = false) : c' = c := by
  cases serves with
  | unknown | exhausted => rfl
  | rejected | accepted => cases nothing

theorem Serves.number (serves : c.Serves r outcome c') :
    c'.lastNumber = (Exchange.number? ⟨r, outcome⟩).getD c.lastNumber := by
  cases serves <;> rfl

theorem Serves.tookArgument_iff (serves : c.Serves r outcome c') :
    Exchange.tookArgument ⟨r, outcome⟩ = true ↔ ¬ r.Misnames ∧ c.index < c.args.length := by
  cases serves with
  | unknown misnames => simp [Exchange.tookArgument, misnames]
  | exhausted names nothing =>
    have beyond := next?_eq_none_iff.mp nothing
    simp [Exchange.tookArgument, beyond]
  | rejected names next | accepted names next =>
    have inside := index_lt_of_next? next
    simp [Exchange.tookArgument, names, inside]

/-! ## Runs -/

/-- The cursor behind requests served one after another. -/
def after (c : Cursor) (rs : List Request) : Cursor := rs.foldl (fun c r => (c.serve r).2) c

def exchange (c : Cursor) (r : Request) : Exchange := ⟨r, (c.serve r).1⟩

/-- The requests with what each was given. -/
def transcript (c : Cursor) : List Request → List Exchange
  | [] => []
  | r :: more => c.exchange r :: transcript (c.serve r).2 more

/-- The cursor stands where the exchanges in `log` have brought it. -/
structure Tracks (args : List Value) (log : List Exchange) (c : Cursor) : Prop where
  given : c.args = args
  index : c.index = log.countP Exchange.tookArgument
  fits : c.index ≤ args.length
  /-- Zero before any number was read. -/
  number : c.lastNumber = (log.filterMap Exchange.number?).getLast?.getD 0

variable {args : List Value} {log : List Exchange}

theorem tracks_start (args : List Value) : Tracks args [] (start args) :=
  ⟨rfl, rfl, Nat.zero_le _, rfl⟩

theorem Tracks.serve (tracks : Tracks args log c) (r : Request) :
    Tracks args (log ++ [c.exchange r]) (c.serve r).2 := by
  have serves := c.serves_serve r
  constructor
  · rw [serves.args, tracks.given]
  · rw [serves.index, tracks.index, List.countP_append, List.countP_singleton]
    rfl
  · rw [serves.index]
    split
    · rename_i took
      have inside := (serves.tookArgument_iff.mp took).2
      rw [tracks.given] at inside
      exact inside
    · exact tracks.fits
  · rw [serves.number, tracks.number, List.filterMap_append]
    cases read : Exchange.number? ⟨r, (c.serve r).1⟩ <;> simp [exchange, read]

theorem Tracks.after (tracks : Tracks args log c) (rs : List Request) :
    Tracks args (log ++ c.transcript rs) (c.after rs) := by
  induction rs generalizing log c with
  | nil =>
    rw [transcript, List.append_nil]
    exact tracks
  | cons r more ih =>
    rw [transcript, ← List.singleton_append, ← List.append_assoc]
    exact ih (tracks.serve r)

/-- What the next request does, at any cursor. -/
structure Effect (c : Cursor) (r : Request) : Prop where
  /-- Of the cursor, the outcome depends on the argument alone that it stands before. -/
  outcome : ∀ c' : Cursor, c'.args[c'.index]? = c.args[c.index]? → (c'.serve r).1 = (c.serve r).1
  took : (c.exchange r).tookArgument = true ↔ ¬ r.Misnames ∧ c.index < c.args.length
  index : (c.serve r).2.index = c.index + if (c.exchange r).tookArgument then 1 else 0
  idle : (c.exchange r).tookArgument = false → (c.serve r).2 = c
  number : (c.serve r).2.lastNumber = (c.exchange r).number?.getD c.lastNumber

theorem effect (c : Cursor) (r : Request) : c.Effect r := by
  have serves := c.serves_serve r
  exact ⟨fun c' same => serve_congr same r, serves.tookArgument_iff, serves.index, serves.idle,
    serves.number⟩

/-- **A cursor keeps its place.**  Whatever it was asked for, with or without success, its index
is the number of arguments that were handed out, rejected ones included, and no more than there
are; and it remembers the number that was read last.  What comes of the next request depends on
the argument that it stands before.  Where there is none, or a length has no such name, the cursor
stays as it is; and nothing but a number read at a width changes the number remembered. -/
theorem cursor_keeps_place (args : List Value) (rs : List Request) :
    Tracks args ((start args).transcript rs) ((start args).after rs) ∧
      ∀ r, ((start args).after rs).Effect r := by
  refine ⟨?_, fun r => effect _ r⟩
  have tracks := (tracks_start args).after rs
  rwa [List.nil_append] at tracks

/-- The text is used up without success.  The misnamed length and the last request use up
nothing. -/
example (d : Directive) :
    let c := (start [.text (Text.ofString "12"), .int 300]).after
      [.number d (some (Text.ofString "q")) true, .integer d,
        .number d (some (Text.ofString "hh")) true, .number d none true]
    c.index = 2 ∧ c.lastNumber = 44 := by
  cbv

end Cursor

end ExtendedFormat
