/-
# ExtendedFormat.Session -- a host's work with the engine, step by step

A session keeps sinks, compiled formats, contexts and caches by name, the
callbacks in force, and the cache that formatting shares.  `Session.step` takes
one step and tells its outcome; a step that fails changes only what the outcome
says.

A compiled format is a template.  It runs with the callbacks in force when it is
called.
-/
import ExtendedFormat.Cache
import ExtendedFormat.Context

namespace ExtendedFormat

set_option autoImplicit false

/-! ## Formats from the resources -/

/-- The complaint about an identifier that no resource has.  A tuple of one
element is shown as that element; other tuples are refused. -/
def unknownResource (id : Value) : Except Failure Text :=
  let shown := match id with
    | .tuple [only] => some only
    | .tuple _ => none
    | v => some v
  match shown with
  | none => .error .unsuitable
  | some v =>
      match v.display with
      | some t => .ok (Text.ofString "invalid string id: " ++ t)
      | none => .error .numeralTooLong

/-- The format that an identifier stands for; null if the host resolves none. -/
def Callbacks.resourceFormat (cb : Callbacks) (id : Value) : Except Failure Value :=
  match cb.resolveResource with
  | some f => f id
  | none => .ok .null

/-! ## Names -/

abbrev Named (α : Type) := List (String × α)

namespace Named

def get? {α : Type} (xs : Named α) (name : String) : Option α := xs.lookup name

def put {α : Type} (xs : Named α) (name : String) (a : α) : Named α :=
  (name, a) :: xs.filter fun x => x.1 ≠ name

theorem get?_put_self {α : Type} (xs : Named α) (name : String) (a : α) :
    (xs.put name a).get? name = some a := by
  simp [get?, put]

/-- Taking out one name leaves what the others stand for. -/
theorem get?_filter_of_ne {α : Type} (xs : Named α) {name other : String} (differ : name ≠ other) :
    get? (xs.filter fun x => x.1 ≠ other) name = xs.get? name := by
  unfold get?
  induction xs with
  | nil => rfl
  | cons x more ih =>
    obtain ⟨first, a⟩ := x
    by_cases taken : first = other
    · subst taken
      have skipped : (name == first) = false := beq_eq_false_iff_ne.mpr differ
      simp only [List.filter_cons, ne_eq, not_true_eq_false, decide_false, Bool.false_eq_true,
        if_false, List.lookup_cons, skipped]
      exact ih
    · simp only [List.filter_cons, ne_eq, taken, not_false_eq_true, decide_true, if_true,
        List.lookup_cons]
      split
      · rfl
      · exact ih

theorem get?_put_of_ne {α : Type} (xs : Named α) {name other : String} (differ : name ≠ other)
    (a : α) : (xs.put other a).get? name = xs.get? name := by
  have skipped : (name == other) = false := by simpa using differ
  rw [← get?_filter_of_ne xs differ]
  simp only [get?, put, List.lookup_cons, skipped]

end Named

/-! ## Sessions -/

structure Session where
  sinks : Named Sink
  compiled : Named Template
  contexts : Named Context
  caches : Named Cache
  shared : Cache
  limit : Nat
  inForce : Callbacks

inductive Step where
  | makeSink (name : String) (initial : Value)
  | formatInto (sink : String) (how : Reading) (format : Value) (args : List Value)
  | format (how : Reading) (format : Value) (args : List Value)
  | formatResource (mode : Mode) (id : Value) (args : List Value)
  | compile (name : String) (how : Reading) (format : Value)
  | call (name : String) (args : List Value)
  | makeContext (name : String) (settings : Callbacks)
  | enter (name : String)
  | exit (name : String)
  | setLimit (limit : Nat)
  | parse (cache : String) (how : Reading) (format : Value)

/-- What a step gives back. -/
inductive Outcome where
  | done
  | text (t : Text)
  /-- A template, and whether the cache held it before. -/
  | parsed (pieces : Template) (cached : Bool)
  | failed (e : Failure)
  /-- No text, but a complaint. -/
  | complaint (t : Text)

namespace Outcome

def ofText : Except Failure Text → Outcome
  | .ok t => .text t
  | .error e => .failed e

def ofOption : Option Failure → Outcome
  | some e => .failed e
  | none => .done

end Outcome

namespace Session

def start : Session := ⟨[], [], [], [], Cache.empty, Cache.defaultLimit, Callbacks.unset⟩

/-- Takes a format apart by way of the shared cache. -/
def template (s : Session) (how : Reading) (format : Value) : Except Failure Template × Session :=
  let (r, cache) := s.shared.parse s.limit how format
  (r, { s with shared := cache })

def formatText (s : Session) (how : Reading) (format : Value) (args : List Value) :
    Outcome × Session :=
  let (r, s') := s.template how format
  (.ofText (r.bind fun pieces => pieces.runToText s.inForce args), s')

def step (s : Session) : Step → Outcome × Session
  | .makeSink name initial =>
      match Sink.ofValue initial with
      | .ok k => (.done, { s with sinks := s.sinks.put name k })
      | .error e => (.failed e, s)
  | .formatInto name how format args =>
      match s.sinks.get? name with
      | none => (.failed .unknownName, s)
      | some k =>
          match s.template how format with
          | (.error e, s') => (.failed e, s')
          | (.ok pieces, s') =>
              let (k', failure) := pieces.runInto s.inForce args k
              (.ofOption failure, { s' with sinks := s'.sinks.put name k' })
  | .format how format args => s.formatText how format args
  | .formatResource mode id args =>
      match s.inForce.resourceFormat id with
      | .error e => (.failed e, s)
      | .ok format =>
          if format.isPresent then s.formatText ⟨.legacy, mode⟩ format args
          else
            match unknownResource id with
            | .ok t => (.complaint t, s)
            | .error e => (.failed e, s)
  | .compile name how format =>
      match s.template how format with
      | (.error e, s') => (.failed e, s')
      | (.ok pieces, s') => (.done, { s' with compiled := s'.compiled.put name pieces })
  | .call name args =>
      match s.compiled.get? name with
      | some pieces => (.ofText (pieces.runToText s.inForce args), s)
      | none => (.failed .unknownName, s)
  | .makeContext name settings =>
      (.done, { s with contexts := s.contexts.put name (Context.new settings) })
  | .enter name =>
      match s.contexts.get? name with
      | none => (.failed .unknownName, s)
      | some x =>
          let (x', now) := x.enter s.inForce
          (.done, { s with contexts := s.contexts.put name x', inForce := now })
  | .exit name =>
      match s.contexts.get? name with
      | none => (.failed .unknownName, s)
      | some x =>
          let (x', now) := x.exit s.inForce
          (.done, { s with contexts := s.contexts.put name x', inForce := now })
  | .setLimit limit => (.done, { s with limit := limit })
  | .parse name how format =>
      let before := (s.caches.get? name).getD Cache.empty
      let (r, after) := before.parse s.limit how format
      let s' := { s with caches := s.caches.put name after }
      match r with
      | .ok pieces => (.parsed pieces (before.held how format pieces), s')
      | .error e => (.failed e, s')

end Session

end ExtendedFormat
