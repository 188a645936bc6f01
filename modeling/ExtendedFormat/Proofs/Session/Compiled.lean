/-
# ExtendedFormat.Proofs.Session.Compiled -- a compiled format is the format

A name stands for the format that was compiled under it (`Stands`) until another one is
compiled under that name, whatever the session goes through meanwhile (`Stands.after`).
A call looks at nothing else but the callbacks in force, and changes nothing
(`Stands.call`).  Formatting onto a sink goes by way of the shared cache, and does the
same (`Sound.formatInto`).
-/
import ExtendedFormat.Proofs.Output.Run
import ExtendedFormat.Proofs.Session.Steps

namespace ExtendedFormat

set_option autoImplicit false

/-- What is told of a run onto an empty sink: the text there, or the failure. -/
def Outcome.ofRun : Sink × Option Failure → Outcome
  | (k, none) => .text k.toText
  | (_, some e) => .failed e

theorem Outcome.ofText_runToText (cb : Callbacks) (pieces : Template) (args : List Value) :
    ofText (pieces.runToText cb args) = ofRun (pieces.runInto cb args Sink.empty) := by
  unfold Template.runToText
  rcases pieces.runInto cb args Sink.empty with ⟨k, _ | e⟩ <;> rfl

namespace Session

variable {s : Session} {name : String} {how : Reading} {format : Value}

/-! ## Names of compiled formats -/

/-- The name stands for the template of the format. -/
def Stands (s : Session) (name : String) (how : Reading) (format : Value) : Prop :=
  ∃ pieces, Template.ofValue how.dialect how.mode format = .ok pieces ∧
    s.compiled.get? name = some pieces

/-- Compiling keeps the template, if the format has one. -/
theorem Sound.step_compile (sound : s.Sound) (name : String) (how : Reading) (format : Value) :
    s.step (.compile name how format) =
      match Template.ofValue how.dialect how.mode format with
      | .ok pieces =>
          (.done, { (s.template how format).2 with compiled := s.compiled.put name pieces })
      | .error e => (.failed e, (s.template how format).2) := by
  rw [← sound.template how format]
  simp only [Session.step]
  cases taken : s.template how format with
  | mk result s' =>
    have same : s'.compiled = s.compiled := (works_template taken).compiled
    cases result with
    | error e => rfl
    | ok pieces => rw [← same]

theorem Sound.stands_of_compile (sound : s.Sound)
    (compiled : (s.step (.compile name how format)).1 = .done) :
    (s.step (.compile name how format)).2.Stands name how format := by
  rw [sound.step_compile] at compiled ⊢
  cases read : Template.ofValue how.dialect how.mode format with
  | error e =>
    rw [read] at compiled
    cases compiled
  | ok pieces => exact ⟨pieces, read, Named.get?_put_self _ name pieces⟩

/-- Only compiling another format under the name changes what it stands for. -/
theorem compiled_step {st : Step}
    (kept : ∀ how format, (st, (s.step st).1) ≠ (.compile name how format, .done)) :
    (s.step st).2.compiled.get? name = s.compiled.get? name := by
  cases stepped : s.step st with
  | mk outcome s' =>
    rw [stepped] at kept
    cases moves stepped with
    | works works => rw [works.compiled]
    | @compile other how format pieces s' taken =>
      have differ : name ≠ other := by
        intro same
        exact kept how format (by rw [same])
      rw [← (works_template taken).compiled]
      exact Named.get?_put_of_ne _ differ pieces
    | makeContext | enter | exit | setLimit => rfl

theorem Stands.after (stands : s.Stands name how format) {steps : List Step}
    (kept : ∀ how' format', (.compile name how' format', .done) ∉ s.transcript steps) :
    (s.after steps).Stands name how format := by
  induction steps generalizing s with
  | nil => exact stands
  | cons st more ih =>
    have next : (s.step st).2.Stands name how format := by
      obtain ⟨pieces, read, held⟩ := stands
      refine ⟨pieces, read, (compiled_step ?_).trans held⟩
      intro how' format' isCompile
      exact kept how' format' (isCompile ▸ List.mem_cons_self)
    refine ih next ?_
    intro how' format' later
    exact kept how' format' (List.mem_cons_of_mem _ later)

/-! ## Calls -/

theorem Stands.call (stands : s.Stands name how format) (args : List Value) :
    s.step (.call name args) =
      (.ofRun (formatInto s.inForce how format args Sink.empty), s) := by
  obtain ⟨pieces, read, held⟩ := stands
  simp only [Session.step, held, formatInto, read, Outcome.ofText_runToText]

/-- Formatting onto a sink, though by way of the shared cache. -/
theorem Sound.formatInto (sound : s.Sound) {sink : String} {k : Sink}
    (held : s.sinks.get? sink = some k) (how : Reading) (format : Value) (args : List Value) :
    (s.step (.formatInto sink how format args)).1 =
        .ofOption (ExtendedFormat.formatInto s.inForce how format args k).2 ∧
      (s.step (.formatInto sink how format args)).2.sinks.get? sink =
        some (ExtendedFormat.formatInto s.inForce how format args k).1 := by
  have read := sound.template how format
  simp only [Session.step, held, ExtendedFormat.formatInto]
  cases taken : s.template how format with
  | mk result s' =>
    have sinks : s'.sinks = s.sinks := by cases taken; rfl
    rw [taken] at read
    rw [← read]
    cases result with
    | error e => exact ⟨rfl, sinks ▸ held⟩
    | ok pieces => exact ⟨rfl, Named.get?_put_self _ _ _⟩

/-- Calls one after another give what each gives by itself. -/
theorem Stands.calls (stands : s.Stands name how format) (calls : List (List Value)) :
    s.transcript (calls.map (.call name)) = calls.map fun args =>
      (.call name args, .ofRun (formatInto s.inForce how format args Sink.empty)) := by
  induction calls with
  | nil => rfl
  | cons args more ih =>
    have first := stands.call args
    rw [List.map_cons, transcript, first, ih, List.map_cons]

/-- **A compiled format does what the format does at the time.**  After a format was compiled
under a name, let the session go through any steps with limits of one or more, unless they
compile another format under that name.  A call then gives the text, or the failure, of the
format run onto an empty sink with the callbacks now in force, and so does formatting
onto a new sink.  A call changes nothing; so calls do not depend on one another. -/
theorem call_runs_format {before later : List Step}
    (limits : ∀ n, .setLimit n ∈ before ++ later → 1 ≤ n)
    (compiled : ((start.after before).step (.compile name how format)).1 = .done)
    (kept : ∀ how' format', (.compile name how' format', .done) ∉
      ((start.after before).step (.compile name how format)).2.transcript later)
    (now : s = start.after (before ++ .compile name how format :: later)) :
    (∀ args, s.step (.call name args) =
      (.ofRun (formatInto s.inForce how format args Sink.empty), s)) ∧
    (∀ calls : List (List Value), s.transcript (calls.map (.call name)) = calls.map fun args =>
      (.call name args, .ofRun (formatInto s.inForce how format args Sink.empty))) ∧
    ∀ args sink, ∃ fresh, s.step (.makeSink sink (.bytes .fixed [])) = (.done, fresh) ∧
      (fresh.step (.formatInto sink how format args)).1 =
        .ofOption (formatInto s.inForce how format args Sink.empty).2 ∧
      (fresh.step (.formatInto sink how format args)).2.sinks.get? sink =
        some (formatInto s.inForce how format args Sink.empty).1 := by
  have sound : (start.after before).Sound := by
    refine sound_start.after ?_
    intro n member
    exact limits n (List.mem_append_left _ member)
  have next : ((start.after before).step (.compile name how format)).2.Sound := by
    refine sound.step ?_
    intro n impossible
    cases impossible
  have behind : s = ((start.after before).step (.compile name how format)).2.after later := by
    rw [now, after_append]
    rfl
  have stands : s.Stands name how format := behind ▸ (sound.stands_of_compile compiled).after kept
  have sound' : s.Sound := by
    rw [behind]
    refine next.after ?_
    intro n member
    exact limits n (List.mem_append_right _ member)
  refine ⟨stands.call, stands.calls, ?_⟩
  intro args sink
  have fresh : Sound { s with sinks := s.sinks.put sink Sink.empty } :=
    ⟨sound'.shared, sound'.limit⟩
  have empty : (s.sinks.put sink Sink.empty).get? sink = some Sink.empty :=
    Named.get?_put_self s.sinks sink Sink.empty
  exact ⟨_, rfl, fresh.formatInto empty how format args⟩

/-- The template has left the cache, and the context was entered after it was compiled. -/
theorem call_runs_format_rescoped :
    ∃ s, s = start.after [
        .compile "f" ⟨.modern, .strict⟩ (.bytes .fixed (ascii ['%', 'k', 'r'])), .setLimit 1,
        .format ⟨.legacy, .compatible⟩ (.bytes .fixed (ascii ['a'])) [],
        .makeContext "c" ⟨none, none, some fun _ => .ok (.bytes .fixed (ascii ['x'])), none⟩,
        .enter "c"] ∧
      s.step (.call "f" [.int 7]) = (.text (Utf8.decode (ascii ['x'])), s) := by
  have read : Template.ofValue .modern .strict (.bytes .fixed (ascii ['%', 'k', 'r'])) =
      .ok [.directive ⟨.ofLegacy .resource, 0, ascii ['%', 'k', 'r']⟩] :=
    (Template.Reads.directive (@Denotes.operation .modern ['r'] .resource (by decide))
      (.nil _)).parseFrom_eq .strict
  have compiled : (start.step (.compile "f" ⟨.modern, .strict⟩
      (.bytes .fixed (ascii ['%', 'k', 'r'])))).1 = .done := by
    rw [sound_start.step_compile, read]
  have runs := @call_runs_format _ "f" ⟨.modern, .strict⟩ (.bytes .fixed (ascii ['%', 'k', 'r']))
    [] [.setLimit 1, .format ⟨.legacy, .compatible⟩ (.bytes .fixed (ascii ['a'])) [],
      .makeContext "c" ⟨none, none, some fun _ => .ok (.bytes .fixed (ascii ['x'])), none⟩,
      .enter "c"] (by simp) compiled (by simp [transcript]) rfl
  refine ⟨_, rfl, (runs.1 [.int 7]).trans ?_⟩
  rw [@formatInto_of_ok _ ⟨.modern, .strict⟩ _ _ read]
  rfl

end Session

end ExtendedFormat
