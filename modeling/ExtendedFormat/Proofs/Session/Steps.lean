/-
# ExtendedFormat.Proofs.Session.Steps -- what a step of a session can change

Most steps work with formats: they change sinks and caches, and the shared cache only by
parsing with it (`Works`).  Besides, a format may be compiled, contexts are made, entered
and left, and the limit is set.  `Moves` lists these ways of a step, and a step goes one
of them (`moves`).

What holds of a session step by step holds of all that it goes through.  The shared cache
stays sound (`Sound.after`), so taking a format apart by way of it is parsing the format
(`Sound.template`).
-/
import ExtendedFormat.Proofs.Cache.Transparency
import ExtendedFormat.Session

namespace ExtendedFormat.Session

set_option autoImplicit false

/-! ## Runs -/

/-- The session behind steps taken one after another. -/
def after (s : Session) (steps : List Step) : Session :=
  steps.foldl (fun s st => (s.step st).2) s

/-- The steps with what each gave back. -/
def transcript (s : Session) : List Step → List (Step × Outcome)
  | [] => []
  | st :: more => (st, (s.step st).1) :: transcript (s.step st).2 more

theorem after_append (s : Session) (steps more : List Step) :
    s.after (steps ++ more) = (s.after steps).after more :=
  List.foldl_append

/-! ## Ways of a step -/

/-- Nothing but sinks and caches has changed, and the shared cache at most by a use. -/
structure Works (s s' : Session) : Prop where
  compiled : s'.compiled = s.compiled
  contexts : s'.contexts = s.contexts
  limit : s'.limit = s.limit
  inForce : s'.inForce = s.inForce
  shared : s'.shared = s.shared ∨
    ∃ how format, s'.shared = (s.shared.parse s.limit how format).2

theorem Works.refl (s : Session) : s.Works s := ⟨rfl, rfl, rfl, rfl, .inl rfl⟩

theorem works_template {s s' : Session} {how : Reading} {format : Value}
    {read : Except Failure Template} (taken : s.template how format = (read, s')) :
    s.Works s' := by
  cases taken
  exact ⟨rfl, rfl, rfl, rfl, .inr ⟨how, format, rfl⟩⟩

theorem Works.sinks {s s' : Session} (works : s.Works s') (sinks : Named Sink) :
    s.Works { s' with sinks := sinks } :=
  ⟨works.compiled, works.contexts, works.limit, works.inForce, works.shared⟩

theorem Works.caches {s s' : Session} (works : s.Works s') (caches : Named Cache) :
    s.Works { s' with caches := caches } :=
  ⟨works.compiled, works.contexts, works.limit, works.inForce, works.shared⟩

/-- What a step gives back, and the session behind it. -/
inductive Moves (s : Session) : Step → Outcome → Session → Prop
  | works {st : Step} {outcome : Outcome} {s' : Session} (works : s.Works s') :
      Moves s st outcome s'
  | compile {name : String} {how : Reading} {format : Value} {pieces : Template} {s' : Session}
      (taken : s.template how format = (.ok pieces, s')) :
      Moves s (.compile name how format) .done
        { s' with compiled := s'.compiled.put name pieces }
  | makeContext {name : String} {settings : Callbacks} :
      Moves s (.makeContext name settings) .done
        { s with contexts := s.contexts.put name (Context.new settings) }
  | enter {name : String} {x : Context} (known : s.contexts.get? name = some x) :
      Moves s (.enter name) .done
        { s with contexts := s.contexts.put name (x.enter s.inForce).1,
                 inForce := (x.enter s.inForce).2 }
  | exit {name : String} {x : Context} (known : s.contexts.get? name = some x) :
      Moves s (.exit name) .done
        { s with contexts := s.contexts.put name (x.exit s.inForce).1,
                 inForce := (x.exit s.inForce).2 }
  | setLimit {limit : Nat} : Moves s (.setLimit limit) .done { s with limit := limit }

theorem moves_step (s : Session) (st : Step) : s.Moves st (s.step st).1 (s.step st).2 := by
  cases st with
  | makeSink name initial =>
    simp only [step]
    split
    · exact .works ((Works.refl s).sinks _)
    · exact .works (.refl s)
  | formatInto name how format args =>
    simp only [step]
    split
    · exact .works (.refl s)
    · cases taken : s.template how format with
      | mk read s' =>
        cases read with
        | error e => exact .works (works_template taken)
        | ok pieces => exact .works ((works_template taken).sinks _)
  | format how format args => exact .works (works_template rfl)
  | formatResource mode id args =>
    simp only [step]
    split
    · exact .works (.refl s)
    · split
      · exact .works (works_template rfl)
      · split <;> exact .works (.refl s)
  | compile name how format =>
    simp only [step]
    cases taken : s.template how format with
    | mk read s' =>
      cases read with
      | error e => exact .works (works_template taken)
      | ok pieces => exact .compile taken
  | call name args =>
    simp only [step]
    split <;> exact .works (.refl s)
  | makeContext name settings => exact .makeContext
  | enter name =>
    simp only [step]
    split
    · exact .works (.refl s)
    · exact .enter (by assumption)
  | exit name =>
    simp only [step]
    split
    · exact .works (.refl s)
    · exact .exit (by assumption)
  | setLimit limit => exact .setLimit
  | parse name how format =>
    simp only [step]
    split <;> exact .works ((Works.refl s).caches _)

theorem moves {s s' : Session} {st : Step} {outcome : Outcome}
    (stepped : s.step st = (outcome, s')) : s.Moves st outcome s' := by
  have way := s.moves_step st
  rw [stepped] at way
  exact way

/-! ## What steps keep, runs keep -/

theorem after_induction {P : Session → Prop} {steps : List Step}
    (keeps : ∀ s, ∀ st ∈ steps, P s → P (s.step st).2) {s : Session} (holds : P s) :
    P (s.after steps) := by
  induction steps generalizing s with
  | nil => exact holds
  | cons st more ih =>
    have first := keeps s st List.mem_cons_self holds
    exact ih (fun s' st' later => keeps s' st' (List.mem_cons_of_mem st later)) first

/-! ## The shared cache -/

/-- The shared cache holds what its keys stand for, and can take in a format. -/
structure Sound (s : Session) : Prop where
  shared : s.shared.Sound
  limit : 1 ≤ s.limit

theorem sound_start : start.Sound := ⟨Cache.sound_empty, by decide⟩

theorem Works.sound {s s' : Session} (works : s.Works s') (sound : s.Sound) : s'.Sound := by
  constructor
  · rcases works.shared with same | ⟨how, format, used⟩
    · rw [same]
      exact sound.shared
    · rw [used]
      exact sound.shared.serve ⟨s.limit, how, format⟩
  · rw [works.limit]
    exact sound.limit

theorem Sound.step {s : Session} (sound : s.Sound) {st : Step}
    (limit : ∀ n, st = .setLimit n → 1 ≤ n) : (s.step st).2.Sound := by
  cases stepped : s.step st with
  | mk outcome s' =>
    cases moves stepped with
    | works works => exact works.sound sound
    | compile taken =>
      have kept := (works_template taken).sound sound
      exact ⟨kept.shared, kept.limit⟩
    | makeContext | enter | exit => exact ⟨sound.shared, sound.limit⟩
    | setLimit => exact ⟨sound.shared, limit _ rfl⟩

theorem Sound.after {s : Session} (sound : s.Sound) {steps : List Step}
    (limits : ∀ n, .setLimit n ∈ steps → 1 ≤ n) : (s.after steps).Sound := by
  refine after_induction ?_ sound
  intro s' st taken sound'
  refine sound'.step ?_
  intro n isLimit
  exact limits n (isLimit ▸ taken)

theorem Sound.template {s : Session} (sound : s.Sound) (how : Reading) (format : Value) :
    (s.template how format).1 = Template.ofValue how.dialect how.mode format :=
  @Cache.Sound.answer s.shared sound.shared ⟨s.limit, how, format⟩ sound.limit

end ExtendedFormat.Session
