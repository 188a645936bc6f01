/-
# ExtendedFormat.Proofs.Output.Influence -- which callbacks a call depends on

A run hands to the host the jobs that its directives ask for (`Template.Asks`).  Two hosts that
agree on those jobs give the same run, chunk by chunk (`Template.runFrom_of_agree`); so they give
the same call, sink and failure included, whatever they do with the other jobs
(`callbacks_influence_askers_only`).
-/
import ExtendedFormat.Proofs.Directive.Jobs
import ExtendedFormat.Proofs.Output.Run
import ExtendedFormat.Proofs.Template.RoundTrip

namespace ExtendedFormat

set_option autoImplicit false

variable {cb cb' : Callbacks}

namespace Template

/-- One of the directives hands the job to the host. -/
def Asks (p : Template) (job : Job) : Prop := ∃ d ∈ directives p, d.Asks job

instance (p : Template) (job : Job) : Decidable (p.Asks job) :=
  inferInstanceAs (Decidable (∃ d ∈ directives p, d.Asks job))

theorem asks_of_directive {d : Directive} {rest : Template} {job : Job} (asks : d.Asks job) :
    Asks (.directive d :: rest) job := ⟨d, List.mem_cons_self, asks⟩

theorem Asks.behind {rest : Template} {job : Job} (asks : Asks rest job) (piece : Piece) :
    Asks (piece :: rest) job := by
  obtain ⟨d, member, asks⟩ := asks
  cases piece with
  | literal bs => exact ⟨d, member, asks⟩
  | directive d' => exact ⟨d, List.mem_cons_of_mem d' member, asks⟩

theorem runFrom_of_agree {p : Template} (agree : ∀ job, Asks p job → cb.get job = cb'.get job)
    (c : Cursor) : runFrom cb p c = runFrom cb' p c := by
  induction p generalizing c with
  | nil => rfl
  | cons piece rest ih =>
    have later : ∀ job, Asks rest job → cb.get job = cb'.get job :=
      fun job asks => agree job (asks.behind piece)
    cases piece with
    | literal bs => exact congrArg (Run.cons bs) (ih later c)
    | directive d =>
      have first : ∀ job, d.Asks job → cb.get job = cb'.get job :=
        fun job asks => agree job (asks_of_directive asks)
      rw [runFrom_directive, runFrom_directive, Directive.field_of_agree first]
      cases (d.field cb' c).1 with
      | ok bs => exact congrArg (Run.cons bs) (ih later _)
      | error e => rfl

end Template

/-- **Callbacks influence only the directives that ask for them.**  If two hosts agree on every
job that a directive of the format hands to the host, a call does the same with both: the sink
comes out the same and so does the failure, if there is one. -/
theorem callbacks_influence_askers_only {how : Reading} {format : Value}
    (agree : ∀ pieces, Template.ofValue how.dialect how.mode format = .ok pieces →
      ∀ job, pieces.Asks job → cb.get job = cb'.get job) (args : List Value) (s : Sink) :
    formatInto cb how format args s = formatInto cb' how format args s := by
  cases read : Template.ofValue how.dialect how.mode format with
  | error e => rw [formatInto, formatInto, read]
  | ok pieces =>
    have same : pieces.run cb args = pieces.run cb' args :=
      Template.runFrom_of_agree (agree pieces read) (Cursor.start args)
    rw [formatInto_of_ok read, formatInto_of_ok read, same]

/-- A flag that groups nothing, narrow text, and a resource, which both hosts find the same. -/
theorem callbacks_influence_askers_only_resources :
    let word := ascii "%kx%-5s%kr".toList
    let pieces : Template :=
      [.directive ⟨⟨.standard .hexLower, true, none, false, false, 0⟩, 0, ascii "%kx".toList⟩,
        .directive ⟨⟨.standard .string, false, none, true, false, 5⟩, 3, ascii "%-5s".toList⟩,
        .directive ⟨.ofLegacy .resource, 7, ascii "%kr".toList⟩]
    let found : Value → Except Failure Value := fun key => .ok key
    let host : Callbacks := ⟨none, none, some found, none⟩
    let other : Callbacks := ⟨some fun _ _ => .error .unsuitable,
      some fun _ => .error (.raised (Text.ofString "refused")), some found,
      some fun _ => .error .unsuitable⟩
    Template.ofValue .modern .strict (.bytes .fixed word) = .ok pieces ∧
      (∀ job, pieces.Asks job → host.get job = other.get job) ∧
      ∀ args s, formatInto host ⟨.modern, .strict⟩ (.bytes .fixed word) args s =
        formatInto other ⟨.modern, .strict⟩ (.bytes .fixed word) args s := by
  intro word pieces found host other
  let hex : Standard := ⟨true, none, [], [], none, .hexLower, .inl rfl, by simp, by simp, by simp,
    by decide⟩
  let text : Standard := ⟨false, none, [0x2D], [0x35], none, .string, .inl rfl, by simp, by simp,
    by simp, by decide⟩
  have hexDenotes := Standard.denotes_modern (p := hex) (Standard.isGreedy_of_early_none rfl)
  have textDenotes := Standard.denotes_modern (p := text) (Standard.isGreedy_of_early_none rfl)
  have resource := @Denotes.operation .modern ['r'] .resource (by decide)
  have read : Template.ofValue .modern .strict (.bytes .fixed word) = .ok pieces :=
    (Template.Reads.directive hexDenotes (.directive textDenotes
      (.directive resource (.nil _)))).parseFrom_eq .strict
  have agree : ∀ job, pieces.Asks job → host.get job = other.get job := by
    intro job asks
    cases job with
    | resolveResource => rfl
    | groupDigits | transcode | resolveSystemError => exact absurd asks (by decide)
  refine ⟨read, agree, callbacks_influence_askers_only fun pieces' read' => ?_⟩
  cases read.symm.trans read'
  exact agree

end ExtendedFormat
