/-
# ExtendedFormat.Proofs.Session.Reentry -- contexts entered again while they are open

A context may be entered again before its block is left (`Reenters`).  It keeps what it found
at each entry, and leaving one of its blocks undoes all of them: its outer blocks stay open, and
set nothing from then on.  So a run has two lists of blocks, those that are open and those of
them that are live, one lying over the other (`Block.Layered`).

What is undone is what the outermost entry found.  That is right for the blocks that remain only
if none of them set one of the same callbacks in between (`Block.Uncrossed`).
-/
import ExtendedFormat.Proofs.Directive.Jobs
import ExtendedFormat.Proofs.Session.Contexts

namespace ExtendedFormat

set_option autoImplicit false

/-! ## Callbacks by their job -/

namespace Callbacks

theorem get_overlay (settings current : Callbacks) (job : Job) :
    (settings.overlay current).get job = (settings.get job <|> current.get job) := by
  cases job <;> rfl

theorem get_restore (settings before current : Callbacks) (job : Job) :
    (settings.restore before current).get job =
      if (settings.get job).isSome then before.get job else current.get job := by
  cases job <;> rfl

/-- No job is set by both. -/
def Apart (a b : Callbacks) : Prop := ∀ job, a.get job = none ∨ b.get job = none

end Callbacks

/-! ## Open blocks and live blocks -/

namespace Block

variable {around : Callbacks} {blocks opened live : List Block} {b : Block} {job : Job}

/-- `around`, with what the blocks set on top. -/
def atop (blocks : List Block) (around : Callbacks) : Callbacks := (scope blocks).overlay around

theorem atop_nil (around : Callbacks) : atop [] around = around := rfl

theorem get_scope (blocks : List Block) (job : Job) :
    (scope blocks).get job = innermost (fun cb => cb.get job) blocks := by
  cases job <;> rfl

theorem get_atop (blocks : List Block) (around : Callbacks) (job : Job) :
    (atop blocks around).get job =
      (innermost (fun cb => cb.get job) blocks <|> around.get job) := by
  rw [atop, Callbacks.get_overlay, get_scope]

theorem get_atop_cons (b : Block) (outer : List Block) (around : Callbacks) (job : Job) :
    (atop (b :: outer) around).get job = (b.settings.get job <|> (atop outer around).get job) := by
  rw [get_atop, get_atop, innermost_cons]
  cases b.settings.get job with
  | none => rfl
  | some callback => rfl

theorem atop_cons (b : Block) (outer : List Block) (around : Callbacks) :
    atop (b :: outer) around = b.settings.overlay (atop outer around) := by
  apply Callbacks.eq_of_get
  intro job
  rw [get_atop_cons, Callbacks.get_overlay]

theorem get_atop_cons_of_none {outer : List Block} (silent : b.settings.get job = none) :
    (atop (b :: outer) around).get job = (atop outer around).get job := by
  rw [get_atop_cons, silent]
  rfl

/-- The blocks of all the other contexts. -/
def without (name : String) (blocks : List Block) : List Block :=
  blocks.filter fun b => b.name ≠ name

/-- The blocks whose contexts have no block among `inner`. -/
def beyond (inner blocks : List Block) : List Block :=
  blocks.filter fun b => b.name ∉ inner.map name

/-- What the blocks of one context found, the latest first. -/
def foundBy (name : String) (blocks : List Block) : List Callbacks :=
  (blocks.filter fun b => b.name = name).map before

theorem without_cons_self (b : Block) (outer : List Block) :
    without b.name (b :: outer) = without b.name outer := by
  simp [without]

theorem without_cons_of_ne {name : String} (differ : b.name ≠ name) (outer : List Block) :
    without name (b :: outer) = b :: without name outer := by
  simp [without, differ]

theorem beyond_nil (blocks : List Block) : beyond [] blocks = blocks := by
  simp [beyond]

theorem beyond_cons (b : Block) (inner blocks : List Block) :
    beyond (b :: inner) blocks = beyond inner (without b.name blocks) := by
  unfold beyond without
  rw [List.filter_filter]
  apply List.filter_congr
  intro c _
  rw [Bool.eq_iff_iff]
  simp only [List.map_cons, List.mem_cons, not_or, decide_eq_true_eq, Bool.and_eq_true]
  exact and_comm

theorem foundBy_cons_self (b : Block) (outer : List Block) :
    foundBy b.name (b :: outer) = b.before :: foundBy b.name outer := by
  simp [foundBy]

theorem foundBy_cons_of_ne {name : String} (differ : b.name ≠ name) (outer : List Block) :
    foundBy name (b :: outer) = foundBy name outer := by
  simp [foundBy, differ]

theorem mem_without {name : String} :
    b ∈ without name blocks ↔ b ∈ blocks ∧ b.name ≠ name := by
  simp [without]

theorem without_eq_self {name : String} (absent : ∀ b ∈ blocks, b.name ≠ name) :
    without name blocks = blocks := by
  simpa [without] using absent

theorem foundBy_eq_nil {name : String} (absent : ∀ b ∈ blocks, b.name ≠ name) :
    foundBy name blocks = [] := by
  simpa [foundBy] using absent

theorem foundBy_without_self (name : String) (blocks : List Block) :
    foundBy name (without name blocks) = [] := by
  apply foundBy_eq_nil
  intro b member
  exact (mem_without.mp member).2

theorem foundBy_without_of_ne {name other : String} (differ : other ≠ name)
    (blocks : List Block) : foundBy other (without name blocks) = foundBy other blocks := by
  unfold foundBy without
  rw [List.filter_filter]
  congr 1
  apply List.filter_congr
  intro b _
  by_cases isOther : b.name = other
  · simp [isOther, differ]
  · simp [isOther]

/-- The blocks of a context that leaves a job alone do not count for it. -/
theorem get_atop_without {name : String}
    (silent : ∀ b ∈ blocks, b.name = name → b.settings.get job = none) :
    (atop (without name blocks) around).get job = (atop blocks around).get job := by
  induction blocks with
  | nil => rfl
  | cons b outer ih =>
    have inner := ih fun c member => silent c (List.mem_cons_of_mem b member)
    by_cases same : b.name = name
    · subst same
      rw [without_cons_self, inner, get_atop_cons_of_none (silent b List.mem_cons_self rfl)]
    · rw [without_cons_of_ne same, get_atop_cons, get_atop_cons, inner]

/-- The open blocks, and the live ones among them.  No live block lies further out than a spent
one of its context: whatever undid the spent one undid them all. -/
inductive Layered : List Block → List Block → Prop
  | nil : Layered [] []
  | live {b : Block} {opened live : List Block} (outer : Layered opened live) :
      Layered (b :: opened) (b :: live)
  | spent {b : Block} {opened live : List Block} (outer : Layered opened live)
      (gone : ∀ c ∈ live, c.name ≠ b.name) : Layered (b :: opened) live

theorem Layered.mem (layered : Layered opened live) (member : b ∈ live) : b ∈ opened := by
  induction layered with
  | nil => exact member
  | live outer ih =>
    rcases List.mem_cons.mp member with same | member
    · exact same ▸ List.mem_cons_self
    · exact List.mem_cons_of_mem _ (ih member)
  | spent outer gone ih => exact List.mem_cons_of_mem _ (ih member)

theorem Layered.eq_nil (layered : Layered [] live) : live = [] := by
  cases layered
  rfl

theorem Layered.without (layered : Layered opened live) (name : String) :
    Layered opened (without name live) := by
  induction layered with
  | nil => exact .nil
  | @live b opened live outer ih =>
    by_cases same : b.name = name
    · subst same
      rw [without_cons_self]
      refine .spent ih ?_
      intro c member
      exact (mem_without.mp member).2
    · rw [without_cons_of_ne same]
      exact .live ih
  | spent outer gone ih => exact .spent ih fun c member => gone c (mem_without.mp member).1

/-- Between two blocks of one context, no other context sets a callback that it sets. -/
def Uncrossed (blocks : List Block) : Prop :=
  ∀ a d c, [a, d, c].Sublist blocks → a.name = c.name →
    d.name = a.name ∨ d.settings.Apart a.settings

theorem uncrossed_of_short (short : blocks.length ≤ 2) : Uncrossed blocks := by
  intro a d c within
  have long : 3 ≤ blocks.length := within.length_le
  omega

theorem Uncrossed.without (uncrossed : Uncrossed blocks) (name : String) :
    Uncrossed (without name blocks) := by
  intro a d c within
  exact uncrossed a d c (within.trans List.filter_sublist)

/-- What each block found, of the callbacks that it sets. -/
def Rests (around : Callbacks) : List Block → Prop
  | [] => True
  | b :: outer =>
      (∀ job, b.settings.get job ≠ none → b.before.get job = (atop outer around).get job) ∧
      Rests around outer

/-! ## All the blocks of one context taken away -/

/-- The blocks of the context set `settings`, and no other block further in than one of them
sets any of the same callbacks. -/
structure Clear (name : String) (settings : Callbacks) (blocks : List Block) : Prop where
  own : ∀ b ∈ blocks, b.name = name → b.settings = settings
  apart : ∀ d c, [d, c].Sublist blocks → c.name = name →
    d.name = name ∨ d.settings.Apart settings

variable {name : String} {settings : Callbacks}

theorem Clear.tail (clear : Clear name settings (b :: blocks)) : Clear name settings blocks where
  own c member := clear.own c (List.mem_cons_of_mem b member)
  apart d c within := clear.apart d c (within.cons b)

/-- Another context's block does not set what the context's blocks further out set. -/
theorem Clear.silent (clear : Clear name settings (b :: blocks)) (differ : b.name ≠ name)
    (sets : settings.get job ≠ none) :
    (∀ c ∈ blocks, c.name ≠ name) ∨ b.settings.get job = none := by
  by_cases present : ∃ c ∈ blocks, c.name = name
  · obtain ⟨c, member, same⟩ := present
    have within : [b, c].Sublist (b :: blocks) := (List.singleton_sublist.mpr member).cons_cons b
    rcases clear.apart b c within same with itself | apart
    · exact absurd itself differ
    · exact .inr ((apart job).resolve_right sets)
  · exact .inl fun c member same => present ⟨c, member, same⟩

theorem Rests.without (rests : Rests around blocks) (clear : Clear name settings blocks) :
    Rests around (without name blocks) := by
  induction blocks with
  | nil => exact trivial
  | cons b outer ih =>
    obtain ⟨lies, rests⟩ := rests
    by_cases same : b.name = name
    · subst same
      rw [without_cons_self]
      exact ih rests clear.tail
    · rw [without_cons_of_ne same]
      refine ⟨?_, ih rests clear.tail⟩
      intro job sets
      rw [lies job sets]
      symm
      apply get_atop_without
      intro c member isOne
      have within : [b, c].Sublist (b :: outer) :=
        (List.singleton_sublist.mpr member).cons_cons b
      rw [clear.own c (List.mem_cons_of_mem b member) isOne]
      rcases clear.apart b c within isOne with itself | apart
      · exact absurd itself same
      · exact (apart job).resolve_left sets

/-- What undoing all entries of a context leaves in force for a job that it sets.  Entries are
undone from the innermost out, so what counts in the end is what the outermost one found. -/
theorem undone_of_set (sets : settings.get job ≠ none) (rests : Rests around blocks)
    (clear : Clear name settings blocks) {now : Callbacks}
    (laid : now.get job = (atop blocks around).get job) :
    ((foundBy name blocks).foldl (fun now before => settings.restore before now) now).get job =
      (atop (without name blocks) around).get job := by
  induction blocks generalizing now with
  | nil => exact laid
  | cons b outer ih =>
    obtain ⟨lies, rests⟩ := rests
    by_cases same : b.name = name
    · subst same
      rw [foundBy_cons_self, without_cons_self, List.foldl_cons]
      have own := clear.own b List.mem_cons_self rfl
      refine ih rests clear.tail ?_
      rw [Callbacks.get_restore, if_pos (Option.isSome_iff_ne_none.mpr sets)]
      exact lies job (own ▸ sets)
    · rw [foundBy_cons_of_ne same, without_cons_of_ne same]
      -- Another context's block: either nothing is left to undo, or it does not set the job.
      rcases clear.silent same sets with absent | silent
      · rw [foundBy_eq_nil absent, without_eq_self absent]
        exact laid
      · rw [get_atop_cons_of_none silent]
        rw [get_atop_cons_of_none silent] at laid
        exact ih rests clear.tail laid

theorem undone_of_unset (leaves : settings.get job = none) (befores : List Callbacks)
    (now : Callbacks) :
    (befores.foldl (fun now before => settings.restore before now) now).get job =
      now.get job := by
  induction befores generalizing now with
  | nil => rfl
  | cons before befores ih =>
    rw [List.foldl_cons, ih, Callbacks.get_restore, leaves]
    rfl

/-- Undoing all entries of a context takes its blocks away and leaves the others. -/
theorem undone (rests : Rests around blocks) (clear : Clear name settings blocks) :
    (foundBy name blocks).foldl (fun now before => settings.restore before now)
        (atop blocks around) =
      atop (without name blocks) around := by
  apply Callbacks.eq_of_get
  intro job
  by_cases leaves : settings.get job = none
  · rw [undone_of_unset leaves, get_atop_without]
    intro c member isOne
    rw [clear.own c member isOne]
    exact leaves
  · exact undone_of_set leaves rests clear rfl

end Block

namespace Session

variable {origin s : Session} {opened live outer : List Block} {b : Block}

/-! ## Runs -/

/-- No context remembers an entry. -/
def Fresh (s : Session) : Prop :=
  ∀ name x, s.contexts.get? name = some x → x.found = []

/-- From `origin` the session has come through properly nested blocks, where a context may have
been entered again while a block of its was open.  Leaving a block ends the life of all
the blocks of its context. -/
inductive Reenters (origin : Session) : Session → List Block → List Block → Prop
  | start : Reenters origin origin [] []
  | enter {s : Session} {opened live : List Block} {name : String} {x : Context}
      (run : Reenters origin s opened live) (known : s.contexts.get? name = some x)
      (uncrossed : Block.Uncrossed (⟨name, x.settings, s.inForce⟩ :: live)) :
      Reenters origin (s.step (.enter name)).2 (⟨name, x.settings, s.inForce⟩ :: opened)
        (⟨name, x.settings, s.inForce⟩ :: live)
  | exit {s : Session} {b : Block} {outer live : List Block}
      (run : Reenters origin s (b :: outer) live) :
      Reenters origin (s.step (.exit b.name)).2 outer (Block.without b.name live)
  | other {s : Session} {opened live : List Block} {st : Step}
      (run : Reenters origin s opened live) (inside : Inside opened st) :
      Reenters origin (s.step st).2 opened live

/-! ## What runs keep -/

structure Tracks (origin s : Session) (opened live : List Block) : Prop where
  layered : Block.Layered opened live
  uncrossed : Block.Uncrossed live
  inForce : s.inForce = Block.atop live origin.inForce
  rests : Block.Rests origin.inForce live
  settings : ∀ b ∈ opened, ∃ x, s.contexts.get? b.name = some x ∧ x.settings = b.settings
  remembers : ∀ name x, s.contexts.get? name = some x → x.found = Block.foundBy name live

theorem Fresh.tracks (fresh : s.Fresh) : Tracks s s [] [] := by
  refine ⟨.nil, Block.uncrossed_of_short (by simp), rfl, trivial, ?_, fresh⟩
  intro b member
  cases member

theorem Tracks.of_same (tracks : Tracks origin s opened live) {s' : Session}
    (inForce : s'.inForce = s.inForce) (contexts : s'.contexts = s.contexts) :
    Tracks origin s' opened live := by
  refine ⟨tracks.layered, tracks.uncrossed, ?_, tracks.rests, ?_, ?_⟩
  · rw [inForce]
    exact tracks.inForce
  · rw [contexts]
    exact tracks.settings
  · rw [contexts]
    exact tracks.remembers

/-- A context keeps its settings when it is entered or left. -/
theorem Tracks.settings_put (tracks : Tracks origin s opened live) {name : String}
    {x x' : Context} (known : s.contexts.get? name = some x) (kept : x'.settings = x.settings)
    (member : b ∈ opened) :
    ∃ y, (s.contexts.put name x').get? b.name = some y ∧ y.settings = b.settings := by
  obtain ⟨y, held, same⟩ := tracks.settings b member
  by_cases itself : b.name = name
  · subst itself
    rw [known] at held
    cases held
    exact ⟨x', Named.get?_put_self s.contexts b.name x', kept.trans same⟩
  · rw [Named.get?_put_of_ne s.contexts itself]
    exact ⟨y, held, same⟩

theorem Tracks.remembers_put (tracks : Tracks origin s opened live) {name : String} {x' : Context}
    {live' : List Block} (itself : x'.found = Block.foundBy name live')
    (others : ∀ other, other ≠ name → Block.foundBy other live' = Block.foundBy other live)
    (other : String) (y : Context) (held : (s.contexts.put name x').get? other = some y) :
    y.found = Block.foundBy other live' := by
  by_cases same : other = name
  · subst same
    rw [Named.get?_put_self] at held
    cases held
    exact itself
  · rw [Named.get?_put_of_ne s.contexts same] at held
    rw [others other same]
    exact tracks.remembers other y held

theorem Tracks.step_enter (tracks : Tracks origin s opened live) {name : String} {x : Context}
    (known : s.contexts.get? name = some x)
    (uncrossed : Block.Uncrossed (⟨name, x.settings, s.inForce⟩ :: live)) :
    Tracks origin (s.step (.enter name)).2 (⟨name, x.settings, s.inForce⟩ :: opened)
      (⟨name, x.settings, s.inForce⟩ :: live) := by
  simp only [step, known]
  refine ⟨.live tracks.layered, uncrossed, ?_, ?_, ?_, ?_⟩
  · rw [Block.atop_cons, ← tracks.inForce]
    rfl
  · refine ⟨?_, tracks.rests⟩
    intro job _
    rw [← tracks.inForce]
  · intro b member
    rcases List.mem_cons.mp member with new | member
    · subst new
      exact ⟨_, Named.get?_put_self s.contexts name _, rfl⟩
    · exact tracks.settings_put known rfl member
  · refine tracks.remembers_put ?_ ?_
    · rw [Block.foundBy_cons_self ⟨name, x.settings, s.inForce⟩ live,
        ← tracks.remembers name x known]
      rfl
    · intro other differ
      exact Block.foundBy_cons_of_ne (Ne.symm differ) live

/-- Of the live blocks, those of the innermost open block's context may all be taken away. -/
theorem Tracks.clear (tracks : Tracks origin s (b :: outer) live) {x : Context}
    (known : s.contexts.get? b.name = some x) : Block.Clear b.name x.settings live := by
  have own : ∀ c ∈ live, c.name = b.name → c.settings = x.settings := by
    intro c member same
    obtain ⟨y, held, settings⟩ := tracks.settings c (tracks.layered.mem member)
    rw [same, known] at held
    cases held
    exact settings.symm
  refine ⟨own, ?_⟩
  intro d c within same
  cases tracks.layered with
  | live outer =>
    cases within with
    | cons _ within =>
      have set := own b List.mem_cons_self rfl
      exact set ▸ tracks.uncrossed b d c (within.cons_cons b) same.symm
    | cons_cons _ _ => exact .inl rfl
  | spent outer gone => exact absurd same (gone c (within.subset (by simp)))

/-- The innermost block is left: its context's blocks are taken away. -/
theorem Tracks.exit_eq (tracks : Tracks origin s (b :: outer) live) :
    ∃ x, s.contexts.get? b.name = some x ∧
      s.step (.exit b.name) =
        (.done, { s with contexts := s.contexts.put b.name (Context.new x.settings),
                         inForce := Block.atop (Block.without b.name live) origin.inForce }) := by
  obtain ⟨x, known, -⟩ := tracks.settings b List.mem_cons_self
  have found := tracks.remembers b.name x known
  have back := Block.undone tracks.rests (tracks.clear known)
  refine ⟨x, known, ?_⟩
  rw [← tracks.inForce, ← found] at back
  simp only [step, known, Context.exit, back]
  rfl

theorem Tracks.step_exit (tracks : Tracks origin s (b :: outer) live) :
    Tracks origin (s.step (.exit b.name)).2 outer (Block.without b.name live) := by
  obtain ⟨x, known, left⟩ := tracks.exit_eq
  rw [left]
  refine ⟨?_, tracks.uncrossed.without b.name, rfl,
    tracks.rests.without (tracks.clear known), ?_, ?_⟩
  · cases tracks.layered with
    | live outer =>
      rw [Block.without_cons_self]
      exact outer.without b.name
    | spent outer gone => exact outer.without b.name
  · intro c member
    exact tracks.settings_put known rfl (List.mem_cons_of_mem b member)
  · refine tracks.remembers_put (Block.foundBy_without_self b.name live).symm ?_
    intro other differ
    exact Block.foundBy_without_of_ne differ live

theorem Tracks.step_inside (tracks : Tracks origin s opened live) {st : Step}
    (inside : Inside opened st) : Tracks origin (s.step st).2 opened live := by
  cases stepped : s.step st with
  | mk outcome s' =>
    cases moves stepped with
    | works works => exact tracks.of_same works.inForce works.contexts
    | compile taken =>
      have works := works_template taken
      exact tracks.of_same works.inForce works.contexts
    | setLimit => exact tracks.of_same rfl rfl
    | @makeContext name settings =>
      refine ⟨tracks.layered, tracks.uncrossed, tracks.inForce, tracks.rests, ?_, ?_⟩
      · intro b member
        rw [get?_put_of_closed inside s.contexts _ member]
        exact tracks.settings b member
      · refine tracks.remembers_put ?_ fun _ _ => rfl
        symm
        apply Block.foundBy_eq_nil
        intro c member same
        exact inside (same ▸ List.mem_map_of_mem (tracks.layered.mem member))
    | enter | exit => exact inside.elim

theorem Reenters.tracks (run : Reenters origin s opened live) (fresh : origin.Fresh) :
    Tracks origin s opened live := by
  induction run with
  | start => exact fresh.tracks
  | enter run known uncrossed ih => exact ih.step_enter known uncrossed
  | exit run ih => exact ih.step_exit
  | other run inside ih => exact ih.step_inside inside

/-! ## Leaving -/

/-- The innermost blocks are left one after another, as by an exception that passes through
them. -/
theorem Reenters.leave {inner : List Block} (fresh : origin.Fresh)
    (run : Reenters origin s (inner ++ outer) live) :
    s.transcript (leaving inner) = (leaving inner).map (·, .done) ∧
      Reenters origin (s.after (leaving inner)) outer (Block.beyond inner live) := by
  induction inner generalizing s live with
  | nil =>
    refine ⟨rfl, ?_⟩
    rw [Block.beyond_nil]
    exact run
  | cons b inner ih =>
    obtain ⟨x, -, left⟩ := (run.tracks fresh).exit_eq
    obtain ⟨all, behind⟩ := ih run.exit
    constructor
    · show (Step.exit b.name, (s.step (.exit b.name)).1) ::
        (s.step (.exit b.name)).2.transcript (leaving inner) = _
      rw [all, left]
      rfl
    · rw [Block.beyond_cons]
      exact behind

/-- **Contexts entered again scope their callbacks as long as they are live and uncrossed.**
However a session has come through nested blocks from one in which no context remembers an entry,
where a context may be entered again while it is open, unless another one that sets one of the
same callbacks was entered in between: what is in force is what the live blocks set, on top
of what was in force at first.  Blocks can always be left; that takes with them the
live blocks of their contexts, further out too, and no others; and once all are left,
everything is as it was at first. -/
theorem reentered_contexts_scope (fresh : origin.Fresh)
    (run : Reenters origin s opened live) :
    s.inForce = Block.atop live origin.inForce ∧
    (∀ inner outer, opened = inner ++ outer →
      s.transcript (leaving inner) = (leaving inner).map (·, .done) ∧
      (s.after (leaving inner)).inForce =
        Block.atop (Block.beyond inner live) origin.inForce) ∧
    (s.after (leaving opened)).inForce = origin.inForce := by
  refine ⟨(run.tracks fresh).inForce, ?_, ?_⟩
  · intro inner outer parts
    subst parts
    obtain ⟨all, behind⟩ := run.leave fresh
    exact ⟨all, (behind.tracks fresh).inForce⟩
  · have whole : Reenters origin s (opened ++ []) live := by
      rw [List.append_nil]
      exact run
    have behind := ((whole.leave fresh).2).tracks fresh
    have nothing : Block.beyond opened live = [] := behind.layered.eq_nil
    rw [behind.inForce, nothing, Block.atop_nil]

/-- The second entry of the outer context is undone together with the first. -/
theorem reentered_contexts_scope_inner_outer :
    ∃ s : Session, s = start.after [
        .makeContext "outer" ⟨some fun number _ => .ok number, none, none, none⟩,
        .makeContext "inner" ⟨none, none, some fun _ => .ok .null, none⟩,
        .enter "outer", .enter "inner", .enter "outer"] ∧
      s.inForce = ⟨some fun number _ => .ok number, none, some fun _ => .ok .null, none⟩ ∧
      (s.after [.exit "outer"]).inForce = ⟨none, none, some fun _ => .ok .null, none⟩ ∧
      (s.after [.exit "outer", .exit "inner", .exit "outer"]).inForce = Callbacks.unset := by
  have fresh : start.Fresh := by
    intro name x known
    cases known
  have one := @Reenters.other start _ _ _ (.makeContext "outer"
    ⟨some fun number _ => .ok number, none, none, none⟩) .start (by simp [Inside])
  have both := @Reenters.other _ _ _ _ (.makeContext "inner"
    ⟨none, none, some fun _ => .ok .null, none⟩) one (by simp [Inside])
  have outside := @Reenters.enter _ _ _ _ "outer" _ both rfl
    (Block.uncrossed_of_short (by simp))
  have inside := @Reenters.enter _ _ _ _ "inner" _ outside rfl
    (Block.uncrossed_of_short (by simp))
  have again := @Reenters.enter _ _ _ _ "outer" _ inside rfl (by
    intro a d c within same
    cases within.eq_of_length rfl
    right
    intro job
    cases job with
    | groupDigits => exact .inl rfl
    | transcode => exact .inl rfl
    | resolveResource => exact .inr rfl
    | resolveSystemError => exact .inl rfl)
  obtain ⟨now, left, back⟩ := reentered_contexts_scope fresh again
  exact ⟨_, rfl, now, (left [_] _ rfl).2, back⟩

/-- A context that is entered twice and left once sets nothing more, though a block of its is
open.  Entered again below another that sets the same callback, it leaves its own in force
behind the last block. -/
theorem reentered_context_leaks :
    ∃ context other : Callbacks,
      (start.after [.makeContext "context" context, .enter "context", .enter "context",
        .exit "context"]).inForce = Callbacks.unset ∧
      (start.after [.makeContext "context" context, .makeContext "other" other,
        .enter "context", .enter "other", .enter "context",
        .exit "context", .exit "other", .exit "context"]).inForce = context ∧
      context ≠ Callbacks.unset := by
  refine ⟨⟨some fun number _ => .ok number, none, none, none⟩,
    ⟨some fun number signed => .ok (Callbacks.defaultGroupDigits number signed), none, none, none⟩,
    rfl, rfl, ?_⟩
  intro same
  exact absurd (congrArg (fun cb => cb.groupDigits.isSome) same) (by decide)

end Session

end ExtendedFormat
