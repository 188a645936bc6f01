/-
# ExtendedFormat.Proofs.Session.Contexts -- contexts scope their callbacks

Contexts are entered and left like blocks, one inside the other (`Nested`).  `Scopes` is
what such a run keeps: an open context remembers one entry, the others remember none, and
the callbacks in force are those of the open blocks, each laid over what was in force when
it was entered (`Block.Stacked`).

So the innermost block that sets a callback decides (`Block.Stacked.eq_scope`), and leaving
blocks brings back what they found (`Scopes.leave`).
-/
import ExtendedFormat.Proofs.Session.Steps

namespace ExtendedFormat

set_option autoImplicit false

/-! ## Blocks -/

/-- A block that is open. -/
structure Block where
  name : String
  settings : Callbacks
  /-- What was in force when it was entered. -/
  before : Callbacks

namespace Block

/-- What the innermost block that sets a callback sets it to. -/
def innermost {α : Type} (callback : Callbacks → Option α) (blocks : List Block) : Option α :=
  blocks.findSome? fun b => callback b.settings

/-- What the blocks set between them. -/
def scope (blocks : List Block) : Callbacks where
  groupDigits := innermost Callbacks.groupDigits blocks
  transcode := innermost Callbacks.transcode blocks
  resolveResource := innermost Callbacks.resolveResource blocks
  resolveSystemError := innermost Callbacks.resolveSystemError blocks

theorem innermost_cons {α : Type} (callback : Callbacks → Option α) (b : Block)
    (outer : List Block) :
    innermost callback (b :: outer) = (callback b.settings <|> innermost callback outer) := by
  unfold innermost
  rw [List.findSome?_cons]
  cases callback b.settings with
  | none => rfl
  | some a => rfl

theorem scope_cons (b : Block) (outer : List Block) :
    scope (b :: outer) = b.settings.overlay (scope outer) := by
  simp only [scope, innermost_cons, Callbacks.overlay]

/-- Each block is laid over what was in force when it was entered. -/
def Stacked : List Block → Callbacks → Prop
  | [], now => now = Callbacks.unset
  | b :: outer, now => now = b.settings.overlay b.before ∧ Stacked outer b.before

theorem Stacked.eq_scope {blocks : List Block} {now : Callbacks} (stacked : Stacked blocks now) :
    now = scope blocks := by
  induction blocks generalizing now with
  | nil => exact stacked
  | cons b outer ih =>
    obtain ⟨laid, around⟩ := stacked
    calc now = b.settings.overlay b.before := laid
      _ = b.settings.overlay (scope outer) := by rw [← ih around]
      _ = scope (b :: outer) := (scope_cons b outer).symm

/-- Each job is done by what the innermost block sets for it, or else as it is built in. -/
structure Governs (blocks : List Block) (now : Callbacks) : Prop where
  group : ∀ number signed, now.group number signed =
    match innermost Callbacks.groupDigits blocks with
    | some f => f number signed
    | none => .ok (Callbacks.defaultGroupDigits number signed)
  transcoded : ∀ units, now.transcoded units =
    match innermost Callbacks.transcode blocks with
    | some f => (f units).bind (Callbacks.textBytes .transcoded)
    | none => .ok (Callbacks.defaultTranscode units)
  resource : ∀ key, now.resource key =
    match innermost Callbacks.resolveResource blocks with
    | some f => Callbacks.found (.resource key) key (some (f (.int key)))
    | none => .ok []
  systemError : ∀ key, now.systemError key =
    match innermost Callbacks.resolveSystemError blocks with
    | some f => Callbacks.found (.systemError key) key (some (f key))
    | none => .ok []

theorem governs_scope (blocks : List Block) : Governs blocks (scope blocks) := by
  constructor
  · intro number signed
    rfl
  · intro units
    rfl
  · intro key
    unfold Callbacks.resource
    show Callbacks.found _ key ((innermost Callbacks.resolveResource blocks).map _) = _
    cases innermost Callbacks.resolveResource blocks with
    | none => rfl
    | some f => rfl
  · intro key
    unfold Callbacks.systemError
    show Callbacks.found _ key ((innermost Callbacks.resolveSystemError blocks).map _) = _
    cases innermost Callbacks.resolveSystemError blocks with
    | none => rfl
    | some f => rfl

end Block

namespace Session

variable {s : Session} {blocks outer : List Block} {b : Block}

/-! ## Nested runs -/

/-- Steps inside the blocks.  A block holds on to its context, so that its name is not given
to another one. -/
def Inside (blocks : List Block) : Step → Prop
  | .enter _ | .exit _ => False
  | .makeContext name _ => name ∉ blocks.map Block.name
  | _ => True

/-- The session has come from properly nested blocks, and these are open, the innermost first.
A step may fail, and an exception leaves the blocks as their ends do. -/
inductive Nested : Session → List Block → Prop
  | start : Nested start []
  | enter {s : Session} {blocks : List Block} {name : String} {x : Context}
      (run : Nested s blocks) (known : s.contexts.get? name = some x)
      (closed : name ∉ blocks.map Block.name) :
      Nested (s.step (.enter name)).2 (⟨name, x.settings, s.inForce⟩ :: blocks)
  | exit {s : Session} {b : Block} {outer : List Block} (run : Nested s (b :: outer)) :
      Nested (s.step (.exit b.name)).2 outer
  | other {s : Session} {blocks : List Block} {st : Step} (run : Nested s blocks)
      (inside : Inside blocks st) : Nested (s.step st).2 blocks

/-- The steps that leave the blocks. -/
def leaving (blocks : List Block) : List Step := blocks.map fun b => .exit b.name

/-! ## What nested runs keep -/

structure Scopes (s : Session) (blocks : List Block) : Prop where
  stacked : Block.Stacked blocks s.inForce
  distinct : (blocks.map Block.name).Nodup
  active : ∀ b ∈ blocks,
    s.contexts.get? b.name = some ((Context.new b.settings).enter b.before).1
  idle : ∀ name x, name ∉ blocks.map Block.name → s.contexts.get? name = some x →
    x = Context.new x.settings

theorem scopes_start : start.Scopes [] := by
  refine ⟨rfl, List.nodup_nil, ?_, ?_⟩
  · intro b member
    cases member
  · intro name x _ known
    cases known

theorem Scopes.of_same {s' : Session} (scopes : s.Scopes blocks) (inForce : s'.inForce = s.inForce)
    (contexts : s'.contexts = s.contexts) : s'.Scopes blocks := by
  constructor
  · rw [inForce]
    exact scopes.stacked
  · exact scopes.distinct
  · rw [contexts]
    exact scopes.active
  · rw [contexts]
    exact scopes.idle

/-- Open blocks do not see what becomes of another name. -/
theorem get?_put_of_closed {name : String} (closed : name ∉ blocks.map Block.name)
    (contexts : Named Context) (x : Context) (member : b ∈ blocks) :
    (contexts.put name x).get? b.name = contexts.get? b.name := by
  have differ : b.name ≠ name := by
    intro same
    exact closed (same ▸ List.mem_map_of_mem member)
  exact Named.get?_put_of_ne contexts differ x

theorem new_or_known {contexts : Named Context} {name other : String} {settings : Callbacks}
    {x : Context} (held : (contexts.put name (Context.new settings)).get? other = some x) :
    x = Context.new x.settings ∨ other ≠ name ∧ contexts.get? other = some x := by
  by_cases same : other = name
  · subst same
    rw [Named.get?_put_self] at held
    cases held
    exact .inl rfl
  · rw [Named.get?_put_of_ne contexts same] at held
    exact .inr ⟨same, held⟩

theorem Scopes.step_enter (scopes : s.Scopes blocks) {name : String} {x : Context}
    (known : s.contexts.get? name = some x) (closed : name ∉ blocks.map Block.name) :
    (s.step (.enter name)).2.Scopes (⟨name, x.settings, s.inForce⟩ :: blocks) := by
  have new : x = Context.new x.settings := scopes.idle name x closed known
  simp only [step, known]
  constructor
  · exact ⟨rfl, scopes.stacked⟩
  · exact List.nodup_cons.mpr ⟨closed, scopes.distinct⟩
  · intro b member
    cases member with
    | head =>
      rw [← new]
      exact Named.get?_put_self s.contexts name _
    | tail _ member =>
      rw [get?_put_of_closed closed s.contexts _ member]
      exact scopes.active b member
  · intro other y notOpen held
    have differ : other ≠ name := List.ne_of_not_mem_cons notOpen
    rw [Named.get?_put_of_ne s.contexts differ] at held
    exact scopes.idle other y (List.not_mem_of_not_mem_cons notOpen) held

/-- The innermost block is left. -/
theorem Scopes.exit_eq (scopes : s.Scopes (b :: outer)) :
    s.step (.exit b.name) =
      (.done, { s with contexts := s.contexts.put b.name (Context.new b.settings),
                       inForce := b.before }) := by
  have known := scopes.active b List.mem_cons_self
  have laid : s.inForce = ((Context.new b.settings).enter b.before).2 := scopes.stacked.1
  simp only [step, known]
  rw [laid, Context.exit_enter]

theorem Scopes.step_exit (scopes : s.Scopes (b :: outer)) :
    (s.step (.exit b.name)).2.Scopes outer := by
  obtain ⟨closed, distinct⟩ := List.nodup_cons.mp scopes.distinct
  rw [scopes.exit_eq]
  constructor
  · exact scopes.stacked.2
  · exact distinct
  · intro c member
    rw [get?_put_of_closed closed s.contexts _ member]
    exact scopes.active c (List.mem_cons_of_mem b member)
  · intro name x notOpen held
    rcases new_or_known held with new | ⟨differ, known⟩
    · exact new
    · exact scopes.idle name x (List.not_mem_cons_of_ne_of_not_mem differ notOpen) known

theorem Scopes.step_inside (scopes : s.Scopes blocks) {st : Step} (inside : Inside blocks st) :
    (s.step st).2.Scopes blocks := by
  cases stepped : s.step st with
  | mk outcome s' =>
    cases moves stepped with
    | works works => exact scopes.of_same works.inForce works.contexts
    | compile taken =>
      have works := works_template taken
      exact scopes.of_same works.inForce works.contexts
    | setLimit => exact scopes.of_same rfl rfl
    | makeContext =>
      refine ⟨scopes.stacked, scopes.distinct, ?_, ?_⟩
      · intro b member
        rw [get?_put_of_closed inside s.contexts _ member]
        exact scopes.active b member
      · intro name x notOpen held
        rcases new_or_known held with new | ⟨-, known⟩
        · exact new
        · exact scopes.idle name x notOpen known
    | enter | exit => exact inside.elim

theorem Nested.scopes (nested : s.Nested blocks) : s.Scopes blocks := by
  induction nested with
  | start => exact scopes_start
  | enter run known closed ih => exact ih.step_enter known closed
  | exit run ih => exact ih.step_exit
  | other run inside ih => exact ih.step_inside inside

/-! ## Leaving -/

/-- Blocks left one after another, as by an exception that passes through them. -/
theorem Scopes.leave {inner : List Block} (scopes : s.Scopes (inner ++ b :: outer)) :
    s.transcript (leaving (inner ++ [b])) = (leaving (inner ++ [b])).map (·, .done) ∧
      (s.after (leaving (inner ++ [b]))).inForce = b.before := by
  induction inner generalizing s with
  | nil =>
    have left : s.step (.exit b.name) = _ := scopes.exit_eq
    constructor
    · show [(Step.exit b.name, (s.step (.exit b.name)).1)] = _
      rw [left]
      rfl
    · show (s.step (.exit b.name)).2.inForce = _
      rw [left]
  | cons c inner ih =>
    have left := scopes.exit_eq
    obtain ⟨all, back⟩ := ih scopes.step_exit
    constructor
    · show (Step.exit c.name, (s.step (.exit c.name)).1) ::
        (s.step (.exit c.name)).2.transcript (leaving (inner ++ [b])) = _
      rw [all, left]
      rfl
    · exact back

/-- **Nested contexts scope their callbacks.**  However a session has come from properly nested
blocks, no context entered again while its block is open, each callback in force is the one of
the innermost open block that sets it, and it is the built-in one where none does.  Leaving a
block, together with those inside it, succeeds, and brings back all that was in force when
the block was entered. -/
theorem contexts_scope (nested : s.Nested blocks) :
    s.inForce = Block.scope blocks ∧ Block.Governs blocks s.inForce ∧
    ∀ inner b outer, blocks = inner ++ b :: outer →
      s.transcript (leaving (inner ++ [b])) = (leaving (inner ++ [b])).map (·, .done) ∧
      (s.after (leaving (inner ++ [b]))).inForce = b.before := by
  have scopes : s.Scopes blocks := nested.scopes
  have now : s.inForce = Block.scope blocks := scopes.stacked.eq_scope
  refine ⟨now, ?_, ?_⟩
  · rw [now]
    exact Block.governs_scope blocks
  · intro inner b outer parts
    subst parts
    exact scopes.leave

/-- The inner context was left, and its block is open for the second time. -/
theorem contexts_scope_entered_again :
    ∃ s : Session, s = start.after [
        .makeContext "outer" ⟨some fun number _ => .ok number, none, none, none⟩,
        .makeContext "inner" ⟨none, none, some fun _ => .ok .null, none⟩,
        .enter "outer", .enter "inner", .call "f" [], .exit "inner", .enter "inner"] ∧
      s.inForce = ⟨some fun number _ => .ok number, none, some fun _ => .ok .null, none⟩ ∧
      (s.after [.exit "inner"]).inForce = ⟨some fun number _ => .ok number, none, none, none⟩ ∧
      (s.after [.exit "inner", .exit "outer"]).inForce = Callbacks.unset := by
  have one := @Nested.other _ _ (.makeContext "outer"
    ⟨some fun number _ => .ok number, none, none, none⟩) .start (by simp [Inside])
  have both := @Nested.other _ _ (.makeContext "inner"
    ⟨none, none, some fun _ => .ok .null, none⟩) one (by simp [Inside])
  have outside := @Nested.enter _ _ "outer" _ both rfl (by simp)
  have inside := @Nested.enter _ _ "inner" _ outside rfl (by decide)
  have failed := @Nested.other _ _ (.call "f" []) inside trivial
  have again := @Nested.enter _ _ "inner" _ failed.exit rfl (by decide)
  obtain ⟨now, -, left⟩ := contexts_scope again
  exact ⟨_, rfl, now, (left [] _ _ rfl).2, (left [_] _ _ rfl).2⟩

end Session

end ExtendedFormat
