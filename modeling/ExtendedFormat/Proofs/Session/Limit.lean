/-
# ExtendedFormat.Proofs.Session.Limit -- caches while their limit changes

A host may set the limit at any time, to any number.  What becomes of the cache under a name
depends on the uses made of it, each with the limit then in force (`uses`, `cache_after`).

Parsing anew takes one entry in and lets at most one go.  So a cache within the limit stays
within it, and one beyond the limit, which was lowered meanwhile, keeps its size
(`length_serve`).  A cache never outgrows the largest limit that it was used with
(`length_after_le`).  Only a cache that has never taken in anything can refuse a format, and it does
so under a limit of zero (`cache_follows_limits`).
-/
import ExtendedFormat.Proofs.Cache.Queue
import ExtendedFormat.Proofs.Session.Steps

namespace ExtendedFormat

set_option autoImplicit false

/-! ## The size of a cache -/

namespace Cache

variable {c : Cache} {u : Use} {key : Key}

theorem keys_eq_nil_iff : c.keys = [] ↔ c = empty := by
  obtain ⟨entries⟩ := c
  simp [keys, empty]

/-- Whatever the limit, there was room for a key that was admitted. -/
theorem room_of_admits (admits : c.admits? u = some key) : 0 < u.limit ∨ 0 < c.keys.length := by
  rw [Nat.pos_iff_ne_zero, List.length_pos_iff, Ne, Ne, keys_eq_nil_iff, ← not_and_or]
  rintro ⟨never, rfl⟩
  rw [admits?_empty_zero never] at admits
  cases admits

/-- Below its limit a cache grows by one; at the limit or beyond, it keeps its size. -/
theorem length_serve (admits : c.admits? u = some key) :
    (c.serve u).2.keys.length =
      if c.keys.length < u.limit then c.keys.length + 1 else c.keys.length := by
  have room := room_of_admits admits
  rw [keys_of_admits admits, staying, List.length_append, List.length_singleton]
  by_cases full : u.limit ≤ c.keys.length
  · rw [if_pos full, if_neg (Nat.not_lt.mpr full), List.length_tail]
    omega
  · rw [if_neg full, if_pos (Nat.lt_of_not_le full)]

/-- Parsing anew keeps a cache within the limit, but does not bring it there. -/
theorem length_serve_le_limit_iff (admits : c.admits? u = some key) :
    (c.serve u).2.keys.length ≤ u.limit ↔ c.keys.length ≤ u.limit := by
  rw [length_serve admits]
  split <;> omega

theorem length_serve_of_beyond (admits : c.admits? u = some key)
    (beyond : u.limit < c.keys.length) : (c.serve u).2.keys.length = c.keys.length := by
  rw [length_serve admits, if_neg (Nat.not_lt_of_lt beyond)]

theorem length_serve_le {most : Nat} (within : c.keys.length ≤ most) (limit : u.limit ≤ most) :
    (c.serve u).2.keys.length ≤ most := by
  cases admits : c.admits? u with
  | none => rwa [serve_of_admits_none admits]
  | some key =>
    rw [length_serve admits]
    split <;> omega

theorem length_after_le {most : Nat} (within : c.keys.length ≤ most) {uses : List Use}
    (limits : ∀ u ∈ uses, u.limit ≤ most) : (c.after uses).keys.length ≤ most := by
  induction uses generalizing c with
  | nil => exact within
  | cons u more ih =>
    obtain ⟨now, later⟩ := List.forall_mem_cons.mp limits
    exact ih (length_serve_le within now) later

/-- A cache that has taken something in is never empty again. -/
theorem after_eq_empty_iff (uses : List Use) :
    c.after uses = empty ↔ c = empty ∧ c.admitted uses = [] := by
  induction uses generalizing c with
  | nil => simp [after, admitted]
  | cons u more ih =>
    have first : c.after (u :: more) = (c.serve u).2.after more := rfl
    rw [first, ih, admitted]
    cases admits : c.admits? u with
    | none => simp [serve_of_admits_none admits]
    | some key =>
      have held : (c.serve u).2 ≠ empty := by
        rw [Ne, ← keys_eq_nil_iff, keys_of_admits admits]
        simp
      simp [held]

theorem parse_fresh (how : Reading) (format : Value) :
    (empty.parse defaultLimit how format).1 = Template.ofValue how.dialect how.mode format :=
  @Sound.answer empty sound_empty ⟨defaultLimit, how, format⟩ (Nat.le_add_left 1 1023)

/-- No entry can leave an empty cache. -/
theorem serve_empty_zero {pieces : Template} (never : u.limit = 0)
    (read : Template.ofValue u.how.dialect u.how.mode u.format = .ok pieces) :
    empty.serve u = (.error .nothingToEvict, empty) := by
  obtain ⟨bs, text, parsed⟩ := Outcome.bind_eq_ok_iff.mp read
  have absent : empty.find? ⟨bs, u.how⟩ = none := rfl
  simp only [serve, Cache.parse, text, parseKey, absent, parsed, never, add_zero_empty]

end Cache

namespace Session

variable {s : Session} {name : String}

/-- The cache under a name.  A name that was not used stands for an empty one. -/
def cache (s : Session) (name : String) : Cache := (s.caches.get? name).getD Cache.empty

/-- The use that a step makes of it, with the limit in force. -/
def use? (s : Session) (name : String) : Step → Option Cache.Use
  | .parse other how format => if other = name then some ⟨s.limit, how, format⟩ else none
  | _ => none

/-- The uses that steps taken one after another make of it. -/
def uses (s : Session) (name : String) : List Step → List Cache.Use
  | [] => []
  | st :: more => (s.use? name st).toList ++ (s.step st).2.uses name more

theorem step_parse (s : Session) (name : String) (how : Reading) (format : Value) :
    s.step (.parse name how format) =
      (match ((s.cache name).serve ⟨s.limit, how, format⟩).1 with
        | .ok pieces => .parsed pieces ((s.cache name).held how format pieces)
        | .error e => .failed e,
      { s with caches := s.caches.put name ((s.cache name).serve ⟨s.limit, how, format⟩).2 }) := by
  have before : (s.caches.get? name).getD Cache.empty = s.cache name := rfl
  simp only [Session.step, before, Cache.serve]
  cases (Cache.parse s.limit (s.cache name) how format).1 with
  | ok pieces => rfl
  | error e => rfl

theorem caches_template {s' : Session} {how : Reading} {format : Value}
    {read : Except Failure Template} (taken : s.template how format = (read, s')) :
    s'.caches = s.caches := by
  cases taken
  rfl

/-- Formatting goes by way of the shared cache; only parsing uses one by name. -/
theorem caches_step {st : Step} (other : ∀ name how format, st ≠ .parse name how format) :
    (s.step st).2.caches = s.caches := by
  cases st with
  | parse name how format => exact absurd rfl (other name how format)
  | makeSink | formatResource | call | enter | exit =>
    simp only [Session.step]
    repeat' split
    all_goals rfl
  | formatInto name how format args =>
    simp only [Session.step]
    split
    · rfl
    · cases taken : s.template how format with
      | mk read s' =>
        have same := caches_template taken
        cases read <;> exact same
  | compile name how format =>
    simp only [Session.step]
    cases taken : s.template how format with
    | mk read s' =>
      have same := caches_template taken
      cases read <;> exact same
  | format | makeContext | setLimit => rfl

theorem cache_step (s : Session) (name : String) (st : Step) :
    (s.step st).2.cache name = (s.cache name).after (s.use? name st).toList := by
  cases st with
  | parse other how format =>
    rw [step_parse, use?]
    by_cases same : other = name
    · subst same
      rw [if_pos rfl]
      simp [cache, Named.get?_put_self, Cache.after]
    · simp [same, cache, Named.get?_put_of_ne _ (Ne.symm same), Cache.after]
  | _ => rw [cache, caches_step (by simp)]; rfl

theorem cache_parse (s : Session) (name : String) (how : Reading) (format : Value) :
    (s.step (.parse name how format)).2.cache name =
      ((s.cache name).serve ⟨s.limit, how, format⟩).2 := by
  rw [cache_step, use?, if_pos rfl]
  rfl

theorem cache_after (s : Session) (name : String) (steps : List Step) :
    (s.after steps).cache name = (s.cache name).after (s.uses name steps) := by
  induction steps generalizing s with
  | nil => rfl
  | cons st more ih =>
    have first : s.after (st :: more) = (s.step st).2.after more := rfl
    rw [first, ih, cache_step, uses, Cache.after, Cache.after, Cache.after, List.foldl_append]

theorem sound_cache (steps : List Step) (name : String) :
    ((start.after steps).cache name).Sound := by
  rw [cache_after]
  exact Cache.sound_empty.after _

/-- A name stands for an empty cache until something is taken in under it. -/
theorem cache_eq_empty_iff (steps : List Step) (name : String) :
    (start.after steps).cache name = Cache.empty ↔
      Cache.empty.admitted (start.uses name steps) = [] := by
  have started : start.cache name = Cache.empty := rfl
  rw [cache_after, started, Cache.after_eq_empty_iff]
  exact and_iff_right rfl

/-! ## Limits and named caches -/

/-- **A cache keeps to its limit unless the limit drops below its size.**  Let a session go through
any steps, which may set any limits and use any caches.  Parsing with a cache a format that parses
gives its template, whatever the limit and whatever the cache holds; only a cache that has
never taken in a format has nothing to let go, and it fails under a limit of zero.  Right after a
format was parsed anew the cache is within the limit just if it was so before; otherwise its
size stays.  It never has more entries than the largest limit that it was used with allowed. -/
theorem cache_follows_limits {steps : List Step} {s : Session} (now : s = start.after steps)
    (name : String) (how : Reading) (format : Value) :
    (∀ pieces, (Cache.empty.parse Cache.defaultLimit how format).1 = .ok pieces →
      (s.limit ≠ 0 ∨ Cache.empty.admitted (start.uses name steps) ≠ [] →
        (s.step (.parse name how format)).1 =
          .parsed pieces ((s.cache name).held how format pieces)) ∧
      (s.limit = 0 → Cache.empty.admitted (start.uses name steps) = [] →
        (s.step (.parse name how format)).1 = .failed .nothingToEvict)) ∧
    (∀ key, (s.cache name).admits? ⟨s.limit, how, format⟩ = some key →
      (((s.step (.parse name how format)).2.cache name).keys.length ≤ s.limit ↔
        (s.cache name).keys.length ≤ s.limit) ∧
      (s.limit < (s.cache name).keys.length →
        ((s.step (.parse name how format)).2.cache name).keys.length =
          (s.cache name).keys.length)) ∧
    ∀ most, (∀ u ∈ start.uses name (steps ++ [.parse name how format]), u.limit ≤ most) →
      ((s.step (.parse name how format)).2.cache name).keys.length ≤ most := by
  subst now
  refine ⟨?_, ?_, ?_⟩
  · intro pieces fresh
    rw [Cache.parse_fresh] at fresh
    rw [step_parse]
    constructor
    · intro room
      have filled : 0 < (start.after steps).limit ∨
          ((start.after steps).cache name).entries ≠ [] := by
        refine room.imp Nat.pos_of_ne_zero fun taken nothing => taken ?_
        exact (cache_eq_empty_iff steps name).mp (congrArg Cache.mk nothing)
      have answer := @Cache.Sound.answer_of_room _ (sound_cache steps name)
        ⟨(start.after steps).limit, how, format⟩ filled
      rw [answer, fresh]
    · intro never nothing
      rw [(cache_eq_empty_iff steps name).mpr nothing, Cache.serve_empty_zero never fresh]
  · intro key admits
    rw [cache_parse]
    exact ⟨Cache.length_serve_le_limit_iff admits, Cache.length_serve_of_beyond admits⟩
  · intro most limits
    have last : (start.after steps).after [.parse name how format] =
        ((start.after steps).step (.parse name how format)).2 := rfl
    rw [← last, ← after_append, cache_after]
    exact Cache.length_after_le (Nat.zero_le most) limits

theorem parse_byte {b : UInt8} (plain : b ≠ percentSign) :
    Template.parse .modern .compatible [b] = .ok [.literal [b]] :=
  (Template.Reads.byte plain (.nil _)).parseFrom_eq .compatible

/-- A session whose cache `c` has taken in two formats of one byte, under a limit set since. -/
def holdingTwo (limit : Nat) : Session :=
  start.after [.parse "c" ⟨.modern, .compatible⟩ (.bytes .fixed [0x61]),
    .parse "c" ⟨.modern, .compatible⟩ (.bytes .fixed [0x62]), .setLimit limit]

theorem cache_holdingTwo (limit : Nat) :
    (holdingTwo limit).cache "c" = ⟨[⟨⟨[0x61], ⟨.modern, .compatible⟩⟩, [.literal [0x61]]⟩,
      ⟨⟨[0x62], ⟨.modern, .compatible⟩⟩, [.literal [0x62]]⟩]⟩ := by
  have first := parse_byte (by decide : (0x61 : UInt8) ≠ percentSign)
  have second := parse_byte (by decide : (0x62 : UInt8) ≠ percentSign)
  have unchanged : (start.step
      (.parse "c" ⟨.modern, .compatible⟩ (.bytes .fixed [0x61]))).2.limit = Cache.defaultLimit := by
    rw [step_parse]
    rfl
  have started : start.cache "c" = Cache.empty := rfl
  rw [holdingTwo, cache_after, started]
  simp only [uses, use?, unchanged, if_true]
  simp [Cache.after, Cache.serve, Cache.parse, Cache.parseKey, Template.formatBytes,
    Cache.find?, Cache.empty, Cache.add, start, Cache.defaultLimit, first, second]

theorem answer_holdingTwo (limit : Nat) :
    (((holdingTwo limit).cache "c").serve
      ⟨limit, ⟨.modern, .compatible⟩, .bytes .fixed [0x64]⟩).1 = .ok [.literal [0x64]] := by
  have sound : ((holdingTwo limit).cache "c").Sound := sound_cache _ "c"
  rw [sound.answer_of_room (.inr (by rw [cache_holdingTwo]; simp))]
  exact parse_byte (by decide)

theorem admits_holdingTwo (limit : Nat) :
    ((holdingTwo limit).cache "c").admits? ⟨limit, ⟨.modern, .compatible⟩, .bytes .fixed [0x64]⟩ =
      some ⟨[0x64], ⟨.modern, .compatible⟩⟩ := by
  refine Cache.admits?_eq_some_iff.mpr ⟨_, _, rfl, answer_holdingTwo limit, rfl, ?_⟩
  rw [cache_holdingTwo]
  decide

/-- Under a limit lowered to zero, the cache keeps as many entries as it has. -/
theorem cache_follows_limits_lowered :
    ((holdingTwo 0).step (.parse "c" ⟨.modern, .compatible⟩ (.bytes .fixed [0x64]))).1 =
        .parsed [.literal [0x64]] false ∧
      (((holdingTwo 0).step (.parse "c" ⟨.modern, .compatible⟩ (.bytes .fixed [0x64]))).2.cache
        "c").keys.length = 2 := by
  have follows := @cache_follows_limits _ (holdingTwo 0) rfl "c" ⟨.modern, .compatible⟩
    (.bytes .fixed [0x64])
  have held := cache_holdingTwo 0
  constructor
  · refine ((follows.1 [.literal [0x64]] ?_).1 (.inr ?_)).trans ?_
    · rw [Cache.parse_fresh]
      exact parse_byte (by decide)
    · intro nothing
      rw [holdingTwo, (cache_eq_empty_iff _ "c").mpr nothing] at held
      cases held
    · rw [held]
      rfl
  · refine ((follows.2.1 _ (admits_holdingTwo 0)).2 ?_).trans ?_
    · rw [held]
      decide
    · rw [held]
      rfl

/-- **A cache does not always keep to its limit.**  Once the limit is lowered, it does not shrink;
and under a limit of zero, an empty one refuses a format that parses. -/
theorem cache_exceeds_limit :
    ((holdingTwo 1).step (.parse "c" ⟨.modern, .compatible⟩ (.bytes .fixed [0x64]))).1 =
        .parsed [.literal [0x64]] false ∧
      (holdingTwo 1).limit <
        (((holdingTwo 1).step (.parse "c" ⟨.modern, .compatible⟩ (.bytes .fixed [0x64]))).2.cache
          "c").keys.length ∧
      (Cache.empty.parse Cache.defaultLimit ⟨.modern, .compatible⟩ (.bytes .fixed [0x61])).1 =
        .ok [.literal [0x61]] ∧
      ((start.after [.setLimit 0]).step
        (.parse "c" ⟨.modern, .compatible⟩ (.bytes .fixed [0x61]))).1 =
          .failed .nothingToEvict := by
  have limit : (holdingTwo 1).limit = 1 := rfl
  have read : Template.ofValue .modern .compatible (.bytes .fixed [0x61]) =
      .ok [.literal [0x61]] := parse_byte (by decide)
  refine ⟨?_, ?_, ?_, ?_⟩
  · rw [step_parse, limit, answer_holdingTwo, cache_holdingTwo]
    rfl
  · rw [cache_parse, limit, Cache.length_serve (admits_holdingTwo 1), cache_holdingTwo]
    decide
  · rw [Cache.parse_fresh]
    exact read
  · rw [step_parse]
    have empty : (start.after [.setLimit 0]).cache "c" = Cache.empty := rfl
    rw [empty, Cache.serve_empty_zero rfl read]

end Session

end ExtendedFormat
