/-
# ExtendedFormat.Proofs.Cache.Transparency -- a cache never changes an answer

A use of a cache finds the format, or cannot read it, or reads it anew and keeps it
(`Serves`); these are all the ways in which a cache is used (`serves`).

A cache is sound if every template in it is what its own key stands for.  The empty cache
is, and every use keeps it so (`Sound.serve`), whichever entry leaves and whatever the limit
is at the time.  A sound cache answers as parsing does (`Sound.answer`), and hence as an
empty one (`cache_transparent`).
-/
import ExtendedFormat.Cache
import ExtendedFormat.Proofs.Template.Reads

namespace ExtendedFormat.Cache

set_option autoImplicit false

/-! ## Uses -/

/-- A format to be parsed, and the limit in force. -/
structure Use where
  limit : Nat
  how : Reading
  format : Value

def serve (c : Cache) (u : Use) : Except Failure Template × Cache :=
  c.parse u.limit u.how u.format

/-- The cache behind uses made one after another. -/
def after (c : Cache) (uses : List Use) : Cache := uses.foldl (fun c u => (c.serve u).2) c

/-! ## Finding and adding -/

theorem mem_of_find? {c : Cache} {key : Key} {pieces : Template}
    (found : c.find? key = some pieces) : ⟨key, pieces⟩ ∈ c.entries := by
  obtain ⟨e, first, rfl⟩ := Option.map_eq_some_iff.mp found
  have same : e.key = key := by simpa using List.find?_some first
  subst same
  exact List.mem_of_find?_eq_some first

theorem find?_eq_none_iff {c : Cache} {key : Key} : c.find? key = none ↔ key ∉ c.keys := by
  simp [find?, keys, List.find?_eq_none]

/-- The entries that stay when one more is to come. -/
def kept (limit : Nat) (c : Cache) : List Entry :=
  if limit ≤ c.entries.length then c.entries.tail else c.entries

theorem mem_of_mem_kept {limit : Nat} {c : Cache} {e : Entry} (stays : e ∈ c.kept limit) :
    e ∈ c.entries := by
  unfold kept at stays
  split at stays
  · exact List.mem_of_mem_tail stays
  · exact stays

theorem add_eq {limit : Nat} {c : Cache} (room : 0 < limit ∨ c.entries ≠ []) (key : Key)
    (pieces : Template) : c.add limit key pieces = .ok ⟨c.kept limit ++ [⟨key, pieces⟩]⟩ := by
  unfold add kept
  by_cases full : limit ≤ c.entries.length
  · rw [if_pos full, if_pos full]
    cases held : c.entries with
    | nil =>
      rw [held] at full room
      have positive : 0 < limit := room.resolve_right (fun some => some rfl)
      exact absurd full (Nat.not_le.mpr positive)
    | cons oldest younger => rfl
  · rw [if_neg full, if_neg full]

theorem add_zero_empty (key : Key) (pieces : Template) :
    empty.add 0 key pieces = .error .nothingToEvict := rfl

/-! ## What a use does -/

/-- What a use of the cache answers, and the cache behind it. -/
inductive Serves (c : Cache) (u : Use) : Except Failure Template → Cache → Prop
  | notText {e : Failure} (unread : Template.formatBytes u.format = .error e) :
      Serves c u (.error e) c
  | hit {bs : Bytes} {pieces : Template} (read : Template.formatBytes u.format = .ok bs)
      (found : c.find? ⟨bs, u.how⟩ = some pieces) : Serves c u (.ok pieces) c
  | malformed {bs : Bytes} {e : Failure} (read : Template.formatBytes u.format = .ok bs)
      (absent : ⟨bs, u.how⟩ ∉ c.keys)
      (refused : Template.parse u.how.dialect u.how.mode bs = .error e) : Serves c u (.error e) c
  | anew {bs : Bytes} {pieces : Template} (read : Template.formatBytes u.format = .ok bs)
      (absent : ⟨bs, u.how⟩ ∉ c.keys)
      (parsed : Template.parse u.how.dialect u.how.mode bs = .ok pieces) :
      Serves c u (.ok pieces) ⟨c.kept u.limit ++ [⟨⟨bs, u.how⟩, pieces⟩]⟩
  /-- An entry has to leave, and there is none. -/
  | stuck {bs : Bytes} {pieces : Template} (read : Template.formatBytes u.format = .ok bs)
      (parsed : Template.parse u.how.dialect u.how.mode bs = .ok pieces) (never : u.limit = 0)
      (nothing : c.entries = []) : Serves c u (.error .nothingToEvict) c

theorem serves {c behind : Cache} {u : Use} {answer : Except Failure Template}
    (served : c.serve u = (answer, behind)) : Serves c u answer behind := by
  unfold serve Cache.parse at served
  cases read : Template.formatBytes u.format with
  | error e =>
    rw [read] at served
    cases served
    exact .notText read
  | ok bs =>
    simp only [read, parseKey] at served
    cases found : c.find? ⟨bs, u.how⟩ with
    | some pieces =>
      rw [found] at served
      cases served
      exact .hit read found
    | none =>
      have absent := find?_eq_none_iff.mp found
      cases parsed : Template.parse u.how.dialect u.how.mode bs with
      | error e =>
        simp only [found, parsed] at served
        cases served
        exact .malformed read absent parsed
      | ok pieces =>
        simp only [found, parsed] at served
        by_cases room : 0 < u.limit ∨ c.entries ≠ []
        · rw [add_eq room] at served
          cases served
          exact .anew read absent parsed
        · have never : u.limit = 0 := Nat.eq_zero_of_not_pos fun positive => room (.inl positive)
          have nothing : c.entries = [] :=
            Classical.byContradiction fun some => room (.inr some)
          have isEmpty : c = empty := congrArg Cache.mk nothing
          subst isEmpty
          rw [never, add_zero_empty] at served
          cases served
          exact .stuck read parsed never rfl

/-! ## Soundness -/

/-- Every template is what its key stands for. -/
def Sound (c : Cache) : Prop :=
  ∀ e ∈ c.entries, Template.parse e.key.how.dialect e.key.how.mode e.key.format = .ok e.pieces

theorem sound_empty : empty.Sound := by
  intro e impossible
  cases impossible

theorem Sound.of_find? {c : Cache} (sound : c.Sound) {key : Key} {pieces : Template}
    (found : c.find? key = some pieces) :
    Template.parse key.how.dialect key.how.mode key.format = .ok pieces :=
  sound _ (mem_of_find? found)

theorem Sound.add {c : Cache} (sound : c.Sound) {key : Key} {pieces : Template} (limit : Nat)
    (parsed : Template.parse key.how.dialect key.how.mode key.format = .ok pieces) :
    Sound ⟨c.kept limit ++ [⟨key, pieces⟩]⟩ := by
  intro e member
  rcases List.mem_append.mp member with old | new
  · exact sound e (mem_of_mem_kept old)
  · have isNew : e = ⟨key, pieces⟩ := List.mem_singleton.mp new
    rw [isNew]
    exact parsed

/-- A use keeps a cache sound. -/
theorem Sound.serve {c : Cache} (sound : c.Sound) (u : Use) : (c.serve u).2.Sound := by
  cases served : c.serve u with
  | mk answer behind =>
    cases serves served with
    | notText | hit | malformed | stuck => exact sound
    | anew read absent parsed => exact sound.add u.limit parsed

theorem Sound.after {c : Cache} (sound : c.Sound) (uses : List Use) : (c.after uses).Sound := by
  induction uses generalizing c with
  | nil => exact sound
  | cons u more ih => exact ih (sound.serve u)

/-- A sound cache answers as parsing does, if it can take in one entry. -/
theorem Sound.answer_of_room {c : Cache} (sound : c.Sound) {u : Use}
    (room : 0 < u.limit ∨ c.entries ≠ []) :
    (c.serve u).1 = Template.ofValue u.how.dialect u.how.mode u.format := by
  unfold Template.ofValue
  cases served : c.serve u with
  | mk answer behind =>
    cases serves served with
    | notText unread => rw [unread]; rfl
    | hit read found => rw [read]; exact (sound.of_find? found).symm
    | malformed read absent refused => rw [read]; exact refused.symm
    | anew read absent parsed => rw [read]; exact parsed.symm
    | stuck read parsed never nothing =>
      rcases room with positive | some
      · omega
      · exact absurd nothing some

theorem Sound.answer {c : Cache} (sound : c.Sound) {u : Use} (positive : 1 ≤ u.limit) :
    (c.serve u).1 = Template.ofValue u.how.dialect u.how.mode u.format :=
  sound.answer_of_room (.inl positive)

/-- The template of a format that is in the cache comes from there. -/
theorem Sound.serve_of_mem {c : Cache} (sound : c.Sound) {u : Use} {bs : Bytes} {pieces : Template}
    (read : Template.formatBytes u.format = .ok bs)
    (stored : ⟨⟨bs, u.how⟩, pieces⟩ ∈ c.entries) : c.serve u = (.ok pieces, c) := by
  have present : ⟨bs, u.how⟩ ∈ c.keys := List.mem_map_of_mem stored
  cases found : c.find? ⟨bs, u.how⟩ with
  | none => exact absurd present (find?_eq_none_iff.mp found)
  | some pieces' =>
    -- Entries of one key hold one template, since both are what the key stands for.
    have same : pieces' = pieces := by
      have parsed := (sound.of_find? found).symm.trans (sound _ stored)
      exact Except.ok.inj parsed
    simp only [Cache.serve, Cache.parse, read, parseKey, found, same]

theorem serve_of_error {c : Cache} {u : Use} {e : Failure} (failed : (c.serve u).1 = .error e) :
    (c.serve u).2 = c := by
  cases served : c.serve u with
  | mk answer behind =>
    rw [served] at failed
    cases serves served with
    | notText | malformed | stuck => rfl
    | hit | anew => cases failed

/-! ## Transparency -/

/-- **A cache never changes an answer.**  However a cache came about from the empty one, a
use of it with a limit of one or more answers as the same use of an empty cache, which is
what the format stands for.  A template that is there is handed out, and nothing changes;
nor does anything change if there is a failure. -/
theorem cache_transparent {uses : List Use} {u : Use} (positive : 1 ≤ u.limit) :
    ((empty.after uses).serve u).1 = (empty.serve u).1 ∧
      (empty.serve u).1 = Template.ofValue u.how.dialect u.how.mode u.format ∧
      (∀ bs pieces, Template.formatBytes u.format = .ok bs →
        ⟨⟨bs, u.how⟩, pieces⟩ ∈ (empty.after uses).entries →
        (empty.after uses).serve u = (.ok pieces, empty.after uses)) ∧
      ∀ e, ((empty.after uses).serve u).1 = .error e →
        ((empty.after uses).serve u).2 = empty.after uses := by
  have sound : (empty.after uses).Sound := sound_empty.after uses
  have plain := sound_empty.answer positive
  refine ⟨(sound.answer positive).trans plain.symm, plain, ?_, ?_⟩
  · intro bs pieces read stored
    exact sound.serve_of_mem read stored
  · intro e failed
    exact serve_of_error failed

/-- The second format has driven out the first one, and a third one failed. -/
theorem cache_transparent_evicted :
    (empty.after [⟨1, ⟨.modern, .strict⟩, .bytes .fixed [0x61]⟩,
        ⟨1, ⟨.modern, .strict⟩, .bytes .window [0x62]⟩,
        ⟨1, ⟨.modern, .strict⟩, .null⟩]).serve
      ⟨1, ⟨.modern, .strict⟩, .bytes .growable [0x62]⟩ =
        (.ok [.literal [0x62]], ⟨[⟨⟨[0x62], ⟨.modern, .strict⟩⟩, [.literal [0x62]]⟩]⟩) ∧
      ((empty.after [⟨1, ⟨.modern, .strict⟩, .bytes .fixed [0x61]⟩,
        ⟨1, ⟨.modern, .strict⟩, .bytes .window [0x62]⟩,
        ⟨1, ⟨.modern, .strict⟩, .null⟩]).serve
      ⟨1, ⟨.modern, .strict⟩, .bytes .growable [0x61]⟩).1 = .ok [.literal [0x61]] := by
  have parsed (b : UInt8) (plain : b ≠ percentSign) :
      Template.parse .modern .strict [b] = .ok [.literal [b]] :=
    (Template.Reads.byte plain (.nil _)).parseFrom_eq .strict
  have first := parsed 0x61 (by decide)
  have second := parsed 0x62 (by decide)
  have behind : empty.after [⟨1, ⟨.modern, .strict⟩, .bytes .fixed [0x61]⟩,
      ⟨1, ⟨.modern, .strict⟩, .bytes .window [0x62]⟩, ⟨1, ⟨.modern, .strict⟩, .null⟩] =
        ⟨[⟨⟨[0x62], ⟨.modern, .strict⟩⟩, [.literal [0x62]]⟩]⟩ := by
    simp [after, serve, Cache.parse, parseKey, Template.formatBytes, find?, add, empty, first,
      second]
  have transparent (b : UInt8) := @cache_transparent [⟨1, ⟨.modern, .strict⟩, .bytes .fixed [0x61]⟩,
      ⟨1, ⟨.modern, .strict⟩, .bytes .window [0x62]⟩, ⟨1, ⟨.modern, .strict⟩, .null⟩]
      ⟨1, ⟨.modern, .strict⟩, .bytes .growable [b]⟩ (Nat.le_refl 1)
  rw [behind] at transparent ⊢
  constructor
  · exact (transparent 0x62).2.2.1 _ _ rfl List.mem_cons_self
  · exact (transparent 0x61).1.trans ((transparent 0x61).2.1.trans first)

end ExtendedFormat.Cache
