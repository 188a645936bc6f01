/-
# ExtendedFormat.Proofs.Cache.Queue -- what stays in a cache, and in what order

A use admits a key if its format is parsed anew, and successfully (`admits?`).  The key then
goes to the end, and if the limit is reached, the oldest key leaves (`keys_of_admits`).  No
other use changes the cache (`serve_of_admits_none`).

Under one limit, kept throughout, a cache is therefore a queue: it holds the keys that were
admitted last, in the order in which they were, and as many of them as the limit allows
(`keys_are_latest`).
-/
import ExtendedFormat.Proofs.Cache.Transparency
import Mathlib.Data.List.DropRight
import Mathlib.Data.List.Nodup

namespace ExtendedFormat.Cache

set_option autoImplicit false

variable {c : Cache} {u : Use} {key : Key} {limit : Nat}

/-! ## Keys that are admitted -/

/-- The key that a use puts into the cache: the format is text, its key is not there, and it is
parsed without a failure. -/
def admits? (c : Cache) (u : Use) : Option Key :=
  match Template.formatBytes u.format, (c.serve u).1 with
  | .ok bs, .ok _ => if (⟨bs, u.how⟩ : Key) ∈ c.keys then none else some ⟨bs, u.how⟩
  | _, _ => none

/-- The keys that uses made one after another put there, in that order. -/
def admitted (c : Cache) : List Use → List Key
  | [] => []
  | u :: more => (c.admits? u).toList ++ (c.serve u).2.admitted more

theorem admits?_eq_some_iff :
    c.admits? u = some key ↔ ∃ bs pieces, Template.formatBytes u.format = .ok bs ∧
      (c.serve u).1 = .ok pieces ∧ key = ⟨bs, u.how⟩ ∧ key ∉ c.keys := by
  unfold admits?
  constructor
  · intro admits
    split at admits
    · rename_i bs pieces read answer
      split at admits
      · cases admits
      · rename_i absent
        cases admits
        exact ⟨bs, pieces, read, answer, rfl, absent⟩
    · cases admits
  · rintro ⟨bs, pieces, read, answer, rfl, absent⟩
    simp only [read, answer, if_neg absent]

/-- An empty cache admits nothing if it may hold nothing. -/
theorem admits?_empty_zero (never : u.limit = 0) : empty.admits? u = none := by
  rw [Option.eq_none_iff_forall_ne_some]
  intro key admits
  obtain ⟨bs, pieces, read, answer, -, -⟩ := admits?_eq_some_iff.mp admits
  simp only [serve, Cache.parse, read, parseKey] at answer
  split at answer
  · rename_i found
    cases found
  · split at answer
    · cases answer
    · rw [never, add_zero_empty] at answer
      cases answer

/-! ## One use -/

/-- The keys that stay when a new one is to come: if the limit is reached, the oldest leaves. -/
def staying (limit : Nat) (keys : List Key) : List Key :=
  if limit ≤ keys.length then keys.tail else keys

theorem staying_sublist (limit : Nat) (keys : List Key) : (staying limit keys).Sublist keys := by
  unfold staying
  split
  · exact List.tail_sublist keys
  · exact List.Sublist.refl keys

theorem keys_kept (limit : Nat) (c : Cache) (e : Entry) :
    keys ⟨c.kept limit ++ [e]⟩ = staying limit c.keys ++ [e.key] := by
  unfold keys kept staying
  rw [List.map_append, List.length_map]
  split <;> simp

theorem keys_of_admits (admits : c.admits? u = some key) :
    (c.serve u).2.keys = staying u.limit c.keys ++ [key] := by
  obtain ⟨bs, pieces, read, answer, rfl, absent⟩ := admits?_eq_some_iff.mp admits
  cases served : c.serve u with
  | mk result behind =>
    rw [served] at answer
    cases serves served with
    | notText | malformed | stuck => cases answer
    | hit read' found =>
      cases read.symm.trans read'
      rw [find?_eq_none_iff.mpr absent] at found
      cases found
    | anew read' absent' parsed =>
      cases read.symm.trans read'
      exact keys_kept u.limit c _

theorem serve_of_admits_none (quiet : c.admits? u = none) : (c.serve u).2 = c := by
  cases served : c.serve u with
  | mk result behind =>
    cases serves served with
    | notText | hit | malformed | stuck => rfl
    | anew read absent parsed =>
      have admits := admits?_eq_some_iff.mpr ⟨_, _, read, congrArg Prod.fst served, rfl, absent⟩
      rw [quiet] at admits
      cases admits

/-- A format whose key is there is not parsed. -/
theorem serve_of_mem {bs : Bytes} (read : Template.formatBytes u.format = .ok bs)
    (present : ⟨bs, u.how⟩ ∈ c.keys) : (c.serve u).2 = c := by
  apply serve_of_admits_none
  rw [Option.eq_none_iff_forall_ne_some]
  intro key admits
  obtain ⟨bs', -, read', -, rfl, absent⟩ := admits?_eq_some_iff.mp admits
  cases read.symm.trans read'
  exact absent present

/-! ## Distinct keys -/

theorem nodup_empty : empty.keys.Nodup := List.nodup_nil

theorem nodup_serve (distinct : c.keys.Nodup) (u : Use) : (c.serve u).2.keys.Nodup := by
  cases admits : c.admits? u with
  | none => rwa [serve_of_admits_none admits]
  | some key =>
    obtain ⟨-, -, -, -, -, absent⟩ := admits?_eq_some_iff.mp admits
    have stay := staying_sublist u.limit c.keys
    rw [keys_of_admits admits, ← List.concat_eq_append]
    exact List.Nodup.concat (fun member => absent (stay.subset member)) (distinct.sublist stay)

theorem nodup_after (distinct : c.keys.Nodup) (uses : List Use) : (c.after uses).keys.Nodup := by
  induction uses generalizing c with
  | nil => exact distinct
  | cons u more ih => exact ih (nodup_serve distinct u)

/-! ## The latest keys -/

theorem length_rtake_le (limit : Nat) (keys : List Key) : (keys.rtake limit).length ≤ limit := by
  rw [List.rtake, List.length_drop]
  omega

theorem rtake_rtake (keys : List Key) {fewer : Nat} (less : fewer ≤ limit) :
    (keys.rtake limit).rtake fewer = keys.rtake fewer := by
  simp only [List.rtake, List.length_drop, List.drop_drop]
  congr 1
  omega

theorem rtake_min_length (limit : Nat) (keys : List Key) :
    keys.rtake (min limit keys.length) = keys.rtake limit := by
  simp only [List.rtake]
  congr 1
  omega

/-- Of keys that fit, all but the oldest of as many as the limit allows stay. -/
theorem staying_eq_rtake (positive : 1 ≤ limit) {keys : List Key} (fits : keys.length ≤ limit) :
    staying limit keys = keys.rtake (limit - 1) := by
  unfold staying
  rw [List.rtake]
  split
  · rename_i full
    have one : keys.length - (limit - 1) = 1 := by omega
    rw [one, List.drop_one]
  · have none : keys.length - (limit - 1) = 0 := by omega
    rw [none, List.drop_zero]

/-- A cache that holds the latest keys of a log holds the latest ones behind uses under the
same limit, too. -/
theorem keys_after (positive : 1 ≤ limit) {log : List Key} (latest : c.keys = log.rtake limit)
    {uses : List Use} (fixed : ∀ u ∈ uses, u.limit = limit) :
    (c.after uses).keys = (log ++ c.admitted uses).rtake limit := by
  induction uses generalizing c log with
  | nil => rw [admitted, List.append_nil]; exact latest
  | cons u more ih =>
    obtain ⟨now, later⟩ := List.forall_mem_cons.mp fixed
    have behind : (c.serve u).2.keys = (log ++ (c.admits? u).toList).rtake limit := by
      cases admits : c.admits? u with
      | none =>
        rw [serve_of_admits_none admits, latest]
        simp
      | some key =>
        obtain ⟨fewer, rfl⟩ := Nat.exists_eq_add_of_le' positive
        rw [keys_of_admits admits, now, latest,
          staying_eq_rtake positive (length_rtake_le _ log), rtake_rtake log (Nat.sub_le _ 1)]
        exact (List.rtake_concat_succ log fewer key).symm
    rw [admitted, ← List.append_assoc]
    exact ih behind later

/-- **Under a fixed limit a cache is a queue of what was parsed.**  Let all uses of a cache that was
empty have one limit, of one or more.  Its keys are then, the oldest first, the last of those
that were admitted, as many as the limit allows, and they are distinct.  A use that finds its key
there, or fails, changes nothing.  A format that is parsed anew, be it again, goes to the end,
behind the latest of the keys. -/
theorem keys_are_latest (positive : 1 ≤ limit) {uses : List Use}
    (fixed : ∀ u ∈ uses, u.limit = limit) :
    (empty.after uses).keys =
        (empty.admitted uses).rtake (min limit (empty.admitted uses).length) ∧
      (empty.after uses).keys.Nodup ∧
      ∀ u : Use, u.limit = limit →
        (∀ bs, Template.formatBytes u.format = .ok bs → ⟨bs, u.how⟩ ∈ (empty.after uses).keys →
          ((empty.after uses).serve u).2 = empty.after uses) ∧
        (∀ e, ((empty.after uses).serve u).1 = .error e →
          ((empty.after uses).serve u).2 = empty.after uses) ∧
        ∀ bs pieces, Template.formatBytes u.format = .ok bs →
          ⟨bs, u.how⟩ ∉ (empty.after uses).keys →
          ((empty.after uses).serve u).1 = .ok pieces →
          ((empty.after uses).serve u).2.keys =
            (empty.after uses).keys.rtake (limit - 1) ++ [⟨bs, u.how⟩] := by
  have latest : (empty.after uses).keys = (empty.admitted uses).rtake limit :=
    @keys_after empty limit positive [] (List.rtake_nil limit).symm uses fixed
  refine ⟨?_, nodup_after nodup_empty uses, ?_⟩
  · rw [rtake_min_length, latest]
  · rintro u rfl
    refine ⟨fun bs => serve_of_mem, fun e => serve_of_error, ?_⟩
    intro bs pieces read absent answer
    have fits : (empty.after uses).keys.length ≤ u.limit := by
      rw [latest]
      exact length_rtake_le _ _
    rw [keys_of_admits (admits?_eq_some_iff.mpr ⟨bs, pieces, read, answer, rfl, absent⟩),
      staying_eq_rtake positive fits]

/-- A failure and a hit in between, and a format that comes back after it has left. -/
theorem keys_are_latest_again :
    (empty.after [⟨2, ⟨.modern, .strict⟩, .bytes .fixed [0x61]⟩,
        ⟨2, ⟨.modern, .strict⟩, .bytes .fixed [0x62]⟩,
        ⟨2, ⟨.modern, .strict⟩, .bytes .growable [0x61]⟩, ⟨2, ⟨.modern, .strict⟩, .null⟩,
        ⟨2, ⟨.legacy, .strict⟩, .bytes .fixed [0x61]⟩,
        ⟨2, ⟨.modern, .strict⟩, .bytes .window [0x61]⟩]).keys =
      [⟨[0x61], ⟨.legacy, .strict⟩⟩, ⟨[0x61], ⟨.modern, .strict⟩⟩] := by
  have parsed (dialect : Dialect) (b : UInt8) (plain : b ≠ percentSign) :
      Template.parse dialect .strict [b] = .ok [.literal [b]] :=
    (Template.Reads.byte plain (.nil _)).parseFrom_eq .strict
  have first (dialect : Dialect) := parsed dialect 0x61 (by decide)
  have second := parsed .modern 0x62 (by decide)
  have latest := @keys_are_latest 2 (by decide)
    [⟨2, ⟨.modern, .strict⟩, .bytes .fixed [0x61]⟩, ⟨2, ⟨.modern, .strict⟩, .bytes .fixed [0x62]⟩,
      ⟨2, ⟨.modern, .strict⟩, .bytes .growable [0x61]⟩, ⟨2, ⟨.modern, .strict⟩, .null⟩,
      ⟨2, ⟨.legacy, .strict⟩, .bytes .fixed [0x61]⟩,
      ⟨2, ⟨.modern, .strict⟩, .bytes .window [0x61]⟩] (by simp)
  rw [latest.1]
  simp [admitted, admits?, serve, Cache.parse, parseKey, Template.formatBytes, find?, add, empty,
    keys, first, second, List.rtake]

end ExtendedFormat.Cache
