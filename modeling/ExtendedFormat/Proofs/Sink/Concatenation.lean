/-
# ExtendedFormat.Proofs.Sink.Concatenation -- a sink holds what was appended to it

Appending, making room and clearing, in any order, leave as contents what was appended
since the sink was made or last cleared, end to end (`concatenation`).  Scratch space
behind the contents never comes back, whatever was there before.

`Tracks` is what every operation keeps (`Operation.tracks`): the contents are given bytes,
they fit, and the capacity is whole blocks.  What an operation does to the capacity hangs
on the bytes that it needs in all (`Operation.capacity_on`).
-/
import ExtendedFormat.Sink

namespace ExtendedFormat.Sink

set_option autoImplicit false

/-! ## Operations -/

inductive Operation where
  | appendText (t : Text)
  | appendBytes (kind : BytesKind) (bs : Bytes)
  | need (n : Int)
  | clear

namespace Operation

/-- Carries the operation out. -/
def on (s : Sink) : Operation → Except Failure Unit × Sink
  | .appendText t => s.appendValue (.text t)
  | .appendBytes kind bs => s.appendValue (.bytes kind bs)
  | .need n => s.needValue (.int n)
  | .clear => (.ok (), s.clear)

/-- Half a surrogate pair in a text cannot be appended, nor the text around it. -/
def isRefused : Operation → Bool
  | .appendText t => t.any CodePoint.isSurrogate
  | _ => false

/-- The bytes that are appended; none if the operation is refused. -/
def added : Operation → Bytes
  | .appendText t => (Utf8.encode? t).getD []
  | .appendBytes _ bs => bs
  | .need _ | .clear => []

/-- What is in a sink afterwards that held `bs`. -/
def result (bs : Bytes) : Operation → Bytes
  | .clear => []
  | op => bs ++ op.added

/-- How many bytes the sink has to take in, if `size` are in use. -/
def required (size : Nat) : Operation → Int
  | .need n => n
  | op => (size + op.added.length : Nat)

/-- Whether the operation appends, but no bytes. -/
def isIdle : Operation → Bool
  | .need _ | .clear => false
  | op => op.added.isEmpty

end Operation

/-- Carries the operations out one after another. -/
def onAll (s : Sink) (ops : List Operation) : Sink := ops.foldl (fun s op => (op.on s).2) s

/-- What was appended since the last clearing, behind `initial` if there was none. -/
def concatenation (initial : Bytes) (ops : List Operation) : Bytes :=
  ops.foldl Operation.result initial

/-! ## One operation -/

namespace Operation

/-- A text that is refused adds nothing, so the sink is the same either way. -/
theorem on_appendText (s : Sink) (t : Text) :
    (appendText t).on s =
      (if (appendText t).isRefused then .error .loneSurrogate else .ok (),
        s.append (appendText t).added) := by
  cases lone : t.any CodePoint.isSurrogate <;>
    simp [on, appendValue, isRefused, added, Text.exactBytes, Utf8.encode?, lone, append_nil]

theorem outcome (s : Sink) (op : Operation) :
    (op.on s).1 = if op.isRefused then .error .loneSurrogate else .ok () := by
  cases op with
  | appendText t => rw [on_appendText]
  | appendBytes | need | clear => rfl

theorem contents_on (s : Sink) (op : Operation) : (op.on s).2.contents = op.result s.contents := by
  cases op with
  | appendText t =>
    rw [on_appendText]
    exact contents_append s _
  | appendBytes kind bs => exact contents_append s bs
  | need n => exact (contents_need s n).trans (List.append_nil _).symm
  | clear => rfl

theorem capacity_on (s : Sink) (op : Operation) :
    (op.on s).2.capacity = grown s.capacity (op.required s.size) := by
  cases op with
  | appendText t =>
    rw [on_appendText]
    exact capacity_append s _
  | appendBytes kind bs => exact capacity_append s bs
  | need n => exact capacity_need s n
  | clear =>
    have room : ((s.size + 0 : Nat) : Int) ≤ s.capacity := Int.ofNat_le.mpr s.fits
    exact (grown_of_le room).symm

theorem added_of_isRefused {op : Operation} (refused : op.isRefused = true) : op.added = [] := by
  cases op with
  | appendText t =>
    have lone : t.any CodePoint.isSurrogate = true := refused
    simp only [added, Utf8.encode?, if_pos lone, Option.getD_none]
  | appendBytes | need | clear => cases refused

theorem isIdle_of_isRefused {op : Operation} (refused : op.isRefused = true) :
    op.isIdle = true := by
  have nothing := added_of_isRefused refused
  cases op with
  | appendText t => simp only [isIdle, nothing, List.isEmpty_nil]
  | appendBytes | need | clear => cases refused

theorem on_of_isIdle (s : Sink) {op : Operation} (idle : op.isIdle = true) : (op.on s).2 = s := by
  cases op with
  | appendText t =>
    have nothing : (appendText t).added = [] := List.isEmpty_iff.mp idle
    rw [on_appendText, nothing, append_nil]
  | appendBytes kind bs =>
    have nothing : bs = [] := List.isEmpty_iff.mp idle
    subst nothing
    rfl
  | need | clear => cases idle

/-- What an operation does to a sink, its contents apart. -/
structure Effect (s : Sink) (op : Operation) : Prop where
  outcome : (op.on s).1 = if op.isRefused then .error .loneSurrogate else .ok ()
  grows : s.capacity ≤ (op.on s).2.capacity
  /-- Capacity that suffices stays; else it becomes the next multiple above what is required. -/
  capacity : ((op.on s).2.capacity : Int) =
    if op.required s.size ≤ s.capacity then (s.capacity : Int)
    else (op.required s.size / blockSize + 1) * blockSize
  idle : op.isIdle = true → (op.on s).2 = s
  refused : op.isRefused = true → (op.on s).2 = s

theorem effect (s : Sink) (op : Operation) : Effect s op := by
  constructor
  · exact op.outcome s
  · rw [op.capacity_on]
    exact le_grown _ _
  · rw [op.capacity_on]
    by_cases room : op.required s.size ≤ s.capacity
    · rw [if_pos room, grown_of_le room]
    · have short : (s.capacity : Int) < op.required s.size := Int.not_le.mp room
      have positive : ((op.required s.size).toNat : Int) = op.required s.size :=
        Int.toNat_of_nonneg (Int.le_trans (Int.natCast_nonneg _) (Int.le_of_lt short))
      rw [if_neg room, grown_of_lt short]
      push_cast
      rw [positive]
  · exact on_of_isIdle s
  · exact fun refused => on_of_isIdle s (isIdle_of_isRefused refused)

end Operation

/-! ## Runs -/

/-- The sink holds `bs`, and they fit into whole blocks. -/
structure Tracks (s : Sink) (bs : Bytes) : Prop where
  contents : s.contents = bs
  size : s.size = bs.length
  fits : s.size ≤ s.capacity
  blocks : blockSize ∣ s.capacity

theorem tracks_empty : empty.Tracks [] := ⟨rfl, rfl, Nat.le_refl 0, Nat.dvd_zero _⟩

theorem blockSize_dvd_grown {capacity : Nat} (blocks : blockSize ∣ capacity) (needed : Int) :
    blockSize ∣ grown capacity needed := by
  by_cases short : (capacity : Int) < needed
  · rw [grown_of_lt short]
    exact Nat.dvd_mul_left _ _
  · rw [grown_of_le (Int.not_lt.mp short)]
    exact blocks

theorem Operation.tracks {s : Sink} {bs : Bytes} (tracks : s.Tracks bs) (op : Operation) :
    (op.on s).2.Tracks (op.result bs) := by
  have holds : (op.on s).2.contents = op.result bs := by rw [op.contents_on, tracks.contents]
  constructor
  · exact holds
  · rw [← holds, length_contents]
  · exact (op.on s).2.fits
  · rw [op.capacity_on]
    exact blockSize_dvd_grown tracks.blocks _

theorem tracks_onAll {s : Sink} {bs : Bytes} (tracks : s.Tracks bs) (ops : List Operation) :
    (s.onAll ops).Tracks (concatenation bs ops) := by
  induction ops generalizing s bs with
  | nil => exact tracks
  | cons op more ih => exact ih (op.tracks tracks)

/-- A new sink is an empty one that its initial bytes were appended to. -/
theorem ofValue_bytes (kind : BytesKind) (initial : Bytes) :
    ofValue (.bytes kind initial) = .ok (empty.append initial) := by
  cases initial with
  | nil => rfl
  | cons b more => rfl

theorem tracks_initial (initial : Bytes) : (empty.append initial).Tracks initial :=
  (Operation.appendBytes .fixed initial).tracks tracks_empty

/-- Sinks compare equal by what they hold. -/
theorem Tracks.equals_iff {s t : Sink} {bs cs : Bytes} (left : s.Tracks bs) (right : t.Tracks cs) :
    s.equals t = true ↔ bs = cs := by
  rw [equals, beq_iff_eq, left.contents, right.contents]

/-- **A sink holds the concatenation of what was appended to it.**  After any operations on
a sink made from any bytes, its contents are what was appended since it was made or last
cleared; they fit, and the capacity is whole blocks.  It never shrinks, and grows just if
the next operation requires more, to the next multiple of the block size above that.
Appending nothing changes nothing, and so does a text that is refused for half a surrogate
pair.  Two sinks are alike just if the same was appended. -/
theorem sink_concatenates (kind : BytesKind) (initial : Bytes) (ops : List Operation) :
    ∃ made, ofValue (.bytes kind initial) = .ok made ∧
      made.capacity = (if initial = [] then 0 else (initial.length / blockSize + 1) * blockSize) ∧
      (made.onAll ops).Tracks (concatenation initial ops) ∧
      (∀ op, Operation.Effect (made.onAll ops) op) ∧
      ∀ kind' initial' ops', ∃ made', ofValue (.bytes kind' initial') = .ok made' ∧
        ((made.onAll ops).equals (made'.onAll ops') = true ↔
          concatenation initial ops = concatenation initial' ops') := by
  have tracks := tracks_onAll (tracks_initial initial) ops
  refine ⟨empty.append initial, ofValue_bytes kind initial, ?_, tracks, ?_, ?_⟩
  · cases initial with
    | nil => rfl
    | cons b more =>
      rw [capacity_append, if_neg (List.cons_ne_nil b more)]
      show grown 0 (0 + (b :: more).length : Nat) = _
      rw [Nat.zero_add]
      exact grown_of_lt (Int.natCast_pos.mpr (Nat.succ_pos _))
  · exact fun op => op.effect _
  · intro kind' initial' ops'
    have tracks' := tracks_onAll (tracks_initial initial') ops'
    exact ⟨empty.append initial', ofValue_bytes kind' initial', tracks.equals_iff tracks'⟩

/-- The bytes that were cleared away are still in the buffer, but not in the contents. -/
example : (((empty.append [1, 2, 3]).clear.append [4]).buffer.take 3,
    ((empty.append [1, 2, 3]).clear.append [4]).contents) = ([4, 2, 3], [4]) := by decide

/-- A whole block is not enough room for itself. -/
example : grown 0 128 = 256 ∧ grown 0 127 = 128 := by decide

end ExtendedFormat.Sink
