/-
# ExtendedFormat.Sink -- growing byte buffers

A sink keeps a buffer and counts how many of its bytes are in use.  Those are its
contents; the bytes behind them are scratch space and may hold anything.  Appending
overwrites scratch space, and clearing makes scratch space of everything.

The capacity is the length of the buffer.  It grows in whole blocks and never
shrinks: when more is needed than it has, it becomes the next multiple of the block
size above what is needed, even if that is a multiple itself.  Memory is taken to be
without bound.

Two sinks are alike when their contents are, whatever their capacities.
-/
import ExtendedFormat.Failure
import ExtendedFormat.Text.Quoted
import ExtendedFormat.Value.Basic

namespace ExtendedFormat

set_option autoImplicit false

structure Sink where
  buffer : Bytes
  /-- How many bytes are in use, from the front. -/
  size : Nat
  fits : size ≤ buffer.length

namespace Sink

def blockSize : Nat := 128

def capacity (s : Sink) : Nat := s.buffer.length

def contents (s : Sink) : Bytes := s.buffer.take s.size

theorem length_contents (s : Sink) : s.contents.length = s.size :=
  List.length_take_of_le s.fits

def empty : Sink := ⟨[], 0, Nat.le_refl 0⟩

/-! ## Room -/

/-- The capacity that a buffer of `capacity` bytes has once `needed` fit in. -/
def grown (capacity : Nat) (needed : Int) : Nat :=
  if (capacity : Int) < needed then needed.toNat / blockSize * blockSize + blockSize else capacity

theorem le_grown (capacity : Nat) (needed : Int) : capacity ≤ grown capacity needed := by
  unfold grown blockSize
  split <;> omega

theorem needed_le_grown (capacity needed : Nat) : needed ≤ grown capacity needed := by
  unfold grown blockSize
  split <;> omega

theorem grown_of_le {capacity : Nat} {needed : Int} (room : needed ≤ capacity) :
    grown capacity needed = capacity :=
  if_neg (Int.not_lt.mpr room)

theorem grown_of_lt {capacity : Nat} {needed : Int} (short : capacity < needed) :
    grown capacity needed = (needed.toNat / blockSize + 1) * blockSize := by
  rw [grown, if_pos short, Nat.succ_mul]

/-- Makes room for `n` bytes in all.  Room beyond an index of the machine, for `2 ^ 63` bytes or
more, is given like any other here; a machine gives none and leaves the sink as it was. -/
def need (s : Sink) (n : Int) : Sink :=
  ⟨s.buffer ++ List.replicate (grown s.capacity n - s.capacity) 0, s.size,
    Nat.le_trans s.fits (by simp)⟩

theorem capacity_need (s : Sink) (n : Int) : (s.need n).capacity = grown s.capacity n := by
  have larger := le_grown s.capacity n
  have added : (s.need n).capacity = s.capacity + (grown s.capacity n - s.capacity) := by
    simp [need, capacity]
  omega

theorem contents_need (s : Sink) (n : Int) : (s.need n).contents = s.contents :=
  List.take_append_of_le_length s.fits

/-- Keeps the capacity, and what the buffer holds as scratch space. -/
def clear (s : Sink) : Sink := ⟨s.buffer, 0, Nat.zero_le _⟩

/-! ## Bytes -/

/-- Puts bytes where the first `n` bytes of scratch space are, and takes the first
`n` of them into use. -/
def put (s : Sink) (n : Nat) (stored : Bytes) (enough : n ≤ stored.length) : Sink :=
  ⟨s.contents ++ stored ++ s.buffer.drop (s.size + n), s.size + n, by
    simp only [List.length_append, length_contents]
    omega⟩

theorem contents_put (s : Sink) {n : Nat} {stored : Bytes} (enough : n ≤ stored.length) :
    (s.put n stored enough).contents = s.contents ++ stored.take n := by
  have used : (s.put n stored enough).contents =
      (s.contents ++ (stored ++ s.buffer.drop (s.size + n))).take (s.contents.length + n) := by
    rw [← List.append_assoc, length_contents]
    rfl
  rw [used, List.take_length_add_append, List.take_append_of_le_length enough]

theorem capacity_put (s : Sink) {n : Nat} {stored : Bytes} (enough : n ≤ stored.length) :
    (s.put n stored enough).capacity = s.size + stored.length + (s.capacity - (s.size + n)) := by
  simp only [put, capacity, List.length_append, List.length_drop, length_contents]

def append (s : Sink) (bs : Bytes) : Sink :=
  if bs.isEmpty then s
  else (s.need (s.size + bs.length : Nat)).put bs.length bs (Nat.le_refl _)

theorem append_nil (s : Sink) : s.append [] = s := rfl

theorem append_of_ne_nil (s : Sink) {bs : Bytes} (some : bs ≠ []) :
    s.append bs = (s.need (s.size + bs.length : Nat)).put bs.length bs (Nat.le_refl _) := by
  rw [append, if_neg (by simpa using some)]

theorem contents_append (s : Sink) (bs : Bytes) : (s.append bs).contents = s.contents ++ bs := by
  by_cases nothing : bs = []
  · subst nothing
    rw [append_nil, List.append_nil]
  · rw [append_of_ne_nil s nothing, contents_put, contents_need, List.take_length]

theorem capacity_append (s : Sink) (bs : Bytes) :
    (s.append bs).capacity = grown s.capacity (s.size + bs.length : Nat) := by
  by_cases nothing : bs = []
  · subst nothing
    have room : ((s.size + 0 : Nat) : Int) ≤ s.capacity := Int.ofNat_le.mpr s.fits
    exact (grown_of_le room).symm
  · have room := needed_le_grown s.capacity (s.size + bs.length)
    rw [← capacity_need] at room
    rw [append_of_ne_nil s nothing, capacity_put, ← capacity_need]
    show s.size + bs.length + (_ - (s.size + bs.length)) = _
    omega

def appendAll (s : Sink) (chunks : List Bytes) : Sink := chunks.foldl append s

/-! ## Values -/

/-- The bytes that integers of a sequence stand for. -/
def itemBytes (items : List Value) : Except Failure Bytes :=
  items.mapM fun item =>
    match item.index? with
    | some n => if 0 ≤ n ∧ n < 256 then .ok n.toNat.toUInt8 else .error .notAByte
    | none => .error .unsuitable

/-- Appends elements of a sequence.  Room is made for them before they are looked
at. -/
def appendItems (s : Sink) (items : List Value) : Except Failure Unit × Sink :=
  if items.isEmpty then (.ok (), s)
  else
    match itemBytes items with
    | .ok bs => (.ok (), s.append bs)
    | .error e => (.error e, s.need (s.size + items.length : Nat))

/-- Code units as bytes, low bytes first. -/
def unitBytes (units : List UInt16) : Bytes :=
  units.flatMap fun u => [(u.toNat % 256).toUInt8, (u.toNat / 256).toUInt8]

theorem length_le_unitBytes (units : List UInt16) : units.length ≤ (unitBytes units).length := by
  induction units with
  | nil => exact Nat.le_refl 0
  | cons u more ih =>
    simp only [unitBytes, List.flatMap_cons, List.length_append, List.length_cons] at ih ⊢
    omega

/-- Takes as many bytes of the units into use as there are units; the buffer takes in
all of them. -/
def appendUnits (s : Sink) (units : List UInt16) : Sink :=
  if units.isEmpty then s
  else
    (s.need (s.size + units.length : Nat)).put units.length (unitBytes units)
      (length_le_unitBytes units)

/-- Appends any value that has a length. -/
def appendValue (s : Sink) : Value → Except Failure Unit × Sink
  | .text t =>
      match t.exactBytes with
      | .ok bs => (.ok (), s.append bs)
      | .error e => (.error e, s)
  | .bytes _ bs => (.ok (), s.append bs)
  | .list items => s.appendItems items
  | .tuple items => s.appendItems items
  | .dict entries => s.appendItems (entries.map Prod.fst)
  | .array units => (.ok (), s.appendUnits units)
  | _ => (.error .unsuitable, s)

def needValue (s : Sink) : Value → Except Failure Unit × Sink
  | .int n => (.ok (), s.need n)
  | .bool b => (.ok (), s.need (if b then 1 else 0))
  | .float x => (if x.isAbove s.capacity then .error .unsuitable else .ok (), s)
  | _ => (.error .unsuitable, s)

/-- A new sink; nothing is appended for a value that is null, zero or empty. -/
def ofValue (initial : Value) : Except Failure Sink :=
  if initial.isPresent then
    match empty.appendValue initial with
    | (.ok (), s) => .ok s
    | (.error e, _) => .error e
  else .ok empty

/-! ## Views -/

def toText (s : Sink) : Text := Utf8.decode s.contents

def display (s : Sink) : Text :=
  Text.ofString "sink(" ++ Quoted.bytes s.contents ++ Text.ofString ")"

def equals (s t : Sink) : Bool := s.contents == t.contents

/-- A sink equals a byte string with its contents, if that is no window. -/
def equalsValue (s : Sink) : Value → Bool
  | .bytes .fixed bs | .bytes .growable bs => s.contents == bs
  | _ => false

end Sink

end ExtendedFormat
