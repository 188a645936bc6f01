/-
# ExtendedFormat.Value.Table -- tables keyed by values

A table is a list of entries with distinct keys, oldest first.  Keys are compared
by value across numeric kinds: a boolean equals zero or one, and a double equals
the integer it stands for.  A NaN and a handle equal no key.  Writing to a key
that is present replaces its value and keeps its place.

Only some kinds of value can be keys (`Value.isKey`): lists, tables, arrays and
growable byte strings cannot.
-/
import ExtendedFormat.Value.Basic

namespace ExtendedFormat

set_option autoImplicit false

namespace Value

mutual

def isKey : Value → Bool
  | .list _ | .dict _ | .array _ | .bytes .growable _ => false
  | .tuple items => areKeys items
  | _ => true

def areKeys : List Value → Bool
  | [] => true
  | v :: rest => isKey v && areKeys rest

end

/-- A number as a key: an integer, or the bits of a double that is none. -/
def numericKey : Value → Option (Int ⊕ UInt64)
  | .bool b => some (.inl (if b then 1 else 0))
  | .int n => some (.inl n)
  | .float x =>
      if x.isNaN then none
      else match x.toInt? with
        | some n => some (.inl n)
        | none => some (.inr x.bits)
  | _ => none

mutual

def sameKey : Value → Value → Bool
  | .null, .null => true
  | .text a, .text b => decide (a = b)
  | .bytes _ a, .bytes _ b => decide (a = b)
  | .tuple a, .tuple b => sameKeys a b
  | a, b =>
      match numericKey a, numericKey b with
      | some m, some n => decide (m = n)
      | _, _ => false

def sameKeys : List Value → List Value → Bool
  | [], [] => true
  | v :: vs, w :: ws => sameKey v w && sameKeys vs ws
  | _, _ => false

end

end Value

abbrev Table := List (Value × Value)

namespace Table

def get? (t : Table) (key : Value) : Option Value :=
  (t.find? fun e => e.1.sameKey key).map Prod.snd

def insert (t : Table) (key value : Value) : Table :=
  if t.any fun e => e.1.sameKey key then
    t.map fun e => if e.1.sameKey key then (e.1, value) else e
  else t ++ [(key, value)]

/-- The table that holds the entries written in order. -/
def ofEntries (entries : List (Value × Value)) : Table :=
  entries.foldl (fun t e => Table.insert t e.1 e.2) []

end Table

end ExtendedFormat
