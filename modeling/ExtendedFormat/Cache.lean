/-
# ExtendedFormat.Cache -- templates kept for reuse

A cache keeps templates by format, dialect and mode, oldest first.  A format that
is found is not parsed again.  One that is parsed anew goes to the end; if the
cache already holds as many entries as its limit, the oldest leaves first.  A
format that cannot be parsed changes nothing.

The limit is not part of the cache, so it may change between uses.  One entry
leaves at a time, and an entry must leave even if there is none: with a limit of
zero an empty cache cannot take in a format.
-/
import ExtendedFormat.Output

namespace ExtendedFormat

set_option autoImplicit false

namespace Cache

structure Key where
  format : Bytes
  how : Reading
deriving DecidableEq

structure Entry where
  key : Key
  pieces : Template

end Cache

structure Cache where
  /-- Oldest first, with distinct keys. -/
  entries : List Cache.Entry

namespace Cache

def empty : Cache := ⟨[]⟩

def defaultLimit : Nat := 1024

def keys (c : Cache) : List Key := c.entries.map Entry.key

def find? (c : Cache) (key : Key) : Option Template :=
  (c.entries.find? fun e => e.key = key).map Entry.pieces

/-- Adds an entry, after the oldest has left if the cache is full. -/
def add (limit : Nat) (c : Cache) (key : Key) (pieces : Template) : Except Failure Cache :=
  if limit ≤ c.entries.length then
    match c.entries with
    | [] => .error .nothingToEvict
    | _ :: younger => .ok ⟨younger ++ [⟨key, pieces⟩]⟩
  else .ok ⟨c.entries ++ [⟨key, pieces⟩]⟩

/-- The template of a format, from the cache or parsed. -/
def parseKey (limit : Nat) (c : Cache) (key : Key) : Except Failure Template × Cache :=
  match c.find? key with
  | some pieces => (.ok pieces, c)
  | none =>
      match Template.parse key.how.dialect key.how.mode key.format with
      | .error e => (.error e, c)
      | .ok pieces =>
          match c.add limit key pieces with
          | .ok c' => (.ok pieces, c')
          | .error e => (.error e, c)

def parse (limit : Nat) (c : Cache) (how : Reading) (format : Value) :
    Except Failure Template × Cache :=
  match Template.formatBytes format with
  | .ok bs => c.parseKey limit ⟨bs, how⟩
  | .error e => (.error e, c)

/-- Whether a template that a format gave is one that the cache held before.  All
empty templates are one. -/
def held (before : Cache) (how : Reading) (format : Value) (pieces : Template) : Bool :=
  let found := match Template.formatBytes format with
    | .ok bs => (before.find? ⟨bs, how⟩).isSome
    | .error _ => false
  found || (pieces.isEmpty && before.entries.any fun e => e.pieces.isEmpty)

end Cache

end ExtendedFormat
