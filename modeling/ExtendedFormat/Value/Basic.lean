/-
# ExtendedFormat.Value.Basic -- argument values

An argument carries its own type, so `Value` has one constructor per kind of
value that a host may pass.  Directives look at a value through a few views, and
at nothing else:

* `index?`, the integer that a value is or stands for;
* `bytes?`, the bytes of text or of a byte string;
* `units?`, the UTF-16 code units of a sequence of integers;
* `typeName`, which error messages quote.
-/
import ExtendedFormat.Number.Binary64
import ExtendedFormat.Number.TwosComplement
import ExtendedFormat.Text.Utf8
import ExtendedFormat.Text.Utf16

namespace ExtendedFormat

set_option autoImplicit false

/-- Byte strings come fixed, growable, or as a window on other bytes. -/
inductive BytesKind where
  | fixed
  | growable
  | window
deriving DecidableEq

inductive Value where
  | null
  | bool (b : Bool)
  | int (n : Int)
  | float (x : Binary64)
  | text (t : Text)
  | bytes (kind : BytesKind) (bs : Bytes)
  | list (items : List Value)
  | tuple (items : List Value)
  /-- An array of 16-bit integers. -/
  | array (units : List UInt16)
  /-- Keys are distinct and keep the order in which they came. -/
  | dict (entries : List (Value × Value))
  /-- Not an integer, but it stands for one wherever an integer is asked for. -/
  | handle (n : Int)
deriving Inhabited

namespace Value

def typeName : Value → String
  | .null => "NoneType"
  | .bool _ => "bool"
  | .int _ => "int"
  | .float _ => "float"
  | .text _ => "str"
  | .bytes .fixed _ => "bytes"
  | .bytes .growable _ => "bytearray"
  | .bytes .window _ => "memoryview"
  | .list _ => "list"
  | .tuple _ => "tuple"
  | .array _ => "array"
  | .dict _ => "dict"
  | .handle _ => "Handle"

/-- The integer that the value is or stands for. -/
def index? : Value → Option Int
  | .bool b => some (if b then 1 else 0)
  | .int n => some n
  | .handle n => some n
  | _ => none

/-- Text in UTF-8, with a question mark for half a surrogate pair, or a byte
string as it is. -/
def bytes? : Value → Option Bytes
  | .text t => some (Utf8.encode t)
  | .bytes _ bs => some bs
  | _ => none

/-- What iterating over the value yields.  Text and the two kinds of byte string
that are not windows are left to the caller. -/
def elements? : Value → Option (List Value)
  | .list items => some items
  | .tuple items => some items
  | .array units => some (units.map fun u => .int u.toNat)
  | .dict entries => some (entries.map Prod.fst)
  | .bytes .window bs => some (bs.map fun b => .int b.toNat)
  | _ => none

/-- The low sixteen bits of an integer. -/
def codeUnit (n : Int) : UInt16 := (TwosComplement.low 16 n).toUInt16

/-- Code units of a text, or of a sequence of integers. -/
def units? : Value → Option (List UInt16)
  | .text t => some (Utf16.units t)
  | v => v.elements?.bind fun items => items.mapM fun item => item.index?.map codeUnit

/-- Whether the value counts as present: zero, emptiness and null do not. -/
def isPresent : Value → Bool
  | .null => false
  | .bool b => b
  | .int n => decide (n ≠ 0)
  | .float x => !x.isZero
  | .text t => !t.isEmpty
  | .bytes _ bs => !bs.isEmpty
  | .list items => !items.isEmpty
  | .tuple items => !items.isEmpty
  | .array units => !units.isEmpty
  | .dict entries => !entries.isEmpty
  | .handle _ => true

end Value

end ExtendedFormat
