/-
# ExtendedFormat.Callbacks -- what a host may supply

Four jobs can be handed to the host: grouping digits, turning UTF-16 code units
into text, and looking up resources and system errors.  A callback that is not
set leaves the first two to their defaults and makes the look-ups find nothing.
Any of them may fail, for whatever cause.
-/
import ExtendedFormat.Failure
import ExtendedFormat.Number.Digits
import ExtendedFormat.Value.Display
import ExtendedFormat.Value.Table

namespace ExtendedFormat

set_option autoImplicit false

structure Callbacks where
  /-- Gets a numeral and whether it begins with a sign. -/
  groupDigits : Option (Text → Bool → Except Failure Text)
  transcode : Option (List UInt16 → Except Failure Value)
  /-- Null means that there is no such resource. -/
  resolveResource : Option (Value → Except Failure Value)
  resolveSystemError : Option (Int → Except Failure Value)

namespace Callbacks

def unset : Callbacks := ⟨none, none, none, none⟩

/-! ## Defaults -/

def defaultGroupDigits (number : Text) (signed : Bool) : Text :=
  Digits.group number signed Digits.defaultSeparator

/-- UTF-8 of code units, with unpaired surrogates repaired. -/
def defaultTranscode (units : List UInt16) : Bytes := Utf8.encode (Utf16.decode units)

/-! ## Use -/

/-- The bytes of a value that has to be text. -/
def textBytes (role : TextRole) (v : Value) : Except Failure Bytes :=
  match v.bytes? with
  | some bs => .ok bs
  | none => .error (.format (.notText role v.typeName))

def group (cb : Callbacks) (number : Text) (signed : Bool) : Except Failure Text :=
  match cb.groupDigits with
  | some f => f number signed
  | none => .ok (defaultGroupDigits number signed)

def transcoded (cb : Callbacks) (units : List UInt16) : Except Failure Bytes :=
  match cb.transcode with
  | some f => (f units).bind (textBytes .transcoded)
  | none => .ok (defaultTranscode units)

/-- What a look-up prints: nothing if it was not set or found nothing.  The key
has to be short enough to be named in a complaint about the result. -/
def found (role : TextRole) (key : Int) : Option (Except Failure Value) → Except Failure Bytes
  | none => .ok []
  | some (.error e) => .error e
  | some (.ok .null) => .ok []
  | some (.ok v) =>
      if (Value.decimal? key).isNone then .error .numeralTooLong else textBytes role v

def resource (cb : Callbacks) (key : Int) : Except Failure Bytes :=
  found (.resource key) key (cb.resolveResource.map fun f => f (.int key))

def systemError (cb : Callbacks) (key : Int) : Except Failure Bytes :=
  found (.systemError key) key (cb.resolveSystemError.map fun f => f key)

/-! ## Tables as look-ups -/

/-- Looks keys up in a table; a value that cannot be a key is refused. -/
def ofTable (t : Table) (key : Value) : Except Failure Value :=
  if key.isKey then .ok ((t.get? key).getD .null) else .error .unsuitable

end Callbacks

end ExtendedFormat
