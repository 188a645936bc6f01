/-
# ExtendedFormat.Argument -- arguments given as JSON

An object with a `data` member stands for its data, and with a `length` as well
for a view of that length; a list of data becomes a tuple.  A double without a
fraction is an integer.  Only the outermost value is looked at.

An argument on the command line that is not JSON is text.  What reads JSON is a
parameter here.
-/
import ExtendedFormat.Failure
import ExtendedFormat.Json

namespace ExtendedFormat

set_option autoImplicit false

/-- The failure where JSON is required. -/
def JsonError.failure : JsonError → Failure
  | .malformed => .file .invalidJson
  | .numeralTooLong => .numeralTooLong
  | .nestedTooDeep => .nestedTooDeep

namespace Argument

def dataKey : Value := .text (Text.ofString "data")

def lengthKey : Value := .text (Text.ofString "length")

/-- Lists are handed on as tuples. -/
def dataOf : Value → Value
  | .list items => .tuple items
  | v => v

/-- What an object with data and possibly a length stands for. -/
def view (data : Value) (length : Option Value) : Value :=
  match data, length with
  | .null, _ => .null
  | data, none => dataOf data
  | data, some n => .tuple [dataOf data, n]

def ofJson (v : Value) : Value :=
  match v with
  | .dict entries =>
      match Table.get? entries dataKey with
      | some data => view data (Table.get? entries lengthKey)
      | none => v
  | .float x =>
      match x.toInt? with
      | some n => .int n
      | none => v
  | _ => v

/-- An argument as it is written on the command line. -/
def ofText (json : Text → Except JsonError Value) (t : Text) : Except Failure Value :=
  match json t with
  | .ok v => .ok (ofJson v)
  | .error .malformed => .ok (.text t)
  | .error e => .error e.failure

end Argument

end ExtendedFormat
