/-
# ExtendedFormat.Folder -- files of one directory

A folder holds files by name and no further folders.  A path is a file's name,
possibly after steps that stay in place; what else a path says is answered the
way the file system would.
-/
import ExtendedFormat.Failure

namespace ExtendedFormat

set_option autoImplicit false

abbrev Folder := List (Text × Bytes)

namespace Folder

def slash : CodePoint := ⟨0x2F, by decide⟩

def dot : Text := [⟨0x2E, by decide⟩]

def dots : Text := dot ++ dot

/-- The steps of a path. -/
def splitPath : Text → List Text
  | [] => [[]]
  | c :: rest =>
      match splitPath rest with
      | [] => [[c]]
      | part :: parts => if c = slash then [] :: part :: parts else (c :: part) :: parts

/-- Longest name and longest path, in bytes. -/
def nameLimit : Nat := 255

def pathLimit : Nat := 4095

/-- A step that stays in place. -/
def stays (step : Text) : Bool := step.isEmpty || decide (step = dot)

/-- The contents of a file, or the reason why it cannot be read.  Nothing follows
a file's name, not even a step that stays. -/
def contents (f : Folder) (path : Text) : Except String Bytes :=
  let steps := splitPath path
  if path.isEmpty then .error "No such file or directory"
  else if pathLimit < (Utf8.encode path).length then .error "File name too long"
  else if steps.all fun step => stays step || decide (step = dots) then .error "Is a directory"
  else
    match steps.dropWhile stays with
    | [] => .error "Is a directory"
    | name :: after =>
        if nameLimit < (Utf8.encode name).length then .error "File name too long"
        else if path.head? = some slash then .error "No such file or directory"
        else
          match f.lookup name with
          | none => .error "No such file or directory"
          | some bs => if after.isEmpty then .ok bs else .error "Not a directory"

/-- Half a surrogate pair, other than the low ones that stand for single bytes of a
name that is no UTF-8. -/
def isUnnameable (c : CodePoint) : Bool :=
  c.isSurrogate && !decide (0xDC80 ≤ c.val ∧ c.val ≤ 0xDCFF)

/-- Reads a file; no path holds a NUL. -/
def read (f : Folder) (path : Text) : Except Failure Bytes :=
  if path.any isUnnameable then .error .loneSurrogate
  else if path.any fun c => c.val == 0 then .error .nulInName
  else
    match f.contents path with
    | .ok bs => .ok bs
    | .error reason => .error (.file (.unreadable path reason))

end Folder

end ExtendedFormat
