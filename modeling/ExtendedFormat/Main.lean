/-
# ExtendedFormat.Main -- the executable

Reads the files that the command line mentions, runs the tool and passes on what
it prints.
-/
import ExtendedFormat.Command

namespace ExtendedFormat.Main

set_option autoImplicit false

/-- The code of a failure to open or read a file, as 32 bits. -/
def systemCode? : IO.Error → Option UInt32
  | .noFileOrDirectory _ code _ | .permissionDenied _ code _ | .inappropriateType _ code _
  | .resourceExhausted _ code _ | .invalidArgument _ code _ | .otherError code _ => some code
  | _ => none

/-- Why a file could not be read, in the words of the system.  Some failures carry
their code negated. -/
def readFault (e : IO.Error) : String :=
  ((systemCode? e).bind fun code =>
    SystemError.messages.lookup (TwosComplement.signed 32 code.toNat).natAbs).getD (toString e)

/-- A path's bytes, or the reason why there are none. -/
def fetch (path : Text) : IO (Except Failure Bytes) := do
  match path.mapM CodePoint.toChar? with
  | none => pure (.error .loneSurrogate)
  | some cs =>
      try
        let bytes ← IO.FS.readBinFile (String.ofList cs)
        pure (.ok bytes.toList)
      catch e => pure (.error (.file (.unreadable path (readFault e))))

def stream (handle : IO.FS.Stream) : IO Console.Stream := do
  pure ⟨some .utf8, ← handle.isTty⟩

/-- Runs the tool in the current directory. -/
def run (argv : List String) : IO UInt32 := do
  let words := argv.map Text.ofString
  let read ← (Command.paths Environment.plainLocale words).mapM fun path => do
    pure (path, ← fetch path)
  let env := Environment.ofFiles fun path => (read.lookup path).getD (.error .nulInName)
  let out ← IO.getStdout
  let err ← IO.getStderr
  let exit := Command.run words env ⟨← stream out, ← stream err⟩
  err.write (ByteArray.mk exit.errors.toArray)
  out.write (ByteArray.mk exit.output.toArray)
  out.flush
  match exit.status with
  | .ok status => pure status.toUInt32
  | .error _ =>
      err.putStrLn "kprintf: the arguments cannot be processed"
      pure 1

end ExtendedFormat.Main

def main (argv : List String) : IO UInt32 := ExtendedFormat.Main.run argv
