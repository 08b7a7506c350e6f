import RelStore.Shell.Program

/-!
The command line on the files and channels of the system.
-/

namespace RelStore
set_option autoImplicit false

def FileFault.ofError : IO.Error → FileFault
  | .noFileOrDirectory .. => .notFound
  | .inappropriateType _ code _ => if code = 21 then .isADirectory else .notADirectory
  | .invalidArgument (some file) code details =>
    if code = 36 ∨ code = -36 then .nameTooLong
    else .system (toString (IO.Error.invalidArgument (some file) code details))
  | e => .system (toString e)

def attempt {α : Type} (action : IO α) : IO (Except FileFault α) := do
  try
    return .ok (← action)
  catch e =>
    return .error (.ofError e)

/-- An operation on files of the system. There is no way here to wait for the disk, so what the
operations that do so leave undone is left to the system. -/
def performOnSystem : FileOp → IO Unit
  | .create p => IO.FS.writeBinFile p.text .empty
  | .append p content => do
    let file ← IO.FS.Handle.mk p.text .append
    file.write content
    file.flush
  | .rename source target => IO.FS.rename source.text target.text
  | .remove p => IO.FS.removeFile p.text
  | .sync _ | .syncDirectory _ => pure ()

instance : Disk IO where
  read p := do
    match ← attempt (IO.FS.readBinFile p.text) with
    | .ok content => return .ok (some content)
    | .error .notFound | .error .notADirectory | .error .nameTooLong => return .ok none
    | .error fault => return .error fault
  perform op := attempt (performOnSystem op)

def Output.emit : Output → IO Unit
  | .out text => do
    let stdout ← IO.getStdout
    stdout.putStr text
    stdout.flush
  | .err text => IO.eprint text

/-- Reads the lines of the input until one of them or its end ends the session. The answer is the
exit code. -/
partial def Session.interact (s : Session) (input : IO.FS.Stream) : IO Nat := do
  let line ← input.getLine
  if line.isEmpty then
    Shell.farewell.emit
    return 0
  else
    match TypedLine.read? line with
    | none =>
      Shell.unreadable.emit
      return Shell.unreadableCode
    | some text =>
      let (next, shown) ← s.readLine text
      shown.forM Output.emit
      match next with
      | some s => s.interact input
      | none =>
        Shell.farewell.emit
        return 0

end RelStore

/-- The program: its arguments and `LITEDB_PATH` name the checkpoint. -/
def main (arguments : List String) : IO UInt32 := do
  let environment ← IO.getEnv "LITEDB_PATH"
  let writer ← IO.monoNanosNow
  match ← RelStore.Program.start writer environment arguments with
  | .done shown code =>
    shown.emit
    return code.toUInt32
  | .session s =>
    RelStore.Output.emit (.out RelStore.Shell.banner)
    return (← s.interact (← IO.getStdin)).toUInt32
