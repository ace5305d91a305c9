import EscapeTime.Shell.CommandLine

/-!
# The program

Arguments, standard input and files are handed to the command line, and what it answers is printed.
A session answers line by line.
-/

namespace EscapeTime.Shell

/-- The cause of a failure that the system reports. -/
def faultOf : IO.Error → FileFault
  | .noFileOrDirectory .. => .notFound
  | .inappropriateType _ code _ => if code == 21 then .isADirectory else .notADirectory
  | e => .other (toString e)

/-- What became of an operation of the system. -/
def attempt {α : Type} (action : IO α) : IO (Except FileFault α) := do
  match ← action.toBaseIO with
  | .ok a => return .ok a
  | .error e => return .error (faultOf e)

/-- The files of the system. -/
def systemFiles : FileStore IO IO.FS.Handle where
  read path := attempt do return (← IO.FS.readBinFile path).toList
  create path := attempt (IO.FS.Handle.mk path .write)
  append handle bytes := attempt do
    handle.write ⟨bytes.toArray⟩
    handle.flush

def print (output : Output) : IO Unit := do
  (← IO.getStdout).putStr output.out
  (← IO.getStdout).flush
  (← IO.getStderr).putStr output.err

/-- Reads and answers lines until a line or the input ends the session. -/
partial def converse (input : IO.FS.Stream) (policy : Policy) : IO Unit := do
  let line ← input.getLine
  if line.isEmpty then print farewell
  else
    match turn policy line with
    | .stop => return
    | .next policy output =>
      print output
      converse input policy

end EscapeTime.Shell

open EscapeTime.Shell in
def main (args : List String) : IO UInt32 := do
  match Action.ofArgs args with
  | .session policy =>
    print greeting
    converse (← IO.getStdin) policy
    return 0
  | action =>
    let outcome ← action.perform systemFiles ""
    print outcome.output
    return outcome.exit
