import ForeignCall.Command
import ForeignCall.Sample.Host

/-!
# The program

Runs a command on the files of the machine.
-/

namespace ForeignCall

/-- A path or the text of a file as the machine has it. -/
def machineText (t : Text) : String := String.ofList t

/-- The reason that the machine gave for a failure. Its codes come with either sign. -/
def machineReason (e : IO.Error) : Text :=
  let fault : Option FileFault :=
    match e with
    | .noFileOrDirectory _ _ _ => some .notFound
    | .inappropriateType _ code _ =>
      some (if code = 21 ∨ code = -21 then .isDirectory else .notDirectory)
    | .invalidArgument _ code _ => if code = 36 ∨ code = -36 then some .nameTooLong else none
    | _ => none
  match fault with
  | some fault => fault.message
  | none => (toString e).toList

/-- Runs an action on a file of the machine, unless no file can have this path. -/
def onMachine {α : Type} (path : Text) (action : String → IO (Except Text α)) :
    IO (Except Text α) := do
  if '\x00' ∈ path then return .error FileFault.zeroInPath.message
  try action (machineText path)
  catch e => return .error (machineReason e)

/-- Access to the files of the machine. -/
def machineFiles : FileAccess IO where
  read path := onMachine path fun file => do
    match Utf8.valid? (← IO.FS.readBinFile file).toList with
    | some text => return .ok text
    | none => return .error FileFault.notText.message
  write path text := onMachine path fun file => do
    IO.FS.writeFile file (machineText text)
    return .ok ()

end ForeignCall

open ForeignCall

/-- Runs the command in the arguments. -/
def main (args : List String) : IO UInt32 := do
  let report ← Command.run machineFiles Sample.hostLoader (args.map String.toList)
  (← IO.getStdout).putStr (machineText report.output)
  (← IO.getStderr).putStr (machineText report.complaint)
  return UInt32.ofNat report.code
