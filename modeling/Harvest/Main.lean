import Harvest.Command.Run

/-!
# The Command

Runs the command with the files and the standard streams of the system.
-/

namespace Harvest.Command

/-- The number of a fault of the system, which may be given with either sign. -/
def systemCode (code : UInt32) : Nat :=
  min code.toNat (0 - code).toNat

/-- The fault with a number. -/
def FileFault.ofCode (code : UInt32) (description : String) : FileFault :=
  match systemCode code with
  | 2 => .notFound
  | 13 => .denied
  | 20 => .notDirectory
  | 21 => .isDirectory
  | 36 => .nameTooLong
  | n => .other s!"{description} (os error {n})"

/-- Why the system does not read a file. -/
def FileFault.ofError : IO.Error → FileFault
  | .noFileOrDirectory _ code description => .ofCode code description
  | .permissionDenied _ code description => .ofCode code description
  | .inappropriateType _ code description => .ofCode code description
  | .invalidArgument _ code description => .ofCode code description
  | e => .other (toString e)

/-- The files of the system and its standard input. -/
def systemFiles : Files IO where
  read path := do
    match ← (IO.FS.readBinFile path).toBaseIO with
    | .ok bytes => pure (.ok bytes.toList)
    | .error e => pure (.error (.ofError e))
  readInput := do
    let bytes ← (← IO.getStdin).readBinToEnd
    pure bytes.toList

end Harvest.Command

/-- Runs the command. -/
def main (arguments : List String) : IO UInt32 := do
  let outcome ← Harvest.Command.answer Harvest.Command.systemFiles arguments
  IO.print outcome.output
  if let some error := outcome.error then
    IO.eprintln error
  pure (UInt32.ofNat outcome.status)
