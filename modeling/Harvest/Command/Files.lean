/-!
# Files of a Run

A run reads files by their paths, and perhaps the standard input. How that is done is left
open: a `Files m` reads in a monad `m`. `Directory` is a directory that holds files and
nothing else, and reads without effects.
-/

namespace Harvest.Command

/-- Why a file cannot be read. -/
inductive FileFault where
  /-- There is no such file. -/
  | notFound
  /-- Access is not allowed. -/
  | denied
  /-- Something on the way is no directory. -/
  | notDirectory
  /-- It is a directory. -/
  | isDirectory
  /-- A name in the path is too long. -/
  | nameTooLong
  /-- Another fault of the system. -/
  | other (description : String)
  deriving DecidableEq, Repr

/-- The text of a fault. -/
def FileFault.message : FileFault → String
  | .notFound => "No such file or directory (os error 2)"
  | .denied => "Permission denied (os error 13)"
  | .notDirectory => "Not a directory (os error 20)"
  | .isDirectory => "Is a directory (os error 21)"
  | .nameTooLong => "File name too long (os error 36)"
  | .other description => description

/-- Whether a fault says that there is no file. Otherwise there may be one that cannot be
read. -/
def FileFault.isAbsence : FileFault → Bool
  | .notFound | .notDirectory | .isDirectory | .nameTooLong => true
  | .denied | .other _ => false

/-- A way to read files and the standard input. -/
structure Files (m : Type → Type) where
  /-- Reads a file. -/
  read : (path : String) → m (Except FileFault (List UInt8))
  /-- Reads the standard input to its end. -/
  readInput : m (List UInt8)

/-! ### Directories without effects -/

/-- A directory that holds files. -/
structure Directory where
  /-- The name and the content of each file. -/
  files : List (String × List UInt8)

/-- The parts of a path between slashes. -/
def pathParts (path : String) : List (List Char) :=
  path.toList.foldr (fun c parts =>
    if c = '/' then [] :: parts
    else match parts with
      | part :: parts => (c :: part) :: parts
      | [] => [[c]]) [[]]

/-- Whether the part of a path leads nowhere else. -/
def isIdlePart (part : List Char) : Bool :=
  part.isEmpty || part = ['.']

/-- Whether the part of a path leads to the directory around. -/
def isParentPart (part : List Char) : Bool :=
  part = ['.', '.']

/-- Reads what lies at a path outside of the directory, where there are only the
directories around it. -/
def readOutside (parts : List (List Char)) : Except FileFault (List UInt8) :=
  if parts.all fun part => isIdlePart part || isParentPart part then .error .isDirectory
  else .error .notFound

/-- Reads what lies at a path within the directory. A file has nothing below it, not even
when nothing but slashes and points come after its name. -/
def Directory.readParts (d : Directory) : List (List Char) → Except FileFault (List UInt8)
  | [] => .error .isDirectory
  | part :: rest =>
      if isIdlePart part then d.readParts rest
      else if isParentPart part then readOutside rest
      else if 255 < (String.ofList part).utf8ByteSize then .error .nameTooLong
      else
        match d.files.lookup (String.ofList part) with
        | none => .error .notFound
        | some content => if rest.isEmpty then .ok content else .error .notDirectory

/-- Reads the file at a path. The empty path leads to no file, and one that starts with a
slash leads outside. -/
def Directory.read (d : Directory) (path : String) : Except FileFault (List UInt8) :=
  match pathParts path with
  | [[]] => .error .notFound
  | [] :: parts => readOutside parts
  | parts => d.readParts parts

/-- A directory and a standard input, as a way to read files. -/
def Directory.toFiles (d : Directory) (input : List UInt8) : Files Id :=
  ⟨d.read, input⟩

end Harvest.Command
