/-!
# Arguments of the Command

`grape PATTERN [PAGE]` with the options `--config FILE` (or `-c`), `--single` and
`--compact`. The value of `-c` may be attached to it, with or without a sign of equality;
that of `--config` after a sign of equality. Every option may be given once. After `--` all
arguments are positional.

Arguments are read from left to right. A request for help or for the version is answered as
soon as it is met, unless something before it was wrong.
-/

namespace Harvest.Command

/-- What the command is asked to extract. -/
structure Invocation where
  /-- The file of the pattern. -/
  pattern : String
  /-- The file of the page; the standard input if there is none. -/
  page : Option String
  /-- The configuration file. -/
  config : Option String
  /-- Whether all matches go to one record. -/
  single : Bool
  /-- Whether the output is on one line. -/
  compact : Bool
  deriving DecidableEq, Repr

/-- What the command is asked for. -/
inductive Request where
  /-- To extract records. -/
  | extract (i : Invocation)
  /-- To explain itself. -/
  | help
  /-- To name its version. -/
  | version
  deriving DecidableEq, Repr

/-- Why arguments make no request. -/
inductive UsageFault where
  /-- There are no arguments. -/
  | noArguments
  /-- An option is unknown. -/
  | unknownOption (argument : String)
  /-- An option lacks its value. -/
  | missingValue (option : String)
  /-- An option has a value that it does not take. -/
  | unexpectedValue (option : String)
  /-- An option is given twice. -/
  | repeatedOption (option : String)
  /-- There are more than two positional arguments. -/
  | unexpectedArgument (argument : String)
  /-- The pattern is not named. -/
  | missingPattern
  deriving DecidableEq, Repr

/-- The text of a fault. -/
def UsageFault.message : UsageFault → String
  | .noArguments => "the pattern is required"
  | .unknownOption argument => s!"unexpected argument '{argument}'"
  | .missingValue option => s!"a value is required for '{option}'"
  | .unexpectedValue option => s!"'{option}' takes no value"
  | .repeatedOption option => s!"'{option}' cannot be used multiple times"
  | .unexpectedArgument argument => s!"unexpected argument '{argument}'"
  | .missingPattern => "the pattern is required"

/-- An invocation that is being read. -/
structure Draft where
  /-- The positional arguments, at most two. -/
  positional : List String := []
  /-- The configuration file. -/
  config : Option String := none
  /-- Whether `--single` is given. -/
  single : Bool := false
  /-- Whether `--compact` is given. -/
  compact : Bool := false
  /-- Whether the next argument is to be the configuration file. -/
  awaitsConfig : Bool := false

namespace Draft

/-- Adds a positional argument. -/
def addPositional (d : Draft) (argument : String) : Except UsageFault Draft :=
  if d.positional.length < 2 then .ok { d with positional := d.positional ++ [argument] }
  else .error (.unexpectedArgument argument)

/-- Names the configuration file. -/
def setConfig (d : Draft) (file : String) : Except UsageFault Draft :=
  if d.config.isSome then .error (.repeatedOption "--config")
  else .ok { d with config := some file, awaitsConfig := false }

/-- Asks for a single record. -/
def setSingle (d : Draft) : Except UsageFault Draft :=
  if d.single then .error (.repeatedOption "--single") else .ok { d with single := true }

/-- Asks for output on one line. -/
def setCompact (d : Draft) : Except UsageFault Draft :=
  if d.compact then .error (.repeatedOption "--compact") else .ok { d with compact := true }

/-- Checks that no value is missing. -/
def settled (d : Draft) : Except UsageFault Unit :=
  if d.awaitsConfig then .error (.missingValue "--config") else .ok ()

/-- The request of a finished invocation. -/
def finish (d : Draft) : Except UsageFault Request := do
  d.settled
  match d.positional with
  | [] => throw .missingPattern
  | pattern :: rest =>
      pure (.extract ⟨pattern, rest.head?, d.config, d.single, d.compact⟩)

/-- Reads positional arguments. -/
def readPositionals (d : Draft) : List String → Except UsageFault Request
  | [] => d.finish
  | argument :: rest => do (← d.addPositional argument).readPositionals rest

end Draft

/-! ### Options -/

/-- What an argument is by its form. -/
inductive Form where
  /-- A positional argument, or the value of an option. -/
  | plain
  /-- The end of all options. -/
  | endOfOptions
  /-- An option with a long name, perhaps with a value after a sign of equality. -/
  | long (name : String) (value : Option String)
  /-- An option with a name of one letter, and what is attached to it. -/
  | short (letter : Char) (attached : List Char)

/-- The form of an argument. A single dash is plain. -/
def formOf (argument : String) : Form :=
  match argument.toList with
  | ['-', '-'] => .endOfOptions
  | '-' :: '-' :: cs =>
      let name := String.ofList (cs.takeWhile (· ≠ '='))
      match cs.dropWhile (· ≠ '=') with
      | [] => .long name none
      | _ :: value => .long name (some (String.ofList value))
  | '-' :: letter :: attached => .short letter attached
  | _ => .plain

/-- What an option leads to: an answer at once, or more arguments. -/
inductive Effect where
  /-- The request is known. -/
  | answer (r : Request)
  /-- There may be more arguments. -/
  | proceed (d : Draft)

/-- Reads an option of one letter. The letters that take no value are answered at once, so
nothing that is attached to them is looked at. -/
def readShort (d : Draft) (letter : Char) (attached : List Char) : Except UsageFault Effect :=
  if letter = 'h' then .ok (.answer .help)
  else if letter = 'V' then .ok (.answer .version)
  else if letter = 'c' then
    match attached with
    | [] => .ok (.proceed { d with awaitsConfig := true })
    | '=' :: value => (d.setConfig (String.ofList value)).map .proceed
    | value => (d.setConfig (String.ofList value)).map .proceed
  else .error (.unknownOption (String.ofList ['-', letter]))

/-- Reads an option with a long name. -/
def readLong (d : Draft) (name : String) (value : Option String) : Except UsageFault Effect :=
  let option := "--" ++ name
  if name = "config" then
    match value with
    | some value => (d.setConfig value).map .proceed
    | none => .ok (.proceed { d with awaitsConfig := true })
  else if ["single", "compact", "help", "version"].contains name then
    if value.isSome then .error (.unexpectedValue option)
    else if name = "help" then .ok (.answer .help)
    else if name = "version" then .ok (.answer .version)
    else if name = "single" then d.setSingle.map .proceed
    else d.setCompact.map .proceed
  else .error (.unknownOption option)

/-- Reads an option. No option can be the value of another one. -/
def readOption (d : Draft) (form : Form) : Except UsageFault Effect := do
  d.settled
  match form with
  | .long name value => readLong d name value
  | .short letter attached => readShort d letter attached
  | _ => pure (.proceed d)

/-- Reads arguments. -/
def readArguments (d : Draft) : List String → Except UsageFault Request
  | [] => d.finish
  | argument :: rest =>
      match formOf argument with
      | .plain => do
          let d ← if d.awaitsConfig then d.setConfig argument else d.addPositional argument
          readArguments d rest
      | .endOfOptions => do
          d.settled
          d.readPositionals rest
      | form => do
          match ← readOption d form with
          | .answer request => pure request
          | .proceed d => readArguments d rest

/-- The request that arguments make. -/
def Request.ofArguments (arguments : List String) : Except UsageFault Request :=
  if arguments.isEmpty then .error .noArguments else readArguments {} arguments

end Harvest.Command
