import Harvest.Command.Arguments
import Harvest.Command.Files
import Harvest.Extraction.Basic
import Harvest.Json
import Harvest.Pattern.Compile
import Harvest.Settings.Sources

/-!
# A Run of the Command

A run goes through its stages in a fixed order and stops at the first one that fails: the
settings, the pattern, the configured filters, the page, the extraction. It writes the
records, or nothing but the error.

An error is written with all of its causes. What settings, selectors and regular expressions
are refused for is said in the words of their readers, which are given from outside.

* `Invocation.run` carries out an extraction.
* `answer` carries out whatever the arguments ask for.
-/

namespace Harvest.Command

open Extraction (FindError)
open Html (Document)
open Record (RecordType)

/-! ### Errors -/

/-- What the reader of settings says about those of an invocation that cannot be built. The words
depend on the invocation and on what is read as its configuration file, if one is named. -/
class SettingsDiagnostics where
  /-- The words about the settings. -/
  words : (i : Invocation) → (config : Option (Except FileFault (List UInt8))) → String

/-- No words at all, where none are given. -/
instance (priority := low) SettingsDiagnostics.silent : SettingsDiagnostics :=
  ⟨fun _ _ => ""⟩

/-- What stops a run. -/
inductive RunError where
  /-- There are no settings, for a cause in the words of their reader. -/
  | settings (fault : Settings.Fault) (words : String)
  /-- The pattern cannot be read. -/
  | patternFile (path : String) (fault : FileFault)
  /-- The pattern is not UTF-8. -/
  | patternText (path : String)
  /-- The pattern does not compile. -/
  | pattern (path : String) (error : Pattern.CompileError)
  /-- The configured filters make no registry. -/
  | filters (fault : Filter.ConfiguredFault)
  /-- The page cannot be read. -/
  | page (path : String) (fault : FileFault)
  /-- The extraction fails. -/
  | extraction (error : FindError)

/-- The text of an error and those of its causes, the outermost first. The message of a filter
or of an assignment names its cause, which comes once more after it. What other readers say is
carried by the error. -/
def RunError.chain : RunError → List String
  | .settings _ words => ["loading configuration", words]
  | .patternFile path fault => [s!"reading pattern {path}", fault.message]
  | .patternText path => [s!"reading pattern {path}", "stream did not contain valid UTF-8"]
  | .pattern path error => [s!"compiling pattern {path}", error.message]
  | .filters fault =>
      match fault with
      | @Filter.ConfiguredFault.pattern _ _ words => [fault.message, words]
      | .name _ => [fault.message]
  | .page path fault =>
      let activity := if fault = .isDirectory then "reading" else "opening"
      [s!"{activity} {path}", fault.message]
  | .extraction error =>
      match error with
      | .assign _ cause => [error.message, cause.message]
      | _ => [error.message]

/-- The text of an error, with its causes. Those without words are left out. -/
def RunError.message (e : RunError) : String :=
  messageOfChain e.chain

/-- What a run leaves behind. -/
structure Outcome where
  /-- The exit status. -/
  status : Nat
  /-- What is written to the standard output. -/
  output : String
  /-- What is written to the standard error, if anything. -/
  error : Option String
  deriving DecidableEq, Repr

/-! ### Settings -/

/-- The path of a configuration file whose name lacks its ending. Slashes and points after the
name do not count, and a path without a name of a file has none. -/
def withEnding? (path : String) : Option String :=
  match (pathParts path).reverse.dropWhile isIdlePart with
  | [] => none
  | name :: parents =>
      if isParentPart name then none
      else some (String.ofList (['/'].intercalate (name :: parents).reverse) ++ ".toml")

/-- The text of a file, if it is there and is UTF-8. -/
def textOf? (content : Except FileFault (List UInt8)) : Option String :=
  match content with
  | .ok bytes => (Text.Utf8.decode? bytes).map String.ofList
  | .error _ => none

/-- Reads a configuration file. If there is no file at the path, the one with the ending of
configuration files is taken. -/
def readConfig {m : Type → Type} [Monad m] (files : Files m) (path : String) :
    m (Except FileFault (List UInt8)) := do
  match ← files.read path with
  | .ok bytes => return .ok bytes
  | .error fault =>
      match if fault.isAbsence then withEnding? path else none with
      | some longer => files.read longer
      | none => return .error fault

/-- The sources of the settings of an invocation: its configuration file, then what its
flags say. -/
def sources (i : Invocation) (config : Option (Option String)) : Settings.Sources :=
  let files := match config with
    | none => []
    | some content => [content]
  let single := if i.single then [(⟨"output", [.key "mode"]⟩, .text "single")] else []
  let compact := if i.compact then [(⟨"output", [.key "pretty"]⟩, .boolean false)] else []
  ⟨files, single ++ compact⟩

/-! ### Stages -/

/-- The pattern in a file's content. -/
def patternOf [Diagnostics] (path : String) (content : Except FileFault (List UInt8)) :
    Except RunError Pattern :=
  match content with
  | .error fault => .error (.patternFile path fault)
  | .ok bytes =>
      match Text.Utf8.decode? bytes with
      | none => .error (.patternText path)
      | some cs => (Pattern.compile (String.ofList cs)).mapError (.pattern path)

/-- The pattern with the configured filters. -/
def withFilters [Diagnostics] (settings : Settings) (p : Pattern) : Except RunError Pattern :=
  match Filter.Registry.ofConfigured settings.filters with
  | .ok filters => .ok (p.registerAll filters)
  | .error fault => .error (.filters fault)

/-- A record of names and texts. -/
def rowJson (row : Dictionary String) : Json :=
  .object (row.entries.map fun (name, text) => (name, .text text))

/-- What an extraction finds in a document. -/
def extract (mode : OutputMode) (p : Pattern) (document : Document) : Except FindError Json :=
  match mode with
  | .single =>
      match p.find document .dynamic .empty with
      | (.ok (), row) => .ok (rowJson row)
      | (.error e, _) => .error e
  | .list =>
      match p.findAll document .dynamic [] with
      | (.ok (), rows) => .ok (.list (rows.map rowJson))
      | (.error e, _) => .error e

/-- The output of an extraction, with the end of its last line. -/
def outputOf (settings : Settings) (p : Pattern) (page : List UInt8) :
    Except RunError String :=
  match extract settings.mode p (.ofBytes page) with
  | .ok json => .ok (json.render settings.pretty ++ "\n")
  | .error e => .error (.extraction e)

/-- The content of the page. -/
def readPage {m : Type → Type} [Monad m] (files : Files m) :
    Option String → m (Except RunError (List UInt8))
  | none => do return .ok (← files.readInput)
  | some path => do return (← files.read path).mapError (.page path)

/-! ### Runs -/

/-- Carries out an extraction: its output, or the error of the first stage that fails.
Nothing is read before the stages before it have succeeded. -/
def Invocation.run [Diagnostics] [SettingsDiagnostics] {m : Type → Type} [Monad m]
    (files : Files m) (i : Invocation) : m (Except RunError String) := do
  let config ← match i.config with
    | none => pure none
    | some path => some <$> readConfig files path
  match (sources i (config.map textOf?)).build with
  | .error fault => return .error (.settings fault (SettingsDiagnostics.words i config))
  | .ok settings =>
      match patternOf i.pattern (← files.read i.pattern) >>= withFilters settings with
      | .error e => return .error e
      | .ok p =>
          match ← readPage files i.page with
          | .error e => return .error e
          | .ok page => return outputOf settings p page

/-- The outcome of an extraction. -/
def Outcome.ofRun : Except RunError String → Outcome
  | .ok output => ⟨0, output, none⟩
  | .error e => ⟨1, "", some s!"Error: {e.message}"⟩

/-- How the command explains itself. -/
def helpText : String :=
  "Extract records from HTML with grape patterns

Usage: grape [OPTIONS] <pattern> [html]

Arguments:
  <pattern>  Path to the grape pattern file
  [html]     Path to the HTML document (default: stdin)

Options:
  -c, --config <config>  Configuration file layered over the defaults
      --single           Write every match into a single record
      --compact          Print JSON on one line
  -h, --help             Print help
  -V, --version          Print version
"

/-- The name and the version of the command. -/
def versionText : String :=
  "grape 0.1.0\n"

/-- Carries out what arguments ask for. Arguments that ask for nothing have the status 2. -/
def answer [Diagnostics] [SettingsDiagnostics] {m : Type → Type} [Monad m]
    (files : Files m) (arguments : List String) : m Outcome := do
  match Request.ofArguments arguments with
  | .error fault => return ⟨2, "", some s!"error: {fault.message}\n\n{helpText}"⟩
  | .ok .help => return ⟨0, helpText, none⟩
  | .ok .version => return ⟨0, versionText, none⟩
  | .ok (.extract i) => return .ofRun (← i.run files)

end Harvest.Command
