import Mathlib.Data.List.TakeWhile
import Harvest.Command.Run

/-!
# The Configuration File of a Run

The path of a configuration file may lack the ending of such files. If there is a file at the
path itself, that file is meant, even if it cannot be read. If there is none, the file with the
ending is meant, provided that the path has a name to which it can be added. So a path leads to
one place, and what a run reads is what is read there.

## Main results

* `pathParts_eq_splitOn`: the parts of a path are what stands between its slashes.
* `withEnding?_eq_some_iff`: where the ending is added.
* `LeadsTo.readConfig_eq`: a configuration file is read at the place to which its path leads.
* `readsConfig_iff`: what a run reads as its configuration file.
-/

namespace Harvest.Command

/-! ### Paths with the ending -/

/-- `longer` is the path with the ending of configuration files, which is added to the last name
in it. Slashes and points behind this name are left out. -/
def WithEnding (path longer : String) : Prop :=
  ∃ (parents : List (List Char)) (name : List Char) (idle : List (List Char)),
    path.toList.splitOn '/' = parents ++ name :: idle ∧
      (∀ part ∈ idle, part = [] ∨ part = ['.']) ∧
      name ≠ [] ∧ name ≠ ['.'] ∧ name ≠ ['.', '.'] ∧
      longer = String.ofList (['/'].intercalate (parents ++ [name])) ++ ".toml"

/-- The parts of a path are what stands between its slashes. -/
theorem pathParts_eq_splitOn (path : String) : pathParts path = path.toList.splitOn '/' := by
  rw [pathParts]
  induction path.toList with
  | nil => rfl
  | cons c cs ih =>
      rw [List.foldr_cons, ih, List.splitOn_cons_eq_if_modifyHead]
      by_cases hc : c = '/'
      · rw [if_pos hc, if_pos (beq_iff_eq.2 hc)]
      · rw [if_neg hc, if_neg (mt beq_iff_eq.1 hc)]
        obtain ⟨part, parts, hsplit⟩ :=
          List.exists_cons_of_ne_nil (List.splitOn_ne_nil '/' cs)
        rw [hsplit]
        rfl

/-- A part of a path leads nowhere else if it is empty or a point. -/
theorem isIdlePart_iff {part : List Char} :
    isIdlePart part = true ↔ part = [] ∨ part = ['.'] := by
  rw [isIdlePart, Bool.or_eq_true, List.isEmpty_iff, decide_eq_true_iff]

/-- A part of a path leads to the directory around if it is made of two points. -/
theorem isParentPart_iff {part : List Char} : isParentPart part = true ↔ part = ['.', '.'] := by
  rw [isParentPart, decide_eq_true_iff]

/-- **The ending** is added to the last name in a path, if there is one. -/
theorem withEnding?_eq_some_iff {path longer : String} :
    withEnding? path = some longer ↔ WithEnding path longer := by
  rw [withEnding?, pathParts_eq_splitOn, WithEnding]
  generalize path.toList.splitOn '/' = parts
  constructor
  · intro h
    have hidle : ∀ part ∈ (parts.reverse.takeWhile isIdlePart).reverse,
        part = [] ∨ part = ['.'] := fun part hpart =>
      isIdlePart_iff.1 (List.mem_takeWhile_imp (List.mem_reverse.1 hpart))
    have hsplit := List.takeWhile_append_dropWhile (p := isIdlePart) (l := parts.reverse)
    have hname := List.head?_dropWhile_not isIdlePart parts.reverse
    cases hrest : parts.reverse.dropWhile isIdlePart with
    | nil =>
        rw [hrest] at h
        cases h
    | cons name parents =>
        rw [hrest] at h hsplit hname
        obtain ⟨hempty, hpoint⟩ := not_or.1 (mt isIdlePart_iff.2 (Bool.eq_false_iff.1 hname))
        dsimp only at h
        split at h
        · cases h
        next hparent =>
          have hparts : parts =
              parents.reverse ++ name :: (parts.reverse.takeWhile isIdlePart).reverse := by
            rw [← List.reverse_inj, List.reverse_append, List.reverse_cons, List.reverse_reverse,
              List.reverse_reverse, List.append_assoc, List.singleton_append, hsplit]
          rw [List.reverse_cons] at h
          exact ⟨parents.reverse, name, _, hparts, hidle, hempty, hpoint,
            mt isParentPart_iff.2 hparent, (Option.some.inj h).symm⟩
  · rintro ⟨parents, name, idle, rfl, hidle, hempty, hpoint, hparent, rfl⟩
    have hdrop : (parents ++ name :: idle).reverse.dropWhile isIdlePart =
        name :: parents.reverse := by
      have hname : ¬ isIdlePart name = true := mt isIdlePart_iff.1 (not_or.2 ⟨hempty, hpoint⟩)
      rw [List.reverse_append, List.reverse_cons, List.append_assoc, List.singleton_append,
        List.dropWhile_append_of_pos fun part hpart =>
          isIdlePart_iff.2 (hidle part (List.mem_reverse.1 hpart)),
        List.dropWhile_cons_of_neg hname]
    rw [hdrop]
    dsimp only
    rw [if_neg (mt isParentPart_iff.1 hparent), List.reverse_cons, List.reverse_reverse]

/-! ### The place of a configuration file -/

/-- What a file system says of a path where there is no file. -/
def absences : List FileFault :=
  [.notFound, .notDirectory, .isDirectory, .nameTooLong]

/-- These faults are the ones that say that there is no file. -/
theorem isAbsence_iff {fault : FileFault} : fault.isAbsence = true ↔ fault ∈ absences := by
  cases fault <;> simp [FileFault.isAbsence, absences]

/-- The place to which the path of a configuration file leads. -/
inductive LeadsTo (files : Files Id) (path : String) : String → Prop where
  /-- There is a file at the path, even if it cannot be read. -/
  | here (h : ∀ fault ∈ absences, files.read path ≠ .error fault) : LeadsTo files path path
  /-- There is none, and the path has a name to which the ending is added. -/
  | withEnding {fault : FileFault} {longer : String} (hfault : fault ∈ absences)
      (h : files.read path = .error fault) (hlonger : WithEnding path longer) :
      LeadsTo files path longer
  /-- The path has no name to which the ending could be added. -/
  | nowhere (h : ∀ longer, ¬ WithEnding path longer) : LeadsTo files path path

section

variable {files : Files Id} {i : Invocation} {path place : String}

/-- The path of a configuration file leads somewhere. -/
theorem exists_leadsTo (files : Files Id) (path : String) : ∃ place, LeadsTo files path place := by
  by_cases hfault : ∃ fault ∈ absences, files.read path = .error fault
  · obtain ⟨fault, hmem, hfault⟩ := hfault
    by_cases hlonger : ∃ longer, WithEnding path longer
    · obtain ⟨longer, hlonger⟩ := hlonger
      exact ⟨longer, .withEnding hmem hfault hlonger⟩
    · exact ⟨path, .nowhere (not_exists.1 hlonger)⟩
  · exact ⟨path, .here fun fault hmem h => hfault ⟨fault, hmem, h⟩⟩

/-- What is at a path is read there. -/
theorem run_readConfig_of_ok {bytes : List UInt8} (h : files.read path = .ok bytes) :
    (readConfig files path).run = .ok bytes := by
  rw [readConfig, h]
  rfl

/-- If nothing can be read at a path, the path with the ending is tried, unless there is
something at the path itself. -/
theorem run_readConfig_of_error {fault : FileFault} (h : files.read path = .error fault) :
    (readConfig files path).run =
      ((if fault.isAbsence then withEnding? path else none).map files.read).getD
        (.error fault) := by
  rw [readConfig, h, Id.run_bind]
  dsimp only [Id.run]
  cases if fault.isAbsence then withEnding? path else none <;> rfl

/-- **A configuration file** is read at the place to which its path leads. -/
theorem LeadsTo.readConfig_eq (h : LeadsTo files path place) :
    (readConfig files path).run = files.read place := by
  cases hpath : files.read path with
  | ok bytes =>
      rw [run_readConfig_of_ok hpath]
      cases h with
      | here | nowhere => exact hpath.symm
      | withEnding _ habsent => cases hpath.symm.trans habsent
  | error fault =>
      rw [run_readConfig_of_error hpath]
      cases h with
      | here hthere =>
          rw [if_neg fun habsence => hthere fault (isAbsence_iff.1 habsence) hpath]
          exact hpath.symm
      | withEnding hfault habsent hlonger =>
          obtain rfl := Except.error.inj (habsent.symm.trans hpath)
          rw [if_pos (isAbsence_iff.2 hfault), withEnding?_eq_some_iff.2 hlonger]
          rfl
      | nowhere hnowhere =>
          have hnone : withEnding? path = none :=
            Option.eq_none_iff_forall_ne_some.2 fun longer hlonger =>
              hnowhere longer (withEnding?_eq_some_iff.1 hlonger)
          rw [hnone, ite_self]
          exact hpath.symm

end

/-- What a run reads as its configuration file: nothing if none is named, and otherwise what
is at the place to which its path leads. -/
inductive ReadsConfig (files : Files Id) (i : Invocation) :
    Option (Except FileFault (List UInt8)) → Prop where
  /-- No configuration file is named. -/
  | unnamed (h : i.config = none) : ReadsConfig files i none
  /-- A configuration file is named by its path. -/
  | named {path place : String} {content : Except FileFault (List UInt8)}
      (h : i.config = some path) (hplace : LeadsTo files path place)
      (hcontent : files.read place = content) : ReadsConfig files i (some content)

/-- **A run** reads one configuration file, or none. -/
theorem readsConfig_iff {files : Files Id} {i : Invocation}
    {content : Option (Except FileFault (List UInt8))} :
    ReadsConfig files i content ↔
      (i.config.map fun path => (readConfig files path).run) = content := by
  constructor
  · rintro (h | ⟨h, hplace, hcontent⟩)
    · rw [h, Option.map_none]
    · rw [h, Option.map_some, hplace.readConfig_eq, hcontent]
  · rintro rfl
    cases h : i.config with
    | none => exact .unnamed h
    | some path =>
        obtain ⟨place, hplace⟩ := exists_leadsTo files path
        rw [Option.map_some]
        exact .named h hplace hplace.readConfig_eq.symm

/-- Something is read as the configuration file, or none is named. -/
theorem exists_readsConfig (files : Files Id) (i : Invocation) :
    ∃ content, ReadsConfig files i content :=
  ⟨_, readsConfig_iff.2 rfl⟩

/-- What is read as a configuration file is determined. -/
theorem ReadsConfig.unique {files : Files Id} {i : Invocation}
    {content content' : Option (Except FileFault (List UInt8))} (h : ReadsConfig files i content)
    (h' : ReadsConfig files i content') : content = content' :=
  (readsConfig_iff.1 h).symm.trans (readsConfig_iff.1 h')

end Harvest.Command
