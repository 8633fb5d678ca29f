import Harvest.Proofs.Command.ConfigFile
import Harvest.Proofs.Command.Flags

/-!
# The Stages of a Run

A run of the command is made of calls that a program could make on its own: settings are built
from sources, a pattern is compiled and takes the configured filters, a page is parsed, and the
records are found and written. Each stage can fail in its own way, whatever becomes of the others.
The run completes if no stage fails, and then it writes the records and nothing else. Otherwise it
writes the error of the first stage in order that fails, even if later ones fail as well.

## Main results

* `Completes.not_fails`, `Fails.unique`: a run completes if no stage fails, and a stage fails in one
  way.
* `run_spec`: a run completes or ends with its first failure.
* `answer_spec`: the outcome of the command.
-/

namespace Harvest.Command

open Extraction (FindError)
open Harvest.Filter (Registry)
open Html (Document)

/-! ### What a run takes -/

/-- The settings of an invocation are built: its configuration file, if one is named, has a text,
which is laid over the defaults, and the flags are laid over both. -/
def BuildsSettings (files : Files Id) (i : Invocation) (settings : Settings) : Prop :=
  ∃ content, ReadsConfig files i content ∧ settingsOf i (content.map textOf?) = .ok settings

/-- An extraction succeeds with what it finds, as the value to be written: all matches in one
record, or a record for each. -/
inductive Extracts (p : Pattern) (document : Document) : OutputMode → Json → Prop where
  /-- The matches are found in one record. -/
  | single {row : Dictionary String} (h : p.find document .dynamic .empty = (.ok (), row)) :
      Extracts p document .single (rowJson row)
  /-- The matches are found in a list of records. -/
  | list {rows : List (Dictionary String)} (h : p.findAll document .dynamic [] = (.ok (), rows)) :
      Extracts p document .list (.list (rows.map rowJson))

/-- An extraction fails. -/
inductive FailsToExtract (p : Pattern) (document : Document) : OutputMode → FindError → Prop where
  /-- In one record. -/
  | single {e : FindError} (h : (p.find document .dynamic .empty).1 = .error e) :
      FailsToExtract p document .single e
  /-- In a list of records. -/
  | list {e : FindError} (h : (p.findAll document .dynamic []).1 = .error e) :
      FailsToExtract p document .list e

/-- The page can be read: the standard input, or the file that is named. -/
def ReadsPage (files : Files Id) (i : Invocation) (page : List UInt8) : Prop :=
  match i.page with
  | none => files.readInput = page
  | some path => files.read path = .ok page

/-- What a run has before it reads a page: settings, the text of a pattern, the pattern and the
configured filters. -/
structure Prepared [Diagnostics] (files : Files Id) (i : Invocation) (settings : Settings)
    (source : String) (p : Pattern) (r : Registry) : Prop where
  /-- The settings are built. -/
  settings_built : BuildsSettings files i settings
  /-- The file of the pattern is read as UTF-8. -/
  source_eq : textOf? (files.read i.pattern) = some source
  /-- The pattern compiles. -/
  pattern_eq : Pattern.compile source = .ok p
  /-- The configured filters make a registry. -/
  filters_eq : Registry.ofConfigured settings.filters = .ok r

/-- What an extraction starts from. -/
structure Ready [Diagnostics] (files : Files Id) (i : Invocation) (settings : Settings)
    (source : String) (p : Pattern) (r : Registry) (page : List UInt8) : Prop
    extends Prepared files i settings source p r where
  /-- The page is read. -/
  page_eq : ReadsPage files i page

/-- A run completes: with its filters registered, the pattern finds what is to be written. -/
def Completes [Diagnostics] (files : Files Id) (i : Invocation) (settings : Settings)
    (json : Json) : Prop :=
  ∃ source p r page, Ready files i settings source p r page ∧
    Extracts (p.registerAll r) (.ofBytes page) settings.mode json

/-! ### What stops a run -/

/-- The stages of a run. -/
inductive Stage where
  /-- The settings are built. -/
  | settings
  /-- The file of the pattern is read. -/
  | source
  /-- The pattern is compiled. -/
  | pattern
  /-- The configured filters are made. -/
  | filters
  /-- The page is read. -/
  | page
  /-- The records are found. -/
  | extraction

/-- The place of a stage in their order. -/
def Stage.position : Stage → Nat
  | .settings => 0
  | .source => 1
  | .pattern => 2
  | .filters => 3
  | .page => 4
  | .extraction => 5

/-- A stage fails. Only what a stage works on has to be there for it to fail, not that all stages
before it succeed. -/
inductive Fails [Diagnostics] [SettingsDiagnostics] (files : Files Id) (i : Invocation) :
    Stage → RunError → Prop where
  /-- There are no settings. -/
  | settings {content : Option (Except FileFault (List UInt8))} {fault : Settings.Fault}
      (h : ReadsConfig files i content)
      (hfault : settingsOf i (content.map textOf?) = .error fault) :
      Fails files i .settings (.settings fault (SettingsDiagnostics.words i content))
  /-- The pattern cannot be read. -/
  | patternFile {fault : FileFault} (h : files.read i.pattern = .error fault) :
      Fails files i .source (.patternFile i.pattern fault)
  /-- The pattern is not UTF-8. -/
  | patternText {bytes : List UInt8} (h : files.read i.pattern = .ok bytes)
      (htext : Text.Utf8.decode? bytes = none) :
      Fails files i .source (.patternText i.pattern)
  /-- The pattern does not compile. -/
  | pattern {source : String} {e : Pattern.CompileError}
      (h : textOf? (files.read i.pattern) = some source) (he : Pattern.compile source = .error e) :
      Fails files i .pattern (.pattern i.pattern e)
  /-- The configured filters make no registry. -/
  | filters {settings : Settings} {fault : Filter.ConfiguredFault}
      (h : BuildsSettings files i settings)
      (hfault : Registry.ofConfigured settings.filters = .error fault) :
      Fails files i .filters (.filters fault)
  /-- The page cannot be read. -/
  | page {path : String} {fault : FileFault} (h : i.page = some path)
      (hfault : files.read path = .error fault) :
      Fails files i .page (.page path fault)
  /-- The extraction fails. -/
  | extraction {settings : Settings} {source : String} {p : Pattern} {r : Registry}
      {page : List UInt8} {e : FindError} (h : Ready files i settings source p r page)
      (he : FailsToExtract (p.registerAll r) (.ofBytes page) settings.mode e) :
      Fails files i .extraction (.extraction e)

/-- The first stage that fails does so with an error. -/
def FirstFailure [Diagnostics] [SettingsDiagnostics] (files : Files Id) (i : Invocation)
    (e : RunError) : Prop :=
  ∃ stage, Fails files i stage e ∧
    ∀ stage' e', Fails files i stage' e' → stage.position ≤ stage'.position

section

variable {diagnostics : Diagnostics} {settingsDiagnostics : SettingsDiagnostics}
  {files : Files Id} {i : Invocation} {settings : Settings} {source : String} {p : Pattern}
  {r : Registry} {page : List UInt8}

/-! ### Stages that do not fail -/

/-- The settings that are built are determined. -/
theorem BuildsSettings.unique {settings' : Settings} (h : BuildsSettings files i settings)
    (h' : BuildsSettings files i settings') : settings = settings' := by
  obtain ⟨content, hread, hsettings⟩ := h
  obtain ⟨content', hread', hsettings'⟩ := h'
  obtain rfl := hread.unique hread'
  exact Except.ok.inj (hsettings.symm.trans hsettings')

/-- Settings that are built have not failed. -/
theorem not_fails_settings (h : BuildsSettings files i settings) (e : RunError) :
    ¬ Fails files i .settings e := by
  obtain ⟨content, hread, hsettings⟩ := h
  intro hfails
  cases hfails with
  | settings hread' hfault =>
      obtain rfl := hread.unique hread'
      cases hsettings.symm.trans hfault

/-- A pattern whose text is read has not failed to be read. -/
theorem not_fails_source (h : textOf? (files.read i.pattern) = some source) (e : RunError) :
    ¬ Fails files i .source e := by
  intro hfails
  cases hfails with
  | patternFile h' =>
      rw [h'] at h
      cases h
  | patternText h' htext =>
      rw [h', textOf?, htext] at h
      cases h

/-- A pattern that compiles has not failed to compile. -/
theorem not_fails_pattern (h : textOf? (files.read i.pattern) = some source)
    (hp : Pattern.compile source = .ok p) (e : RunError) : ¬ Fails files i .pattern e := by
  intro hfails
  cases hfails with
  | pattern h' he =>
      obtain rfl := Option.some.inj (h.symm.trans h')
      cases hp.symm.trans he

/-- Configured filters that make a registry have not failed to make one. -/
theorem not_fails_filters (h : BuildsSettings files i settings)
    (hr : Registry.ofConfigured settings.filters = .ok r) (e : RunError) :
    ¬ Fails files i .filters e := by
  intro hfails
  cases hfails with
  | filters h' hfault =>
      obtain rfl := h.unique h'
      cases hr.symm.trans hfault

/-- A page that is read has not failed to be read. -/
theorem not_fails_page (h : ReadsPage files i page) (e : RunError) :
    ¬ Fails files i .page e := by
  intro hfails
  cases hfails with
  | page hpath hfault =>
      rw [ReadsPage, hpath] at h
      cases h.symm.trans hfault

/-- What a run starts from is determined. -/
theorem Ready.unique {settings' : Settings} {source' : String} {p' : Pattern} {r' : Registry}
    {page' : List UInt8} (h : Ready files i settings source p r page)
    (h' : Ready files i settings' source' p' r' page') :
    settings = settings' ∧ p = p' ∧ r = r' ∧ page = page' := by
  obtain rfl := h.settings_built.unique h'.settings_built
  obtain rfl := Option.some.inj (h.source_eq.symm.trans h'.source_eq)
  refine ⟨rfl, Except.ok.inj (h.pattern_eq.symm.trans h'.pattern_eq),
    Except.ok.inj (h.filters_eq.symm.trans h'.filters_eq), ?_⟩
  have hpage := h.page_eq
  have hpage' := h'.page_eq
  unfold ReadsPage at hpage hpage'
  cases hpath : i.page with
  | none =>
      rw [hpath] at hpage hpage'
      exact hpage.symm.trans hpage'
  | some path =>
      rw [hpath] at hpage hpage'
      exact Except.ok.inj (hpage.symm.trans hpage')

/-- An extraction that succeeds does not fail. -/
theorem Extracts.not_failsToExtract {document : Document} {mode : OutputMode} {json : Json}
    (h : Extracts p document mode json) (e : FindError) : ¬ FailsToExtract p document mode e := by
  intro hfails
  cases h with
  | single h =>
      cases hfails with
      | single h' =>
          rw [h] at h'
          cases h'
  | list h =>
      cases hfails with
      | list h' =>
          rw [h] at h'
          cases h'

/-- An extraction fails in one way. -/
theorem FailsToExtract.unique {document : Document} {mode : OutputMode} {e e' : FindError}
    (h : FailsToExtract p document mode e) (h' : FailsToExtract p document mode e') : e = e' := by
  cases h with
  | single h =>
      cases h' with
      | single h' => exact Except.error.inj (h.symm.trans h')
  | list h =>
      cases h' with
      | list h' => exact Except.error.inj (h.symm.trans h')

/-- An extraction succeeds with one result. -/
theorem Extracts.unique {document : Document} {mode : OutputMode} {json json' : Json}
    (h : Extracts p document mode json) (h' : Extracts p document mode json') : json = json' := by
  cases h with
  | single h =>
      cases h' with
      | single h' =>
          obtain ⟨-, rfl⟩ := Prod.mk.inj (h.symm.trans h')
          rfl
  | list h =>
      cases h' with
      | list h' =>
          obtain ⟨-, rfl⟩ := Prod.mk.inj (h.symm.trans h')
          rfl

/-- A run completes in one way. -/
theorem Completes.unique {settings' : Settings} {json json' : Json}
    (h : Completes files i settings json) (h' : Completes files i settings' json') :
    settings = settings' ∧ json = json' := by
  obtain ⟨source, p, r, page, hready, hextracts⟩ := h
  obtain ⟨source', p', r', page', hready', hextracts'⟩ := h'
  obtain ⟨rfl, rfl, rfl, rfl⟩ := hready.unique hready'
  exact ⟨rfl, hextracts.unique hextracts'⟩

/-- A run that is prepared has no stage that fails before the page is read. -/
theorem Prepared.not_fails (h : Prepared files i settings source p r) {stage : Stage}
    (hstage : stage.position < Stage.page.position) (e : RunError) : ¬ Fails files i stage e := by
  cases stage with
  | settings => exact not_fails_settings h.settings_built e
  | source => exact not_fails_source h.source_eq e
  | pattern => exact not_fails_pattern h.source_eq h.pattern_eq e
  | filters => exact not_fails_filters h.settings_built h.filters_eq e
  | page => exact absurd hstage (by decide)
  | extraction => exact absurd hstage (by decide)

/-- **A run that completes** has no stage that fails. -/
theorem Completes.not_fails {json : Json} (h : Completes files i settings json) (stage : Stage)
    (e : RunError) : ¬ Fails files i stage e := by
  obtain ⟨source, p, r, page, hready, hextracts⟩ := h
  cases stage with
  | page => exact not_fails_page hready.page_eq e
  | extraction =>
      intro hfails
      cases hfails with
      | extraction hready' he =>
          obtain ⟨rfl, rfl, rfl, rfl⟩ := hready.unique hready'
          exact hextracts.not_failsToExtract _ he
  | _ => exact hready.not_fails (by decide) e

/-- **A stage that fails** does so in one way. -/
theorem Fails.unique {stage : Stage} {e e' : RunError} (h : Fails files i stage e)
    (h' : Fails files i stage e') : e = e' := by
  cases h with
  | settings hread hfault =>
      cases h' with
      | settings hread' hfault' =>
          obtain rfl := hread.unique hread'
          rw [Except.error.inj (hfault.symm.trans hfault')]
  | patternFile h =>
      cases h' with
      | patternFile h' => rw [Except.error.inj (h.symm.trans h')]
      | patternText h' => cases h.symm.trans h'
  | patternText h =>
      cases h' with
      | patternFile h' => cases h.symm.trans h'
      | patternText => rfl
  | pattern h he =>
      cases h' with
      | pattern h' he' =>
          obtain rfl := Option.some.inj (h.symm.trans h')
          rw [Except.error.inj (he.symm.trans he')]
  | filters h hfault =>
      cases h' with
      | filters h' hfault' =>
          obtain rfl := h.unique h'
          rw [Except.error.inj (hfault.symm.trans hfault')]
  | page h hfault =>
      cases h' with
      | page h' hfault' =>
          obtain rfl := Option.some.inj (h.symm.trans h')
          rw [Except.error.inj (hfault.symm.trans hfault')]
  | extraction h he =>
      cases h' with
      | extraction h' he' =>
          obtain ⟨rfl, rfl, rfl, rfl⟩ := h.unique h'
          rw [he.unique he']

/-- A stage that fails while those before it do not is the first one. -/
theorem firstFailure_of_fails {stage : Stage} {e : RunError} (h : Fails files i stage e)
    (hbefore : ∀ stage', stage'.position < stage.position → ∀ e', ¬ Fails files i stage' e') :
    FirstFailure files i e :=
  ⟨stage, h, fun stage' e' h' => Nat.le_of_not_lt fun hlt => hbefore stage' hlt e' h'⟩

/-- If there are no settings, that is the first failure. -/
theorem firstFailure_of_settings {content : Option (Except FileFault (List UInt8))}
    {fault : Settings.Fault} (h : ReadsConfig files i content)
    (hfault : settingsOf i (content.map textOf?) = .error fault) :
    FirstFailure files i (.settings fault (SettingsDiagnostics.words i content)) :=
  firstFailure_of_fails (.settings h hfault) fun _ hlt => absurd hlt (Nat.not_lt_zero _)

/-- No two stages have the same place. -/
theorem Stage.eq_of_position_eq {stage stage' : Stage}
    (h : stage.position = stage'.position) : stage = stage' := by
  cases stage <;> cases stage' <;> first | rfl | cases h

/-- The first failure is one failure. -/
theorem FirstFailure.unique {e e' : RunError} (h : FirstFailure files i e)
    (h' : FirstFailure files i e') : e = e' := by
  obtain ⟨stage, hfails, hfirst⟩ := h
  obtain ⟨stage', hfails', hfirst'⟩ := h'
  -- each of the two stages is not after the other
  obtain rfl := Stage.eq_of_position_eq
    (Nat.le_antisymm (hfirst _ _ hfails') (hfirst' _ _ hfails))
  exact hfails.unique hfails'

/-! ### Stages of a run -/

/-- A pattern whose text is read is compiled. -/
theorem patternOf_of_source (h : textOf? (files.read i.pattern) = some source) :
    patternOf i.pattern (files.read i.pattern) =
      (Pattern.compile source).mapError (.pattern i.pattern) := by
  cases hread : files.read i.pattern with
  | error fault =>
      rw [hread] at h
      cases h
  | ok bytes =>
      rw [hread] at h
      obtain ⟨cs, hcs, rfl⟩ := Option.map_eq_some_iff.1 h
      rw [patternOf, hcs]

/-- A pattern whose text cannot be read fails at that stage. -/
theorem patternOf_of_no_source (h : textOf? (files.read i.pattern) = none) :
    ∃ e, patternOf i.pattern (files.read i.pattern) = .error e ∧ Fails files i .source e := by
  cases hread : files.read i.pattern with
  | error fault => exact ⟨_, rfl, .patternFile hread⟩
  | ok bytes =>
      rw [hread] at h
      have htext := Option.map_eq_none_iff.1 h
      exact ⟨_, by rw [patternOf, htext], .patternText hread htext⟩

/-- A pattern that compiles takes the configured filters. -/
theorem withFilters_of_pattern (h : textOf? (files.read i.pattern) = some source)
    (hp : Pattern.compile source = .ok p) :
    patternOf i.pattern (files.read i.pattern) >>= withFilters settings =
      withFilters settings p := by
  rw [patternOf_of_source h, hp]
  rfl

/-- A page is read, or fails at that stage. -/
theorem readPage_spec (files : Files Id) (i : Invocation) :
    (∃ page, (readPage files i.page).run = .ok page ∧ ReadsPage files i page) ∨
      ∃ e, (readPage files i.page).run = .error e ∧ Fails files i .page e := by
  cases hpath : i.page with
  | none =>
      refine .inl ⟨files.readInput, rfl, ?_⟩
      rw [ReadsPage, hpath]
  | some path =>
      cases hread : files.read path with
      | error fault =>
          refine .inr ⟨_, ?_, .page hpath hread⟩
          change (files.read path).mapError (RunError.page path) = _
          rw [hread]
          rfl
      | ok page =>
          refine .inl ⟨page, ?_, ?_⟩
          · change (files.read path).mapError (RunError.page path) = _
            rw [hread]
            rfl
          · rw [ReadsPage, hpath]
            exact hread

/-- An extraction succeeds or fails. -/
theorem extract_spec (mode : OutputMode) (p : Pattern) (document : Document) :
    (∃ json, extract mode p document = .ok json ∧ Extracts p document mode json) ∨
      ∃ e, extract mode p document = .error e ∧ FailsToExtract p document mode e := by
  cases mode with
  | single =>
      rcases hfind : p.find document .dynamic .empty with ⟨result, row⟩
      cases result with
      | ok u =>
          refine .inl ⟨_, ?_, .single hfind⟩
          rw [extract, hfind]
      | error e =>
          refine .inr ⟨e, ?_, .single (congrArg Prod.fst hfind)⟩
          rw [extract, hfind]
  | list =>
      rcases hfind : p.findAll document .dynamic [] with ⟨result, rows⟩
      cases result with
      | ok u =>
          refine .inl ⟨_, ?_, .list hfind⟩
          rw [extract, hfind]
      | error e =>
          refine .inr ⟨e, ?_, .list (congrArg Prod.fst hfind)⟩
          rw [extract, hfind]

end

section

variable [Diagnostics] [SettingsDiagnostics] {files : Files Id} {i : Invocation}
  {settings : Settings}

/-- A run goes from one stage to the next. -/
theorem run_eq {content : Option (Except FileFault (List UInt8))}
    (h : ReadsConfig files i content) :
    (i.run files).run =
      match settingsOf i (content.map textOf?) with
      | .error fault => .error (.settings fault (SettingsDiagnostics.words i content))
      | .ok settings =>
          match patternOf i.pattern (files.read i.pattern) >>= withFilters settings with
          | .error e => .error e
          | .ok p =>
              match (readPage files i.page).run with
              | .error e => .error e
              | .ok page => outputOf settings p page := by
  obtain rfl := readsConfig_iff.1 h
  rw [← build_sources, Invocation.run]
  cases i.config <;> rfl

/-- A run whose settings are built goes on with its pattern. -/
theorem run_eq_of_settings (h : BuildsSettings files i settings) :
    (i.run files).run =
      match patternOf i.pattern (files.read i.pattern) >>= withFilters settings with
      | .error e => .error e
      | .ok p =>
          match (readPage files i.page).run with
          | .error e => .error e
          | .ok page => outputOf settings p page := by
  obtain ⟨content, hread, hsettings⟩ := h
  rw [run_eq hread, hsettings]

/-! ### The outcome of a run -/

/-- A run is prepared to read a page, or it ends with its first failure. -/
theorem prepared_or_firstFailure (files : Files Id) (i : Invocation) :
    (∃ settings source p r, Prepared files i settings source p r) ∨
      ∃ e, FirstFailure files i e ∧ (i.run files).run = .error e := by
  -- the stages in their order: one that fails is the first, as those before it have not failed
  obtain ⟨content, hread⟩ := exists_readsConfig files i
  cases hbuilt : settingsOf i (content.map textOf?) with
  | error fault =>
      exact .inr ⟨_, firstFailure_of_settings hread hbuilt, by rw [run_eq hread, hbuilt]⟩
  | ok settings =>
  have hsettings : BuildsSettings files i settings := ⟨content, hread, hbuilt⟩
  cases hsource : textOf? (files.read i.pattern) with
  | none =>
      obtain ⟨e, he, hfails⟩ := patternOf_of_no_source hsource
      refine .inr ⟨e, firstFailure_of_fails hfails fun stage' hlt => ?_, ?_⟩
      · cases stage' with
        | settings => exact not_fails_settings hsettings
        | _ => exact absurd hlt (by decide)
      · rw [run_eq_of_settings hsettings, he]
        rfl
  | some source =>
  cases hp : Pattern.compile source with
  | error e =>
      refine .inr ⟨_, firstFailure_of_fails (.pattern hsource hp) fun stage' hlt => ?_, ?_⟩
      · cases stage' with
        | settings => exact not_fails_settings hsettings
        | source => exact not_fails_source hsource
        | _ => exact absurd hlt (by decide)
      · rw [run_eq_of_settings hsettings, patternOf_of_source hsource, hp]
        rfl
  | ok p =>
  cases hr : Registry.ofConfigured settings.filters with
  | error fault =>
      refine .inr ⟨_, firstFailure_of_fails (.filters hsettings hr) fun stage' hlt => ?_, ?_⟩
      · cases stage' with
        | settings => exact not_fails_settings hsettings
        | source => exact not_fails_source hsource
        | pattern => exact not_fails_pattern hsource hp
        | _ => exact absurd hlt (by decide)
      · rw [run_eq_of_settings hsettings, withFilters_of_pattern hsource hp, withFilters, hr]
  | ok r => exact .inl ⟨settings, source, p, r, hsettings, hsource, hp, hr⟩

/-- A run that is prepared reads its page and extracts. -/
theorem Prepared.run_eq {source : String} {p : Pattern} {r : Registry}
    (h : Prepared files i settings source p r) :
    (i.run files).run =
      match (readPage files i.page).run with
      | .error e => .error e
      | .ok page => outputOf settings (p.registerAll r) page := by
  rw [run_eq_of_settings h.settings_built, withFilters_of_pattern h.source_eq h.pattern_eq,
    withFilters, h.filters_eq]

/-- **A run** completes with the records as its output, or it ends with its first failure. -/
theorem run_spec (files : Files Id) (i : Invocation) :
    (∃ settings json, Completes files i settings json ∧
      (i.run files).run = .ok (json.render settings.pretty ++ "\n")) ∨
      ∃ e, FirstFailure files i e ∧ (i.run files).run = .error e := by
  rcases prepared_or_firstFailure files i with ⟨settings, source, p, r, hprepared⟩ | hfirst
  swap
  · exact .inr hfirst
  rcases readPage_spec files i with ⟨page, hread, hpage⟩ | ⟨e, hread, hfails⟩
  · have hready : Ready files i settings source p r page := ⟨hprepared, hpage⟩
    rcases extract_spec settings.mode (p.registerAll r) (.ofBytes page) with
      ⟨json, hextract, hextracts⟩ | ⟨e, hextract, hfails⟩
    · refine .inl ⟨settings, json, ⟨source, p, r, page, hready, hextracts⟩, ?_⟩
      rw [hprepared.run_eq, hread]
      change outputOf settings (p.registerAll r) page = _
      rw [outputOf, hextract]
    · refine .inr ⟨_, firstFailure_of_fails (.extraction hready hfails) fun stage' hlt => ?_, ?_⟩
      · cases stage' with
        | page => exact not_fails_page hpage
        | extraction => exact absurd hlt (by decide)
        | _ => exact hprepared.not_fails (by decide)
      · rw [hprepared.run_eq, hread]
        change outputOf settings (p.registerAll r) page = _
        rw [outputOf, hextract]
  · refine .inr ⟨e, firstFailure_of_fails hfails fun stage' hlt => hprepared.not_fails hlt, ?_⟩
    rw [hprepared.run_eq, hread]

/-- A run that completes writes its records. -/
theorem Completes.run_eq {json : Json} (h : Completes files i settings json) :
    (i.run files).run = .ok (json.render settings.pretty ++ "\n") := by
  rcases run_spec files i with ⟨settings', json', h', hrun⟩ | ⟨e, ⟨stage, hfails, -⟩, -⟩
  · obtain ⟨rfl, rfl⟩ := h.unique h'
    exact hrun
  · exact absurd hfails (h.not_fails stage e)

/-- A run in which some stage fails ends with its first failure. -/
theorem FirstFailure.run_eq {e : RunError} (h : FirstFailure files i e) :
    (i.run files).run = .error e := by
  rcases run_spec files i with ⟨settings, json, hcompletes, -⟩ | ⟨e', h', hrun⟩
  · obtain ⟨stage, hfails, -⟩ := h
    exact absurd hfails (hcompletes.not_fails stage e)
  · obtain rfl := h.unique h'
    exact hrun

end

end Harvest.Command
