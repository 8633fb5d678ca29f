import Harvest.Proofs.Except
import Harvest.Proofs.Pattern.Nesting

/-!
# Captures of a Compiled Pattern

A closing bracket is accepted only if the capture has a target and, with a regular
expression, a group for every target. This module carries that fact from the bracket through
lines and nesting to the compiled pattern.

## Main results

* `CaptureDraft.wellFormed_of_finish`: what a closing bracket checks.
* `wellFormed_of_compile`: every capture of a compiled pattern is well-formed.
-/

namespace Harvest.Pattern

variable {diagnostics : Diagnostics}

/-- A capture has a target, and a regular expression has a group for every target. -/
structure Capture.WellFormed (c : Capture) : Prop where
  /-- There is a target. -/
  hasTarget : c.targets ≠ []
  /-- There are groups for all targets. -/
  hasGroups : ∀ e, c.expression = some e → c.targets.length ≤ e.regex.groups

/-- A closing bracket makes a well-formed capture or none. -/
theorem CaptureDraft.wellFormed_of_finish {c : CaptureDraft} {capture : Capture}
    (h : c.finish = .ok capture) : capture.WellFormed := by
  rw [CaptureDraft.finish] at h
  cases hkey : c.key with
  | none => rw [hkey] at h; cases h
  | some key =>
      rw [hkey] at h
      dsimp only at h
      split at h
      · cases h
      · rename_i htargets
        have hne : c.targets ≠ [] := fun hnil => htargets (List.isEmpty_iff.2 hnil)
        cases hexpr : c.expression with
        | none =>
            rw [hexpr] at h
            cases h
            exact ⟨hne, nofun⟩
        | some e =>
            rw [hexpr] at h
            dsimp only at h
            split at h
            · cases h
            · rename_i hgroups
              cases h
              exact ⟨hne, fun e' he => by cases he; exact Nat.le_of_not_lt hgroups⟩

/-! ### Lines -/

/-- The captures of a list are well-formed. -/
def AllWellFormed (captures : List Capture) : Prop :=
  ∀ c ∈ captures, c.WellFormed

theorem allWellFormed_empty : AllWellFormed LineDraft.empty.captures :=
  List.forall_mem_nil _

/-- A token adds no capture, or it closes one and adds that. -/
theorem LineDraft.captures_of_add {d d' : LineDraft} {first : Bool} {token : Token}
    (h : d.add first token = .ok d') :
    d'.captures = d.captures ∨
      ∃ c capture, CaptureDraft.finish c = .ok capture ∧
        d'.captures = d.captures ++ [capture] := by
  have inCapture : ∀ {description : String}
      {change : CaptureDraft → Except CompileFault CaptureDraft},
      d.inCapture description change = .ok d' → d'.captures = d.captures := by
    intro description change hchange
    rw [LineDraft.inCapture] at hchange
    cases hopen : d.openCapture with
    | none => rw [hopen] at hchange; cases hchange
    | some c =>
        rw [hopen] at hchange
        obtain ⟨c', -, rfl⟩ := map_eq_ok_iff.1 hchange
        rfl
  cases token with
  | indent depth =>
      cases h
      left
      cases first <;> rfl
  | selector text =>
      left
      rw [LineDraft.add, LineDraft.addSelector] at h
      split at h
      · cases h
      · split at h
        · cases h; rfl
        · cases h
  | questionMark => cases h; exact .inl rfl
  | leftBracket =>
      left
      rw [LineDraft.add] at h
      split at h
      · cases h
      · cases h; rfl
  | rightBracket =>
      right
      rw [LineDraft.add] at h
      cases hopen : d.openCapture with
      | none => rw [hopen] at h; cases h
      | some c =>
          rw [hopen] at h
          obtain ⟨capture, hfinish, rfl⟩ := map_eq_ok_iff.1 h
          exact ⟨c, capture, hfinish, rfl⟩
  | identifier text => exact .inl (inCapture h)
  | regexp source => exact .inl (inCapture h)
  | lineBreak => cases h; exact .inl rfl
  | eof => cases h; exact .inl rfl

/-- A token keeps the captures of a line well-formed. -/
theorem LineDraft.allWellFormed_push {d d' : LineDraft} {token : Token} {line : Nat}
    (hd : AllWellFormed d.captures) (h : d.push token line = .ok d') :
    AllWellFormed d'.captures := by
  rw [LineDraft.push] at h
  split at h
  · rename_i d'' hadd
    cases h
    rcases LineDraft.captures_of_add hadd with heq | ⟨c, capture, hfinish, heq⟩
    · rw [heq]
      exact hd
    · rw [heq]
      intro c' hc'
      rcases List.mem_append.1 hc' with hc' | hc'
      · exact hd c' hc'
      · obtain rfl := List.mem_singleton.1 hc'
        exact CaptureDraft.wellFormed_of_finish hfinish
  · cases h

/-- The end of a line passes its captures on. -/
theorem LineDraft.captures_of_finish {d : LineDraft} {line : Nat} {l : Line}
    (h : d.finish line = .ok (some l)) : l.heading.captures = d.captures := by
  rw [LineDraft.finish] at h
  split at h
  · cases h
  · split at h
    · cases h
    · cases h; rfl

/-- **Lines have well-formed captures**, if the line that has begun has. -/
theorem allWellFormed_of_readLinesFrom {ending : Except CompileError Nat}
    {tokens : List (Token × Nat)} {d : LineDraft} {lines : List Line}
    (hd : AllWellFormed d.captures) (h : readLinesFrom ending d tokens = .ok lines) :
    ∀ l ∈ lines, AllWellFormed l.heading.captures := by
  have finished : ∀ {d : LineDraft} {line : Nat} {made : Option Line},
      AllWellFormed d.captures → d.finish line = .ok made →
      ∀ l ∈ made.toList, AllWellFormed l.heading.captures := by
    intro d line made hd hfinish l hl
    obtain rfl := Option.mem_toList.1 hl
    rw [LineDraft.captures_of_finish hfinish]
    exact hd
  induction tokens generalizing d lines with
  | nil =>
      cases ending with
      | error e => cases h
      | ok line =>
          rw [readLinesFrom] at h
          obtain ⟨made, hfinish, rfl⟩ := map_eq_ok_iff.1 h
          exact finished hd hfinish
  | cons entry rest ih =>
      obtain ⟨token, line⟩ := entry
      rw [readLinesFrom] at h
      split at h
      · obtain ⟨made, hfinish, h⟩ := bind_eq_ok_iff.1 h
        obtain ⟨more, hmore, h⟩ := bind_eq_ok_iff.1 h
        cases h
        intro l hl
        rcases List.mem_append.1 hl with hl | hl
        · exact finished hd hfinish l hl
        · exact ih allWellFormed_empty hmore l hl
      · obtain ⟨d', hpush, h⟩ := bind_eq_ok_iff.1 h
        exact ih (LineDraft.allWellFormed_push hd hpush) h

/-! ### Patterns -/

/-- The captures of all headings of a list are well-formed. -/
def AllCapturesWellFormed (headings : List Heading) : Prop :=
  ∀ heading ∈ headings, AllWellFormed heading.captures

/-- **A compiled pattern has well-formed captures**, in rules at all depths. -/
theorem wellFormed_of_compile {source : String} {p : Pattern} (h : compile source = .ok p) :
    AllCapturesWellFormed (Rule.headingsOfList p.rules) := by
  obtain ⟨rules, hrules, rfl⟩ := map_eq_ok_iff.1 h
  obtain ⟨lines, hlines, harrange⟩ := bind_eq_ok_iff.1 hrules
  intro heading hheading
  rw [headings_of_arrange harrange] at hheading
  obtain ⟨l, hl, rfl⟩ := List.mem_map.1 hheading
  exact allWellFormed_of_readLinesFrom allWellFormed_empty hlines l hl

end Harvest.Pattern
