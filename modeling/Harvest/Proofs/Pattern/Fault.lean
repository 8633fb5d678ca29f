import Harvest.Proofs.Pattern.Reading

/-!
# Faults That Cannot Occur

A word between brackets is refused on a line without an open capture, and a character that
begins no lexeme stops the scanner. Neither happens: words and literals come only in capture
mode, while a capture is open, and the lexemes of the two modes cover every character, apart
from two for which there are faults of their own. What is left are faults of *content*, about
what stands in a line, and the faults of the scanner that have a reason.

## Main results

* `exists_isLexeme_or`: which characters begin a lexeme.
* `fault_of_compile_error`: the faults of the compiler.
* `reading_in_step`: what follows for sources from scanner and line being in step.
-/

namespace Harvest.Pattern

variable {diagnostics : Diagnostics}

/-! ### Faults of content -/

/-- A fault of what a line holds, and not of the scanner or of a token that its mode does not
put there. -/
def CompileFault.IsContent : CompileFault → Prop
  | .scan _ => False
  | .unexpectedToken _ => False
  | _ => True

/-- A fault of content that is found in a line by itself, and not when lines are nested. -/
def CompileFault.IsOfLine : CompileFault → Prop
  | .unexpectedIndent => False
  | fault => fault.IsContent

/-- A fault of a line is one of its content. -/
theorem CompileFault.IsOfLine.isContent {fault : CompileFault} (h : fault.IsOfLine) :
    fault.IsContent := by
  cases fault with
  | unexpectedIndent => trivial
  | _ => exact h

/-- A text that is no target is a fault of its line. -/
theorem Target.isOfLine_of_parse {text : String} {fault : CompileFault}
    (h : parse text = .error fault) : fault.IsOfLine := by
  rw [parse] at h
  split at h
  · cases h
    trivial
  · split at h
    · cases h
      trivial
    · cases h

namespace CaptureDraft

/-- A word that a capture does not take is a fault of its line. -/
theorem isOfLine_of_addIdentifier {c : CaptureDraft} {text : String} {fault : CompileFault}
    (h : c.addIdentifier text = .error fault) : fault.IsOfLine := by
  rw [addIdentifier] at h
  split at h
  · cases h
  · exact Target.isOfLine_of_parse (map_eq_error_iff.1 h)

/-- An expression that a capture does not take is a fault of its line. -/
theorem isOfLine_of_addExpression {c : CaptureDraft} {source : String} {fault : CompileFault}
    (h : c.addExpression source = .error fault) : fault.IsOfLine := by
  rw [addExpression] at h
  split at h
  · cases h
    trivial
  · split at h
    · cases h
      trivial
    · split at h
      · cases h
      · cases h
        trivial

/-- A capture that cannot be closed is a fault of its line. -/
theorem isOfLine_of_finish {c : CaptureDraft} {fault : CompileFault}
    (h : c.finish = .error fault) : fault.IsOfLine := by
  rw [finish] at h
  split at h
  · cases h
    trivial
  · split at h
    · cases h
      trivial
    · dsimp only at h
      split at h
      · cases h
      · split at h
        · cases h
          trivial
        · cases h

end CaptureDraft

/-! ### Faults of a line -/

/-- The tokens that only a capture takes. -/
def Token.IsInner : Token → Prop
  | .identifier _ => True
  | .regexp _ => True
  | _ => False

namespace LineDraft

/-- Changing the open capture fails as the change does, unless no capture is open. -/
theorem isOfLine_of_inCapture {d : LineDraft} {description : String}
    {change : CaptureDraft → Except CompileFault CaptureDraft} {fault : CompileFault}
    (hchange : ∀ c, change c = .error fault → fault.IsOfLine)
    (h : d.inCapture description change = .error fault) :
    fault.IsOfLine ∨ d.openCapture = none := by
  rw [inCapture] at h
  cases hopen : d.openCapture with
  | none => exact .inr rfl
  | some c =>
      rw [hopen] at h
      exact .inl (hchange c (map_eq_error_iff.1 h))

/-- A token has a fault of its line, unless it is for a capture and none is open. -/
theorem isOfLine_of_push {d : LineDraft} {token : Token} {line : Nat} {e : CompileError}
    (h : d.push token line = .error e) :
    e.fault.IsOfLine ∨ token.IsInner ∧ d.openCapture = none := by
  rw [push] at h
  split at h
  · cases h
  rename_i fault hadd
  obtain rfl := Except.error.inj h
  cases token with
  | identifier text =>
      have hopen := isOfLine_of_inCapture
        (fun c => CaptureDraft.isOfLine_of_addIdentifier) hadd
      exact hopen.imp_right fun hnone => ⟨trivial, hnone⟩
  | regexp source =>
      have hopen := isOfLine_of_inCapture
        (fun c => CaptureDraft.isOfLine_of_addExpression) hadd
      exact hopen.imp_right fun hnone => ⟨trivial, hnone⟩
  | selector text =>
      left
      rw [add, addSelector] at hadd
      split at hadd
      · cases hadd
        trivial
      · split at hadd
        · cases hadd
        · cases hadd
          trivial
  | leftBracket =>
      left
      rw [add] at hadd
      split at hadd
      · cases hadd
        trivial
      · cases hadd
  | rightBracket =>
      left
      rw [add] at hadd
      split at hadd
      · cases hadd
        trivial
      · exact CaptureDraft.isOfLine_of_finish (map_eq_error_iff.1 hadd)
  | indent depth | questionMark | lineBreak | eof => cases hadd

/-- A fault of a token is on the line of the token. -/
theorem line_of_push_error {d : LineDraft} {token : Token} {line : Nat} {e : CompileError}
    (h : d.push token line = .error e) : e.line = line := by
  rw [push] at h
  split at h
  · cases h
  · obtain rfl := Except.error.inj h
    rfl

/-- The end of a line fails only on an open capture. -/
theorem openCapture_of_finish_error {d : LineDraft} {line : Nat} {e : CompileError}
    (h : d.finish line = .error e) :
    d.openCapture.isSome = true ∧ e = ⟨line, .scan .unclosedCapture⟩ := by
  rw [finish] at h
  split at h
  · rename_i hopen
    exact ⟨hopen, (Except.error.inj h).symm⟩
  · split at h <;> cases h

end LineDraft

/-! ### Lexemes and modes -/

/-- The lexemes of line mode are not for captures. -/
theorem LineLexeme.not_isInner {text : List Char} {token : Token} (h : LineLexeme text token) :
    ¬ token.IsInner := by
  cases h <;> exact id

/-- No lexeme of capture mode is a line break. -/
theorem CaptureLexeme.ne_lineBreak {text : List Char} {token : Token}
    (h : CaptureLexeme text token) : token ≠ .lineBreak := by
  cases h <;> nofun

/-- The reasons why there is no lexeme are known. -/
theorem NoLexeme.ne_unexpected {cs : List Char} {fault : ScanFault} (h : NoLexeme cs fault) :
    fault ≠ .unexpected := by
  cases h <;> nofun

/-- No scan ends with a character that is not expected. -/
theorem Scanner.scan_ne_unexpected (s : Scanner) (line : Nat) :
    s.scan.1 ≠ .error ⟨line, .scan .unexpected⟩ := by
  intro h
  obtain ⟨rest, fault, -, hno, hfault⟩ := exists_noLexeme_of_scan h
  obtain rfl := CompileFault.scan.inj hfault
  exact hno.ne_unexpected rfl

/-- **The grammars cover every character.** One that is not blank begins a lexeme of its mode,
or it is a newline or an equals sign in capture mode. -/
theorem exists_isLexeme_or {mode : Mode} (hmode : mode ≠ .done) {c : Char} (cs : List Char)
    (hc : ¬ IsBlank mode c) :
    (∃ text token rest, text ++ rest = c :: cs ∧ IsLexeme mode text token) ∨
      mode = .capture ∧ (c = '\n' ∨ c = '=') := by
  have hhead : ∀ c', (c :: cs).head? = some c' → ¬ IsBlank mode c' := by
    rintro c' h
    obtain rfl := Option.some.inj h
    exact hc
  have hfound : ∀ l : Lexeme, IsLongest mode (c :: cs) l →
      ∃ text token rest, text ++ rest = c :: cs ∧ IsLexeme mode text token :=
    fun l hl => ⟨l.text, l.token, l.rest, hl.append_eq, hl.isLexeme⟩
  cases mode with
  | line =>
      have hspec := lineLexeme?_spec hhead
      cases hread : lineLexeme? (c :: cs) with
      | none =>
          rw [hread] at hspec
          cases hspec
      | some l =>
          rw [hread] at hspec
          exact .inl (hfound l hspec)
  | capture =>
      have hspec := captureLexeme?_spec hhead
      cases hread : captureLexeme? (c :: cs) with
      | error fault =>
          rw [hread] at hspec
          right
          cases hspec with
          | newline => exact ⟨rfl, .inl rfl⟩
          | equals | openLiteral => exact ⟨rfl, .inr rfl⟩
      | ok l =>
          rw [hread] at hspec
          cases l with
          | none => cases hspec
          | some l => exact .inl (hfound l hspec)
  | done => exact absurd rfl hmode

/-! ### Faults of a reading -/

namespace Reading

variable {g : Reading}

/-- In step, a line break comes when no capture is open. -/
theorem InStep.openCapture_of_lineBreak (h : g.InStep) {s' : Scanner}
    (hscan : g.scanner.scan = (.ok .lineBreak, s')) : g.draft.openCapture = none := by
  obtain ⟨l, hlexeme, -, htoken, -⟩ := Scanner.exists_lexeme_of_scan hscan nofun
  have hmode : g.scanner.mode ≠ .capture := by
    intro hcapture
    rw [hcapture] at hlexeme
    exact hlexeme.ne_lineBreak htoken.symm
  rw [← Option.not_isSome_iff_eq_none]
  exact fun hopen => hmode (h.1 hopen)

/-- In step, a token that is for a capture comes when one is open. -/
theorem InStep.openCapture_of_isInner (h : g.InStep) {token : Token} {s' : Scanner}
    (hscan : g.scanner.scan = (.ok token, s')) (hinner : token.IsInner) :
    g.draft.openCapture.isSome = true := by
  have heof : token ≠ .eof := by
    rintro rfl
    exact hinner
  obtain ⟨l, hlexeme, -, rfl, -⟩ := Scanner.exists_lexeme_of_scan hscan heof
  apply h.2
  cases hmode : g.scanner.mode with
  | capture => rfl
  | line =>
      rw [hmode] at hlexeme
      exact absurd hinner hlexeme.not_isInner
  | done =>
      rw [hmode] at hlexeme
      exact hlexeme.elim

/-- In step, a reading stops at a fault of its line, or at a fault of the scanner that has a
reason. -/
theorem InStep.fault_of_next (h : g.InStep) {e : CompileError} (hnext : g.next = .error e) :
    e.fault.IsOfLine ∨ ∃ fault, e.fault = .scan fault ∧ fault ≠ .unexpected := by
  rcases error_of_next hnext with hscan | ⟨token, s', hscan, ⟨-, -, hpush⟩ | ⟨-, hfinish⟩⟩
  · obtain ⟨rest, fault, -, hno, hfault⟩ := Scanner.exists_noLexeme_of_scan hscan
    exact .inr ⟨fault, hfault, hno.ne_unexpected⟩
  · rcases LineDraft.isOfLine_of_push hpush with hline | ⟨hinner, hnone⟩
    · exact .inl hline
    · have hopen := h.openCapture_of_isInner hscan hinner
      rw [hnone] at hopen
      cases hopen
  · rw [(LineDraft.openCapture_of_finish_error hfinish).2]
    exact .inr ⟨.unclosedCapture, rfl, nofun⟩

end Reading

/-- The errors of the compiler are about what the source holds: a character that is not
expected and a token out of place are not among them. -/
theorem fault_of_compile_error {source : String} {e : CompileError}
    (h : compile source = .error e) :
    e.fault.IsContent ∨ ∃ fault, e.fault = .scan fault ∧ fault ≠ .unexpected := by
  rcases compile_eq_error_iff.1 h with hread | ⟨lines, -, harrange⟩
  · obtain ⟨g, hg, -, hnext⟩ := readLines_eq_error_iff_reached.1 hread
    exact (hg.inStep.fault_of_next hnext).imp_left CompileFault.IsOfLine.isContent
  · obtain ⟨l, rest, -, -, rfl⟩ := buildBlock_eq_error_iff.1 (map_eq_error_iff.1 harrange)
    exact .inl trivial

/-- **Reading in step.** The lines of a source, and the error among them, come from the stages
of its reading. At every stage, the line has an open capture if and only if the scanner is in
capture mode. So no source is refused for a token out of place or for a character that is not
expected; no scanner at all stops at such a character, since every character that is not blank
begins a lexeme, apart from a newline and an equals sign in capture mode, which have errors of
their own. A line break comes only when no capture is open, and where a line ends with an open
capture, the source ends as well. -/
theorem reading_in_step (source : String) :
    (∀ lines, readLines (scanAll source.toList) = .ok lines ↔
      ∃ g, Reached source.toList g ∧ g.scanner.mode = .done ∧ g.lines = lines) ∧
    (∀ e, readLines (scanAll source.toList) = .error e ↔
      ∃ g, Reached source.toList g ∧ g.scanner.mode ≠ .done ∧ g.next = .error e) ∧
    (∀ g, Reached source.toList g →
      (g.draft.openCapture.isSome = true ↔ g.scanner.mode = .capture)) ∧
    (∀ e, compile source = .error e →
      (∀ description, e.fault ≠ .unexpectedToken description) ∧
        e.fault ≠ .scan .unexpected) ∧
    (∀ (s : Scanner) (line : Nat), s.scan.1 ≠ .error ⟨line, .scan .unexpected⟩) ∧
    (∀ (mode : Mode) (c : Char) (cs : List Char), mode ≠ .done → ¬ IsBlank mode c →
      (∃ text token rest, text ++ rest = c :: cs ∧ IsLexeme mode text token) ∨
        mode = .capture ∧ (c = '\n' ∨ c = '=')) ∧
    (∀ g s', Reached source.toList g → g.scanner.scan = (.ok .lineBreak, s') →
      g.draft.openCapture = none) ∧
    ∀ g s' token e, Reached source.toList g → g.scanner.scan = (.ok token, s') →
      token = .lineBreak ∨ token = .eof → g.draft.finish s'.line = .error e →
      token = .eof := by
  refine ⟨fun lines => readLines_eq_ok_iff_reached, fun e => readLines_eq_error_iff_reached,
    fun g hg => hg.inStep, fun e he => ?_, Scanner.scan_ne_unexpected,
    fun mode c cs hmode hc => exists_isLexeme_or hmode cs hc,
    fun g s' hg hscan => hg.inStep.openCapture_of_lineBreak hscan, ?_⟩
  · rcases fault_of_compile_error he with hcontent | ⟨fault, hfault, hne⟩
    · refine ⟨fun description hfault => ?_, fun hfault => ?_⟩
      · rw [hfault] at hcontent
        exact hcontent
      · rw [hfault] at hcontent
        exact hcontent
    · rw [hfault]
      exact ⟨nofun, fun h => hne (CompileFault.scan.inj h)⟩
  · intro g s' token e hg hscan hends hfinish
    rcases hends with rfl | rfl
    · have hnone := hg.inStep.openCapture_of_lineBreak hscan
      have hopen := (LineDraft.openCapture_of_finish_error hfinish).1
      rw [hnone] at hopen
      cases hopen
    · rfl

/-- A source that ends with an open capture: the line, and not the scanner, refuses it. -/
example : compile "div (text" = .error ⟨1, .scan .unclosedCapture⟩ := by cbv

end Harvest.Pattern
