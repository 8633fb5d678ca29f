import Harvest.Proofs.Pattern.FirstError
import Harvest.Proofs.Pattern.Indentation
import Harvest.Proofs.Pattern.Spacing

/-!
# Places in a Source

Every stage of a reading has a place in the source: it stands after the pieces that have been
read. So an error of the compiler has a place as well, the one where the token starts that it is
reported for. A line that is indented too far is found when all lines have been read, and its
place is that of its first token. The line of an error is the line of its place. The one
exception is a literal without end, which is reported on the last line of the source.

A place can lie inside a literal. A part of a source that ends with an open literal ends at such
a place, whatever comes after it.

## Main results

* `Reached.exists_reads`: the pieces before a stage.
* `inLiteral_of_unterminated`: the end of a part of a source with an open literal.
* `exists_reportedAfter`, `ReportedAfter.line_eq`: the place of an error and its line.
-/

namespace Harvest.Pattern

variable {diagnostics : Diagnostics}

/-! ### The pieces before a stage -/

section

variable {mode : Mode} {source cs left : List Char} {pieces : List Piece}

/-- One lexeme more. -/
theorem Reads.concat {blanks : List Char} {l : Lexeme}
    (h : Reads mode source pieces (blanks ++ cs))
    (hblanks : ∀ c ∈ blanks, IsBlank (modeAfterAll mode pieces) c)
    (hlongest : IsLongest (modeAfterAll mode pieces) cs l) :
    Reads mode source (pieces ++ [⟨blanks, l.text, l.token⟩]) l.rest := by
  generalize hleft : blanks ++ cs = left at h
  induction h with
  | nil mode cs' =>
      rw [← hleft]
      exact .cons hblanks hlongest (.nil _ _)
  | cons hblanks' hlongest' _ ih => exact .cons hblanks' hlongest' (ih hblanks hlongest hleft)

/-- The pieces of a text stay what they are if the text goes on, unless they take all of it. -/
theorem Reads.followedBy (h : Reads mode source pieces left) (hleft : left ≠ [])
    (more : List Char) : Reads mode (source ++ more) pieces (left ++ more) := by
  induction h with
  | nil => exact .nil _ _
  | @cons mode blanks cs left l pieces hblanks hlongest hreads ih =>
      have hrest : l.rest ≠ [] := by
        rw [← hreads.append_eq]
        exact List.append_ne_nil_of_right_ne_nil _ hleft
      have hcons := Reads.cons hblanks (hlongest.append_of_ne_nil hrest more) (ih hleft)
      rwa [← List.append_assoc] at hcons

end

section

variable {source : List Char} {g : Reading} {e : CompileError}

/-- **The pieces before a stage** of a reading: they lead to the mode of the scanner, and what
is left after them is the rest of the source. -/
theorem Reached.exists_reads (h : Reached source g) (hmode : g.scanner.mode ≠ .done) :
    ∃ pieces, Reads .line source pieces g.scanner.rest ∧
      modeAfterAll .line pieces = g.scanner.mode := by
  induction h with
  | start => exact ⟨[], .nil _ _, rfl⟩
  | @next g g' _ hmode' hnext ih =>
      obtain ⟨token, hscan, -⟩ := Reading.scan_of_next hnext
      have heof : token ≠ .eof := by
        rintro rfl
        exact hmode (Scanner.mode_of_scan_eof hscan)
      obtain ⟨pieces, hreads, hpieces⟩ := ih hmode'
      obtain ⟨blanks, cs, l, hrest, hblanks, hlongest, -, hadvance⟩ :=
        Scanner.exists_longest_of_scan hscan heof
      rw [hrest] at hreads
      rw [← hpieces] at hblanks hlongest
      rw [hadvance]
      refine ⟨_, hreads.concat hblanks hlongest, ?_⟩
      rw [modeAfterAll_append, hpieces]
      rfl

/-- The newlines before a stage are those that have been passed. -/
theorem Reached.newlines_eq_passed (h : Reached source g) (hmode : g.scanner.mode ≠ .done)
    {pieces : List Piece} (hreads : Reads .line source pieces g.scanner.rest) :
    newlines (pieces.flatMap Piece.chars) = g.scanner.passed := by
  have hpassed := h.within.passed_add hmode
  rw [← hreads.append_eq, newlines_append] at hpassed
  omega

/-- A reading that stops at a literal without end stops where the literal starts. -/
theorem Reached.exists_sticks (h : Reached source g) (hmode : g.scanner.mode ≠ .done)
    (hnext : g.next = .error e) (hfault : e.fault = .scan .unterminatedRegex) :
    ∃ pieces blanks rest, g.scanner.rest.dropWhile (isBlankIn g.scanner.mode) = rest ∧
      Sticks source pieces blanks rest .unterminatedRegex := by
  have hends : Ends g.scanner.mode g.scanner.rest (some .unterminatedRegex) := by
    rcases Reading.error_of_next hnext with
      hscan | ⟨token, s', hscan, ⟨-, -, hpush⟩ | ⟨-, hfinish⟩⟩
    · obtain ⟨fault, hends, rfl⟩ := Scanner.ends_of_scan_error hscan
      obtain rfl := CompileFault.scan.inj hfault
      exact hends
    · exfalso
      rcases LineDraft.isOfLine_of_push hpush with hline | ⟨hinner, hnone⟩
      · rw [hfault] at hline
        exact hline
      · have hopen := h.inStep.openCapture_of_isInner hscan hinner
        rw [hnone] at hopen
        cases hopen
    · rw [(LineDraft.openCapture_of_finish_error hfinish).2] at hfault
      cases hfault
  obtain ⟨pieces, hreads, hpieces⟩ := h.exists_reads hmode
  obtain ⟨blanks, rest, hrest, hsticks⟩ := Sticks.of_ends hreads (hpieces ▸ hends)
  refine ⟨pieces, blanks, rest, ?_, hsticks⟩
  rw [hrest, ← hpieces, hsticks.isCapture]
  exact dropWhile_blanks hsticks.isBlank hsticks.noLexeme.not_isBlank_head

end

/-! ### Places inside literals -/

/-- The place after `n` characters of a source lies inside a literal: inside one that is read
there, or after the first character of one that has no end. -/
inductive InLiteral (source : List Char) (n : Nat) : Prop
  /-- The literal is one of the lexemes of the source. -/
  | closed {pieces : List Piece} {left : List Char} {p : Piece} {value : String}
      (h : Reads .line source pieces left) (hp : LiesIn pieces p n)
      (hvalue : p.token = .regexp value) : InLiteral source n
  /-- The literal has no end. -/
  | unclosed {pieces : List Piece} {blanks rest : List Char}
      (h : Sticks source pieces blanks rest .unterminatedRegex)
      (hn : (pieces.flatMap Piece.chars ++ blanks).length < n) : InLiteral source n

/-- A literal begins with an equals sign. -/
theorem IsLexeme.equals_mem {mode : Mode} {text : List Char} {value : String}
    (h : IsLexeme mode text (.regexp value)) : '=' ∈ text := by
  cases mode with
  | line => cases h
  | capture =>
      cases h with
      | regexp => exact List.mem_cons_self
  | done => exact h.elim

/-- A lexeme that is read is one of some mode. -/
theorem Reads.exists_isLexeme {mode : Mode} {cs left : List Char} {pieces : List Piece}
    (h : Reads mode cs pieces left) {p : Piece} (hp : p ∈ pieces) :
    ∃ mode, IsLexeme mode p.text p.token := by
  induction h with
  | nil => cases hp
  | @cons mode _ _ _ l _ _ hlongest _ ih =>
      rcases List.mem_cons.1 hp with rfl | hp
      · exact ⟨mode, hlongest.isLexeme⟩
      · exact ih hp

/-- A source without an equals sign has no literals. -/
theorem not_inLiteral_of_notMem {source : List Char} (h : '=' ∉ source) (n : Nat) :
    ¬ InLiteral source n := by
  rintro (⟨hreads, ⟨before, after, rfl, -, -⟩, hvalue⟩ | ⟨hsticks, -⟩)
  · obtain ⟨mode, hlexeme⟩ := hreads.exists_isLexeme (List.mem_append_right _ List.mem_cons_self)
    rw [hvalue] at hlexeme
    refine h ?_
    rw [← hreads.append_eq]
    simp [Piece.chars, hlexeme.equals_mem]
  · have hno := hsticks.noLexeme
    refine h ?_
    rw [← hsticks.append_eq]
    cases hno
    simp

/-- An open literal before more text stays open, or it ends in that text. -/
theorem NoLexeme.append_of_unterminated {cs : List Char} (h : NoLexeme cs .unterminatedRegex)
    (more : List Char) :
    NoLexeme (cs ++ more) .unterminatedRegex ∨
      ∃ l value, IsLongest .capture (cs ++ more) l ∧ l.token = .regexp value ∧
        cs.length < l.text.length := by
  cases h with
  | @openLiteral cs hopen =>
      by_cases hclosed : ∃ body value rest, Unescapes body value ∧ body ++ '/' :: rest = cs ++ more
      · obtain ⟨body, value, rest, hbody, hrest⟩ := hclosed
        have hlong : IsLongest .capture ('=' :: '/' :: (body ++ '/' :: rest)) _ :=
          isLongest_regexp hbody
        rw [hrest] at hlong
        refine .inr ⟨_, _, hlong, rfl, ?_⟩
        -- With no more characters than the open literal it would end before.
        have hsame : (body ++ ['/']) ++ rest = cs ++ more := by rw [← hrest]; simp
        rcases List.append_eq_append_iff.1 hsame with ⟨past, rfl, -⟩ | ⟨past, hpast, -⟩
        · exact absurd (by simp) (hopen body value past hbody)
        · have hne : past ≠ [] := by
            rintro rfl
            exact hopen body value [] hbody (by simpa using hpast)
          have hlength := congrArg List.length hpast
          have hpos := List.length_pos_iff.2 hne
          simp only [List.length_append, List.length_cons, List.length_nil] at hlength ⊢
          omega
      · exact .inl (.openLiteral fun body value rest hbody hrest =>
          hclosed ⟨body, value, rest, hbody, hrest⟩)

/-- **A part of a source with an open literal** ends inside a literal, whether the literal has
an end after that or not. -/
theorem inLiteral_of_unterminated {before : List Char} {e : CompileError}
    (h : readLines (scanAll before) = .error e) (hfault : e.fault = .scan .unterminatedRegex)
    (after : List Char) : InLiteral (before ++ after) before.length := by
  obtain ⟨g, hg, hmode, hnext⟩ := readLines_eq_error_iff_reached.1 h
  obtain ⟨pieces, blanks, rest, -, hsticks⟩ := hg.exists_sticks hmode hnext hfault
  have hne := hsticks.noLexeme.ne_nil
  have hreads := hsticks.reads.followedBy (List.append_ne_nil_of_right_ne_nil _ hne) after
  rw [List.append_assoc] at hreads
  have hlength := congrArg List.length hsticks.append_eq
  have hpos := List.length_pos_iff.2 hne
  rcases hsticks.noLexeme.append_of_unterminated after with hno | ⟨l, value, hlong, hvalue, hlt⟩
  · refine .unclosed ⟨hreads.append_eq, hreads, hsticks.isCapture, hsticks.isBlank, hno,
      fun _ _ _ => hno.not_isLexeme⟩ ?_
    simp only [List.length_append] at hlength ⊢
    omega
  · have hblanks := hsticks.isBlank
    rw [← hsticks.isCapture] at hblanks hlong
    refine .closed (hreads.concat hblanks hlong) ⟨pieces, [], rfl, ?_, ?_⟩ hvalue
    · simp only [List.length_append] at hlength ⊢
      omega
    · simp only [Piece.chars, List.length_append] at hlength ⊢
      omega

/-! ### The places of errors -/

/-- The token that an error of a source is reported for starts after the given part of the
source. -/
inductive ReportedAfter [Diagnostics] (source : List Char) (e : CompileError) : List Char → Prop
  /-- A token that stops the reading, or that no lexeme can be read for. -/
  | token {g : Reading} {upto : List Char} (h : Reached source g)
      (hmode : g.scanner.mode ≠ .done) (hnext : g.next = .error e)
      (hupto : upto ++ g.scanner.rest.dropWhile (isBlankIn g.scanner.mode) = source) :
      ReportedAfter source e upto
  /-- The first token of a line that is indented too far. -/
  | line {start leading after : List Char} (h : StartsLine source start leading after)
      (hfault : e.fault = .unexpectedIndent) (hline : e.line = 1 + newlines start) :
      ReportedAfter source e (start ++ leading.takeWhile isLineBlank)

/-- Every error of the compiler is reported for a token. -/
theorem exists_reportedAfter {source : String} {e : CompileError}
    (h : compile source = .error e) : ∃ upto, ReportedAfter source.toList e upto := by
  rcases readLines_of_compile_error h with ⟨hread, -⟩ | ⟨lines, hread, l, hl, rfl⟩
  · obtain ⟨g, hg, hmode, hnext⟩ := readLines_eq_error_iff_reached.1 hread
    obtain ⟨pieces, hreads, -⟩ := hg.exists_reads hmode
    refine ⟨pieces.flatMap Piece.chars ++ g.scanner.rest.takeWhile (isBlankIn g.scanner.mode),
      .token hg hmode hnext ?_⟩
    rw [List.append_assoc, List.takeWhile_append_dropWhile, hreads.append_eq]
  · obtain ⟨start, leading, after, hstarts, hnumber, -⟩ := startsLine_of_readLines hread hl
    exact ⟨_, .line hstarts rfl hnumber⟩

/-- **The line of an error** is that of the token that it is reported for, or the last line of
the source if the token is a literal without end. -/
theorem ReportedAfter.line_eq {source upto : List Char} {e : CompileError}
    (h : ReportedAfter source e upto) :
    (∃ rest, upto ++ rest = source) ∧
      (e.line = 1 + newlines upto ∨ e.line = 1 + newlines source ∧
        ∃ pieces blanks rest, Sticks source pieces blanks rest .unterminatedRegex ∧
          upto = pieces.flatMap Piece.chars ++ blanks) := by
  cases h with
  | @token g _ h hmode hnext hupto =>
      refine ⟨⟨_, hupto⟩, ?_⟩
      obtain ⟨pieces, hreads, hpieces⟩ := h.exists_reads hmode
      have hpassed := h.newlines_eq_passed hmode hreads
      obtain ⟨blanks, hblanks, hrest, -⟩ := exists_blanks g.scanner.mode g.scanner.rest
      have heq : upto = pieces.flatMap Piece.chars ++ blanks := by
        have hsource := hreads.append_eq
        rw [← hupto, ← hrest, ← List.append_assoc, hrest] at hsource
        exact (List.append_cancel_right hsource).symm
      have hnewlines : newlines upto = g.scanner.passed := by
        rw [heq, newlines_append, newlines_eq_zero hblanks, hpassed, Nat.add_zero]
      rcases Reading.line_of_next_error hmode hnext with hline | ⟨hfault, hline⟩
      · left
        omega
      · right
        refine ⟨?_, ?_⟩
        · have hwithin := h.within.passed_add hmode
          omega
        · obtain ⟨pieces', blanks', rest', rfl, hsticks⟩ := h.exists_sticks hmode hnext hfault
          refine ⟨pieces', blanks', _, hsticks, ?_⟩
          have hsource := hsticks.append_eq
          rw [← hupto, ← List.append_assoc] at hsource
          exact (List.append_cancel_right hsource).symm
  | @line start leading after h hfault hline =>
      refine ⟨⟨leading.dropWhile isLineBlank ++ after, ?_⟩, .inl ?_⟩
      · rw [← h.append_eq, List.append_assoc, ← List.append_assoc (leading.takeWhile _),
          List.takeWhile_append_dropWhile]
      · have hblanks : ∀ c ∈ leading.takeWhile isLineBlank, IsBlank .line c := fun c hc =>
          isBlankIn_iff.1 (List.mem_takeWhile_imp hc)
        rw [hline, newlines_append, newlines_eq_zero hblanks, Nat.add_zero]

end Harvest.Pattern
