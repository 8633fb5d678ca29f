import Harvest.Proofs.Pattern.Fault
import Harvest.Proofs.Pattern.Seam

/-!
# The First Error of a Source

A source that ends with a newline can be continued with any text. Up to the first error the
reading of the continued source is that of the source, token by token: a lexeme before the last
newline does not see what follows, and the line break that takes this newline in may take in
more, but no error comes from it. So the first error stays, with its line and with whatever it
carries: what the reader of an expression says depends on the expression only. There are two
exceptions. A literal without end may find its end in what follows, and a line that is indented
too far is only looked at when all lines have been read, which other errors may prevent.

The line of an error is one of the lines of the source, since a reading passes every newline
once.

## Main results

* `Reached.followedBy`: the stages of a source are those of the continued source.
* `Reading.Within.next`: the lines of a reading are lines of the source.
* `first_error_wins`: what follows for the compiler.
-/

namespace Harvest.Pattern

variable {diagnostics : Diagnostics}

/-! ### Scans before a newline -/

/-- Where no lexeme stands before a newline, none stands if the text goes on, unless a literal
has no end. -/
theorem NoLexeme.append_of_newline {cs : List Char} {fault : ScanFault} (h : NoLexeme cs fault)
    (hfault : fault ≠ .unterminatedRegex) (hlast : cs.getLast? = some '\n') (more : List Char) :
    NoLexeme (cs ++ more) fault := by
  cases h with
  | newline cs => exact .newline (cs ++ more)
  | @equals cs hslash =>
      cases cs with
      | nil => cases hlast
      | cons c cs => exact .equals hslash
  | openLiteral _ => exact absurd rfl hfault

theorem NoLexeme.ne_nil {cs : List Char} {fault : ScanFault} (h : NoLexeme cs fault) :
    cs ≠ [] := by
  rintro rfl
  cases h

/-- Where a scan goes no further before a newline, it goes no further if the text goes on,
unless a literal has no end. -/
theorem Ends.append_of_newline {mode : Mode} {left : List Char} {fault : ScanFault}
    (h : Ends mode left (some fault)) (hfault : fault ≠ .unterminatedRegex)
    (hlast : left.getLast? = some '\n') (more : List Char) :
    Ends mode (left ++ more) (some fault) := by
  cases h with
  | stuck hblanks hno =>
      have hne := hno.ne_nil
      rw [List.getLast?_append_of_ne_nil _ hne] at hlast
      rw [List.append_assoc]
      exact .stuck hblanks (hno.append_of_newline hfault hlast more)

/-- Blanks do not end with a newline. -/
theorem getLast?_ne_newline {mode : Mode} {cs : List Char} (h : ∀ c ∈ cs, IsBlank mode c) :
    cs.getLast? ≠ some '\n' := by
  intro hlast
  have hblank := h _ (List.mem_of_getLast? hlast)
  cases mode <;> simp [IsBlank] at hblank

/-! ### A scanner before more text -/

namespace Scanner

variable {s s' : Scanner} {token : Token} {e : CompileError}

/-- The scanner with more text at the end of its source. -/
def followedBy (s : Scanner) (more : List Char) : Scanner :=
  { s with rest := s.rest ++ more }

/-- A place without a lexeme stops a scanner with a fault. -/
theorem scan_of_ends {fault : ScanFault} (h : Ends s.mode s.rest (some fault)) :
    s.scan.1 = .error ⟨faultLine s.passed s.rest fault, .scan fault⟩ := by
  have hmode : s.mode ≠ .done := by
    intro hdone
    rw [hdone] at h
    cases h
  rcases s.scan_spec hmode with
    ⟨blanks, cs, l, hrest, hblanks, hlongest, -⟩ | ⟨hends, -⟩ | ⟨fault', hends, hscan⟩
  · rw [hrest] at h
    exact absurd hlongest (h.not_isLongest hblanks)
  · cases h.unique hends
  · obtain rfl := Option.some.inj (h.unique hends)
    exact hscan

/-- What a token leaves of the source is the end of it. -/
theorem getLast?_rest_of_scan (h : s.scan = (.ok token, s')) (hne : token ≠ .eof) {c : Char}
    (hlast : s'.rest.getLast? = some c) : s.rest.getLast? = some c := by
  obtain ⟨blanks, cs, l, hrest, -, hlongest, -, rfl⟩ := exists_longest_of_scan h hne
  have hnil : l.rest ≠ [] := List.ne_nil_of_mem (List.mem_of_getLast? hlast)
  rw [hrest, ← hlongest.append_eq, ← List.append_assoc, List.getLast?_append_of_ne_nil _ hnil]
  exact hlast

/-- **A token before a newline** is read in the same way if the source goes on. -/
theorem scan_followedBy_of_token (h : s.scan = (.ok token, s')) (hne : token ≠ .eof)
    (hlast : s'.rest.getLast? = some '\n') (more : List Char) :
    (s.followedBy more).scan = (.ok token, s'.followedBy more) := by
  obtain ⟨blanks, cs, l, hrest, hblanks, hlongest, rfl, rfl⟩ := exists_longest_of_scan h hne
  have hmore : (s.followedBy more).rest = blanks ++ (cs ++ more) := by
    rw [← List.append_assoc, ← hrest]
    rfl
  have hnil : l.rest ≠ [] := List.ne_nil_of_mem (List.mem_of_getLast? hlast)
  exact scan_of_isLongest hmore hblanks (hlongest.append_of_ne_nil hnil more)

/-- A scanner that fails has not stopped before. -/
theorem mode_ne_done_of_error (h : s.scan.1 = .error e) : s.mode ≠ .done := by
  intro hdone
  rw [scan, hdone] at h
  cases h

/-- The place and the line of a fault. -/
theorem ends_of_scan_error (h : s.scan.1 = .error e) :
    ∃ fault, Ends s.mode s.rest (some fault) ∧
      e = ⟨faultLine s.passed s.rest fault, .scan fault⟩ := by
  rcases s.scan_spec (mode_ne_done_of_error h) with
    ⟨_, _, _, -, -, -, hscan⟩ | ⟨-, hscan⟩ | ⟨fault, hends, hscan⟩
  · rw [hscan] at h
    cases h
  · rw [hscan] at h
    cases h
  · exact ⟨fault, hends, Except.error.inj (h.symm.trans hscan)⟩

/-- **A fault before a newline**, other than a literal without end, is found in the same way if
the source goes on. -/
theorem scan_followedBy_of_error (h : s.scan.1 = .error e)
    (hfault : e.fault ≠ .scan .unterminatedRegex) (hlast : s.rest.getLast? = some '\n')
    (more : List Char) : (s.followedBy more).scan.1 = .error e := by
  obtain ⟨fault, hends, rfl⟩ := ends_of_scan_error h
  have hne : fault ≠ .unterminatedRegex := fun heq => hfault (congrArg CompileFault.scan heq)
  have hline : ∀ left, faultLine s.passed left fault = s.passed + 1 := by
    intro left
    cases fault with
    | unterminatedRegex => exact absurd rfl hne
    | _ => rfl
  have hmore : (s.followedBy more).scan.1 = _ :=
    scan_of_ends (hends.append_of_newline hne hlast more)
  rw [hmore, hline]
  exact congrArg (fun n => Except.error (CompileError.mk n _)) (hline _)

/-- The source of a scanner ends with a newline, which a line break may have taken in. -/
def EndsLine (s : Scanner) : Prop :=
  s.rest.getLast? = some '\n' ∨ s.rest = [] ∧ s.mode = .line

/-- The last newline is taken in by a line break, and by no other token. -/
theorem EndsLine.of_scan (hs : s.EndsLine) (h : s.scan = (.ok token, s')) (hne : token ≠ .eof) :
    s'.rest.getLast? = some '\n' ∨ (s'.rest = [] ∧ s'.mode = .line) ∧ token = .lineBreak := by
  obtain ⟨blanks, cs, l, hrest, -, hlongest, rfl, rfl⟩ := exists_longest_of_scan h hne
  have hsource : blanks ++ l.text ++ l.rest = s.rest := by
    rw [hrest, ← hlongest.append_eq, List.append_assoc]
  have htext : l.text ≠ [] := by
    obtain ⟨c, t, heq, -⟩ := hlongest.isLexeme.exists_cons
    rw [heq]
    exact List.cons_ne_nil c t
  have hlast : s.rest.getLast? = some '\n' := by
    refine hs.resolve_right fun hnil => htext ?_
    rw [hnil.1, List.append_eq_nil_iff, List.append_eq_nil_iff] at hsource
    exact hsource.1.2
  by_cases hnil : l.rest = []
  · right
    rw [← hsource, hnil, List.append_nil, List.getLast?_append_of_ne_nil _ htext] at hlast
    obtain ⟨hmode, hbreak⟩ := hlongest.isLexeme.eq_lineBreak_of_newline hlast
    refine ⟨⟨hnil, ?_⟩, hbreak⟩
    change modeAfter s.mode l.token = .line
    rw [hmode, hbreak]
    rfl
  · left
    rw [← hsource, List.getLast?_append_of_ne_nil _ hnil] at hlast
    exact hlast

/-- The end of a source comes after blanks. -/
theorem isBlank_of_scan_eof (hmode : s.mode ≠ .done) (h : s.scan = (.ok .eof, s')) :
    (∀ c ∈ s.rest, IsBlank s.mode c) ∧ s' = s.stop (s.passed + 1) := by
  rcases s.scan_spec hmode with
    ⟨_, _, l, -, -, hlongest, hscan⟩ | ⟨hends, hscan⟩ | ⟨fault, -, hscan⟩
  · rw [h] at hscan
    have heof : Token.eof = l.token := Except.ok.inj (Prod.mk.inj hscan).1
    exact absurd heof.symm hlongest.isLexeme.token_ne_eof
  · rw [h] at hscan
    exact ⟨hends.isBlank, (Prod.mk.inj hscan).2⟩
  · rw [h] at hscan
    cases hscan

/-- A token starts on the line that has been reached. -/
theorem line_of_scan (hmode : s.mode ≠ .done) (h : s.scan = (.ok token, s')) :
    s'.line = s.passed + 1 := by
  by_cases heof : token = .eof
  · subst heof
    rw [(isBlank_of_scan_eof hmode h).2]
    rfl
  · obtain ⟨l, -, -, -, rfl⟩ := exists_lexeme_of_scan h heof
    rfl

/-- The end of a source that ends with a newline is found in line mode. -/
theorem EndsLine.mode_of_eof (hs : s.EndsLine) (hmode : s.mode ≠ .done)
    (h : s.scan = (.ok .eof, s')) : s.mode = .line :=
  (hs.resolve_left (getLast?_ne_newline (isBlank_of_scan_eof hmode h).1)).2

/-- No fault comes after the last newline. -/
theorem EndsLine.getLast?_of_error (hs : s.EndsLine) (h : s.scan.1 = .error e) :
    s.rest.getLast? = some '\n' := by
  refine hs.resolve_right fun hnil => ?_
  obtain ⟨rest, fault, hcapture, -⟩ := exists_noLexeme_of_scan h
  rw [hnil.2] at hcapture
  cases hcapture

end Scanner

/-! ### A reading before more text -/

namespace Reading

variable {g g' : Reading} {e : CompileError}

/-- The reading with more text at the end of its source. -/
def followedBy (g : Reading) (more : List Char) : Reading :=
  { g with scanner := g.scanner.followedBy more }

/-- **One token more** before a newline is read in the same way if the source goes on. -/
theorem next_followedBy_of_ok (hmode : g.scanner.mode ≠ .done) (h : g.next = .ok g')
    (hlast : g'.scanner.rest.getLast? = some '\n') (more : List Char) :
    (g.followedBy more).next = .ok (g'.followedBy more) ∧
      g.scanner.rest.getLast? = some '\n' := by
  obtain ⟨token, hscan, hcases⟩ := scan_of_next h
  have heof : token ≠ .eof := by
    rintro rfl
    rw [(Scanner.isBlank_of_scan_eof hmode hscan).2] at hlast
    cases hlast
  have hmore : (g.followedBy more).scanner.scan = _ :=
    Scanner.scan_followedBy_of_token hscan heof hlast more
  refine ⟨?_, Scanner.getLast?_rest_of_scan hscan heof hlast⟩
  obtain ⟨s', draft', lines'⟩ := g'
  rcases hcases with ⟨hbreak, -, hpush, rfl⟩ | ⟨hends, made, hfinish, rfl, rfl⟩
  · rw [next_of_token hmore hbreak heof]
    exact map_eq_ok_iff.2 ⟨draft', hpush, rfl⟩
  · rw [next_of_end hmore hends]
    exact map_eq_ok_iff.2 ⟨made, hfinish, rfl⟩

/-- **The error that stops a reading** before a newline stops it if the source goes on. -/
theorem next_followedBy_of_error (hstep : g.InStep) (hg : g.scanner.EndsLine)
    (hmode : g.scanner.mode ≠ .done) (h : g.next = .error e)
    (hfault : e.fault ≠ .scan .unterminatedRegex) (more : List Char) :
    (g.followedBy more).next = .error e ∧ g.scanner.rest.getLast? = some '\n' := by
  rcases error_of_next h with hscan | ⟨token, s', hscan, ⟨hbreak, heof, hpush⟩ | ⟨hends, hfinish⟩⟩
  · have hlast := hg.getLast?_of_error hscan
    exact ⟨next_of_error (Scanner.scan_followedBy_of_error hscan hfault hlast more), hlast⟩
  · have hlast := (hg.of_scan hscan heof).resolve_right fun hnil => hbreak hnil.2
    have hmore : (g.followedBy more).scanner.scan = _ :=
      Scanner.scan_followedBy_of_token hscan heof hlast more
    refine ⟨?_, Scanner.getLast?_rest_of_scan hscan heof hlast⟩
    rw [next_of_token hmore hbreak heof]
    exact map_eq_error_iff.2 hpush
  · -- A line fails at its end only on an open capture, and no newline comes before that end.
    exfalso
    have hopen := (LineDraft.openCapture_of_finish_error hfinish).1
    rcases hends with rfl | rfl
    · rw [hstep.openCapture_of_lineBreak hscan] at hopen
      cases hopen
    · have hline := hg.mode_of_eof hmode hscan
      rw [hstep.1 hopen] at hline
      cases hline

/-- One token more of a source that ends with a newline. -/
theorem endsLine_of_next (hg : g.scanner.EndsLine) (h : g.next = .ok g') :
    g'.scanner.mode = .done ∨ g'.scanner.EndsLine := by
  obtain ⟨token, hscan, -⟩ := scan_of_next h
  by_cases heof : token = .eof
  · subst heof
    exact .inl (Scanner.mode_of_scan_eof hscan)
  · exact .inr ((hg.of_scan hscan heof).imp_right And.left)

end Reading

section

variable {source : List Char} {g : Reading}

/-- At every stage of the reading of a source that ends with a newline, the newline is still to
come, or a line break has taken it in. -/
theorem Reached.endsLine (h : Reached source g) (hsource : source.getLast? = some '\n') :
    g.scanner.mode = .done ∨ g.scanner.EndsLine := by
  induction h with
  | start => exact .inr (.inl hsource)
  | next _ hmode hnext ih => exact Reading.endsLine_of_next (ih.resolve_left hmode) hnext

/-- **The stages of a source** before its last newline are stages of the continued source. -/
theorem Reached.followedBy (h : Reached source g) (hlast : g.scanner.rest.getLast? = some '\n')
    (more : List Char) : Reached (source ++ more) (g.followedBy more) := by
  induction h with
  | start => exact .start
  | next _ hmode hnext ih =>
      obtain ⟨hmore, hlast'⟩ := Reading.next_followedBy_of_ok hmode hnext hlast more
      exact .next (ih hlast') hmode hmore

/-- **The error among the lines** of a source that ends with a newline is that of the continued
source, but for a literal without end. -/
theorem readLines_followedBy {e : CompileError} (hsource : source.getLast? = some '\n')
    (h : readLines (scanAll source) = .error e) (hfault : e.fault ≠ .scan .unterminatedRegex)
    (more : List Char) : readLines (scanAll (source ++ more)) = .error e := by
  obtain ⟨g, hg, hmode, hnext⟩ := readLines_eq_error_iff_reached.1 h
  obtain ⟨hmore, hlast⟩ := Reading.next_followedBy_of_error hg.inStep
    ((hg.endsLine hsource).resolve_left hmode) hmode hnext hfault more
  exact readLines_eq_error_iff_reached.2 ⟨_, hg.followedBy hlast more, hmode, hmore⟩

end

/-! ### The lines of a source -/

/-- A line of a source, counted from one. A source has one more than it has newlines. -/
def IsLineOf (source : List Char) (n : Nat) : Prop :=
  1 ≤ n ∧ n ≤ 1 + newlines source

/-- Every newline of the source has been passed or is still to come, and what has been read
stands on lines of the source. -/
structure Reading.Within (source : List Char) (g : Reading) : Prop where
  /-- The newlines that have been passed, and those to come. -/
  passed_add : g.scanner.mode ≠ .done →
    g.scanner.passed + newlines g.scanner.rest = newlines source
  /-- The line that has begun. -/
  draft : ∀ n, g.draft.number = some n → IsLineOf source n
  /-- The lines before it. -/
  lines : ∀ l ∈ g.lines, IsLineOf source l.number

namespace Reading

/-- The error that stops a reading is on the line that has been reached, but for a literal
without end, which is reported on the last line. -/
theorem line_of_next_error {g : Reading} {e : CompileError} (hmode : g.scanner.mode ≠ .done)
    (h : g.next = .error e) :
    e.line = g.scanner.passed + 1 ∨ e.fault = .scan .unterminatedRegex ∧
      e.line = g.scanner.passed + 1 + newlines g.scanner.rest := by
  rcases error_of_next h with hscan | ⟨token, s', hscan, ⟨-, -, hpush⟩ | ⟨-, hfinish⟩⟩
  · obtain ⟨fault, -, rfl⟩ := Scanner.ends_of_scan_error hscan
    cases fault with
    | unterminatedRegex => exact .inr ⟨rfl, rfl⟩
    | _ => exact .inl rfl
  · rw [LineDraft.line_of_push_error hpush]
    exact .inl (Scanner.line_of_scan hmode hscan)
  · rw [(LineDraft.openCapture_of_finish_error hfinish).2]
    exact .inl (Scanner.line_of_scan hmode hscan)

variable {source : List Char} {g g' : Reading}

/-- A token starts on a line of the source. -/
theorem Within.line_of_scan (h : g.Within source) (hmode : g.scanner.mode ≠ .done)
    {token : Token} {s' : Scanner} (hscan : g.scanner.scan = (.ok token, s')) :
    IsLineOf source s'.line := by
  have hpassed := h.passed_add hmode
  rw [Scanner.line_of_scan hmode hscan]
  exact ⟨Nat.le_add_left 1 _, by omega⟩

/-- A token passes newlines that have been to come. -/
theorem Within.passed_add_of_scan (h : g.Within source) (hmode : g.scanner.mode ≠ .done)
    {token : Token} {s' : Scanner} (hscan : g.scanner.scan = (.ok token, s'))
    (hmode' : s'.mode ≠ .done) : s'.passed + newlines s'.rest = newlines source := by
  have heof : token ≠ .eof := by
    rintro rfl
    exact hmode' (Scanner.mode_of_scan_eof hscan)
  obtain ⟨blanks, cs, l, hrest, hblanks, hlongest, -, rfl⟩ :=
    Scanner.exists_longest_of_scan hscan heof
  calc g.scanner.passed + newlines l.text + newlines l.rest
      = g.scanner.passed + newlines (blanks ++ (l.text ++ l.rest)) := by
        rw [newlines_append, newlines_append, newlines_eq_zero hblanks, Nat.zero_add,
          Nat.add_assoc]
    _ = g.scanner.passed + newlines g.scanner.rest := by rw [hlongest.append_eq, hrest]
    _ = newlines source := h.passed_add hmode

/-- The line that has begun, or that begins with a token, is one of the source. -/
theorem Within.getD_number (h : g.Within source) {line : Nat} (hline : IsLineOf source line) :
    IsLineOf source (g.draft.number.getD line) := by
  cases hnumber : g.draft.number with
  | none => exact hline
  | some n => exact h.draft n hnumber

/-- **One token more** stands on a line of the source as well. -/
theorem Within.next (h : g.Within source) (hmode : g.scanner.mode ≠ .done)
    (hnext : g.next = .ok g') : g'.Within source := by
  obtain ⟨token, hscan, ⟨-, -, hpush, hlines⟩ | ⟨-, made, hfinish, hdraft, hlines⟩⟩ :=
    scan_of_next hnext
  · refine ⟨h.passed_add_of_scan hmode hscan, fun n hn => ?_, hlines ▸ h.lines⟩
    rw [(LineDraft.header_of_push hpush).1] at hn
    obtain rfl := Option.some.inj hn
    exact h.getD_number (h.line_of_scan hmode hscan)
  · refine ⟨h.passed_add_of_scan hmode hscan, fun n hn => ?_, fun l hl => ?_⟩
    · rw [hdraft] at hn
      cases hn
    · rw [hlines] at hl
      rcases List.mem_append.1 hl with hl | hl
      · exact h.lines l hl
      · obtain rfl := Option.mem_toList.1 hl
        rw [(LineDraft.header_of_finish hfinish).1]
        exact h.getD_number (h.line_of_scan hmode hscan)

/-- The error that stops a reading is on a line of the source. -/
theorem Within.line_of_error (h : g.Within source) (hmode : g.scanner.mode ≠ .done)
    {e : CompileError} (hnext : g.next = .error e) : IsLineOf source e.line := by
  have hpassed := h.passed_add hmode
  dsimp only [IsLineOf]
  rcases line_of_next_error hmode hnext with hline | ⟨-, hline⟩ <;> omega

end Reading

/-- **At every stage**, what has been read stands on lines of the source. -/
theorem Reached.within {source : List Char} {g : Reading} (h : Reached source g) :
    g.Within source := by
  induction h with
  | start => exact ⟨fun _ => Nat.zero_add _, nofun, nofun⟩
  | next _ hmode hnext ih => exact ih.next hmode hnext

/-- The lines that are read, and the error among them, are lines of the source. -/
theorem isLineOf_of_readLines {source : List Char} :
    (∀ lines, readLines (scanAll source) = .ok lines → ∀ l ∈ lines, IsLineOf source l.number) ∧
      ∀ e, readLines (scanAll source) = .error e → IsLineOf source e.line := by
  refine ⟨fun lines h => ?_, fun e h => ?_⟩
  · obtain ⟨g, hg, -, rfl⟩ := readLines_eq_ok_iff_reached.1 h
    exact hg.within.lines
  · obtain ⟨g, hg, hmode, hnext⟩ := readLines_eq_error_iff_reached.1 h
    exact hg.within.line_of_error hmode hnext

/-! ### The errors of the compiler -/

/-- An error of the compiler is that among the lines of the source, unless all lines are read
and the first one is indented too far. -/
theorem readLines_of_compile_error {source : String} {e : CompileError}
    (h : compile source = .error e) :
    readLines (scanAll source.toList) = .error e ∧ e.fault ≠ .unexpectedIndent ∨
      ∃ lines, readLines (scanAll source.toList) = .ok lines ∧
        ∃ l ∈ lines, e = ⟨l.number, .unexpectedIndent⟩ := by
  rcases compile_eq_error_iff.1 h with hread | ⟨lines, hread, harrange⟩
  · obtain ⟨g, hg, -, hnext⟩ := readLines_eq_error_iff_reached.1 hread
    refine .inl ⟨hread, fun hfault => ?_⟩
    rcases hg.inStep.fault_of_next hnext with hline | ⟨fault, hscan, -⟩
    · rw [hfault] at hline
      exact hline
    · rw [hfault] at hscan
      cases hscan
  · obtain ⟨l, rest, rfl, -, rfl⟩ := buildBlock_eq_error_iff.1 (map_eq_error_iff.1 harrange)
    exact .inr ⟨_, hread, l, List.mem_cons_self, rfl⟩

/-- **The first error wins.** A source that ends with a newline and does not compile has the
same error, on the same line, whatever text comes after it, unless the error is a literal
without end or a line that is indented too far. It carries the same texts as well: the selector
or the expression that is refused, and whatever its reader says about it. The line of an error of
any source is one of the lines of the source. A line is found to be indented too far only in a
source that has no other error anywhere: its scan comes to the end, all its lines are read, and
no stage of the reading stops. -/
theorem first_error_wins :
    (∀ (source more : String) (e : CompileError), compile (source ++ "\n") = .error e →
      e.fault ≠ .unexpectedIndent → e.fault ≠ .scan .unterminatedRegex →
      compile (source ++ "\n" ++ more) = .error e) ∧
    (∀ (source : String) (e : CompileError), compile source = .error e →
      1 ≤ e.line ∧ e.line ≤ 1 + newlines source.toList) ∧
    ∀ (source : String) (line : Nat), compile source = .error ⟨line, .unexpectedIndent⟩ →
      (∃ tokens, tokenize source = .ok tokens) ∧
      (∃ lines, readLines (scanAll source.toList) = .ok lines) ∧
      ∀ g, Reached source.toList g → g.scanner.mode ≠ .done → ∃ g', g.next = .ok g' := by
  refine ⟨fun source more e h hindent hliteral => ?_, fun source e h => ?_,
    fun source line h => ?_⟩
  · rcases readLines_of_compile_error h with ⟨hread, -⟩ | ⟨lines, -, l, -, rfl⟩
    · have hlast : (source ++ "\n").toList.getLast? = some '\n' := by
        rw [String.toList_append]
        exact List.getLast?_concat
      refine compile_eq_error_iff.2 (.inl ?_)
      rw [String.toList_append]
      exact readLines_followedBy hlast hread hliteral more.toList
    · exact absurd rfl hindent
  · rcases readLines_of_compile_error h with ⟨hread, -⟩ | ⟨lines, hread, l, hl, rfl⟩
    · exact isLineOf_of_readLines.2 e hread
    · exact isLineOf_of_readLines.1 lines hread l hl
  · rcases readLines_of_compile_error h with ⟨-, hne⟩ | ⟨lines, hread, -⟩
    · exact absurd rfl hne
    · refine ⟨?_, ⟨lines, hread⟩, fun g hg hmode => ?_⟩
      · obtain ⟨n, hending⟩ := ending_of_readLinesFrom hread
        refine ⟨(scanAll source.toList).tokens, tokenize_eq_ok_iff.2 ⟨n, ?_⟩⟩
        rw [← hending]
      · cases hnext : g.next with
        | ok g' => exact ⟨g', rfl⟩
        | error e =>
            have herror := readLines_eq_error_iff_reached.2 ⟨g, hg, hmode, hnext⟩
            rw [hread] at herror
            cases herror

/-- An expression that is refused stays so, with what its reader says about it, although the next
line has a fault as well. -/
example : compile "a (text =/(/ X)\nb c" = .error ⟨1, .ofExpression "("⟩ := by cbv

end Harvest.Pattern
