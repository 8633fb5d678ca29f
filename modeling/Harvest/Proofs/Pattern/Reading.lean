import Harvest.Proofs.Pattern.Language

/-!
# Reading in Step

The scanner knows whether a bracket is open by its mode, and the line that is read knows it by
its open capture. Each has its own transitions on brackets. This module follows both through
the reading of a source, token after token, and shows that the line has an open capture exactly
while the scanner is in capture mode.

A reading is a scanner, the line that has begun and the lines before it. Its stages are those
from which `readLines` takes its result, so that what holds at every stage is a fact about the
compiler.

## Main results

* `Reading.outcome_eq_bind_next`: what comes of a reading, from one token to the next.
* `readLines_eq_ok_iff_reached`, `readLines_eq_error_iff_reached`: the lines of a source, and
  the error among them, are those of the last stage of its reading.
* `Reached.inStep`: at every stage, scanner and line agree.
-/

namespace Harvest.Pattern

open Scanner (modeAfter)

variable {diagnostics : Diagnostics}

/-- The reading of a source at one of its stages. -/
structure Reading where
  /-- The scanner. -/
  scanner : Scanner
  /-- The line that has begun. -/
  draft : LineDraft
  /-- The lines before it. -/
  lines : List Line

namespace Reading

/-- The reading of a source before its first token. -/
def start (source : List Char) : Reading :=
  ⟨.start source, .empty, []⟩

/-- Reads one token more. A line break and the end of the source end the line. -/
def next [Diagnostics] (g : Reading) : Except CompileError Reading :=
  match g.scanner.scan with
  | (.error e, _) => .error e
  | (.ok token, scanner) =>
      if token = .lineBreak ∨ token = .eof then
        (g.draft.finish scanner.line).map fun made =>
          ⟨scanner, .empty, g.lines ++ made.toList⟩
      else (g.draft.push token scanner.line).map fun draft => ⟨scanner, draft, g.lines⟩

end Reading

/-- The stages of the reading of a source, each after a token that was read without an error.
After the end of the source there is no other stage. -/
inductive Reached [Diagnostics] (source : List Char) : Reading → Prop
  /-- Before the first token. -/
  | start : Reached source (.start source)
  /-- After one token more. -/
  | next {g g' : Reading} (h : Reached source g) (hmode : g.scanner.mode ≠ .done)
      (hnext : g.next = .ok g') : Reached source g'

/-! ### What is left of a scan -/

namespace Scanner

/-- A lexeme that stands after blanks is what a scanner reads. -/
theorem scan_of_isLongest {s : Scanner} {blanks cs : List Char} {l : Lexeme}
    (hrest : s.rest = blanks ++ cs) (hblanks : ∀ c ∈ blanks, IsBlank s.mode c)
    (hlongest : IsLongest s.mode cs l) : s.scan = (.ok l.token, s.advance l) := by
  have hmode : s.mode ≠ .done := by
    intro hdone
    have hlexeme := hlongest.isLexeme
    rw [hdone] at hlexeme
    exact hlexeme
  rcases s.scan_spec hmode with
    ⟨blanks', cs', l', hrest', hblanks', hlongest', hscan⟩ | ⟨hends, -⟩ | ⟨fault, hends, -⟩
  · obtain ⟨-, rfl⟩ := blanks_unique hblanks hlongest.not_isBlank_head hblanks'
      hlongest'.not_isBlank_head (hrest.symm.trans hrest')
    obtain rfl := hlongest.unique hlongest'
    exact hscan
  · rw [hrest] at hends
    exact absurd hlongest (hends.not_isLongest hblanks)
  · rw [hrest] at hends
    exact absurd hlongest (hends.not_isLongest hblanks)

/-- A token that is not the end of the source is that of the longest lexeme after blanks. -/
theorem exists_longest_of_scan {s s' : Scanner} {token : Token} (h : s.scan = (.ok token, s'))
    (hne : token ≠ .eof) :
    ∃ blanks cs l, s.rest = blanks ++ cs ∧ (∀ c ∈ blanks, IsBlank s.mode c) ∧
      IsLongest s.mode cs l ∧ token = l.token ∧ s' = s.advance l := by
  by_cases hmode : s.mode = .done
  · rw [scan, hmode] at h
    cases h
    exact absurd rfl hne
  · rcases s.scan_spec hmode with
      ⟨blanks, cs, l, hrest, hblanks, hlongest, hscan⟩ | ⟨-, hscan⟩ | ⟨fault, -, hscan⟩
    · rw [hscan] at h
      obtain ⟨htoken, hs'⟩ := Prod.mk.inj h
      exact ⟨blanks, cs, l, hrest, hblanks, hlongest, (Except.ok.inj htoken).symm, hs'.symm⟩
    · rw [hscan] at h
      cases h
      exact absurd rfl hne
    · rw [h] at hscan
      cases hscan

/-- A token that is not the end of the source comes from a lexeme of the mode. -/
theorem exists_lexeme_of_scan {s s' : Scanner} {token : Token} (h : s.scan = (.ok token, s'))
    (hne : token ≠ .eof) :
    ∃ l : Lexeme, IsLexeme s.mode l.text l.token ∧ l.rest.length < s.rest.length ∧
      token = l.token ∧ s' = s.advance l := by
  obtain ⟨blanks, cs, l, hrest, -, hlongest, htoken, hs'⟩ := exists_longest_of_scan h hne
  have hlength : l.rest.length < s.rest.length := by
    have hlt := hlongest.length_rest_lt
    rw [hrest, List.length_append]
    omega
  exact ⟨l, hlongest.isLexeme, hlength, htoken, hs'⟩

/-- After the end of the source the scanner has stopped. -/
theorem mode_of_scan_eof {s s' : Scanner} (h : s.scan = (.ok .eof, s')) : s'.mode = .done := by
  by_cases hmode : s.mode = .done
  · rw [scan, hmode] at h
    cases h
    exact hmode
  · rcases s.scan_spec hmode with
      ⟨blanks, cs, l, -, -, hlongest, hscan⟩ | ⟨-, hscan⟩ | ⟨fault, -, hscan⟩
    · rw [hscan] at h
      obtain ⟨htoken, -⟩ := Prod.mk.inj h
      exact absurd (Except.ok.inj htoken) hlongest.isLexeme.token_ne_eof
    · rw [hscan] at h
      cases h
      rfl
    · rw [h] at hscan
      cases hscan

/-- A scanner fails only in capture mode, where no lexeme stands. -/
theorem exists_noLexeme_of_scan {s : Scanner} {e : CompileError} (h : s.scan.1 = .error e) :
    ∃ rest fault, s.mode = .capture ∧ NoLexeme rest fault ∧ e.fault = .scan fault := by
  by_cases hmode : s.mode = .done
  · rw [scan, hmode] at h
    cases h
  · rcases s.scan_spec hmode with ⟨_, _, _, -, -, -, hscan⟩ | ⟨-, hscan⟩ | ⟨fault, hends, hscan⟩
    · rw [hscan] at h
      cases h
    · rw [hscan] at h
      cases h
    · rw [hscan] at h
      obtain rfl := Except.error.inj h
      generalize hm : s.mode = mode at hends
      generalize s.rest = left at hends
      cases hends with
      | stuck _ hno => exact ⟨_, fault, rfl, hno, rfl⟩

/-- All that a scanner still yields. -/
def remaining (s : Scanner) : Scan :=
  scanFrom (s.rest.length + 1) s []

/-- Any fuel that is enough gives what a scanner still yields. -/
theorem scanFrom_eq_remaining {s : Scanner} (hmode : s.mode ≠ .done) {fuel : Nat}
    (hfuel : s.rest.length < fuel) (found : List (Token × Nat)) :
    scanFrom fuel s found = ⟨found.reverse ++ s.remaining.tokens, s.remaining.ending⟩ := by
  obtain ⟨pieces, left, fault?, hreads, hends, hscan⟩ :=
    scanFrom_spec fuel s found hmode hfuel
  obtain ⟨pieces', left', fault?', hreads', hends', hscan'⟩ :=
    scanFrom_spec (s.rest.length + 1) s [] hmode (Nat.lt_succ_self _)
  obtain ⟨rfl, rfl⟩ := hreads.unique hends hreads' hends'
  obtain rfl := hends.unique hends'
  rw [hscan, remaining, hscan']
  rfl

/-- A token comes before what the scanner yields after it. -/
theorem remaining_of_token {s s' : Scanner} {token : Token} (hmode : s.mode ≠ .done)
    (h : s.scan = (.ok token, s')) (hne : token ≠ .eof) :
    s.remaining = ⟨(token, s'.line) :: s'.remaining.tokens, s'.remaining.ending⟩ := by
  obtain ⟨l, -, hlength, rfl, rfl⟩ := exists_lexeme_of_scan h hne
  have hmode' : (s.advance l).mode ≠ .done := modeAfter_ne_done hmode l.token
  rw [remaining, scanFrom_succ_of_token h hne, scanFrom_eq_remaining hmode' hlength]
  rfl

theorem remaining_of_eof {s s' : Scanner} (h : s.scan = (.ok .eof, s')) :
    s.remaining = ⟨[], .ok s'.line⟩ := by
  rw [remaining, scanFrom, h]
  rfl

theorem remaining_of_error {s : Scanner} {e : CompileError} (h : s.scan.1 = .error e) :
    s.remaining = ⟨[], .error e⟩ :=
  scanFrom_succ_of_error h _ []

end Scanner

/-! ### Where a line has begun -/

namespace LineDraft

/-- A change inside a group keeps the number of the line and its depth. -/
theorem header_of_inCapture {d d' : LineDraft} {description : String}
    {change : CaptureDraft → Except CompileFault CaptureDraft}
    (h : d.inCapture description change = .ok d') : d'.number = d.number ∧ d'.depth = d.depth := by
  rw [inCapture] at h
  cases hopen : d.openCapture with
  | none =>
      rw [hopen] at h
      cases h
  | some c =>
      rw [hopen] at h
      obtain ⟨c', -, rfl⟩ := map_eq_ok_iff.1 h
      exact ⟨rfl, rfl⟩

/-- The first token of a line gives it its number, and its depth if it is a run of tabs. -/
theorem header_of_push {d d' : LineDraft} {token : Token} {line : Nat}
    (h : d.push token line = .ok d') :
    d'.number = some (d.number.getD line) ∧
      ((d.number = none ∧ token = .indent d'.depth) ∨
        (d.number = none → ∀ depth, token ≠ .indent depth) ∧ d'.depth = d.depth) := by
  rw [push_eq_ok_iff] at h
  cases token with
  | indent depth =>
      rw [add] at h
      obtain rfl := Except.ok.inj h
      cases hnumber : d.number with
      | none => exact ⟨rfl, .inl ⟨rfl, rfl⟩⟩
      | some n => exact ⟨rfl, .inr ⟨fun hnone => absurd hnone (Option.some_ne_none n), rfl⟩⟩
  | selector text =>
      obtain ⟨-, s, -, rfl⟩ := addSelector_eq_ok_iff.1 h
      exact ⟨rfl, .inr ⟨fun _ _ => Token.noConfusion, rfl⟩⟩
  | leftBracket =>
      rw [add] at h
      split at h
      · cases h
      · obtain rfl := Except.ok.inj h
        exact ⟨rfl, .inr ⟨fun _ _ => Token.noConfusion, rfl⟩⟩
  | rightBracket =>
      rw [add] at h
      split at h
      · cases h
      · obtain ⟨capture, -, rfl⟩ := map_eq_ok_iff.1 h
        exact ⟨rfl, .inr ⟨fun _ _ => Token.noConfusion, rfl⟩⟩
  | identifier text | regexp source =>
      obtain ⟨hnumber, hdepth⟩ := header_of_inCapture h
      exact ⟨hnumber, .inr ⟨fun _ _ => Token.noConfusion, hdepth⟩⟩
  | questionMark | lineBreak | eof =>
      obtain rfl := Except.ok.inj h
      exact ⟨rfl, .inr ⟨fun _ _ => Token.noConfusion, rfl⟩⟩

/-- A line that ends keeps its number and its depth. -/
theorem header_of_finish {d : LineDraft} {line : Nat} {l : Line}
    (h : d.finish line = .ok (some l)) : l.number = d.number.getD line ∧ l.depth = d.depth := by
  rw [finish] at h
  split at h
  · cases h
  · split at h
    · cases h
    · obtain rfl := Option.some.inj (Except.ok.inj h)
      exact ⟨rfl, rfl⟩

end LineDraft

/-! ### The stages of a reading -/

namespace Reading

/-- What comes of a reading: its lines, or the error that stops it. -/
def outcome [Diagnostics] (g : Reading) : Except CompileError (List Line) :=
  if g.scanner.mode = .done then .ok g.lines
  else
    (readLinesFrom g.scanner.remaining.ending g.draft g.scanner.remaining.tokens).map
      (g.lines ++ ·)

theorem outcome_start (source : List Char) :
    (start source).outcome = readLines (scanAll source) := by
  have hlines : ∀ x : Except CompileError (List Line), x.map ([] ++ ·) = x := by
    intro x
    cases x <;> rfl
  rw [outcome, if_neg (by nofun)]
  exact hlines _

/-- What comes of a reading is what comes of it after one token more. -/
theorem outcome_eq_bind_next {g : Reading} (hmode : g.scanner.mode ≠ .done) :
    g.outcome = g.next >>= outcome := by
  rw [outcome, if_neg hmode, next]
  rcases hscan : g.scanner.scan with ⟨e | token, s'⟩
  · rw [Scanner.remaining_of_error (by rw [hscan])]
    rfl
  by_cases heof : token = .eof
  · -- The last line ends, and no stage comes after it.
    subst heof
    have hdone := Scanner.mode_of_scan_eof hscan
    rw [Scanner.remaining_of_eof hscan]
    dsimp only
    rw [if_pos (.inr rfl), readLinesFrom_nil]
    cases g.draft.finish s'.line with
    | error e => rfl
    | ok made => exact (if_pos hdone).symm
  have hmode' : s'.mode ≠ .done := by
    obtain ⟨l, -, -, rfl, rfl⟩ := Scanner.exists_lexeme_of_scan hscan heof
    exact modeAfter_ne_done hmode l.token
  rw [Scanner.remaining_of_token hmode hscan heof]
  dsimp only
  by_cases hbreak : token = .lineBreak
  · subst hbreak
    rw [if_pos (.inl rfl), readLinesFrom_lineBreak]
    cases g.draft.finish s'.line with
    | error e => rfl
    | ok made =>
        change _ = outcome ⟨s', .empty, g.lines ++ made.toList⟩
        rw [outcome, if_neg hmode']
        change Except.map _ (Except.map _ _) = Except.map _ _
        cases readLinesFrom s'.remaining.ending .empty s'.remaining.tokens with
        | error e => rfl
        | ok lines => simp [Except.map]
  · rw [if_neg (by simp [hbreak, heof]), readLinesFrom_token _ _ hbreak]
    cases g.draft.push token s'.line with
    | error e => rfl
    | ok draft => exact (if_neg hmode').symm

/-- A token that goes to the line. -/
theorem next_of_token {g : Reading} {token : Token} {s' : Scanner}
    (h : g.scanner.scan = (.ok token, s')) (hbreak : token ≠ .lineBreak) (heof : token ≠ .eof) :
    g.next = (g.draft.push token s'.line).map fun draft => ⟨s', draft, g.lines⟩ := by
  rw [next, h]
  exact if_neg (not_or.2 ⟨hbreak, heof⟩)

/-- A token that ends the line. -/
theorem next_of_end {g : Reading} {token : Token} {s' : Scanner}
    (h : g.scanner.scan = (.ok token, s')) (hends : token = .lineBreak ∨ token = .eof) :
    g.next =
      (g.draft.finish s'.line).map fun made => ⟨s', .empty, g.lines ++ made.toList⟩ := by
  rw [next, h]
  exact if_pos hends

theorem next_of_error {g : Reading} {e : CompileError} (h : g.scanner.scan.1 = .error e) :
    g.next = .error e := by
  rw [next]
  rcases hscan : g.scanner.scan with ⟨result, s'⟩
  rw [hscan] at h
  obtain rfl : result = .error e := h
  rfl

/-- What comes of a token that is read without an error: it goes to the line, or it ends the
line. -/
theorem scan_of_next {g g' : Reading} (h : g.next = .ok g') :
    ∃ token, g.scanner.scan = (.ok token, g'.scanner) ∧
      (token ≠ .lineBreak ∧ token ≠ .eof ∧
          g.draft.push token g'.scanner.line = .ok g'.draft ∧ g'.lines = g.lines ∨
        (token = .lineBreak ∨ token = .eof) ∧
          ∃ made, g.draft.finish g'.scanner.line = .ok made ∧ g'.draft = .empty ∧
            g'.lines = g.lines ++ made.toList) := by
  rw [next] at h
  rcases hscan : g.scanner.scan with ⟨e | token, s'⟩
  · rw [hscan] at h
    cases h
  rw [hscan] at h
  dsimp only at h
  split at h
  · rename_i hends
    obtain ⟨made, hfinish, rfl⟩ := map_eq_ok_iff.1 h
    exact ⟨token, rfl, .inr ⟨hends, made, hfinish, rfl, rfl⟩⟩
  · rename_i hgoes
    obtain ⟨hbreak, heof⟩ := not_or.1 hgoes
    obtain ⟨draft, hpush, rfl⟩ := map_eq_ok_iff.1 h
    exact ⟨token, rfl, .inl ⟨hbreak, heof, hpush, rfl⟩⟩

/-- Where an error comes from that stops a reading: from the scanner, from a token of the line,
or from the end of the line. -/
theorem error_of_next {g : Reading} {e : CompileError} (h : g.next = .error e) :
    g.scanner.scan.1 = .error e ∨
      ∃ token s', g.scanner.scan = (.ok token, s') ∧
        (token ≠ .lineBreak ∧ token ≠ .eof ∧ g.draft.push token s'.line = .error e ∨
          (token = .lineBreak ∨ token = .eof) ∧ g.draft.finish s'.line = .error e) := by
  rw [next] at h
  rcases hscan : g.scanner.scan with ⟨e' | token, s'⟩
  · rw [hscan] at h
    obtain rfl := Except.error.inj h
    exact .inl rfl
  rw [hscan] at h
  dsimp only at h
  split at h
  · rename_i hends
    exact .inr ⟨token, s', rfl, .inr ⟨hends, map_eq_error_iff.1 h⟩⟩
  · rename_i hgoes
    obtain ⟨hbreak, heof⟩ := not_or.1 hgoes
    exact .inr ⟨token, s', rfl, .inl ⟨hbreak, heof, map_eq_error_iff.1 h⟩⟩

/-- What a token does that is read without an error: it changes the line, it ends the line, or
it ends the reading. -/
theorem cases_of_next {g g' : Reading} (h : g.next = .ok g') :
    (∃ (l : Lexeme) (draft : LineDraft), l.rest.length < g.scanner.rest.length ∧
      g.draft.push l.token (g.scanner.advance l).line = .ok draft ∧
      g' = ⟨g.scanner.advance l, draft, g.lines⟩) ∨
    (∃ (l : Lexeme) (made : Option Line), l.rest.length < g.scanner.rest.length ∧
      l.token = .lineBreak ∧ g.draft.finish (g.scanner.advance l).line = .ok made ∧
      g' = ⟨g.scanner.advance l, .empty, g.lines ++ made.toList⟩) ∨
    ∃ s' made, s'.mode = .done ∧ g' = ⟨s', .empty, g.lines ++ Option.toList made⟩ := by
  obtain ⟨s', draft', lines'⟩ := g'
  obtain ⟨token, hscan, ⟨-, heof, hpush, rfl⟩ | ⟨hends, made, hfinish, rfl, rfl⟩⟩ := scan_of_next h
  · obtain ⟨l, -, hlength, rfl, rfl⟩ := Scanner.exists_lexeme_of_scan hscan heof
    exact .inl ⟨l, draft', hlength, hpush, rfl⟩
  · rcases hends with rfl | rfl
    · obtain ⟨l, -, hlength, htoken, rfl⟩ := Scanner.exists_lexeme_of_scan hscan nofun
      exact .inr (.inl ⟨l, made, hlength, htoken.symm, hfinish, rfl⟩)
    · exact .inr (.inr ⟨s', made, Scanner.mode_of_scan_eof hscan, rfl⟩)

/-- A reading comes to its end, or fewer characters are left. -/
theorem length_rest_lt_of_next {g g' : Reading} (h : g.next = .ok g') :
    g'.scanner.mode = .done ∨ g'.scanner.rest.length < g.scanner.rest.length := by
  rcases cases_of_next h with
    ⟨l, _, hlength, -, rfl⟩ | ⟨l, _, hlength, -, -, rfl⟩ | ⟨s', _, hdone, rfl⟩
  · exact .inr hlength
  · exact .inr hlength
  · exact .inl hdone

end Reading

section

variable {source : List Char} {g : Reading}

/-- Whatever stage a reading has reached, the lines of the source are what comes of it. -/
theorem Reached.readLines_eq (h : Reached source g) :
    readLines (scanAll source) = g.outcome := by
  induction h with
  | start => exact (Reading.outcome_start source).symm
  | next _ hmode hnext ih =>
      rw [ih, Reading.outcome_eq_bind_next hmode, hnext]
      rfl

/-- Every reading comes to its end or to an error. -/
theorem Reached.exists_last (h : Reached source g) :
    ∃ g', Reached source g' ∧
      (g'.scanner.mode = .done ∨ g'.scanner.mode ≠ .done ∧ ∃ e, g'.next = .error e) := by
  generalize hlength : g.scanner.rest.length = n
  induction n using Nat.strongRecOn generalizing g with
  | ind n ih =>
      by_cases hmode : g.scanner.mode = .done
      · exact ⟨g, h, .inl hmode⟩
      cases hnext : g.next with
      | error e => exact ⟨g, h, .inr ⟨hmode, e, hnext⟩⟩
      | ok g' =>
          have h' : Reached source g' := .next h hmode hnext
          rcases Reading.length_rest_lt_of_next hnext with hdone | hlt
          · exact ⟨g', h', .inl hdone⟩
          · exact ih _ (hlength ▸ hlt) h' rfl

end

/-- **The lines of a source** are those of the last stage of its reading. -/
theorem readLines_eq_ok_iff_reached {source : List Char} {lines : List Line} :
    readLines (scanAll source) = .ok lines ↔
      ∃ g, Reached source g ∧ g.scanner.mode = .done ∧ g.lines = lines := by
  constructor
  · intro h
    have hstart : Reached source (.start source) := .start
    obtain ⟨g, hg, hdone | ⟨hmode, e, hnext⟩⟩ := hstart.exists_last
    · refine ⟨g, hg, hdone, ?_⟩
      rw [hg.readLines_eq, Reading.outcome, if_pos hdone] at h
      exact Except.ok.inj h
    · rw [hg.readLines_eq, Reading.outcome_eq_bind_next hmode, hnext] at h
      cases h
  · rintro ⟨g, hg, hdone, rfl⟩
    rw [hg.readLines_eq, Reading.outcome, if_pos hdone]

/-- **An error among the lines of a source** is the one that stops its reading. -/
theorem readLines_eq_error_iff_reached {source : List Char} {e : CompileError} :
    readLines (scanAll source) = .error e ↔
      ∃ g, Reached source g ∧ g.scanner.mode ≠ .done ∧ g.next = .error e := by
  constructor
  · intro h
    have hstart : Reached source (.start source) := .start
    obtain ⟨g, hg, hdone | ⟨hmode, e', hnext⟩⟩ := hstart.exists_last
    · rw [hg.readLines_eq, Reading.outcome, if_pos hdone] at h
      cases h
    · refine ⟨g, hg, hmode, ?_⟩
      rw [hg.readLines_eq, Reading.outcome_eq_bind_next hmode, hnext] at h
      obtain rfl := Except.error.inj h
      exact hnext
  · rintro ⟨g, hg, hmode, hnext⟩
    rw [hg.readLines_eq, Reading.outcome_eq_bind_next hmode, hnext]
    rfl

/-! ### In step -/

/-- Scanner and line agree: a capture is open exactly in capture mode. -/
def Reading.InStep (g : Reading) : Prop :=
  g.draft.openCapture.isSome = true ↔ g.scanner.mode = .capture

/-- Until the end of the source, to agree is to have the same mode. -/
theorem Reading.inStep_iff {g : Reading} (hmode : g.scanner.mode ≠ .done) :
    g.InStep ↔ g.scanner.mode = g.draft.mode := by
  rw [InStep, LineDraft.mode]
  cases g.draft.openCapture.isSome <;> cases hm : g.scanner.mode <;> simp_all

/-- **One token** keeps scanner and line in step. -/
theorem Reading.InStep.next {g g' : Reading} (h : g.InStep) (hmode : g.scanner.mode ≠ .done)
    (hnext : g.next = .ok g') : g'.InStep := by
  rw [inStep_iff hmode] at h
  rcases cases_of_next hnext with
    ⟨l, draft, -, hpush, rfl⟩ | ⟨l, made, -, hbreak, hfinish, rfl⟩ | ⟨s', made, hdone, rfl⟩
  · have hadvance : (g.scanner.advance l).mode = modeAfter g.scanner.mode l.token := rfl
    have hmode' : (g.scanner.advance l).mode ≠ .done := modeAfter_ne_done hmode l.token
    rw [inStep_iff hmode', (LineDraft.mode_of_push hpush).2, ← h, hadvance]
  · have hadvance : (g.scanner.advance l).mode = .line := by
      have hline := LineDraft.mode_of_finish hfinish
      change modeAfter g.scanner.mode l.token = .line
      rw [hbreak, h, hline]
      rfl
    rw [InStep, hadvance]
    exact ⟨nofun, nofun⟩
  · rw [InStep, hdone]
    exact ⟨nofun, nofun⟩

/-- **At every stage** of a reading, scanner and line are in step. -/
theorem Reached.inStep {source : List Char} {g : Reading} (h : Reached source g) :
    g.InStep := by
  induction h with
  | start => exact ⟨nofun, nofun⟩
  | next _ hmode hnext ih => exact ih.next hmode hnext

end Harvest.Pattern
