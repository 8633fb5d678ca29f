import Harvest.Proofs.Pattern.Ending
import Harvest.Proofs.Pattern.Language

/-!
# Scanning Across a Newline

A source that scans and leaves no bracket open can be followed by a newline and another
source. Its lexemes stay what they are, but for one: a line break at its end takes in the
newline, and the blanks and newlines that follow it. With no line break at the end there is
one more, which takes them in. Either way the line that was open ends, and the other source
goes on behind these blanks, in line mode.

## Main results

* `IsLongest.append_newline`: lexemes before a newline.
* `Reads.append_newline`: the pieces of a source before a newline and another source.
* `readLines_append_newline`: the lines of two sources with a newline between them.
* `readLines_append_newline_of_ok`: the lines of a source and of another one after it.
-/

namespace Harvest.Pattern

variable {diagnostics : Diagnostics}

/-! ### Lexemes before a newline -/

/-- **Lexemes before a newline** stay the longest ones, but for a line break at the end. -/
theorem IsLongest.append_newline {mode : Mode} {cs : List Char} {l : Lexeme}
    (h : IsLongest mode cs l) (hlast : l.token = .lineBreak → l.rest ≠ [])
    (more : List Char) :
    IsLongest mode (cs ++ '\n' :: more) ⟨l.token, l.text, l.rest ++ '\n' :: more⟩ := by
  by_cases hrest : l.rest = []
  · have hlong : IsLongest mode (l.text ++ '\n' :: more) _ := h.before fun d hd => by
      obtain rfl := Option.some.inj hd
      exact .inr ⟨rfl, fun hbreak => hlast hbreak hrest⟩
    have htext := h.append_eq
    rw [hrest, List.append_nil] at htext
    rw [hrest, ← htext]
    exact hlong
  · exact h.append_of_ne_nil hrest _

/-! ### Pieces before a newline -/

/-- Nothing is read from nothing. -/
theorem Reads.eq_nil {mode : Mode} {left : List Char} {pieces : List Piece}
    (h : Reads mode [] pieces left) : pieces = [] ∧ left = [] := by
  generalize hcs : [] = cs at h
  cases h with
  | nil => exact ⟨rfl, rfl⟩
  | cons _ hlongest _ =>
      obtain ⟨-, rfl⟩ := List.append_eq_nil_iff.1 hcs.symm
      exact absurd hlongest.length_rest_lt (Nat.not_lt_zero _)

/-- **A seam.** The pieces of a source that ends in line mode stay what they are before a
newline and another source, up to a line break that takes in the newline and the blanks
`t` after it. -/
theorem Reads.append_newline {mode : Mode} {cs left : List Char} {pieces : List Piece}
    (h : Reads mode cs pieces left) (hmode : modeAfterAll mode pieces = .line)
    (hleft : ∀ c ∈ left, IsBlank .line c) {t rest left' : List Char} {pieces' : List Piece}
    (ht : ∀ d ∈ t, isBreakBlank d = true)
    (hrest : ∀ c, rest.head? = some c → ¬ isBreakBlank c = true)
    (h' : Reads .line rest pieces' left') :
    ∃ before blanks text,
      Reads mode (cs ++ '\n' :: (t ++ rest)) (before ++ ⟨blanks, text, .lineBreak⟩ :: pieces')
        left' ∧
      ((before = pieces ∧ blanks = left) ∨
        ∃ text', pieces = before ++ [⟨blanks, text', .lineBreak⟩] ∧ left = []) := by
  induction h with
  | nil mode cs =>
      obtain rfl : mode = .line := hmode
      exact ⟨[], cs, _, .cons hleft (isLongest_lineBreak ht hrest) h', .inl ⟨rfl, rfl⟩⟩
  | @cons mode blanks cs left l pieces hblanks hlongest hreads ih =>
      by_cases hlast : l.token = .lineBreak ∧ l.rest = []
      · obtain ⟨htoken, hnil⟩ := hlast
        obtain ⟨token, text, rest'⟩ := l
        obtain rfl : token = .lineBreak := htoken
        obtain rfl : rest' = [] := hnil
        obtain ⟨rfl, t', rfl, ht'⟩ := hlongest.isLexeme.eq_of_lineBreak
        obtain ⟨rfl, rfl⟩ := hreads.eq_nil
        have hcs : cs = '\n' :: t' := by
          rw [← hlongest.append_eq]
          exact List.append_nil _
        have hblank : ∀ d ∈ t' ++ '\n' :: t, isBreakBlank d = true := by
          intro d hd
          rcases List.mem_append.1 hd with hd | hd
          · exact ht' d hd
          · rcases List.mem_cons.1 hd with rfl | hd
            · rfl
            · exact ht d hd
        have hlong := isLongest_lineBreak hblank hrest
        refine ⟨[], blanks, '\n' :: (t' ++ '\n' :: t), ?_, .inr ⟨_, rfl, rfl⟩⟩
        rw [hcs]
        simpa using Reads.cons hblanks hlong h'
      · obtain ⟨before, blanks', text, hseam, hcases⟩ := ih hmode hleft
        have hlong := hlongest.append_newline (fun htoken hnil => hlast ⟨htoken, hnil⟩)
          (t ++ rest)
        refine ⟨⟨blanks, l.text, l.token⟩ :: before, blanks', text, ?_, ?_⟩
        · have hcons := Reads.cons hblanks hlong hseam
          rwa [← List.append_assoc] at hcons
        · rcases hcases with ⟨rfl, rfl⟩ | ⟨text', rfl, rfl⟩
          · exact .inl ⟨rfl, rfl⟩
          · exact .inr ⟨text', rfl, rfl⟩

/-! ### The lines of two sources -/

/-- Tokens are numbered on from where the ones before end. -/
theorem numberedFrom_append (passed : Nat) (pieces pieces' : List Piece) :
    numberedFrom passed (pieces ++ pieces') =
      numberedFrom passed pieces ++
        numberedFrom (passed + newlines (pieces.flatMap Piece.chars)) pieces' := by
  induction pieces generalizing passed with
  | nil => rfl
  | cons p pieces ih =>
      rw [List.cons_append, numberedFrom, numberedFrom, ih, List.flatMap_cons,
        newlines_append, List.cons_append, Nat.add_assoc _ (newlines p.chars)]

/-- Lines further down are counted on. -/
theorem numberedFrom_add (passed n : Nat) (pieces : List Piece) :
    numberedFrom (passed + n) pieces =
      (numberedFrom passed pieces).map fun t => (t.1, t.2 + n) := by
  induction pieces generalizing passed with
  | nil => rfl
  | cons p pieces ih =>
      rw [numberedFrom, numberedFrom, List.map_cons, ← ih, Nat.add_right_comm passed n,
        Nat.add_right_comm passed n, Nat.add_right_comm _ n 1]

/-- An end further down is counted on. -/
theorem endingAt_add (passed n : Nat) (left : List Char) (fault? : Option ScanFault) :
    endingAt (passed + n) left fault? = further n (· + n) (endingAt passed left fault?) := by
  rcases fault? with _ | ⟨_ | _ | _ | _⟩ <;>
    simp only [endingAt, faultLine, further, Nat.add_right_comm _ n]

theorem modeAfterAll_append (mode : Mode) (pieces pieces' : List Piece) :
    modeAfterAll mode (pieces ++ pieces') =
      modeAfterAll (modeAfterAll mode pieces) pieces' := by
  rw [modeAfterAll, List.map_append, List.foldl_append]
  rfl

/-- What a line break takes in, other than a newline, is blank. -/
theorem isBlank_of_isBreakBlank {c : Char} (h : isBreakBlank c = true) (hne : c ≠ '\n') :
    IsBlank .line c := by
  simpa [isBreakBlank, IsBlank, hne] using h

/-- Blanks at the start make no difference to a scan. -/
theorem scanAll_blanks {t : List Char} (ht : ∀ c ∈ t, IsBlank .line c) (rest : List Char) :
    scanAll (t ++ rest) = scanAll rest := by
  obtain ⟨pieces, left, fault?, h, hends, hscan⟩ := scanAll_spec rest
  rw [hscan]
  cases h with
  | nil =>
      cases hends with
      | blanks hall =>
          have hblanks : ∀ c ∈ t ++ rest, IsBlank .line c := fun c hc =>
            (List.mem_append.1 hc).elim (ht c) (hall c)
          have hnil := scanAll_of_reads (.nil .line (t ++ rest)) (.blanks hblanks)
          exact hnil
  | @cons _ blanks cs _ l pieces hblanks hlongest h =>
      have hblanks' : ∀ c ∈ t ++ blanks, IsBlank .line c := fun c hc =>
        (List.mem_append.1 hc).elim (ht c) (hblanks c)
      rw [← List.append_assoc, scanAll_of_reads (.cons hblanks' hlongest h) hends]
      simp only [numberedFrom, List.flatMap_cons, newlines_append, newlines_chars hblanks,
        newlines_chars hblanks', newlines_eq_zero hblanks, newlines_eq_zero ht]

/-- No lines after others add nothing. -/
theorem bind_map_nil (x : Except CompileError (List Line)) :
    (x >>= fun lines => Except.map (lines ++ ·) (.ok [])) = x := by
  cases x with
  | error e => rfl
  | ok lines => exact congrArg Except.ok (List.append_nil lines)

/-- No lines before others add nothing. -/
theorem nil_bind_map (x : Except CompileError (List Line)) :
    ((.ok [] : Except CompileError (List Line)) >>= fun lines => x.map (lines ++ ·)) = x := by
  cases x <;> rfl

section

variable {s t rest left left' : List Char} {pieces pieces' : List Piece}
  {fault? : Option ScanFault}

/-- Two sources are read one after the other if a newline and blanks come between them. -/
theorem readLines_seam (h : Reads .line s pieces left)
    (hmode : modeAfterAll .line pieces = .line) (hleft : ∀ c ∈ left, IsBlank .line c)
    (ht : ∀ d ∈ t, isBreakBlank d = true)
    (hrest : ∀ c, rest.head? = some c → ¬ isBreakBlank c = true)
    (h' : Reads .line rest pieces' left')
    (hends' : Ends (modeAfterAll .line pieces') left' fault?) :
    readLines (scanAll (s ++ '\n' :: (t ++ rest))) =
      readLines (scanAll s) >>= fun lines =>
        (readLinesFrom
          (endingAt (newlines (s ++ '\n' :: t) + newlines (pieces'.flatMap Piece.chars))
            left' fault?) .empty
          (numberedFrom (newlines (s ++ '\n' :: t)) pieces')).map (lines ++ ·) := by
  obtain ⟨before, blanks, text, hseam, hcases⟩ := h.append_newline hmode hleft ht hrest h'
  have hbefore : modeAfterAll .line before = .line := by
    rcases hcases with ⟨rfl, -⟩ | ⟨text', rfl, -⟩
    · exact hmode
    · rwa [modeAfterAll_append] at hmode
  have hmode' : modeAfterAll .line (before ++ ⟨blanks, text, .lineBreak⟩ :: pieces') =
      modeAfterAll .line pieces' := by
    rw [modeAfterAll_append, hbefore]
    rfl
  have hpassed : newlines (before.flatMap Piece.chars) +
      newlines (Piece.chars ⟨blanks, text, .lineBreak⟩) = newlines (s ++ '\n' :: t) := by
    have hchars := hseam.append_eq
    rw [List.flatMap_append, List.flatMap_cons, List.append_assoc, List.append_assoc,
      h'.append_eq, ← List.append_assoc, ← List.cons_append, ← List.append_assoc] at hchars
    rw [← newlines_append, List.append_cancel_right hchars]
  have hall : newlines ((before ++ ⟨blanks, text, .lineBreak⟩ :: pieces').flatMap Piece.chars) =
      newlines (s ++ '\n' :: t) + newlines (pieces'.flatMap Piece.chars) := by
    rw [← hpassed, List.flatMap_append, List.flatMap_cons, newlines_append, newlines_append,
      Nat.add_assoc]
  rw [scanAll_of_reads hseam (hmode' ▸ hends'), hall, readLines, numberedFrom_append,
    numberedFrom, readLinesFrom_seam, Nat.zero_add, hpassed]
  -- What stands before the line break is the first source, whether it ends with one or not.
  have hfirst : readLinesFrom
      (.ok (newlines (before.flatMap Piece.chars) + newlines blanks + 1)) .empty
      (numberedFrom 0 before) = readLines (scanAll s) := by
    have hends : Ends (modeAfterAll .line pieces) left none := by
      rw [hmode]
      exact .blanks hleft
    rw [scanAll_of_reads h hends, readLines]
    rcases hcases with ⟨rfl, rfl⟩ | ⟨text', rfl, rfl⟩
    · rw [newlines_eq_zero hleft]
      rfl
    · rw [numberedFrom_append, numberedFrom, Nat.zero_add, readLinesFrom_seam]
      exact (bind_map_nil _).symm
  rw [hfirst]

/-- The blanks and newlines at the start of a source count for the lines only. -/
theorem readLines_breakBlanks (ht : ∀ d ∈ t, isBreakBlank d = true)
    (hrest : ∀ c, rest.head? = some c → ¬ isBreakBlank c = true)
    (h' : Reads .line rest pieces' left')
    (hends' : Ends (modeAfterAll .line pieces') left' fault?) :
    readLines (scanAll (t ++ rest)) =
      readLinesFrom
        (endingAt (newlines t + newlines (pieces'.flatMap Piece.chars)) left' fault?) .empty
        (numberedFrom (newlines t) pieces') := by
  by_cases hnewline : '\n' ∈ t
  · obtain ⟨b, t', rfl, hb⟩ := List.eq_append_cons_of_mem hnewline
    have hblanks : ∀ c ∈ b, IsBlank .line c := fun c hc =>
      isBlank_of_isBreakBlank (ht c (List.mem_append_left _ hc)) fun h => hb (h ▸ hc)
    rw [List.append_assoc, List.cons_append, readLines_seam (.nil .line b) rfl hblanks
      (fun d hd => ht d (List.mem_append_right _ (List.mem_cons_of_mem _ hd))) hrest h' hends',
      scanAll_of_reads (.nil .line b) (.blanks hblanks)]
    exact nil_bind_map _
  · have hblanks : ∀ c ∈ t, IsBlank .line c := fun c hc =>
      isBlank_of_isBreakBlank (ht c hc) fun h => hnewline (h ▸ hc)
    rw [scanAll_blanks hblanks, scanAll_of_reads h' hends', newlines_eq_zero hblanks,
      Nat.zero_add]
    rfl

end

/-- **Lines of two sources** with a newline between them: those of the first, and then those
of the second, further down. -/
theorem readLines_append_newline {s left : List Char} {pieces : List Piece}
    (h : Reads .line s pieces left) (hmode : modeAfterAll .line pieces = .line)
    (hleft : ∀ c ∈ left, IsBlank .line c) (s' : List Char) :
    readLines (scanAll (s ++ '\n' :: s')) =
      readLines (scanAll s) >>= fun lines =>
        (further (newlines s + 1) (List.map (Line.further (newlines s + 1)))
          (readLines (scanAll s'))).map (lines ++ ·) := by
  obtain ⟨t, rest, rfl, ht, hrest⟩ : ∃ t rest, s' = t ++ rest ∧
      (∀ d ∈ t, isBreakBlank d = true) ∧
      ∀ c, rest.head? = some c → ¬ isBreakBlank c = true := by
    refine ⟨s'.takeWhile isBreakBlank, s'.dropWhile isBreakBlank,
      List.takeWhile_append_dropWhile.symm, fun d hd => List.mem_takeWhile_imp hd,
      fun c hc => ?_⟩
    have hnot := List.head?_dropWhile_not isBreakBlank s'
    rw [hc] at hnot
    simpa using hnot
  obtain ⟨pieces', left', fault?, h', hends', -⟩ := scanAll_spec rest
  rw [readLines_seam h hmode hleft ht hrest h' hends',
    readLines_breakBlanks ht hrest h' hends', ← readLinesFrom_further, ← endingAt_add,
    ← numberedFrom_add]
  have hpassed : newlines (s ++ '\n' :: t) = newlines t + (newlines s + 1) := by
    rw [newlines_append, newlines, newlines, List.count_cons_self]
    change _ = List.count _ _ + _
    omega
  rw [hpassed, Nat.add_right_comm]
  rfl

/-- A source that is read as lines is read to its end, and in line mode. -/
theorem exists_reads_of_readLines {source : List Char} {lines : List Line}
    (h : readLines (scanAll source) = .ok lines) :
    ∃ pieces left, Reads .line source pieces left ∧
      modeAfterAll .line pieces = .line ∧ ∀ c ∈ left, IsBlank .line c := by
  obtain ⟨source, rfl⟩ : ∃ text : String, text.toList = source :=
    ⟨String.ofList source, String.toList_ofList⟩
  obtain ⟨_, tokens, htokenize, hmode, -⟩ := exists_hasLines h
  obtain ⟨line, hline⟩ := tokenize_eq_ok_iff.1 htokenize
  obtain ⟨pieces, left, fault?, hreads, hends, hscan⟩ := scanAll_spec source.toList
  obtain ⟨rfl, hending⟩ := Scan.mk.inj (hline.symm.trans hscan)
  rw [map_fst_numberedFrom] at hmode
  change modeAfterAll .line pieces = .line at hmode
  rw [hmode] at hends
  cases hends with
  | blanks hleft => exact ⟨pieces, left, hreads, hmode, hleft⟩

/-- The lines of a source and a newline before another source. -/
theorem readLines_append_newline_of_ok {s : List Char} {lines : List Line}
    (h : readLines (scanAll s) = .ok lines) (s' : List Char) :
    readLines (scanAll (s ++ '\n' :: s')) =
      (further (newlines s + 1) (List.map (Line.further (newlines s + 1)))
        (readLines (scanAll s'))).map (lines ++ ·) := by
  obtain ⟨pieces, left, hreads, hmode, hleft⟩ := exists_reads_of_readLines h
  rw [readLines_append_newline hreads hmode hleft, h]
  rfl

end Harvest.Pattern
