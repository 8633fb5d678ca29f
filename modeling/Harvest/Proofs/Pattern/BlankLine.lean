import Harvest.Proofs.Pattern.Forest
import Harvest.Proofs.Pattern.Position

/-!
# Blank Lines

Blank lines at the start of a line make no line of the pattern: a line break takes them in, or
they are skipped, or their tabs make a line without a selector. So what comes after them is read
as it is without them, further down. What comes before them is read as it is, since it ends with
a newline. That is true if it does not end inside a literal, which would have the blank lines in
it.

An error is on one of the lines before the blank lines or comes after them, and is further down
then. By its line one can tell where it is, since it is on the line of the token that it is
reported for.

## Main results

* `BlankLines.readLines_append`: a source after blank lines.
* `readLines_append_of_ok`, `readLines_append_of_error`: a source after some of its lines.
* `compile_insert_blankLines`: what follows for the compiler.
-/

namespace Harvest.Pattern

section

variable {diagnostics : Diagnostics}

/-! ### Blank lines -/

/-- Lines of spaces, tabs and carriage returns, each with a newline at its end. -/
inductive BlankLines : Nat → List Char → Prop
  /-- No line. -/
  | nil : BlankLines 0 []
  /-- A line before others. -/
  | cons {k : Nat} {line cs : List Char} (hline : ∀ c ∈ line, c = ' ' ∨ c = '\t' ∨ c = '\r')
      (h : BlankLines k cs) : BlankLines (k + 1) (line ++ '\n' :: cs)

/-- The start of a line in a source: nothing comes before it, or a newline. -/
def IsLineStart (before : List Char) : Prop :=
  before = [] ∨ before.getLast? = some '\n'

theorem isLineStart_of_cons {c : Char} {t : List Char} (h : (c :: t).getLast? = some '\n') :
    IsLineStart t := by
  cases t with
  | nil => exact .inl rfl
  | cons d t => exact .inr (by rwa [List.getLast?_cons_cons] at h)

/-- No lines further down is where it is. -/
theorem further_zero (x : Except CompileError (List Line)) :
    further 0 (List.map (Line.further 0)) x = x := by
  have hline : Line.further 0 = id := rfl
  cases x with
  | error e => rfl
  | ok lines => rw [hline, further, List.map_id]

/-- Going down twice goes down by the sum. -/
theorem further_further (m n : Nat) (x : Except CompileError (List Line)) :
    further m (List.map (Line.further m)) (further n (List.map (Line.further n)) x) =
      further (n + m) (List.map (Line.further (n + m))) x := by
  cases x with
  | error e => simp only [further, Nat.add_assoc]
  | ok lines =>
      simp only [further, List.map_map]
      congr 2
      funext l
      simp only [Function.comp_apply, Line.further, Nat.add_assoc]

/-- A line of spaces, tabs and carriage returns makes no line of the pattern. -/
theorem readLines_leading {line : List Char} (h : ∀ c ∈ line, isLeading c = true) :
    readLines (scanAll line) = .ok [] := by
  have hnone : ∀ c, ([] : List Char).head? = some c → isLeading c = false := nofun
  have houtcome : (Reading.start (line ++ [])).outcome = _ := Reading.outcome_leading h hnone
  rw [Reading.outcome_start, List.append_nil] at houtcome
  rw [houtcome]
  split <;> rfl

/-- **A source after blank lines** is read as it is, further down. -/
theorem BlankLines.readLines_append {k : Nat} {t : List Char} (h : BlankLines k t)
    (s : List Char) :
    readLines (scanAll (t ++ s)) =
      further k (List.map (Line.further k)) (readLines (scanAll s)) := by
  induction h with
  | nil => exact (further_zero _).symm
  | @cons k line cs hline _ ih =>
      have hleading : ∀ c ∈ line, isLeading c = true := by
        intro c hc
        rcases hline c hc with rfl | rfl | rfl <;> rfl
      have hnewlines : newlines line = 0 := by
        refine List.count_eq_zero.2 fun hmem => ?_
        exact absurd (hleading _ hmem) (by decide)
      rw [List.append_assoc, List.cons_append,
        readLines_append_newline_of_ok (readLines_leading hleading), hnewlines, ih,
        further_further]
      exact nil_bind_map _

/-- What a line break takes in after its newline is blank lines, if a newline comes last. -/
theorem blankLines_of_isBreakBlank {t : List Char} (h : ∀ d ∈ t, isBreakBlank d = true)
    (hstart : IsLineStart t) : BlankLines (newlines t) t := by
  induction t with
  | nil => exact .nil
  | cons c t ih =>
      obtain ⟨hc, ht⟩ := List.forall_mem_cons.1 h
      have hlast : (c :: t).getLast? = some '\n' := hstart.resolve_left (List.cons_ne_nil _ _)
      have hrest := ih ht (isLineStart_of_cons hlast)
      by_cases hnewline : c = '\n'
      · subst hnewline
        have hcons := BlankLines.cons (List.forall_mem_nil _) hrest
        rwa [show newlines ('\n' :: t) = newlines t + 1 from List.count_cons_self]
      · have hblank : c = ' ' ∨ c = '\r' := by simpa [isBreakBlank, hnewline] using hc
        have hcount : newlines (c :: t) = newlines t := List.count_cons_of_ne hnewline
        rw [hcount]
        generalize newlines t = n at hrest
        cases hrest with
        | nil => exact absurd (Option.some.inj hlast) hnewline
        | @cons k line cs hline hrest =>
            have hline' : ∀ d ∈ c :: line, d = ' ' ∨ d = '\t' ∨ d = '\r' := by
              refine List.forall_mem_cons.2 ⟨?_, hline⟩
              exact hblank.imp_right .inr
            exact .cons hline' hrest

/-! ### A source after some of its lines -/

section

variable {before : List Char}

/-- The last lexeme of a source that ends with a newline is a line break. -/
theorem Reads.exists_lineBreak_of_getLast? {pieces : List Piece}
    (h : Reads .line before pieces []) (hlast : before.getLast? = some '\n') :
    ∃ ps blanks t, before = (ps.flatMap Piece.chars ++ blanks) ++ '\n' :: t ∧
      Reads .line (ps.flatMap Piece.chars ++ blanks) ps blanks ∧ modeAfterAll .line ps = .line ∧
      (∀ c ∈ blanks, IsBlank .line c) ∧ ∀ d ∈ t, isBreakBlank d = true := by
  obtain rfl | ⟨ps, p, rfl⟩ := List.eq_nil_or_concat' pieces
  · rw [← h.append_eq] at hlast
    cases hlast
  obtain ⟨mid, hps, hp⟩ := h.exists_of_append
  cases hp with
  | @cons _ blanks cs _ l _ hblanks hlongest hrest =>
      obtain ⟨token, text, rest⟩ := l
      obtain rfl : rest = [] := by cases hrest; rfl
      obtain rfl : text ++ [] = cs := hlongest.append_eq
      have hsource := hps.append_eq
      rw [List.append_nil, ← List.append_assoc] at hsource
      have htext : text.getLast? = some '\n' := by
        obtain ⟨c, t, rfl, -⟩ : ∃ c t, text = c :: t ∧ _ := hlongest.isLexeme.exists_cons
        rwa [← hsource, List.getLast?_append_of_ne_nil _ (List.cons_ne_nil c t)] at hlast
      obtain ⟨hmode, hbreak⟩ := hlongest.isLexeme.eq_lineBreak_of_newline htext
      obtain rfl : token = .lineBreak := hbreak
      obtain ⟨-, t, rfl, ht⟩ := hlongest.isLexeme.eq_of_lineBreak
      exact ⟨ps, blanks, t, hsource.symm, hps.of_append, hmode, hmode ▸ hblanks, ht⟩

/-- A source that ends with a newline and is read as lines is a shorter source with the same
lines, and a newline before blank lines. -/
theorem exists_newline_of_getLast? {lines : List Line} (hlast : before.getLast? = some '\n')
    (h : readLines (scanAll before) = .ok lines) :
    ∃ s t, before = s ++ '\n' :: t ∧ BlankLines (newlines t) t ∧
      readLines (scanAll s) = .ok lines := by
  obtain ⟨pieces, left, hreads, -, hleft⟩ := exists_reads_of_readLines h
  obtain rfl : left = [] := by
    by_contra hne
    rw [← hreads.append_eq, List.getLast?_append_of_ne_nil _ hne] at hlast
    exact getLast?_ne_newline hleft hlast
  obtain ⟨ps, blanks, t, heq, hps, hmode, hblanks, ht⟩ := hreads.exists_lineBreak_of_getLast? hlast
  have hstart : IsLineStart t := by
    refine isLineStart_of_cons (c := '\n') ?_
    rwa [heq, List.getLast?_append_of_ne_nil _ (List.cons_ne_nil _ _)] at hlast
  have hblank := blankLines_of_isBreakBlank ht hstart
  have hnone : readLines (scanAll (t ++ [])) = _ := hblank.readLines_append []
  have hread : readLines (scanAll _) = _ := readLines_append_newline hps hmode hblanks t
  rw [List.append_nil] at hnone
  rw [← heq, h, hnone] at hread
  exact ⟨_, t, heq, hblank, (hread.trans (bind_map_nil _)).symm⟩

/-- **A source after lines** that are read is read as it is, further down. -/
theorem readLines_append_of_ok (hstart : IsLineStart before) {lines : List Line}
    (h : readLines (scanAll before) = .ok lines) (s : List Char) :
    readLines (scanAll (before ++ s)) =
      (further (newlines before) (List.map (Line.further (newlines before)))
        (readLines (scanAll s))).map (lines ++ ·) := by
  rcases hstart with rfl | hlast
  · obtain rfl : [] = lines := Except.ok.inj h
    rw [List.nil_append, show newlines [] = 0 from rfl, further_zero]
    exact (nil_bind_map _).symm
  · obtain ⟨s₀, t, rfl, hblank, hread⟩ := exists_newline_of_getLast? hlast h
    rw [List.append_assoc, List.cons_append, readLines_append_newline_of_ok hread,
      hblank.readLines_append, further_further, newlines_append_newline,
      Nat.add_comm (newlines t)]

/-- The lines before a line of a source have smaller numbers. -/
theorem le_newlines_of_readLines (hstart : IsLineStart before) {lines : List Line}
    (h : readLines (scanAll before) = .ok lines) {l : Line} (hl : l ∈ lines) :
    l.number ≤ newlines before := by
  rcases hstart with rfl | hlast
  · obtain rfl : [] = lines := Except.ok.inj h
    cases hl
  · obtain ⟨s, t, rfl, -, hread⟩ := exists_newline_of_getLast? hlast h
    have hle := (isLineOf_of_readLines.1 lines hread l hl).2
    rw [newlines_append_newline]
    omega

/-- **An error before a line** of a source is the error of the source, but for a literal without
end, and it is on one of the lines before. -/
theorem readLines_append_of_error (hstart : IsLineStart before) {e : CompileError}
    (h : readLines (scanAll before) = .error e) (hfault : e.fault ≠ .scan .unterminatedRegex)
    (s : List Char) :
    readLines (scanAll (before ++ s)) = .error e ∧ e.line ≤ newlines before := by
  rcases hstart with rfl | hlast
  · cases h
  · refine ⟨readLines_followedBy hlast h hfault s, ?_⟩
    obtain ⟨g, hg, hmode, hnext⟩ := readLines_eq_error_iff_reached.1 h
    obtain ⟨-, hrest⟩ := Reading.next_followedBy_of_error hg.inStep
      ((hg.endsLine hlast).resolve_left hmode) hmode hnext hfault []
    -- The last newline has not been passed.
    have hpos : 0 < newlines g.scanner.rest :=
      List.count_pos_iff.2 (List.mem_of_getLast? hrest)
    have hpassed := hg.within.passed_add hmode
    rcases Reading.line_of_next_error hmode hnext with hline | ⟨hliteral, -⟩
    · omega
    · exact absurd hliteral hfault

end

/-! ### Lines that move down -/

/-- The number of a line if `k` lines are put below line `n`. -/
def lineBelow (n k line : Nat) : Nat :=
  if line ≤ n then line else line + k

/-- A line with its number if `k` lines are put below line `n`. -/
def Line.below (n k : Nat) (l : Line) : Line :=
  { l with number := lineBelow n k l.number }

/-- An error with its line if `k` lines are put below line `n`. -/
def CompileError.below (n k : Nat) (e : CompileError) : CompileError :=
  ⟨lineBelow n k e.line, e.fault⟩

/-- A line above the blank lines stays where it is. -/
theorem lineBelow_of_le {n k line : Nat} (h : line ≤ n) : lineBelow n k line = line :=
  if_pos h

/-- A line below them goes down by their number. -/
theorem lineBelow_add {n k line : Nat} (h : 1 ≤ line) :
    lineBelow n k (line + n) = line + (k + n) := by
  rw [lineBelow, if_neg (by omega)]
  omega

section

variable {before after inserted : List Char} {k : Nat}

/-- **The lines of a source** that blank lines are put into, or the error among them. -/
theorem readLines_insert (hstart : IsLineStart before)
    (hliteral : ¬ InLiteral (before ++ after) before.length) (hblank : BlankLines k inserted) :
    (∀ lines, readLines (scanAll (before ++ after)) = .ok lines →
      readLines (scanAll (before ++ (inserted ++ after))) =
        .ok (lines.map (Line.below (newlines before) k))) ∧
    ∀ e, readLines (scanAll (before ++ after)) = .error e →
      readLines (scanAll (before ++ (inserted ++ after))) =
        .error (e.below (newlines before) k) := by
  cases hread : readLines (scanAll before) with
  | error e =>
      have hfault : e.fault ≠ .scan .unterminatedRegex := fun hfault =>
        hliteral (inLiteral_of_unterminated hread hfault after)
      obtain ⟨hafter, hline⟩ := readLines_append_of_error hstart hread hfault after
      obtain ⟨hnew, -⟩ := readLines_append_of_error hstart hread hfault (inserted ++ after)
      rw [hafter, hnew]
      refine ⟨nofun, fun e' he => ?_⟩
      obtain rfl := Except.error.inj he
      rw [CompileError.below, lineBelow_of_le hline]
  | ok lines =>
      have hsame : lines.map (Line.below (newlines before) k) = lines := by
        refine (List.map_congr_left fun l hl => ?_).trans (List.map_id lines)
        rw [Line.below, lineBelow_of_le (le_newlines_of_readLines hstart hread hl)]
        rfl
      rw [readLines_append_of_ok hstart hread, readLines_append_of_ok hstart hread,
        hblank.readLines_append, further_further]
      cases hafter : readLines (scanAll after) with
      | error e =>
          refine ⟨nofun, fun e' he => ?_⟩
          obtain rfl := Except.error.inj he
          have hline := (isLineOf_of_readLines.2 e hafter).1
          rw [CompileError.below, lineBelow_add hline]
          rfl
      | ok lines' =>
          refine ⟨fun all hall => ?_, nofun⟩
          obtain rfl := Except.ok.inj hall
          rw [List.map_append, hsame, List.map_map]
          refine congrArg (fun more => Except.ok (lines ++ more)) ?_
          refine List.map_congr_left fun l hl => ?_
          have hline := (isLineOf_of_readLines.1 lines' hafter l hl).1
          rw [Function.comp_apply, Line.below, Line.further, Line.further, lineBelow_add hline]

end

/-- The rules that lines make stay the same if lines are put among them, and the error among
them goes down with its line. -/
theorem arrange_below (n k : Nat) (lines : List Line) :
    (∀ rules, arrange lines = .ok rules → arrange (lines.map (Line.below n k)) = .ok rules) ∧
      ∀ e, arrange lines = .error e →
        arrange (lines.map (Line.below n k)) = .error (e.below n k) := by
  constructor
  · intro rules h
    refine arrange_congr ?_ ?_ h
    · rw [List.map_map]
      rfl
    · rw [List.map_map]
      rfl
  · intro e h
    obtain ⟨l, rest, rfl, hdepth, rfl⟩ := buildBlock_eq_error_iff.1 (map_eq_error_iff.1 h)
    exact map_eq_error_iff.2 (buildBlock_eq_error_iff.2 ⟨_, _, List.map_cons, hdepth, rfl⟩)

/-! ### Blank lines and the compiler -/

/-- A place comes before the start of a line if and only if fewer newlines come before it. -/
theorem length_lt_iff_newlines_lt {before after upto rest : List Char}
    (hstart : IsLineStart before) (h : upto ++ rest = before ++ after) :
    upto.length < before.length ↔ newlines upto < newlines before := by
  rcases List.append_eq_append_iff.1 h with ⟨past, rfl, -⟩ | ⟨past, rfl, -⟩
  · rw [newlines_append, List.length_append]
    by_cases hpast : past = []
    · subst hpast
      exact iff_of_false (Nat.lt_irrefl _) (Nat.lt_irrefl _)
    · have hlast := hstart.resolve_left (List.append_ne_nil_of_right_ne_nil _ hpast)
      rw [List.getLast?_append_of_ne_nil _ hpast] at hlast
      have hnewlines : 0 < newlines past := List.count_pos_iff.2 (List.mem_of_getLast? hlast)
      have hlength := List.length_pos_iff.2 hpast
      omega
  · rw [newlines_append, List.length_append]
    omega

/-- An error is reported for a token before the start of a line if and only if it is reported on
a line before. -/
theorem ReportedAfter.length_lt_iff {before after upto : List Char} {e : CompileError}
    (h : ReportedAfter (before ++ after) e upto) (hstart : IsLineStart before)
    (hliteral : ¬ InLiteral (before ++ after) before.length) :
    upto.length < before.length ↔ e.line ≤ newlines before := by
  obtain ⟨⟨rest, hrest⟩, hline | ⟨hline, pieces, blanks, left, hsticks, rfl⟩⟩ := h.line_eq
  · rw [length_lt_iff_newlines_lt hstart hrest]
    omega
  · -- The start of the line does not lie in the literal, and the end of the source comes later.
    rw [newlines_append] at hline
    exact iff_of_false (fun hlt => hliteral (.unclosed hsticks hlt)) (by omega)

/-- **Blank lines do not matter.** Let blank lines be put into a source at the start of one of
its lines that does not lie inside a literal. The new source compiles if and only if the old one
does, to the same pattern. An error stays the same error. It is reported for a token of the
source. If that token starts before the blank lines, the error stays on its line, and otherwise
it goes down by the number of the blank lines. -/
theorem compile_insert_blankLines {source : String} {before after inserted : List Char} {k : Nat}
    (hsource : source.toList = before ++ after) (hstart : IsLineStart before)
    (hliteral : ¬ InLiteral source.toList before.length) (hblank : BlankLines k inserted) :
    (∀ p, compile (String.ofList (before ++ (inserted ++ after))) = .ok p ↔
      compile source = .ok p) ∧
    ∀ e, compile source = .error e →
      (∃ upto, ReportedAfter source.toList e upto) ∧
      ∀ upto, ReportedAfter source.toList e upto →
        compile (String.ofList (before ++ (inserted ++ after))) =
          .error ⟨if upto.length < before.length then e.line else e.line + k, e.fault⟩ := by
  rw [hsource] at hliteral
  obtain ⟨hlines, hline⟩ := readLines_insert hstart hliteral hblank
  rw [← hsource] at hlines hline
  generalize hnew : String.ofList (before ++ (inserted ++ after)) = new
  have htoList : new.toList = before ++ (inserted ++ after) := by
    rw [← hnew, String.toList_ofList]
  rw [← htoList] at hlines hline
  have hok : ∀ p, compile source = .ok p → compile new = .ok p := by
    intro p hp
    obtain ⟨lines, hread, rules, hrules, rfl⟩ := compile_eq_ok_iff.1 hp
    exact compile_eq_ok_iff.2
      ⟨_, hlines lines hread, rules, (arrange_below _ k lines).1 rules hrules, rfl⟩
  have herror : ∀ e, compile source = .error e →
      compile new = .error (e.below (newlines before) k) := by
    intro e he
    rcases compile_eq_error_iff.1 he with hread | ⟨lines, hread, harrange⟩
    · exact compile_eq_error_iff.2 (.inl (hline e hread))
    · exact compile_eq_error_iff.2
        (.inr ⟨_, hlines lines hread, (arrange_below _ k lines).2 e harrange⟩)
  refine ⟨fun p => ⟨fun hp => ?_, hok p⟩, fun e he => ⟨exists_reportedAfter he, ?_⟩⟩
  · cases hcompile : compile source with
    | ok p' => rwa [← hok p' hcompile]
    | error e =>
        rw [herror e hcompile] at hp
        cases hp
  · intro upto hupto
    rw [hsource] at hupto
    rw [herror e he, CompileError.below, lineBelow]
    simp only [hupto.length_lt_iff hstart hliteral]

end

/-- The theorem at a source with an error on its second line, which two blank lines move down. -/
theorem compile_insert_blankLines_extra_selector :
    compile "a\nb c" = .error ⟨2, .extraSelector "c"⟩ ∧
      (∃ upto, ReportedAfter "a\nb c".toList ⟨2, .extraSelector "c"⟩ upto ∧ 2 ≤ upto.length) ∧
      compile "a\n\t \n\r\nb c" = .error ⟨4, .extraSelector "c"⟩ := by
  have hrefused : (compile "a\nb c").map (fun p => p.rules.length) =
      .error ⟨2, .extraSelector "c"⟩ := by decide +kernel
  have hcompile := map_eq_error_iff.1 hrefused
  have hsource : "a\nb c".toList = ['a', '\n'] ++ ['b', ' ', 'c'] := by decide
  have hstart : IsLineStart ['a', '\n'] := .inr rfl
  have hliteral : ¬ InLiteral "a\nb c".toList 2 := not_inLiteral_of_notMem (by decide) 2
  have hlast : BlankLines 1 (['\r'] ++ '\n' :: []) := .cons (by simp) .nil
  have hblank : BlankLines 2 (['\t', ' '] ++ '\n' :: (['\r'] ++ '\n' :: [])) :=
    .cons (by simp) hlast
  obtain ⟨-, herror⟩ := compile_insert_blankLines hsource hstart hliteral hblank
  obtain ⟨⟨upto, hupto⟩, hmoved⟩ := herror _ hcompile
  have hlater : ¬ upto.length < ['a', '\n'].length := by
    rw [hsource] at hupto hliteral
    have hiff := hupto.length_lt_iff hstart hliteral
    exact fun hlt => absurd (hiff.1 hlt) (by decide)
  have hnew := hmoved upto hupto
  rw [if_neg hlater] at hnew
  exact ⟨hcompile, ⟨upto, hupto, Nat.not_lt.1 hlater⟩, hnew⟩

end Harvest.Pattern
