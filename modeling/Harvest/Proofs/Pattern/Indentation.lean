import Harvest.Proofs.Pattern.Reading
import Harvest.Proofs.Pattern.Seam

/-!
# Indentation

The depth of a line is the length of the first run of tabs in it, if only spaces and carriage
returns come before that run. A space between two tabs ends the run, and the tabs after it do
not count: the line takes its depth from its first token, and the scanner skips the space but
makes two tokens of the tabs. So the depth is the number of the tabs at the start of the line
if and only if they stand together, and what else stands before the first word of a line makes
no difference to the pattern.

## Main results

* `startsLine_of_readLines`: where the lines of a source start, and their depths.
* `readLines_congr_leading`: the start of a line matters for its indentation only.
* `depth_eq_indentation`: what follows for the compiler.
-/

namespace Harvest.Pattern

section

variable {diagnostics : Diagnostics}

/-! ### The start of a line -/

/-- Spaces, tabs and carriage returns. -/
def isLeading (c : Char) : Bool :=
  c == ' ' || c == '\t' || c == '\r'

/-- The length of the first run of tabs of a text, if only spaces and carriage returns come
before it. -/
def indentation (cs : List Char) : Nat :=
  ((cs.dropWhile isLineBlank).takeWhile (· == '\t')).length

/-- No other character stands between two tabs of a text. -/
def TabsTogether (cs : List Char) : Prop :=
  ∃ before n after, cs = before ++ (List.replicate n '\t' ++ after) ∧ '\t' ∉ before ∧ '\t' ∉ after

/-- A line starts with blanks and tabs. -/
theorem isLeading_iff {c : Char} : isLeading c = true ↔ isLineBlank c = true ∨ c = '\t' := by
  simp only [isLeading, isLineBlank, Bool.or_eq_true, beq_iff_eq]
  tauto

/-- A blank does not indent. -/
theorem indentation_cons_blank {c : Char} (h : isLineBlank c = true) (cs : List Char) :
    indentation (c :: cs) = indentation cs := by
  rw [indentation, List.dropWhile_cons_of_pos h, indentation]

theorem indentation_blanks {blanks : List Char} (h : ∀ c ∈ blanks, IsBlank .line c)
    (cs : List Char) : indentation (blanks ++ cs) = indentation cs := by
  have hblank : ∀ c ∈ blanks, isLineBlank c = true := fun c hc => isBlankIn_iff.2 (h c hc)
  rw [indentation, List.dropWhile_append_of_pos hblank, indentation]

/-- Tabs that nothing comes between indent by their number. -/
theorem indentation_tabs (n : Nat) {cs : List Char} (h : cs.head? ≠ some '\t') :
    indentation (List.replicate (n + 1) '\t' ++ cs) = n + 1 := by
  have htabs : ∀ c ∈ List.replicate (n + 1) '\t', (c == '\t') = true := fun c hc =>
    beq_iff_eq.2 (List.eq_of_mem_replicate hc)
  have hcs : cs.takeWhile (· == '\t') = [] := by
    cases cs with
    | nil => rfl
    | cons c cs => exact List.takeWhile_cons_of_neg (by simpa using h)
  rw [indentation, List.replicate_succ, List.cons_append,
    List.dropWhile_cons_of_neg (by decide), ← List.cons_append, ← List.replicate_succ,
    List.takeWhile_append_of_pos htabs, hcs, List.append_nil, List.length_replicate]

/-- A line that starts with neither blanks nor tabs is not indented. -/
theorem indentation_of_head {cs : List Char}
    (h : ∀ c, cs.head? = some c → isLeading c = false) : indentation cs = 0 := by
  cases cs with
  | nil => rfl
  | cons c cs =>
      have hc : ¬ (isLineBlank c = true ∨ c = '\t') := by
        rw [← isLeading_iff, h c rfl]
        exact Bool.false_ne_true
      rw [indentation, List.dropWhile_cons_of_neg fun hb => hc (.inl hb),
        List.takeWhile_cons_of_neg (by simpa using fun ht => hc (.inr ht))]
      rfl

/-- A text is the run of tabs at its start and what follows. -/
theorem exists_tabs (cs : List Char) :
    ∃ n cs', cs = List.replicate n '\t' ++ cs' ∧ cs'.head? ≠ some '\t' := by
  induction cs with
  | nil => exact ⟨0, [], rfl, nofun⟩
  | cons c cs ih =>
      by_cases hc : c = '\t'
      · subst hc
        obtain ⟨n, cs', rfl, hcs'⟩ := ih
        exact ⟨n + 1, cs', rfl, hcs'⟩
      · exact ⟨0, c :: cs, rfl, fun h => hc (Option.some.inj h)⟩

/-- Leading whitespace is blanks, the first run of tabs and what follows. -/
theorem exists_blanks_tabs {cs : List Char} (h : ∀ c ∈ cs, isLeading c = true) :
    ∃ blanks after, (∀ c ∈ blanks, IsBlank .line c) ∧
      cs = blanks ++ (List.replicate (indentation cs) '\t' ++ after) ∧
      after.head? ≠ some '\t' ∧ (indentation cs = 0 → after = []) := by
  induction cs with
  | nil => exact ⟨[], [], nofun, rfl, nofun, fun _ => rfl⟩
  | cons c cs ih =>
      obtain ⟨hc, hcs⟩ := List.forall_mem_cons.1 h
      rcases isLeading_iff.1 hc with hblank | rfl
      · obtain ⟨blanks, after, hblanks, heq, hafter⟩ := ih hcs
        rw [indentation_cons_blank hblank]
        refine ⟨c :: blanks, after, fun d hd => ?_, congrArg (c :: ·) heq, hafter⟩
        exact (List.mem_cons.1 hd).elim (fun hd => hd ▸ isBlankIn_iff.1 hblank) (hblanks d)
      · obtain ⟨n, after, rfl, hafter⟩ := exists_tabs cs
        have hn : indentation ('\t' :: (List.replicate n '\t' ++ after)) = n + 1 :=
          indentation_tabs n hafter
        rw [hn]
        exact ⟨[], after, nofun, rfl, hafter, nofun⟩

theorem tab_notMem_of_isBlank {cs : List Char} (h : ∀ c ∈ cs, IsBlank .line c) : '\t' ∉ cs := by
  intro hmem
  have htab := h _ hmem
  simp [IsBlank] at htab

/-- What a line starts with is blank if no tab is among it. -/
theorem isBlank_of_tab_notMem {cs : List Char} (h : ∀ c ∈ cs, isLeading c = true)
    (hnot : '\t' ∉ cs) : ∀ c ∈ cs, IsBlank .line c := fun c hc =>
  isBlankIn_iff.1 ((isLeading_iff.1 (h c hc)).resolve_right fun htab => hnot (htab ▸ hc))

/-- The indentation is the number of tabs if and only if they stand together. -/
theorem indentation_eq_count_iff {cs : List Char} (h : ∀ c ∈ cs, isLeading c = true) :
    indentation cs = cs.count '\t' ↔ TabsTogether cs := by
  constructor
  · intro hcount
    obtain ⟨blanks, after, hblanks, heq, -⟩ := exists_blanks_tabs h
    have hnot := tab_notMem_of_isBlank hblanks
    refine ⟨blanks, indentation cs, after, heq, hnot, ?_⟩
    rw [heq, List.count_append, List.count_append, List.count_eq_zero.2 hnot,
      List.count_replicate_self, ← heq] at hcount
    exact List.count_eq_zero.1 (by omega)
  · rintro ⟨before, n, after, rfl, hbefore, hafter⟩
    have hblanks := isBlank_of_tab_notMem (fun c hc => h c (List.mem_append_left _ hc)) hbefore
    rw [List.count_append, List.count_append, List.count_eq_zero.2 hbefore,
      List.count_eq_zero.2 hafter, List.count_replicate_self, indentation_blanks hblanks]
    cases n with
    | zero =>
        have hblanks' := isBlank_of_tab_notMem
          (fun c hc => h c (List.mem_append_right _ (List.mem_append_right _ hc))) hafter
        have hnone := indentation_blanks hblanks' []
        rwa [List.append_nil] at hnone
    | succ n =>
        rw [indentation_tabs n fun hhead => hafter (List.mem_of_head? hhead)]
        omega

theorem head?_append_ne_tab {cs after : List Char} (h : cs.head? ≠ some '\t')
    (hafter : ∀ c, after.head? = some c → isLeading c = false) :
    (cs ++ after).head? ≠ some '\t' := by
  cases cs with
  | nil =>
      intro hhead
      have htab := hafter _ hhead
      cases htab
  | cons c cs => exact h

/-- The indentation of a text is that of its leading whitespace. -/
theorem indentation_append {cs after : List Char} (h : ∀ c ∈ cs, isLeading c = true)
    (hafter : ∀ c, after.head? = some c → isLeading c = false) :
    indentation (cs ++ after) = indentation cs := by
  obtain ⟨blanks, more, hblanks, heq, hmore, hnil⟩ := exists_blanks_tabs h
  generalize indentation cs = n at heq hnil
  subst heq
  rw [List.append_assoc, List.append_assoc, indentation_blanks hblanks]
  cases n with
  | zero =>
      rw [hnil rfl]
      exact indentation_of_head hafter
  | succ n => exact indentation_tabs n (head?_append_ne_tab hmore hafter)

/-! ### The first token of a line -/

/-- A run of tabs is a lexeme. -/
theorem isLongest_tabs (n : Nat) {cs : List Char} (h : cs.head? ≠ some '\t') :
    IsLongest .line (List.replicate (n + 1) '\t' ++ cs)
      ⟨.indent (n + 1), List.replicate (n + 1) '\t', cs⟩ := by
  have hlexeme : IsLexeme .line ('\t' :: List.replicate n '\t') (.indent (n + 1)) := by
    have hindent := LineLexeme.indent fun d (hd : d ∈ List.replicate n '\t') =>
      List.eq_of_mem_replicate hd
    rwa [List.length_replicate] at hindent
  exact hlexeme.isLongest fun d hd => beq_eq_false_iff_ne.2 fun heq => h (heq ▸ hd)

/-- The first lexeme of a text is a run of tabs with its indentation, or another one, and there
is no indentation. -/
theorem IsLongest.indentation_eq {cs : List Char} {l : Lexeme} (h : IsLongest .line cs l) :
    l.token = .indent (indentation cs) ∨
      (∀ depth, l.token ≠ .indent depth) ∧ indentation cs = 0 := by
  obtain ⟨n, cs', rfl, hcs'⟩ := exists_tabs cs
  cases n with
  | succ n =>
      left
      rw [h.unique (isLongest_tabs n hcs'), indentation_tabs n hcs']
  | zero =>
      right
      rw [List.replicate_zero, List.nil_append] at h ⊢
      refine ⟨fun depth htoken => ?_, indentation_of_head fun c hc => ?_⟩
      · have hlexeme : LineLexeme l.text l.token := h.isLexeme
        rw [htoken] at hlexeme
        generalize htext : l.text = text at hlexeme
        cases hlexeme with
        | indent _ =>
            apply hcs'
            rw [← h.append_eq, htext]
            rfl
      · rw [← Bool.not_eq_true, isLeading_iff]
        rintro (hblank | rfl)
        · exact h.not_isBlank_head c hc (isBlankIn_iff.1 hblank)
        · exact hcs' hc

namespace LineDraft

/-- The tokens after the first one leave the number and the depth of a line as they are. -/
theorem header_of_pushAll {tokens : List (Token × Nat)} {d d' : LineDraft} {n : Nat}
    (hnumber : d.number = some n) (h : d.pushAll tokens = .ok d') :
    d'.number = some n ∧ d'.depth = d.depth := by
  induction tokens generalizing d with
  | nil =>
      obtain rfl := Except.ok.inj h
      exact ⟨hnumber, rfl⟩
  | cons t tokens ih =>
      obtain ⟨token, line⟩ := t
      rw [pushAll_cons] at h
      obtain ⟨d₁, hpush, h⟩ := bind_eq_ok_iff.1 h
      obtain ⟨hnumber₁, ⟨hnone, -⟩ | ⟨-, hdepth₁⟩⟩ := header_of_push hpush
      · rw [hnumber] at hnone
        cases hnone
      · rw [hnumber, Option.getD_some] at hnumber₁
        obtain ⟨hnumber', hdepth'⟩ := ih hnumber₁ h
        exact ⟨hnumber', hdepth'.trans hdepth₁⟩

end LineDraft

/-- The line that the pieces of a text make, if no line break is among them, has the number one
and the indentation of the text. -/
theorem header_of_readLine {cs left : List Char} {pieces : List Piece}
    (h : Reads .line cs pieces left) {line : Nat} {l : Line}
    (hline : readLine (numberedFrom 0 pieces) line = .ok (some l)) :
    l.number = 1 ∧ l.depth = indentation cs := by
  rw [readLine] at hline
  obtain ⟨d, hpushAll, hfinish⟩ := bind_eq_ok_iff.1 hline
  cases h with
  | nil =>
      obtain rfl := Except.ok.inj hpushAll
      cases hfinish
  | cons hblanks hlongest hreads =>
      rw [numberedFrom, LineDraft.pushAll_cons] at hpushAll
      obtain ⟨d₁, hpush, hpushAll⟩ := bind_eq_ok_iff.1 hpushAll
      obtain ⟨hnumber₁, hdepth₁⟩ := LineDraft.header_of_push hpush
      obtain ⟨hnumber, hdepth⟩ := LineDraft.header_of_pushAll hnumber₁ hpushAll
      obtain ⟨hlnumber, hldepth⟩ := LineDraft.header_of_finish hfinish
      refine ⟨?_, ?_⟩
      · rw [hlnumber, hnumber, newlines_eq_zero hblanks]
        rfl
      · rw [hldepth, hdepth, indentation_blanks hblanks]
        rcases hlongest.indentation_eq with htoken | ⟨hne, hzero⟩
        · rcases hdepth₁ with ⟨-, hindent⟩ | ⟨hne, -⟩
          · exact Token.indent.inj (hindent.symm.trans htoken)
          · exact absurd htoken (hne rfl _)
        · rcases hdepth₁ with ⟨-, hindent⟩ | ⟨-, hdepth₁⟩
          · exact absurd hindent (hne _)
          · rw [hdepth₁, hzero]
            rfl

/-! ### Pieces of a part of a source -/

/-- Two lists of pieces are read one after the other. -/
theorem Reads.exists_of_append {mode : Mode} {cs left : List Char} {pieces pieces' : List Piece}
    (h : Reads mode cs (pieces ++ pieces') left) :
    ∃ mid, Reads mode cs pieces mid ∧ Reads (modeAfterAll mode pieces) mid pieces' left := by
  induction pieces generalizing mode cs with
  | nil => exact ⟨cs, .nil mode cs, h⟩
  | cons p pieces ih =>
      cases h with
      | cons hblanks hlongest hreads =>
          obtain ⟨mid, hpieces, hpieces'⟩ := ih hreads
          exact ⟨mid, .cons hblanks hlongest hpieces, hpieces'⟩

/-- The pieces of a text are those of the text without some of what is left after them. -/
theorem Reads.of_append {mode : Mode} {cs left more : List Char} {pieces : List Piece}
    (h : Reads mode cs pieces (left ++ more)) :
    Reads mode (pieces.flatMap Piece.chars ++ left) pieces left := by
  generalize hleft : left ++ more = left' at h
  induction h with
  | nil mode cs => exact .nil mode left
  | @cons mode blanks cs left' l pieces hblanks hlongest hreads ih =>
      have hrest := hreads.append_eq
      rw [← hleft, ← List.append_assoc] at hrest
      have hshort : IsLongest mode (l.text ++ (pieces.flatMap Piece.chars ++ left))
          ⟨l.token, l.text, pieces.flatMap Piece.chars ++ left⟩ :=
        ⟨rfl, hlongest.isLexeme, fun text token rest heq hlexeme =>
          hlongest.length_le text token (rest ++ more)
            (by rw [← hlongest.append_eq, ← hrest, ← List.append_assoc, heq, List.append_assoc])
            hlexeme⟩
      have hcons := Reads.cons hblanks hshort (ih hleft)
      rwa [← List.append_assoc, ← List.append_assoc] at hcons

/-- A source with a line break among its pieces is a part that is read in line mode, and a
newline and what follows. -/
theorem exists_newline_of_reads {source left : List Char} {pieces : List Piece}
    (h : Reads .line source pieces left) {p : Piece} (hp : p ∈ pieces)
    (hbreak : p.token = .lineBreak) :
    ∃ s s' pieces' left', source = s ++ '\n' :: s' ∧ Reads .line s pieces' left' ∧
      modeAfterAll .line pieces' = .line ∧ ∀ c ∈ left', IsBlank .line c := by
  obtain ⟨before, after, rfl⟩ := List.append_of_mem hp
  obtain ⟨mid, hbefore, hafter⟩ := h.exists_of_append
  have hsource := hbefore.append_eq
  generalize hmode : modeAfterAll .line before = mode at hafter
  cases hafter with
  | @cons _ blanks cs _ l _ hblanks hlongest hreads =>
      have hlexeme := hlongest.isLexeme
      rw [show l.token = .lineBreak from hbreak] at hlexeme
      obtain ⟨rfl, t, htext, -⟩ := hlexeme.eq_of_lineBreak
      refine ⟨before.flatMap Piece.chars ++ blanks, t ++ l.rest, before, blanks, ?_,
        hbefore.of_append, hmode, hblanks⟩
      rw [← hsource, ← hlongest.append_eq, htext, List.append_assoc]
      rfl

/-! ### Where lines start -/

/-- A line of a source: the text before it, its leading whitespace and the rest of the source
after that. Before the line there is nothing, or the lines up to a newline. -/
structure StartsLine [Diagnostics] (source before leading after : List Char) : Prop where
  /-- The source is made up of them. -/
  append_eq : before ++ (leading ++ after) = source
  /-- The lines before are read, and end with a newline. -/
  before_eq : before = [] ∨
    ∃ s lines, before = s ++ ['\n'] ∧ readLines (scanAll s) = .ok lines
  /-- Spaces, tabs and carriage returns stand at the start of the line. -/
  isLeading : ∀ c ∈ leading, isLeading c = true
  /-- No other one comes after them. -/
  not_isLeading : ∀ c, after.head? = some c → Pattern.isLeading c = false

/-- The start of a source. -/
theorem StartsLine.start (source : List Char) :
    StartsLine source [] (source.takeWhile Pattern.isLeading)
      (source.dropWhile Pattern.isLeading) where
  append_eq := List.takeWhile_append_dropWhile
  before_eq := .inl rfl
  isLeading := fun c hc => List.mem_takeWhile_imp hc
  not_isLeading := by
    intro c hc
    have hnot := List.head?_dropWhile_not Pattern.isLeading source
    rw [hc] at hnot
    exact hnot

/-- A line of a source before a newline. -/
theorem StartsLine.append_newline {s before leading after : List Char}
    (h : StartsLine s before leading after) (s' : List Char) :
    StartsLine (s ++ '\n' :: s') before leading (after ++ '\n' :: s') where
  append_eq := by rw [← h.append_eq]; simp
  before_eq := h.before_eq
  isLeading := h.isLeading
  not_isLeading := by
    intro c hc
    cases after with
    | nil =>
        obtain rfl := Option.some.inj hc
        rfl
    | cons d after => exact h.not_isLeading c hc

/-- A line of a source after lines and a newline. -/
theorem StartsLine.newline_append {s s' before leading after : List Char} {lines : List Line}
    (h : StartsLine s' before leading after) (hs : readLines (scanAll s) = .ok lines) :
    StartsLine (s ++ '\n' :: s') (s ++ '\n' :: before) leading after where
  append_eq := by rw [← h.append_eq]; simp
  before_eq := by
    right
    rcases h.before_eq with rfl | ⟨s'', lines', rfl, hs''⟩
    · exact ⟨s, lines, rfl, hs⟩
    · have hread := readLines_append_newline_of_ok hs s''
      rw [hs''] at hread
      exact ⟨s ++ '\n' :: s'', _, by simp, hread⟩
  isLeading := h.isLeading
  not_isLeading := h.not_isLeading

/-- A result further down is one that was there before. -/
theorem further_eq_ok_iff {α : Type} {n : Nat} {f : α → α} {x : Except CompileError α} {b : α} :
    further n f x = .ok b ↔ ∃ a, x = .ok a ∧ f a = b := by
  cases x <;> simp [further]

/-- A newline between two texts counts once. -/
theorem newlines_append_newline (s s' : List Char) :
    newlines (s ++ '\n' :: s') = newlines s + 1 + newlines s' := by
  have hcons : newlines ('\n' :: s') = newlines s' + 1 := List.count_cons_self
  rw [newlines_append, hcons]
  omega

/-- Without a line break, a source has one line at most, at its start. -/
theorem startsLine_of_no_lineBreak {source left : List Char} {pieces : List Piece}
    (hreads : Reads .line source pieces left) (hends : Ends (modeAfterAll .line pieces) left none)
    (hbreak : ∀ p ∈ pieces, p.token ≠ .lineBreak) {lines : List Line}
    (h : readLines (scanAll source) = .ok lines) {l : Line} (hl : l ∈ lines) :
    ∃ before leading after, StartsLine source before leading after ∧
      l.number = 1 + newlines before ∧ l.depth = indentation leading := by
  have hne : ∀ t ∈ numberedFrom 0 pieces, t.1 ≠ .lineBreak := by
    intro t ht htoken
    have hmem : t.1 ∈ (numberedFrom 0 pieces).map Prod.fst := List.mem_map_of_mem ht
    rw [map_fst_numberedFrom, htoken] at hmem
    obtain ⟨p, hp, hp'⟩ := List.mem_map.1 hmem
    exact hbreak p hp hp'
  rw [scanAll_of_reads hreads hends, readLines, endingAt, readLinesFrom_last hne] at h
  obtain ⟨made, hmade, rfl⟩ := map_eq_ok_iff.1 h
  obtain rfl := Option.mem_toList.1 hl
  obtain ⟨hnumber, hdepth⟩ := header_of_readLine hreads hmade
  have hstarts : StartsLine source [] _ _ := .start source
  refine ⟨[], _, _, hstarts, hnumber, ?_⟩
  rw [hdepth, ← indentation_append hstarts.isLeading hstarts.not_isLeading,
    List.takeWhile_append_dropWhile]

/-- **Every line** that is read starts somewhere in the source. Its number is one more than the
newlines before it, and its depth the indentation of its leading whitespace. -/
theorem startsLine_of_readLines {source : List Char} {lines : List Line}
    (h : readLines (scanAll source) = .ok lines) {l : Line} (hl : l ∈ lines) :
    ∃ before leading after, StartsLine source before leading after ∧
      l.number = 1 + newlines before ∧ l.depth = indentation leading := by
  -- Both sides of a line break are shorter sources.
  induction hlength : source.length using Nat.strongRecOn generalizing source lines l with
  | ind n ih =>
      obtain ⟨pieces, left, hreads, hmode, hleft⟩ := exists_reads_of_readLines h
      by_cases hbreak : ∃ p ∈ pieces, p.token = .lineBreak
      · obtain ⟨p, hp, htoken⟩ := hbreak
        obtain ⟨s, s', pieces', left', rfl, hreads', hmode', hleft'⟩ :=
          exists_newline_of_reads hreads hp htoken
        rw [List.length_append, List.length_cons] at hlength
        rw [readLines_append_newline hreads' hmode' hleft'] at h
        obtain ⟨linesBefore, hbefore, h⟩ := bind_eq_ok_iff.1 h
        obtain ⟨linesAfter, hafter, rfl⟩ := map_eq_ok_iff.1 h
        rcases List.mem_append.1 hl with hl | hl
        · obtain ⟨before, leading, after, hstarts, hnumber, hdepth⟩ :=
            ih s.length (by omega) hbefore hl rfl
          exact ⟨before, leading, _, hstarts.append_newline s', hnumber, hdepth⟩
        · obtain ⟨lines', hread, rfl⟩ := further_eq_ok_iff.1 hafter
          obtain ⟨l', hl', rfl⟩ := List.mem_map.1 hl
          obtain ⟨before, leading, after, hstarts, hnumber, hdepth⟩ :=
            ih s'.length (by omega) hread hl' rfl
          refine ⟨_, leading, after, hstarts.newline_append hbefore, ?_, hdepth⟩
          change l'.number + (newlines s + 1) = _
          rw [hnumber, newlines_append_newline]
          omega
      · refine startsLine_of_no_lineBreak hreads ?_ (fun p hp htoken => hbreak ⟨p, hp, htoken⟩)
          h hl
        rw [hmode]
        exact .blanks hleft

/-! ### What else stands before the first word -/

namespace Reading

variable {cs after : List Char} {passed line : Nat} {d : LineDraft} {lines : List Line}

/-- What comes of a reading depends on its scanner by the next token only. -/
theorem outcome_congr {s s' : Scanner} (hs : s.mode ≠ .done) (hs' : s'.mode ≠ .done)
    (h : s.scan = s'.scan) : outcome ⟨s, d, lines⟩ = outcome ⟨s', d, lines⟩ := by
  rw [outcome_eq_bind_next hs, outcome_eq_bind_next hs', next, next, h]

/-- A blank makes no difference. -/
theorem outcome_blank {c : Char} (hc : isLineBlank c = true) :
    outcome ⟨⟨.line, c :: cs, passed, line⟩, d, lines⟩ =
      outcome ⟨⟨.line, cs, passed, line⟩, d, lines⟩ := by
  refine outcome_congr nofun nofun ?_
  rw [Scanner.scan, Scanner.scan]
  dsimp only
  rw [List.dropWhile_cons_of_pos hc]
  rfl

/-- A run of tabs gives a line its depth if it comes first. -/
theorem outcome_tabs (n : Nat) (hcs : cs.head? ≠ some '\t') :
    outcome ⟨⟨.line, List.replicate (n + 1) '\t' ++ cs, passed, line⟩, d, lines⟩ =
      outcome ⟨⟨.line, cs, passed, line⟩,
        { d with
          number := some (d.number.getD (passed + 1))
          depth := if d.number.isNone then n + 1 else d.depth }, lines⟩ := by
  have hscan : Scanner.scan ⟨.line, List.replicate (n + 1) '\t' ++ cs, passed, line⟩ =
      (.ok (.indent (n + 1)), ⟨.line, cs, passed, passed + 1⟩) := by
    have hnewlines : newlines (List.replicate (n + 1) '\t') = 0 := by
      rw [newlines, List.count_eq_zero]
      exact fun hmem => absurd (List.eq_of_mem_replicate hmem) (by decide)
    rw [Scanner.scan_of_isLongest (List.nil_append _).symm (List.forall_mem_nil _)
      (isLongest_tabs n hcs), Scanner.advance, hnewlines]
    rfl
  have hpush : d.push (.indent (n + 1)) (passed + 1) = .ok { d with
      number := some (d.number.getD (passed + 1))
      depth := if d.number.isNone then n + 1 else d.depth } := by
    rw [LineDraft.push_eq_ok_iff, LineDraft.add]
    cases d.number <;> rfl
  have hline : Mode.line ≠ .done := Mode.noConfusion
  rw [outcome_eq_bind_next hline, next_of_token (g := ⟨_, d, lines⟩) hscan
    Token.noConfusion Token.noConfusion, hpush]
  change outcome ⟨⟨.line, cs, passed, passed + 1⟩, _, lines⟩ = _
  exact outcome_congr hline hline rfl

/-- After the first token of a line, leading whitespace makes no difference. -/
theorem outcome_leading_of_number {n : Nat} (hd : d.number = some n)
    (hcs : ∀ c ∈ cs, isLeading c = true)
    (hafter : ∀ c, after.head? = some c → isLeading c = false) :
    outcome ⟨⟨.line, cs ++ after, passed, line⟩, d, lines⟩ =
      outcome ⟨⟨.line, after, passed, line⟩, d, lines⟩ := by
  induction hlength : cs.length using Nat.strongRecOn generalizing cs with
  | ind m ih =>
      cases cs with
      | nil => rfl
      | cons c cs =>
          obtain ⟨hc, hrest⟩ := List.forall_mem_cons.1 hcs
          rw [List.length_cons] at hlength
          rcases isLeading_iff.1 hc with hblank | rfl
          · rw [List.cons_append, outcome_blank hblank]
            exact ih cs.length (by omega) hrest rfl
          · obtain ⟨k, more, rfl, hmore⟩ := exists_tabs cs
            rw [List.length_append] at hlength
            have hsame : { d with
                number := some (d.number.getD (passed + 1))
                depth := if d.number.isNone then k + 1 else d.depth } = d := by
              obtain ⟨number, _⟩ := d
              obtain rfl : number = some n := hd
              rfl
            have htabs : outcome ⟨⟨.line, List.replicate (k + 1) '\t' ++ (more ++ after), passed,
                line⟩, d, lines⟩ = _ := outcome_tabs k (head?_append_ne_tab hmore hafter)
            rw [hsame] at htabs
            rw [← List.cons_append, ← List.replicate_succ, List.append_assoc, htabs]
            exact ih more.length (by omega)
              (fun c hc => hrest c (List.mem_append_right _ hc)) rfl

/-- At the start of a line, leading whitespace makes a difference by its indentation only. -/
theorem outcome_leading (hcs : ∀ c ∈ cs, isLeading c = true)
    (hafter : ∀ c, after.head? = some c → isLeading c = false) :
    outcome ⟨⟨.line, cs ++ after, passed, line⟩, .empty, lines⟩ =
      outcome ⟨⟨.line, after, passed, line⟩,
        if indentation cs = 0 then .empty
        else { LineDraft.empty with number := some (passed + 1), depth := indentation cs },
        lines⟩ := by
  induction cs with
  | nil => rfl
  | cons c cs ih =>
      obtain ⟨hc, hrest⟩ := List.forall_mem_cons.1 hcs
      rcases isLeading_iff.1 hc with hblank | rfl
      · rw [List.cons_append, outcome_blank hblank, indentation_cons_blank hblank, ih hrest]
      · obtain ⟨k, more, rfl, hmore⟩ := exists_tabs cs
        have htabs : outcome ⟨⟨.line, List.replicate (k + 1) '\t' ++ (more ++ after), passed,
            line⟩, .empty, lines⟩ = _ := outcome_tabs k (head?_append_ne_tab hmore hafter)
        rw [← List.cons_append, ← List.replicate_succ, List.append_assoc, htabs,
          indentation_tabs k hmore, if_neg (Nat.succ_ne_zero k)]
        exact outcome_leading_of_number rfl
          (fun c hc => hrest c (List.mem_append_right _ hc)) hafter

end Reading

section

variable {cs cs' after : List Char} (h : ∀ c ∈ cs, isLeading c = true)
  (h' : ∀ c ∈ cs', isLeading c = true) (heq : indentation cs = indentation cs')
  (hafter : ∀ c, after.head? = some c → isLeading c = false)

include h h' heq hafter

/-- The lines of a source depend on its leading whitespace by the indentation only. -/
theorem readLines_congr_leading :
    readLines (scanAll (cs ++ after)) = readLines (scanAll (cs' ++ after)) := by
  rw [← Reading.outcome_start, ← Reading.outcome_start]
  exact (Reading.outcome_leading h hafter).trans
    (heq ▸ (Reading.outcome_leading h' hafter).symm)

/-- **Leading whitespace.** What comes of a source depends on the leading whitespace of a line
by the indentation only. -/
theorem compileRules_congr_leading {source before : List Char}
    (hstarts : StartsLine source before cs after) :
    compileRules (before ++ (cs' ++ after)) = compileRules source := by
  have hlines : readLines (scanAll (before ++ (cs' ++ after))) = readLines (scanAll source) := by
    rw [← hstarts.append_eq]
    rcases hstarts.before_eq with rfl | ⟨s, lines, rfl, hs⟩
    · exact (readLines_congr_leading h h' heq hafter).symm
    · rw [List.append_assoc, List.append_assoc]
      change readLines (scanAll (s ++ '\n' :: (cs' ++ after))) =
        readLines (scanAll (s ++ '\n' :: (cs ++ after)))
      rw [readLines_append_newline_of_ok hs, readLines_append_newline_of_ok hs,
        readLines_congr_leading h h' heq hafter]
  rw [compileRules, compileRules, hlines]

end

/-- **Indentation.** The lines of a source that compiles are nested by their depths. Each line
starts somewhere in the source, and its depth is the length of the first run of tabs there, if
only spaces and carriage returns come before that run. This is the number of tabs in the leading
whitespace of the line if and only if they stand together. Any other leading whitespace with the
same indentation leads to the same pattern. -/
theorem depth_eq_indentation {source : String} {p : Pattern} (h : compile source = .ok p) :
    ∃ lines, readLines (scanAll source.toList) = .ok lines ∧ arrange lines = .ok p.rules ∧
      ∀ l ∈ lines, ∃ before leading after, StartsLine source.toList before leading after ∧
        l.number = 1 + newlines before ∧ l.depth = indentation leading ∧
        (l.depth = leading.count '\t' ↔ TabsTogether leading) ∧
        ∀ leading' : List Char, (∀ c ∈ leading', isLeading c = true) →
          indentation leading' = indentation leading →
          compile (String.ofList (before ++ (leading' ++ after))) = .ok p := by
  obtain ⟨lines, hlines, rules, hrules, rfl⟩ := compile_eq_ok_iff.1 h
  refine ⟨lines, hlines, hrules, fun l hl => ?_⟩
  obtain ⟨before, leading, after, hstarts, hnumber, hdepth⟩ := startsLine_of_readLines hlines hl
  refine ⟨before, leading, after, hstarts, hnumber, hdepth, ?_, fun leading' hleading' heq => ?_⟩
  · rw [hdepth]
    exact indentation_eq_count_iff hstarts.isLeading
  · rw [← h, compile, compile, String.toList_ofList,
      compileRules_congr_leading hstarts.isLeading hleading' heq.symm hstarts.not_isLeading hstarts]

end

/-- Tabs with a space between them: the third line has the depth of the second. -/
theorem depth_eq_indentation_split_tabs :
    ∃ p lines, compile "a\n\tb\n\t \tc" = .ok p ∧
      readLines (scanAll "a\n\tb\n\t \tc".toList) = .ok lines ∧ arrange lines = .ok p.rules ∧
      lines.map Line.depth = [0, 1, 1] ∧
      ∀ l ∈ lines, ∃ before leading after,
        StartsLine "a\n\tb\n\t \tc".toList before leading after ∧
          l.depth = indentation leading := by
  have hcompile : (compile "a\n\tb\n\t \tc").map (fun p => p.rules.length) = .ok 1 := by
    decide +kernel
  have hdepths : (readLines (scanAll "a\n\tb\n\t \tc".toList)).map (List.map Line.depth) =
      .ok [0, 1, 1] := by decide +kernel
  obtain ⟨p, hp, -⟩ := map_eq_ok_iff.1 hcompile
  obtain ⟨lines, hlines, hrules, hall⟩ := depth_eq_indentation hp
  rw [hlines] at hdepths
  refine ⟨p, lines, hp, hlines, hrules, Except.ok.inj hdepths, fun l hl => ?_⟩
  obtain ⟨before, leading, after, hstarts, -, hdepth, -⟩ := hall l hl
  exact ⟨before, leading, after, hstarts, hdepth⟩

/-- The depth of a line is not the number of the tabs before its first word, and a space between
two of them does change the pattern. -/
theorem depth_ne_count_tabs :
    (¬ ∀ (source : List Char) (lines : List Line) (before leading after : List Char),
      readLines (scanAll source) = .ok lines → StartsLine source before leading after →
      ∀ l ∈ lines, l.number = 1 + newlines before → l.depth = leading.count '\t') ∧
    (compile "a\n\tb\n\t\tc").map (fun p => p.rules.map fun r => r.children.length) = .ok [1] ∧
    (compile "a\n\tb\n\t \tc").map (fun p => p.rules.map fun r => r.children.length) =
      .ok [2] := by
  refine ⟨fun h => ?_, by decide +kernel, by decide +kernel⟩
  have hbefore : (readLines (scanAll "a\n\tb".toList)).map List.length = .ok 2 := by decide +kernel
  have hthird : (readLines (scanAll "a\n\tb\n\t \tc".toList)).map
      (List.map fun l => (l.number, l.depth)) = .ok [(1, 0), (2, 1), (3, 1)] := by decide +kernel
  obtain ⟨linesBefore, hread, -⟩ := map_eq_ok_iff.1 hbefore
  obtain ⟨lines, hlines, hheaders⟩ := map_eq_ok_iff.1 hthird
  have hstarts : StartsLine "a\n\tb\n\t \tc".toList "a\n\tb\n".toList ['\t', ' ', '\t'] ['c'] :=
    ⟨by decide, .inr ⟨_, linesBefore, by decide, hread⟩, List.all_eq_true.1 (by decide),
      by simp [Pattern.isLeading]⟩
  have hmem : (3, 1) ∈ lines.map fun l => (l.number, l.depth) := by
    rw [hheaders]
    decide
  obtain ⟨l, hl, hheader⟩ := List.mem_map.1 hmem
  obtain ⟨hnumber, hdepth⟩ := Prod.mk.inj hheader
  have htabs := h _ lines _ _ _ hlines hstarts l hl (by rw [hnumber]; decide)
  rw [hdepth] at htabs
  exact absurd htabs (by decide)

end Harvest.Pattern
