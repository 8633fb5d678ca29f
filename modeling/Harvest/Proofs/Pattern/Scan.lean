import Harvest.Proofs.Pattern.Lexeme

/-!
# Scanning a Source

A scan cuts a source into pieces, each a lexeme with the blanks before it, and stops where
only blanks are left or where no lexeme stands. `Reads` says so without a scanner: every
lexeme is the longest one of the mode that the tokens before it have led to. The pieces of a
source are determined by that, and they are those that the scanner finds, each token with
the line on which its lexeme begins.

## Main results

* `Scanner.scan_spec`: what one step does.
* `scanAll_spec`: what a whole scan does.
* `tokenize_spec`: the tokens of a source that scans, and the fault of one that does not.
-/

namespace Harvest.Pattern

open Scanner (modeAfter)

/-- A lexeme of a source with the blanks before it. -/
structure Piece where
  /-- The blanks. -/
  blanks : List Char
  /-- The characters of the lexeme. -/
  text : List Char
  /-- The token of the lexeme. -/
  token : Token

/-- The characters of a piece. -/
def Piece.chars (p : Piece) : List Char :=
  p.blanks ++ p.text

/-- The mode after some pieces: an opening bracket leads to capture mode and a closing one to
line mode. -/
def modeAfterAll (mode : Mode) (pieces : List Piece) : Mode :=
  (pieces.map Piece.token).foldl modeAfter mode

/-- In the given mode a text begins with the given pieces, each the longest lexeme of its
mode, and goes on with the last list of characters. -/
inductive Reads : Mode → List Char → List Piece → List Char → Prop
  /-- No piece. -/
  | nil (mode : Mode) (cs : List Char) : Reads mode cs [] cs
  /-- A lexeme after blanks, and more pieces in the mode that its token leads to. -/
  | cons {mode : Mode} {blanks cs left : List Char} {l : Lexeme} {pieces : List Piece}
      (hblanks : ∀ c ∈ blanks, IsBlank mode c) (hlongest : IsLongest mode cs l)
      (h : Reads (modeAfter mode l.token) l.rest pieces left) :
      Reads mode (blanks ++ cs) (⟨blanks, l.text, l.token⟩ :: pieces) left

/-- A scan goes no further in the given mode from the given text: only blanks are left, or
blanks before a place where there is no lexeme. -/
inductive Ends : Mode → List Char → Option ScanFault → Prop
  /-- The end of the source. -/
  | blanks {mode : Mode} {left : List Char} (h : ∀ c ∈ left, IsBlank mode c) :
      Ends mode left none
  /-- A place without a lexeme. -/
  | stuck {blanks rest : List Char} {fault : ScanFault}
      (hblanks : ∀ c ∈ blanks, IsBlank .capture c) (h : NoLexeme rest fault) :
      Ends .capture (blanks ++ rest) (some fault)

/-- The tokens of pieces with the lines on which their lexemes begin, after a text with
`passed` newlines. -/
def numberedFrom (passed : Nat) : List Piece → List (Token × Nat)
  | [] => []
  | p :: pieces =>
      (p.token, passed + newlines p.blanks + 1) ::
        numberedFrom (passed + newlines p.chars) pieces

theorem map_fst_numberedFrom (passed : Nat) (pieces : List Piece) :
    (numberedFrom passed pieces).map Prod.fst = pieces.map Piece.token := by
  induction pieces generalizing passed with
  | nil => rfl
  | cons p pieces ih => rw [numberedFrom, List.map_cons, List.map_cons, ih]

/-- The line on which a fault is reported, after a text with `passed` newlines and before
the text `left`. A literal without end is reported on the last line. -/
def faultLine (passed : Nat) (left : List Char) : ScanFault → Nat
  | .unterminatedRegex => passed + 1 + newlines left
  | _ => passed + 1

/-- How a scan ends with the text `left`, after a text with `passed` newlines. -/
def endingAt (passed : Nat) (left : List Char) : Option ScanFault → Except CompileError Nat
  | none => .ok (passed + 1)
  | some fault => .error ⟨faultLine passed left fault, .scan fault⟩

/-! ### Blanks -/

/-- The blanks of a mode are told apart by a test. -/
def isBlankIn : Mode → Char → Bool
  | .capture => isCaptureBlank
  | _ => isLineBlank

@[simp] theorem isBlankIn_line : isBlankIn .line = isLineBlank := rfl

@[simp] theorem isBlankIn_capture : isBlankIn .capture = isCaptureBlank := rfl

theorem isBlankIn_iff {mode : Mode} {c : Char} : isBlankIn mode c = true ↔ IsBlank mode c := by
  cases mode <;> simp [isBlankIn, isCaptureBlank, isLineBlank, IsBlank, or_assoc]

/-- No newline is among blanks. -/
theorem newlines_eq_zero {mode : Mode} {cs : List Char} (h : ∀ c ∈ cs, IsBlank mode c) :
    newlines cs = 0 := by
  rw [newlines, List.count_eq_zero]
  intro hmem
  have hblank := h _ hmem
  cases mode <;> simp [IsBlank] at hblank

/-- The newlines of two texts add up. -/
theorem newlines_append (cs cs' : List Char) :
    newlines (cs ++ cs') = newlines cs + newlines cs' :=
  List.count_append

/-- Blanks before a text that does not begin with one are found by skipping. -/
theorem dropWhile_blanks {mode : Mode} {blanks cs : List Char}
    (hblanks : ∀ c ∈ blanks, IsBlank mode c)
    (hcs : ∀ c, cs.head? = some c → ¬ IsBlank mode c) :
    (blanks ++ cs).dropWhile (isBlankIn mode) = cs := by
  rw [List.dropWhile_append_of_pos fun c hc => isBlankIn_iff.2 (hblanks c hc)]
  cases cs with
  | nil => rfl
  | cons c cs =>
      rw [List.dropWhile_cons_of_neg]
      exact fun h => hcs c rfl (isBlankIn_iff.1 h)

/-- A text is its blanks and what follows, which does not begin with a blank. -/
theorem exists_blanks (mode : Mode) (cs : List Char) :
    ∃ blanks, (∀ c ∈ blanks, IsBlank mode c) ∧
      blanks ++ cs.dropWhile (isBlankIn mode) = cs ∧
      ∀ c, (cs.dropWhile (isBlankIn mode)).head? = some c → ¬ IsBlank mode c := by
  refine ⟨cs.takeWhile (isBlankIn mode),
    fun c hc => isBlankIn_iff.1 (List.mem_takeWhile_imp hc),
    List.takeWhile_append_dropWhile, fun c hc => ?_⟩
  have hnot := List.head?_dropWhile_not (isBlankIn mode) cs
  rw [hc] at hnot
  rw [← isBlankIn_iff, Bool.not_eq_true]
  exact hnot

/-! ### One step -/

/-- The token of a lexeme is not the end of the source. -/
theorem IsLexeme.token_ne_eof {mode : Mode} {text : List Char} {token : Token}
    (h : IsLexeme mode text token) : token ≠ .eof := by
  cases mode with
  | line => cases h <;> nofun
  | capture => cases h <;> nofun
  | done => exact h.elim

/-- **One step** reads the longest lexeme after blanks, or ends the scan. -/
theorem Scanner.scan_spec (s : Scanner) (hmode : s.mode ≠ .done) :
    (∃ blanks cs l, s.rest = blanks ++ cs ∧ (∀ c ∈ blanks, IsBlank s.mode c) ∧
      IsLongest s.mode cs l ∧ s.scan = (.ok l.token, s.advance l)) ∨
    (Ends s.mode s.rest none ∧ s.scan = (.ok .eof, s.stop (s.passed + 1))) ∨
    ∃ fault, Ends s.mode s.rest (some fault) ∧
      s.scan.1 = .error ⟨faultLine s.passed s.rest fault, .scan fault⟩ := by
  obtain ⟨blanks, hblanks, happend, hhead⟩ := exists_blanks s.mode s.rest
  rw [Scanner.scan]
  cases hm : s.mode with
  | done => exact absurd hm hmode
  | line =>
      rw [hm] at hblanks happend hhead
      rw [isBlankIn_line] at happend hhead
      have hspec := lineLexeme?_spec hhead
      dsimp only
      cases hread : lineLexeme? (s.rest.dropWhile isLineBlank) with
      | none =>
          rw [hread] at hspec
          refine .inr (.inl ⟨.blanks ?_, rfl⟩)
          rwa [← happend, hspec, List.append_nil]
      | some l =>
          rw [hread] at hspec
          exact .inl ⟨blanks, _, l, happend.symm, hblanks, hspec, rfl⟩
  | capture =>
      rw [hm] at hblanks happend hhead
      rw [isBlankIn_capture] at happend hhead
      have hspec := captureLexeme?_spec hhead
      dsimp only
      cases hread : captureLexeme? (s.rest.dropWhile isCaptureBlank) with
      | ok l =>
          rw [hread] at hspec
          cases l with
          | none =>
              refine .inr (.inl ⟨.blanks ?_, rfl⟩)
              rwa [← happend, hspec, List.append_nil]
          | some l => exact .inl ⟨blanks, _, l, happend.symm, hblanks, hspec, rfl⟩
      | error fault =>
          rw [hread] at hspec
          refine .inr (.inr ⟨fault, ?_, ?_⟩)
          · rw [← happend]
            exact .stuck hblanks hspec
          · cases fault <;> rfl

/-! ### A whole scan -/

/-- Blanks hold no newline, so a piece has those of its lexeme. -/
theorem newlines_chars {mode : Mode} {blanks text : List Char} {token : Token}
    (h : ∀ c ∈ blanks, IsBlank mode c) :
    newlines (Piece.chars ⟨blanks, text, token⟩) = newlines text := by
  rw [Piece.chars, newlines_append, newlines_eq_zero h, Nat.zero_add]

/-- A lexeme is not empty, so the source after it is shorter. -/
theorem IsLongest.length_rest_lt {mode : Mode} {cs : List Char} {l : Lexeme}
    (h : IsLongest mode cs l) : l.rest.length < cs.length := by
  obtain ⟨c, t, htext, -⟩ := h.isLexeme.exists_cons
  rw [← h.append_eq, htext, List.length_append, List.length_cons]
  omega

/-- A token leaves a scanner in line mode or in capture mode. -/
theorem modeAfter_ne_done {mode : Mode} (h : mode ≠ .done) (token : Token) :
    modeAfter mode token ≠ .done := by
  cases token with
  | leftBracket => nofun
  | rightBracket => nofun
  | _ => exact h

/-- After a token the scan goes on. -/
theorem scanFrom_succ_of_token {s s' : Scanner} {token : Token}
    (h : s.scan = (.ok token, s')) (hne : token ≠ .eof) (fuel : Nat)
    (found : List (Token × Nat)) :
    scanFrom (fuel + 1) s found = scanFrom fuel s' ((token, s'.line) :: found) := by
  rw [scanFrom, h]
  cases token with
  | eof => exact absurd rfl hne
  | _ => rfl

/-- After a fault the scan ends. -/
theorem scanFrom_succ_of_error {s : Scanner} {e : CompileError} (h : s.scan.1 = .error e)
    (fuel : Nat) (found : List (Token × Nat)) :
    scanFrom (fuel + 1) s found = ⟨found.reverse, .error e⟩ := by
  rw [scanFrom]
  rcases hrun : s.scan with ⟨result, s'⟩
  rw [hrun] at h
  obtain rfl : result = .error e := h
  rfl

/-- **A whole scan** from any state, with enough fuel, finds the pieces of the source and
ends after them. -/
theorem scanFrom_spec (fuel : Nat) (s : Scanner) (found : List (Token × Nat))
    (hmode : s.mode ≠ .done) (hfuel : s.rest.length < fuel) :
    ∃ pieces left fault?, Reads s.mode s.rest pieces left ∧
      Ends (modeAfterAll s.mode pieces) left fault? ∧
      scanFrom fuel s found =
        ⟨found.reverse ++ numberedFrom s.passed pieces,
          endingAt (s.passed + newlines (pieces.flatMap Piece.chars)) left fault?⟩ := by
  induction fuel generalizing s found with
  | zero => exact absurd hfuel (Nat.not_lt_zero _)
  | succ fuel ih =>
      rcases s.scan_spec hmode with
        ⟨blanks, cs, l, hrest, hblanks, hlongest, hscan⟩ | ⟨hends, hscan⟩ |
          ⟨fault, hends, hscan⟩
      · have hshorter : (s.advance l).rest.length < fuel := by
          have hlt := hlongest.length_rest_lt
          rw [hrest, List.length_append] at hfuel
          change l.rest.length < fuel
          omega
        obtain ⟨pieces, left, fault?, hreads, hends, hfrom⟩ :=
          ih (s.advance l) ((l.token, s.passed + 1) :: found)
            (modeAfter_ne_done hmode l.token) hshorter
        refine ⟨⟨blanks, l.text, l.token⟩ :: pieces, left, fault?, ?_, hends, ?_⟩
        · rw [hrest]
          exact .cons hblanks hlongest hreads
        · rw [scanFrom_succ_of_token hscan hlongest.isLexeme.token_ne_eof]
          refine hfrom.trans ?_
          rw [numberedFrom, newlines_chars hblanks, newlines_eq_zero hblanks,
            List.flatMap_cons, newlines_append, newlines_chars hblanks, ← Nat.add_assoc,
            List.reverse_cons, List.append_assoc]
          rfl
      · refine ⟨[], s.rest, none, .nil _ _, hends, ?_⟩
        rw [scanFrom, hscan, numberedFrom, List.append_nil]
        rfl
      · refine ⟨[], s.rest, some fault, .nil _ _, hends, ?_⟩
        rw [scanFrom_succ_of_error hscan, numberedFrom, List.append_nil]
        rfl

/-- **The scan of a source** finds its pieces and ends after them. -/
theorem scanAll_spec (source : List Char) :
    ∃ pieces left fault?, Reads .line source pieces left ∧
      Ends (modeAfterAll .line pieces) left fault? ∧
      scanAll source =
        ⟨numberedFrom 0 pieces,
          endingAt (newlines (pieces.flatMap Piece.chars)) left fault?⟩ := by
  obtain ⟨pieces, left, fault?, hreads, hends, hscan⟩ :=
    scanFrom_spec (source.length + 1) (.start source) [] nofun (Nat.lt_succ_self _)
  refine ⟨pieces, left, fault?, hreads, hends, hscan.trans ?_⟩
  rw [List.reverse_nil, List.nil_append]
  exact congrArg (fun n => Scan.mk _ (endingAt n left fault?)) (Nat.zero_add _)

/-! ### The pieces of a source are determined -/

/-- The pieces and what is left make up the source. -/
theorem Reads.append_eq {mode : Mode} {cs left : List Char} {pieces : List Piece}
    (h : Reads mode cs pieces left) : pieces.flatMap Piece.chars ++ left = cs := by
  induction h with
  | nil => rfl
  | cons hblanks hlongest _ ih =>
      rw [List.flatMap_cons, Piece.chars, List.append_assoc, List.append_assoc, ih,
        hlongest.append_eq]

/-- A lexeme does not begin with a blank. -/
theorem IsLongest.not_isBlank_head {mode : Mode} {cs : List Char} {l : Lexeme}
    (h : IsLongest mode cs l) (c : Char) (hc : cs.head? = some c) : ¬ IsBlank mode c := by
  obtain ⟨c', t, htext, hnot⟩ := h.isLexeme.exists_cons
  rw [← h.append_eq, htext] at hc
  obtain rfl := Option.some.inj hc
  exact hnot

/-- A place without a lexeme does not begin with a blank. -/
theorem NoLexeme.not_isBlank_head {cs : List Char} {fault : ScanFault}
    (h : NoLexeme cs fault) (c : Char) (hc : cs.head? = some c) : ¬ IsBlank .capture c := by
  cases h <;> obtain rfl := Option.some.inj hc <;> simp [IsBlank]

/-- There is one reason at most why there is no lexeme. -/
theorem NoLexeme.unique {cs : List Char} {fault fault' : ScanFault}
    (h : NoLexeme cs fault) (h' : NoLexeme cs fault') : fault = fault' := by
  cases h with
  | newline => cases h'; rfl
  | equals hslash =>
      cases h' with
      | equals => rfl
      | openLiteral => exact absurd rfl hslash
  | openLiteral =>
      cases h' with
      | equals hslash => exact absurd rfl hslash
      | openLiteral => rfl

/-- The blanks at the start of a text are determined by what follows them. -/
theorem blanks_unique {mode : Mode} {blanks cs blanks' cs' : List Char}
    (hblanks : ∀ c ∈ blanks, IsBlank mode c)
    (hcs : ∀ c, cs.head? = some c → ¬ IsBlank mode c)
    (hblanks' : ∀ c ∈ blanks', IsBlank mode c)
    (hcs' : ∀ c, cs'.head? = some c → ¬ IsBlank mode c)
    (heq : blanks ++ cs = blanks' ++ cs') : blanks = blanks' ∧ cs = cs' := by
  obtain rfl : cs = cs' := by
    rw [← dropWhile_blanks hblanks hcs, heq, dropWhile_blanks hblanks' hcs']
  exact ⟨List.append_cancel_right heq, rfl⟩

/-- Where a scan ends, no lexeme follows the blanks. -/
theorem Ends.not_isLongest {mode : Mode} {blanks cs : List Char} {fault? : Option ScanFault}
    {l : Lexeme} (h : Ends mode (blanks ++ cs) fault?)
    (hblanks : ∀ c ∈ blanks, IsBlank mode c) : ¬ IsLongest mode cs l := by
  intro hlongest
  generalize hleft : blanks ++ cs = left at h
  cases h with
  | blanks hall =>
      obtain ⟨c, t, htext, hnot⟩ := hlongest.isLexeme.exists_cons
      refine hnot (hall c ?_)
      rw [← hleft, ← hlongest.append_eq, htext]
      simp
  | stuck hblanks' hno =>
      obtain ⟨-, rfl⟩ := blanks_unique hblanks hlongest.not_isBlank_head hblanks'
        hno.not_isBlank_head hleft
      exact hno.not_isLexeme hlongest.append_eq hlongest.isLexeme

/-- Where a scan ends without a fault, blanks are left. -/
theorem Ends.isBlank {mode : Mode} {left : List Char} (h : Ends mode left none) :
    ∀ c ∈ left, IsBlank mode c := by
  cases h with
  | blanks hall => exact hall

/-- Where only blanks are left, no place without a lexeme comes. -/
theorem NoLexeme.not_all_isBlank {blanks rest : List Char} {fault : ScanFault}
    (h : NoLexeme rest fault) : ¬ ∀ c ∈ blanks ++ rest, IsBlank .capture c := by
  intro hall
  cases rest with
  | nil => cases h
  | cons c rest => exact h.not_isBlank_head c rfl (hall c (by simp))

/-- The way in which a scan ends is determined. -/
theorem Ends.unique {mode : Mode} {left : List Char} {fault? fault?' : Option ScanFault}
    (h : Ends mode left fault?) (h' : Ends mode left fault?') : fault? = fault?' := by
  cases h with
  | blanks hall =>
      cases h' with
      | blanks => rfl
      | stuck _ hno => exact absurd hall hno.not_all_isBlank
  | stuck hblanks hno =>
      rename_i blanks rest fault
      generalize hleft : blanks ++ rest = left at h'
      cases h' with
      | blanks hall =>
          rw [← hleft] at hall
          exact absurd hall hno.not_all_isBlank
      | stuck hblanks' hno' =>
          obtain ⟨-, rfl⟩ := blanks_unique hblanks hno.not_isBlank_head hblanks'
            hno'.not_isBlank_head hleft
          exact congrArg some (hno.unique hno')

/-- **The pieces of a source are determined**, and so is what is left after them. -/
theorem Reads.unique {mode : Mode} {cs left left' : List Char} {pieces pieces' : List Piece}
    {fault? fault?' : Option ScanFault} (h : Reads mode cs pieces left)
    (hends : Ends (modeAfterAll mode pieces) left fault?) (h' : Reads mode cs pieces' left')
    (hends' : Ends (modeAfterAll mode pieces') left' fault?') :
    pieces = pieces' ∧ left = left' := by
  induction h generalizing pieces' with
  | nil mode cs =>
      cases h' with
      | nil => exact ⟨rfl, rfl⟩
      | cons hblanks hlongest _ => exact absurd hlongest (hends.not_isLongest hblanks)
  | @cons mode blanks cs left l pieces hblanks hlongest hreads ih =>
      generalize hcs : blanks ++ cs = cs' at h'
      cases h' with
      | nil =>
          rw [← hcs] at hends'
          exact absurd hlongest (hends'.not_isLongest hblanks)
      | cons hblanks' hlongest' h' =>
          obtain ⟨rfl, rfl⟩ := blanks_unique hblanks hlongest.not_isBlank_head hblanks'
            hlongest'.not_isBlank_head hcs
          obtain rfl := hlongest.unique hlongest'
          obtain ⟨rfl, rfl⟩ := ih hends h' hends'
          exact ⟨rfl, rfl⟩

/-- What a scan of a source finds is determined by its pieces. -/
theorem scanAll_of_reads {source left : List Char} {pieces : List Piece}
    {fault? : Option ScanFault} (h : Reads .line source pieces left)
    (hends : Ends (modeAfterAll .line pieces) left fault?) :
    scanAll source =
      ⟨numberedFrom 0 pieces,
        endingAt (newlines (pieces.flatMap Piece.chars)) left fault?⟩ := by
  obtain ⟨pieces', left', fault?', h', hends', hscan⟩ := scanAll_spec source
  obtain ⟨rfl, rfl⟩ := h.unique hends h' hends'
  obtain rfl := hends.unique hends'
  exact hscan

/-! ### Tokens and faults of a source -/

/-- The tokens of the pieces of a source, each with one more than the newlines before its
lexeme. -/
def numbered (pieces : List Piece) : List (Token × Nat) :=
  pieces.mapIdx fun i p =>
    (p.token, 1 + newlines ((pieces.take i).flatMap Piece.chars ++ p.blanks))

/-- A token is on the line behind all newlines that come before it. -/
theorem numberedFrom_eq_mapIdx (passed : Nat) (pieces : List Piece) :
    numberedFrom passed pieces = pieces.mapIdx fun i p =>
      (p.token, 1 + passed + newlines ((pieces.take i).flatMap Piece.chars ++ p.blanks)) := by
  induction pieces generalizing passed with
  | nil => rfl
  | cons p pieces ih =>
      rw [numberedFrom, ih, List.mapIdx_cons]
      congr 1
      · rw [List.take_zero, List.flatMap_nil, List.nil_append, Nat.add_right_comm,
          Nat.add_comm passed]
      · congr 1
        funext i q
        rw [List.take_succ_cons, List.flatMap_cons, List.append_assoc,
          newlines_append p.chars, ← Nat.add_assoc, ← Nat.add_assoc]

theorem numberedFrom_zero (pieces : List Piece) :
    numberedFrom 0 pieces = numbered pieces :=
  numberedFrom_eq_mapIdx 0 pieces

/-- A source splits into pieces, each with the longest lexeme of its mode, and blanks after
them. -/
structure Splits (source : List Char) (pieces : List Piece) (left : List Char) : Prop where
  /-- The source is made up of them. -/
  append_eq : pieces.flatMap Piece.chars ++ left = source
  /-- Every piece has blanks and the longest lexeme that stands after them. -/
  reads : Reads .line source pieces left
  /-- Blanks are left. -/
  isBlank : ∀ c ∈ left, IsBlank (modeAfterAll .line pieces) c

/-- A source splits into pieces up to a place in capture mode where no lexeme stands. -/
structure Sticks (source : List Char) (pieces : List Piece) (blanks rest : List Char)
    (fault : ScanFault) : Prop where
  /-- The source is made up of them. -/
  append_eq : pieces.flatMap Piece.chars ++ (blanks ++ rest) = source
  /-- Every piece has blanks and the longest lexeme that stands after them. -/
  reads : Reads .line source pieces (blanks ++ rest)
  /-- A capture is open. -/
  isCapture : modeAfterAll .line pieces = .capture
  /-- Blanks come before the place. -/
  isBlank : ∀ c ∈ blanks, IsBlank .capture c
  /-- The fault says what stands there. -/
  noLexeme : NoLexeme rest fault
  /-- No lexeme stands there. -/
  not_isLexeme : ∀ text token after, text ++ after = rest → ¬ IsLexeme .capture text token

/-- A scan that goes no further at a fault has stopped in capture mode. -/
theorem Sticks.of_ends {source left : List Char} {pieces : List Piece} {fault : ScanFault}
    (hreads : Reads .line source pieces left)
    (hends : Ends (modeAfterAll .line pieces) left (some fault)) :
    ∃ blanks rest, left = blanks ++ rest ∧ Sticks source pieces blanks rest fault := by
  generalize hmode : modeAfterAll .line pieces = mode at hends
  cases hends with
  | stuck hblanks hno =>
      exact ⟨_, _, rfl, hreads.append_eq, hreads, hmode, hblanks, hno,
        fun _ _ _ heq => hno.not_isLexeme heq⟩

/-- A scan that sticks ends with its fault. -/
theorem Sticks.ends {source blanks rest : List Char} {pieces : List Piece}
    {fault : ScanFault} (h : Sticks source pieces blanks rest fault) :
    Ends (modeAfterAll .line pieces) (blanks ++ rest) (some fault) := by
  rw [h.isCapture]
  exact .stuck h.isBlank h.noLexeme

/-- The line on which a fault of a source is reported, after the text `before`: the line of
the character after that text, and the last line for a literal without end. -/
def reportedLine (source before : List Char) : ScanFault → Nat
  | .unterminatedRegex => 1 + newlines source
  | _ => 1 + newlines before

/-- The line of the fault is the one that is reported. -/
theorem Sticks.faultLine_eq {source blanks rest : List Char} {pieces : List Piece}
    {fault : ScanFault} (h : Sticks source pieces blanks rest fault) :
    faultLine (newlines (pieces.flatMap Piece.chars)) (blanks ++ rest) fault =
      reportedLine source (pieces.flatMap Piece.chars ++ blanks) fault := by
  have hsource := congrArg newlines h.append_eq
  have hbefore : newlines (pieces.flatMap Piece.chars ++ blanks) =
      newlines (pieces.flatMap Piece.chars) := by
    rw [newlines_append, newlines_eq_zero h.isBlank, Nat.add_zero]
  rw [newlines_append] at hsource
  cases fault <;> simp only [faultLine, reportedLine, hbefore] <;> omega

section

variable {source : String} {pieces : List Piece}

/-- A source that splits scans, and the tokens are those of its pieces. -/
theorem Splits.tokenize_eq {left : List Char} (h : Splits source.toList pieces left) :
    tokenize source = .ok (numbered pieces) := by
  rw [tokenize, scanAll_of_reads h.reads (.blanks h.isBlank), numberedFrom_zero]
  rfl

/-- A source that does not split further stops the scan with a fault. -/
theorem Sticks.tokenize_eq {blanks rest : List Char} {fault : ScanFault}
    (h : Sticks source.toList pieces blanks rest fault) :
    tokenize source =
      .error ⟨reportedLine source.toList (pieces.flatMap Piece.chars ++ blanks) fault,
        .scan fault⟩ := by
  rw [tokenize, scanAll_of_reads h.reads h.ends, ← h.faultLine_eq]
  rfl

end

/-- A source splits, or it splits up to a place where no lexeme stands. -/
theorem exists_splits_or_sticks (source : List Char) :
    (∃ pieces left, Splits source pieces left) ∨
      ∃ pieces blanks rest fault, Sticks source pieces blanks rest fault := by
  obtain ⟨pieces, left, fault?, hreads, hends, -⟩ := scanAll_spec source
  cases fault? with
  | none => exact .inl ⟨pieces, left, hreads.append_eq, hreads, hends.isBlank⟩
  | some fault =>
      obtain ⟨blanks, rest, rfl, hsticks⟩ := Sticks.of_ends hreads hends
      exact .inr ⟨pieces, blanks, rest, fault, hsticks⟩

/-- A source that scans splits into the lexemes of its tokens. -/
theorem exists_splits_of_tokenize {source : String} {tokens : List (Token × Nat)}
    (h : tokenize source = .ok tokens) :
    ∃ pieces left, Splits source.toList pieces left ∧ tokens = numbered pieces := by
  rcases exists_splits_or_sticks source.toList with
    ⟨pieces, left, hsplits⟩ | ⟨pieces, blanks, rest, fault, hsticks⟩
  · rw [hsplits.tokenize_eq] at h
    exact ⟨pieces, left, hsplits, (Except.ok.inj h).symm⟩
  · rw [hsticks.tokenize_eq] at h
    cases h

/-- **Tokenizing.** A source scans with some tokens if and only if it splits into lexemes,
each the longest one of its mode, with blanks before, between and after them; the tokens are
those of the lexemes, each with one more than the newlines before it. There is one such split
at most. A source does not scan if and only if it splits in the same way up to a place in
capture mode where no lexeme stands. The fault says why, on the line of that place, or on the
last line of the source if a literal has no end. -/
theorem tokenize_spec (source : String) :
    (∀ tokens, tokenize source = .ok tokens ↔
      ∃ pieces left, Splits source.toList pieces left ∧ tokens = numbered pieces) ∧
    (∀ pieces left pieces' left', Splits source.toList pieces left →
      Splits source.toList pieces' left' → pieces = pieces' ∧ left = left') ∧
    ∀ e, tokenize source = .error e ↔
      ∃ pieces blanks rest fault, Sticks source.toList pieces blanks rest fault ∧
        e.fault = .scan fault ∧
        e.line = reportedLine source.toList (pieces.flatMap Piece.chars ++ blanks) fault := by
  refine ⟨fun tokens => ⟨exists_splits_of_tokenize, ?_⟩, fun pieces left pieces' left' h h' => ?_,
    fun e => ⟨fun h => ?_, ?_⟩⟩
  · rintro ⟨pieces, left, hsplits, rfl⟩
    exact hsplits.tokenize_eq
  · exact h.reads.unique (.blanks h.isBlank) h'.reads (.blanks h'.isBlank)
  · rcases exists_splits_or_sticks source.toList with
      ⟨pieces, left, hsplits⟩ | ⟨pieces, blanks, rest, fault, hsticks⟩
    · rw [hsplits.tokenize_eq] at h
      cases h
    · rw [hsticks.tokenize_eq] at h
      obtain rfl := Except.error.inj h
      exact ⟨pieces, blanks, rest, fault, hsticks, rfl, rfl⟩
  · rintro ⟨pieces, blanks, rest, fault, hsticks, hfault, hline⟩
    obtain ⟨line, cause⟩ := e
    obtain rfl : cause = .scan fault := hfault
    obtain rfl := hline
    exact hsticks.tokenize_eq

end Harvest.Pattern
