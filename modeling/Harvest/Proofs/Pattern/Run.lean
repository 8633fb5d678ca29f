import Harvest.Proofs.Pattern.FirstError

/-!
# Runs of the Scanner

A scanner can be called any number of times. Every call but the last ones passes a lexeme and
yields its token, so there are no more of these calls than the source has characters. The next
call yields the end of the source or a fault and stops the scanner for good: from then on every
call yields the end of the source and changes nothing. A whole scan is the run of a scanner up to
that call.

The line of a scanner is that of the token it read last. It goes down the source with the
newlines that are passed, and a fault is reported between the line that has been reached and the
last one, so that it never goes back and always is a line of the source.

## Main results

* `Scanner.OnLine.scan`: what one call does to the line.
* `Scanner.yields_remaining`: what a run yields.
* `scanner_runs`: the runs of a scanner from the start of a source.
-/

namespace Harvest.Pattern

namespace Scanner

variable {s : Scanner} {source : List Char}

/-- The scanner after a number of calls. -/
def after (s : Scanner) : (calls : Nat) → Scanner
  | 0 => s
  | k + 1 => (s.after k).scan.2

/-- What the next call yields after a number of calls. -/
def result (s : Scanner) (calls : Nat) : Except CompileError Token :=
  (s.after calls).scan.1

/-- Calls that are made in two parts. -/
theorem after_add (s : Scanner) (m k : Nat) : s.after (m + k) = (s.after m).after k := by
  induction k with
  | zero => rfl
  | succ k ih => exact congrArg (fun s => s.scan.2) ih

/-- A later call of a scanner is a call of the scanner as it is after the earlier ones. -/
theorem result_add (s : Scanner) (m k : Nat) : s.result (m + k) = (s.after m).result k :=
  congrArg (fun s => s.scan.1) (s.after_add m k)

theorem after_succ (s : Scanner) (k : Nat) : s.after (k + 1) = s.scan.2.after k := by
  rw [Nat.add_comm, after_add]
  rfl

theorem result_succ (s : Scanner) (k : Nat) : s.result (k + 1) = s.scan.2.result k :=
  congrArg (fun s => s.scan.1) (s.after_succ k)

/-! ### A scanner that has stopped -/

/-- A fault stops the scanner on the line of the fault. -/
theorem scan_of_error {e : CompileError} (h : s.scan.1 = .error e) :
    s.scan = (.error e, s.stop e.line) := by
  rw [scan] at h ⊢
  cases hmode : s.mode with
  | done =>
      rw [hmode] at h
      cases h
  | line =>
      rw [hmode] at h
      dsimp only at h
      split at h <;> cases h
  | capture =>
      rw [hmode] at h
      dsimp only at h ⊢
      split at h
      · cases h
      · cases h
      · obtain rfl := Except.error.inj h
        rfl

/-- A scanner that has stopped is left as it is by every call. -/
theorem after_of_done (h : s.mode = .done) (k : Nat) : s.after k = s := by
  induction k with
  | zero => rfl
  | succ k ih => rw [after, ih, scan, h]

/-- A scanner that is done gives the end, however often it is called. -/
theorem result_of_done (h : s.mode = .done) (k : Nat) : s.result k = .ok .eof := by
  rw [result, after_of_done h, scan, h]

/-! ### The line of a scanner -/

/-- A scanner is on a line of the source, and all newlines before that line have been passed. -/
structure OnLine (source : List Char) (s : Scanner) : Prop where
  /-- The newlines that have been passed, and those to come. -/
  passed_add : s.mode ≠ .done → s.passed + newlines s.rest = newlines source
  /-- What comes is not above the line. -/
  line_le : s.mode ≠ .done → s.line ≤ s.passed + 1
  /-- The line is one of the source. -/
  isLineOf : IsLineOf source s.line

/-- A scanner begins on the first line. -/
theorem OnLine.start (source : List Char) : (start source).OnLine source :=
  ⟨fun _ => Nat.zero_add _, fun _ => Nat.le_refl 1, Nat.le_refl 1, Nat.le_add_right 1 _⟩

/-- A fault is reported between the line that has been reached and the last line. -/
theorem faultLine_mem (passed : Nat) (left : List Char) (fault : ScanFault) :
    passed + 1 ≤ faultLine passed left fault ∧
      faultLine passed left fault ≤ passed + 1 + newlines left := by
  cases fault with
  | unterminatedRegex => exact ⟨Nat.le_add_right _ _, Nat.le_refl _⟩
  | _ => exact ⟨Nat.le_refl _, Nat.le_add_right _ _⟩

/-- A scanner that stops between its line and the last one is on a line of the source. -/
theorem OnLine.stop (h : s.OnLine source) (hmode : s.mode ≠ .done) {line : Nat}
    (hle : s.passed + 1 ≤ line) (hle' : line ≤ s.passed + 1 + newlines s.rest) :
    (s.stop line).OnLine source ∧ s.line ≤ line := by
  have hpassed := h.passed_add hmode
  have hline := h.line_le hmode
  have hline' : IsLineOf source line := ⟨by omega, by omega⟩
  exact ⟨⟨fun hdone => absurd rfl hdone, fun hdone => absurd rfl hdone, hline'⟩, by omega⟩

/-- **One call** leaves a scanner on a line of the source and does not take it up. -/
theorem OnLine.scan (h : s.OnLine source) :
    s.scan.2.OnLine source ∧ s.line ≤ s.scan.2.line := by
  by_cases hmode : s.mode = .done
  · have hsame : s.scan.2 = s := after_of_done hmode 1
    rw [hsame]
    exact ⟨h, Nat.le_refl _⟩
  rcases s.scan_spec hmode with
    ⟨blanks, cs, l, hrest, hblanks, hlongest, hscan⟩ | ⟨-, hscan⟩ | ⟨fault, -, hscan⟩
  · have hpassed := h.passed_add hmode
    rw [hrest, ← hlongest.append_eq, newlines_append, newlines_append,
      newlines_eq_zero hblanks, Nat.zero_add, ← Nat.add_assoc] at hpassed
    rw [hscan]
    refine ⟨⟨fun _ => hpassed, fun _ => ?_, Nat.le_add_left 1 _, ?_⟩, h.line_le hmode⟩
    · change s.passed + 1 ≤ s.passed + newlines l.text + 1
      omega
    · change s.passed + 1 ≤ 1 + newlines source
      omega
  · rw [hscan]
    exact h.stop hmode (Nat.le_refl _) (Nat.le_add_right _ _)
  · obtain ⟨hle, hle'⟩ := faultLine_mem s.passed s.rest fault
    rw [scan_of_error hscan]
    exact h.stop hmode hle hle'

/-- **Any number of calls** leaves a scanner on a line of the source. -/
theorem OnLine.after (h : s.OnLine source) (k : Nat) : (s.after k).OnLine source := by
  induction k with
  | zero => exact h
  | succ k ih => exact ih.scan.1

/-! ### What a run yields -/

/-- The calls of a scanner yield tokens, each on its line, and then the ending, which stops the
scanner. There are no more tokens than characters. -/
structure Yields (s : Scanner) (found : Scan) : Prop where
  /-- Every token takes a character. -/
  length_le : found.tokens.length ≤ s.rest.length
  /-- The calls yield the tokens in order. -/
  token : ∀ k (hk : k < found.tokens.length),
    s.result k = .ok found.tokens[k].1 ∧ found.tokens[k].1 ≠ .eof ∧
      (s.after (k + 1)).line = found.tokens[k].2
  /-- The next call yields the end of the source or the fault. -/
  ending : s.result found.tokens.length = found.ending.map fun _ => .eof
  /-- This call stops the scanner. -/
  done : (s.after (found.tokens.length + 1)).mode = .done

/-- A token before what a run yields. -/
theorem Yields.cons {s' : Scanner} {token : Token} {found : Scan} (hscan : s.scan = (.ok token, s'))
    (hne : token ≠ .eof) (hlength : s'.rest.length < s.rest.length) (h : s'.Yields found) :
    s.Yields ⟨(token, s'.line) :: found.tokens, found.ending⟩ where
  length_le := by
    have hle := h.length_le
    rw [List.length_cons]
    omega
  token := by
    intro k hk
    cases k with
    | zero => exact ⟨congrArg Prod.fst hscan, hne, congrArg (fun r => r.2.line) hscan⟩
    | succ k =>
        rw [result_succ, after_succ, hscan]
        exact h.token k (Nat.lt_of_succ_lt_succ hk)
  ending := by
    rw [List.length_cons, result_succ, hscan]
    exact h.ending
  done := by
    rw [List.length_cons, after_succ, hscan]
    exact h.done

/-- **A run** yields what the scanner still has to yield. -/
theorem yields_remaining (hmode : s.mode ≠ .done) : s.Yields s.remaining := by
  induction hlength : s.rest.length using Nat.strongRecOn generalizing s with
  | ind n ih =>
      rcases hscan : s.scan with ⟨e | token, s'⟩
      · have herror : s.scan.1 = .error e := congrArg Prod.fst hscan
        rw [remaining_of_error herror]
        refine ⟨Nat.zero_le _, fun k hk => absurd hk (Nat.not_lt_zero k), herror, ?_⟩
        exact congrArg (fun r => r.2.mode) (scan_of_error herror)
      by_cases heof : token = .eof
      · subst heof
        rw [remaining_of_eof hscan]
        refine ⟨Nat.zero_le _, fun k hk => absurd hk (Nat.not_lt_zero k),
          congrArg Prod.fst hscan, ?_⟩
        exact (congrArg (fun r => r.2.mode) hscan).trans (mode_of_scan_eof hscan)
      · obtain ⟨l, -, hshorter, rfl, rfl⟩ := exists_lexeme_of_scan hscan heof
        rw [remaining_of_token hmode hscan heof]
        exact .cons hscan heof hshorter
          (ih _ (hlength ▸ hshorter) (modeAfter_ne_done hmode l.token) rfl)

end Scanner

/-- **Runs of the scanner.** From the start of a source, the line of the scanner does not go back
from one call to the next, and it always is one of the lines of the source. The first calls yield
tokens, no more than the source has characters, and the next one yields the end of the source or
a fault. If it is the end of the source, these tokens with their lines are those that tokenizing
the source gives, and if it is a fault, tokenizing the source gives that fault. Every later call
yields the end of the source, and the line stays what it is. -/
theorem scanner_runs {source : String} {s : Scanner} (hs : s = .start source.toList) :
    (∀ k, (s.after k).line ≤ (s.after (k + 1)).line) ∧
    (∀ k, 1 ≤ (s.after k).line ∧ (s.after k).line ≤ 1 + newlines source.toList) ∧
    ∃ tokens : List (Token × Nat), tokens.length ≤ source.length ∧
      (∀ k (hk : k < tokens.length), s.result k = .ok tokens[k].1 ∧ tokens[k].1 ≠ .eof ∧
        (s.after (k + 1)).line = tokens[k].2) ∧
      (s.result tokens.length = .ok .eof ∧ tokenize source = .ok tokens ∨
        ∃ e, s.result tokens.length = .error e ∧ tokenize source = .error e) ∧
      ∀ k, tokens.length < k →
        s.result k = .ok .eof ∧ (s.after k).line = (s.after (tokens.length + 1)).line := by
  subst hs
  have hline : ∀ k, ((Scanner.start source.toList).after k).OnLine source.toList :=
    (Scanner.OnLine.start source.toList).after
  have hyields : (Scanner.start source.toList).Yields (scanAll source.toList) :=
    Scanner.yields_remaining nofun
  refine ⟨fun k => (hline k).scan.2, fun k => (hline k).isLineOf, (scanAll source.toList).tokens,
    ?_, hyields.token, ?_, fun k hk => ?_⟩
  · rw [← String.length_toList]
    exact hyields.length_le
  · have hending := hyields.ending
    rw [tokenize]
    cases hscan : (scanAll source.toList).ending with
    | ok line =>
        rw [hscan] at hending
        exact .inl ⟨hending, rfl⟩
    | error e =>
        rw [hscan] at hending
        exact .inr ⟨e, hending, rfl⟩
  · obtain ⟨j, rfl⟩ := Nat.exists_eq_add_of_lt hk
    have hsplit : (scanAll source.toList).tokens.length + j + 1 =
        (scanAll source.toList).tokens.length + 1 + j := Nat.add_right_comm _ _ _
    rw [hsplit, Scanner.result_add _ _ j, Scanner.after_add _ _ j,
      Scanner.after_of_done hyields.done]
    exact ⟨Scanner.result_of_done hyields.done j, rfl⟩

/-- The theorem at a source that ends in a literal: after three tokens on the first line, the
fourth call fails on the second line, and the scanner stays there. -/
theorem scanner_runs_open_literal :
    ∃ s, s = Scanner.start "a (text=/x\n".toList ∧
      (s.after 3).line = 1 ∧ s.result 3 = .error ⟨2, .scan .unterminatedRegex⟩ ∧
      tokenize "a (text=/x\n" = .error ⟨2, .scan .unterminatedRegex⟩ ∧
      ∀ k, 3 < k → s.result k = .ok .eof ∧ (s.after k).line = 2 := by
  refine ⟨_, rfl, ?_⟩
  generalize hs : Scanner.start "a (text=/x\n".toList = s
  have hfirst : ∀ k < 3, (s.result k).toOption.any (· ≠ .eof) = true := by
    rw [← hs]
    decide
  have hfault : s.result 3 = .error ⟨2, .scan .unterminatedRegex⟩ := by
    rw [← hs]
    decide +kernel
  obtain ⟨-, -, tokens, -, htoken, hend, hlater⟩ := scanner_runs hs.symm
  have hlength : tokens.length = 3 := by
    rcases Nat.lt_trichotomy tokens.length 3 with hlt | heq | hgt
    · have hgoes := hfirst _ hlt
      rcases hend with ⟨heof, -⟩ | ⟨e, herror, -⟩
      · rw [heof] at hgoes
        cases hgoes
      · rw [herror] at hgoes
        cases hgoes
    · exact heq
    · have hok := (htoken 3 hgt).1
      rw [hfault] at hok
      cases hok
  rw [hlength] at hend hlater
  have hlines : (s.after 3).line = 1 ∧ (s.after (3 + 1)).line = 2 := by
    rw [← hs]
    decide
  refine ⟨hlines.1, hfault, ?_, fun k hk => hlines.2 ▸ hlater k hk⟩
  rcases hend with ⟨heof, -⟩ | ⟨e, herror, htokenize⟩
  · rw [hfault] at heof
    cases heof
  · rw [hfault] at herror
    rwa [← Except.error.inj herror] at htokenize

end Harvest.Pattern
