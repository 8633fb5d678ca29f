import Mathlib.Algebra.Group.Nat.Even
import Harvest.Proofs.Pattern.Scan

/-!
# Where a Literal Ends

A slash ends a regular expression literal unless a backslash escapes it, and a backslash that is
escaped itself escapes nothing. Reading a literal takes escapes off two characters at a time; from
the text alone the same is told by counting backslashes. They escape each other in pairs, so the
slash after them ends the literal if their number is even, whatever stands before them.

So every text can be written as a literal: with a backslash before each of its backslashes and
slashes, no slash of its own ends it, and reading gives the text back.

## Main results

* `endsBehind_iff`: which beginnings of a source are the text of a literal.
* `unescapes_escape`: a text is what its escaped form stands for.
* `literal_scan`: what the scanner makes of a literal, and where it ends.
-/

namespace Harvest.Pattern

/-! ### Backslashes before a slash -/

/-- How many backslashes stand at the end of a text, one after the other. -/
def backslashesAtEnd (cs : List Char) : Nat :=
  (cs.reverse.takeWhile (· == '\\')).length

theorem even_backslashesAtEnd_nil : Even (backslashesAtEnd []) :=
  Even.zero

theorem backslashesAtEnd_concat (cs : List Char) (c : Char) :
    backslashesAtEnd (cs ++ [c]) = if c = '\\' then backslashesAtEnd cs + 1 else 0 := by
  rw [backslashesAtEnd, List.reverse_concat, List.takeWhile_cons]
  by_cases hc : c = '\\' <;> simp [hc, backslashesAtEnd]

/-- A character that is no backslash stands after none. -/
theorem even_backslashesAtEnd_concat {c : Char} (hc : c ≠ '\\') (cs : List Char) :
    Even (backslashesAtEnd (cs ++ [c])) := by
  rw [backslashesAtEnd_concat, if_neg hc]
  exact Even.zero

/-- One backslash more makes an even number of them odd. -/
theorem not_even_backslashesAtEnd_backslash {cs : List Char} (h : Even (backslashesAtEnd cs)) :
    ¬ Even (backslashesAtEnd (cs ++ ['\\'])) := by
  rw [backslashesAtEnd_concat, if_pos rfl, Nat.even_add_one, not_not]
  exact h

/-- After an even number of backslashes, one more of them and the character that it escapes leave
the number even. -/
theorem even_backslashesAtEnd_escape {cs : List Char} (h : Even (backslashesAtEnd cs))
    (c : Char) : Even (backslashesAtEnd (cs ++ ['\\', c])) := by
  rw [List.append_cons]
  by_cases hc : c = '\\'
  · subst hc
    rw [backslashesAtEnd_concat, if_pos rfl, Nat.even_add_one]
    exact not_even_backslashesAtEnd_backslash h
  · exact even_backslashesAtEnd_concat hc _

/-- The text of a literal leaves the number of backslashes even, and every slash in it stands
after an odd number. -/
theorem Unescapes.even_backslashesAtEnd {body value : List Char} (h : Unescapes body value)
    {before : List Char} (hbefore : Even (backslashesAtEnd before)) :
    Even (backslashesAtEnd (before ++ body)) ∧
      ∀ front rest, front ++ '/' :: rest = body →
        ¬ Even (backslashesAtEnd (before ++ front)) := by
  induction h generalizing before with
  | nil => exact ⟨by rwa [List.append_nil], fun front rest heq => by simp at heq⟩
  | @plain c body value hc _ ih =>
      simp only [List.mem_cons, List.not_mem_nil, or_false, not_or] at hc
      obtain ⟨heven, hodd⟩ := ih (even_backslashesAtEnd_concat hc.2 before)
      refine ⟨by rwa [List.append_cons], fun front rest heq => ?_⟩
      cases front with
      | nil => exact absurd (List.cons.inj heq).1.symm hc.1
      | cons d front =>
          obtain ⟨rfl, htail⟩ := List.cons.inj heq
          rw [List.append_cons]
          exact hodd front rest htail
  | @escape c body value _ ih =>
      have hsplit : ∀ cs, before ++ '\\' :: c :: cs = (before ++ ['\\', c]) ++ cs := by simp
      obtain ⟨heven, hodd⟩ := ih (even_backslashesAtEnd_escape hbefore c)
      refine ⟨by rwa [hsplit], fun front rest heq => ?_⟩
      -- No slash is the backslash, one may be the character behind it, and all others come later.
      rcases front with _ | ⟨d, _ | ⟨e, front⟩⟩
      · exact absurd (List.cons.inj heq).1 (by decide)
      · obtain ⟨rfl, -⟩ := List.cons.inj heq
        exact not_even_backslashesAtEnd_backslash hbefore
      · obtain ⟨rfl, htail⟩ := List.cons.inj heq
        obtain ⟨rfl, hbody⟩ := List.cons.inj htail
        rw [hsplit]
        exact hodd front rest hbody

/-- Where some slash stands after an even number of backslashes, a literal ends there or
before. -/
theorem exists_unescapes_of_even {before : List Char} (hbefore : Even (backslashesAtEnd before)) :
    ∀ {front : List Char} (rest : List Char), Even (backslashesAtEnd (before ++ front)) →
      ∃ body value rest', Unescapes body value ∧
        body ++ '/' :: rest' = front ++ '/' :: rest
  | [], rest, _ => ⟨[], [], rest, .nil, rfl⟩
  | c :: front, rest, heven => by
      by_cases hslash : c = '/'
      · subst hslash
        exact ⟨[], [], front ++ '/' :: rest, .nil, rfl⟩
      by_cases hback : c = '\\'
      · subst hback
        match front, heven with
        | [], heven => exact absurd heven (not_even_backslashesAtEnd_backslash hbefore)
        | d :: front, heven =>
            have hsplit : before ++ '\\' :: d :: front = (before ++ ['\\', d]) ++ front := by simp
            rw [hsplit] at heven
            obtain ⟨body, value, rest', hbody, heq⟩ :=
              exists_unescapes_of_even (even_backslashesAtEnd_escape hbefore d) rest heven
            exact ⟨'\\' :: d :: body, unescape d ++ value, rest', .escape hbody, by simp [heq]⟩
      · rw [List.append_cons] at heven
        obtain ⟨body, value, rest', hbody, heq⟩ :=
          exists_unescapes_of_even (even_backslashesAtEnd_concat hback before) rest heven
        exact ⟨c :: body, c :: value, rest', .plain (by simp [hslash, hback]) hbody, by simp [heq]⟩

/-! ### The end of a literal -/

/-- A literal with a given text after its opening slash ends behind `front`: there stands the
first slash after an even number of backslashes. -/
structure EndsBehind (source front rest : List Char) : Prop where
  /-- A slash stands there. -/
  append_eq : front ++ '/' :: rest = source
  /-- The backslashes before it escape each other. -/
  even : Even (backslashesAtEnd front)
  /-- No slash before it is like that. -/
  length_le : ∀ front' rest', front' ++ '/' :: rest' = source →
    Even (backslashesAtEnd front') → front.length ≤ front'.length

/-- Of two slashes in a source, the earlier one stands in the text before the later one. -/
theorem exists_of_length_lt {front rest front' rest' : List Char}
    (heq : front ++ '/' :: rest = front' ++ '/' :: rest') (hlt : front.length < front'.length) :
    ∃ more, front ++ '/' :: more = front' := by
  rcases List.append_eq_append_iff.1 heq with ⟨between, rfl, hrest⟩ | ⟨between, rfl, -⟩
  · cases between with
    | nil => simp at hlt
    | cons c more =>
        obtain ⟨rfl, -⟩ := List.cons.inj hrest
        exact ⟨more, rfl⟩
  · rw [List.length_append] at hlt
    omega

/-- **The texts of literals** are those behind which a literal ends. -/
theorem endsBehind_iff {source front rest : List Char} :
    EndsBehind source front rest ↔
      front ++ '/' :: rest = source ∧ ∃ value, Unescapes front value := by
  constructor
  · rintro ⟨rfl, heven, hle⟩
    obtain ⟨body, value, rest', hbody, heq⟩ :=
      exists_unescapes_of_even even_backslashesAtEnd_nil rest heven
    obtain ⟨hbodyEven, hodd⟩ := hbody.even_backslashesAtEnd even_backslashesAtEnd_nil
    have hlength : front.length = body.length := by
      refine Nat.le_antisymm (hle body rest' heq hbodyEven) (Nat.le_of_not_lt fun hlt => ?_)
      obtain ⟨more, hmore⟩ := exists_of_length_lt heq.symm hlt
      exact hodd front more hmore heven
    obtain ⟨rfl, -⟩ := List.append_inj heq.symm hlength
    exact ⟨rfl, value, hbody⟩
  · rintro ⟨rfl, value, h⟩
    obtain ⟨heven, hodd⟩ := h.even_backslashesAtEnd even_backslashesAtEnd_nil
    refine ⟨rfl, heven, fun front' rest' heq heven' => Nat.le_of_not_lt fun hlt => ?_⟩
    obtain ⟨more, hmore⟩ := exists_of_length_lt heq hlt
    exact hodd front' more hmore heven'

/-! ### Texts as literals -/

/-- A text with a backslash before each backslash and each slash. -/
def escape (cs : List Char) : List Char :=
  cs.flatMap fun c => if c = '\\' ∨ c = '/' then ['\\', c] else [c]

/-- Backslashes and slashes get a backslash, other characters stay as they are. -/
theorem escape_cons (c : Char) (cs : List Char) :
    escape (c :: cs) = (if c = '\\' ∨ c = '/' then ['\\', c] else [c]) ++ escape cs :=
  List.flatMap_cons

/-- **Every text** is what its escaped form stands for. -/
theorem unescapes_escape (cs : List Char) : Unescapes (escape cs) cs := by
  induction cs with
  | nil => exact .nil
  | cons c cs ih =>
      rw [escape_cons]
      by_cases hc : c = '\\' ∨ c = '/'
      · rw [if_pos hc]
        have hself : unescape c = [c] := by rcases hc with rfl | rfl <;> rfl
        have h := Unescapes.escape (c := c) ih
        rwa [hself] at h
      · rw [if_neg hc]
        exact .plain (by simpa [or_comm] using hc) ih

/-- Escaping adds no newlines. -/
theorem newlines_escape (cs : List Char) : newlines (escape cs) = newlines cs := by
  induction cs with
  | nil => rfl
  | cons c cs ih =>
      have hchar : newlines (if c = '\\' ∨ c = '/' then ['\\', c] else [c]) = newlines [c] := by
        split
        · rename_i hc
          rcases hc with rfl | rfl <;> rfl
        · rfl
      rw [escape_cons, newlines_append, hchar, ih]
      exact (newlines_append [c] cs).symm

/-! ### Scanning a literal -/

section

variable (passed line : Nat) {source front rest : List Char}

/-- The scanner reads a literal to its end. -/
theorem scan_of_unescapes {value : List Char} (h : Unescapes front value) :
    Scanner.scan ⟨.capture, '=' :: '/' :: (front ++ '/' :: rest), passed, line⟩ =
      (.ok (.regexp (String.ofList value)),
        ⟨.capture, rest, passed + newlines front, passed + 1⟩) := by
  have hread : captureLexeme? ('=' :: '/' :: (front ++ '/' :: rest)) =
      .ok (some ⟨.regexp (String.ofList value), '=' :: '/' :: (front ++ ['/']), rest⟩) := by
    have hbody := literalBodyFrom_of_unescapes h [] [] rest
    rw [captureLexeme?, if_neg (by decide), if_neg (by decide), if_neg (by decide),
      if_neg (by decide), if_pos rfl, literalBody?, hbody]
    rfl
  have hnewlines : newlines ('=' :: '/' :: (front ++ ['/'])) = newlines front := by
    simp [newlines]
  rw [Scanner.scan]
  dsimp only
  rw [List.dropWhile_cons_of_neg (by decide), hread]
  dsimp only
  rw [Scanner.advance, hnewlines]
  rfl

/-- The scanner finds no end of a literal if and only if there is none. -/
theorem scan_eq_unterminated_iff :
    (Scanner.scan ⟨.capture, '=' :: '/' :: source, passed, line⟩).1 =
        .error ⟨passed + 1 + newlines source, .scan .unterminatedRegex⟩ ↔
      ∀ front rest, front ++ '/' :: rest = source → ¬ Even (backslashesAtEnd front) := by
  constructor
  · -- A slash that ends the literal would make it a token.
    rintro h front rest rfl heven
    obtain ⟨body, value, rest', hbody, heq⟩ :=
      exists_unescapes_of_even even_backslashesAtEnd_nil rest heven
    rw [← heq, scan_of_unescapes passed line hbody] at h
    cases h
  · intro hnone
    have hread : literalBody? source = none := by
      have hspec := literalBody?_spec source
      cases hread : literalBody? source with
      | none => rfl
      | some b =>
          rw [hread] at hspec
          obtain ⟨body, hbody, -, heq⟩ := hspec
          exact absurd (hbody.even_backslashesAtEnd even_backslashesAtEnd_nil).1
            (hnone body b.rest heq)
    have hfault : captureLexeme? ('=' :: '/' :: source) = .error .unterminatedRegex := by
      rw [captureLexeme?, if_neg (by decide), if_neg (by decide), if_neg (by decide),
        if_neg (by decide), if_pos rfl, hread]
    have hnewlines : newlines ('=' :: '/' :: source) = newlines source := by simp [newlines]
    rw [Scanner.scan]
    dsimp only
    rw [List.dropWhile_cons_of_neg (by decide), hfault, hnewlines]

end

/-- **Literals.** In capture mode, the escaped form of a text between the slashes of a literal is
read as that text, whatever stands after it; exactly this is left to scan, and the newlines of the
text have been passed. Any literal ends behind the first slash that stands after an even number of
backslashes, and has no end if and only if there is no such slash. -/
theorem literal_scan (passed line : Nat) :
    (∀ (text : String) (rest : List Char),
      Scanner.scan ⟨.capture, "=/".toList ++ (escape text.toList ++ '/' :: rest), passed, line⟩ =
        (.ok (.regexp text),
          ⟨.capture, rest, passed + newlines text.toList, passed + 1⟩)) ∧
    ∀ source : List Char,
      (∀ front rest, EndsBehind source front rest →
        ∃ value, Unescapes front value ∧
          Scanner.scan ⟨.capture, "=/".toList ++ source, passed, line⟩ =
            (.ok (.regexp (String.ofList value)),
              ⟨.capture, rest, passed + newlines front, passed + 1⟩)) ∧
      ((Scanner.scan ⟨.capture, "=/".toList ++ source, passed, line⟩).1 =
          .error ⟨passed + 1 + newlines source, .scan .unterminatedRegex⟩ ↔
        ∀ front rest, front ++ '/' :: rest = source → ¬ Even (backslashesAtEnd front)) := by
  refine ⟨fun text rest => ?_, fun source => ⟨fun front rest hend => ?_, ?_⟩⟩
  · refine (scan_of_unescapes passed line (unescapes_escape text.toList)).trans ?_
    rw [newlines_escape, String.ofList_toList]
  · obtain ⟨rfl, value, h⟩ := endsBehind_iff.1 hend
    exact ⟨value, h, scan_of_unescapes passed line h⟩
  · exact scan_eq_unterminated_iff passed line

/-- The theorem at a literal in which a slash is escaped and a backslash before the closing slash
is: it ends there, and not at the last slash of the source. -/
theorem literal_scan_escaped_backslash :
    EndsBehind "a\\/b\\\\/ N/c".toList "a\\/b\\\\".toList " N/c".toList ∧
      Scanner.scan ⟨.capture, "=/a\\/b\\\\/ N/c".toList, 2, 3⟩ =
        (.ok (.regexp "a/b\\"), ⟨.capture, " N/c".toList, 2, 3⟩) := by
  have htext : Unescapes "a\\/b\\\\".toList "a/b\\".toList :=
    .plain (by decide) (.escape (c := '/') (.plain (by decide) (.escape (c := '\\') .nil)))
  have hend : EndsBehind "a\\/b\\\\/ N/c".toList "a\\/b\\\\".toList " N/c".toList :=
    endsBehind_iff.2 ⟨rfl, _, htext⟩
  obtain ⟨value, hvalue, hscan⟩ := ((literal_scan 2 3).2 _).1 _ _ hend
  have hsource : "a\\/b\\\\".toList ++ '/' :: [] = "a\\/b\\\\".toList ++ '/' :: [] := rfl
  obtain ⟨-, rfl, -⟩ := htext.unique hvalue hsource
  exact ⟨hend, hscan⟩

end Harvest.Pattern
