import Harvest.Proofs.Except
import Harvest.Pattern.Line

/-!
# Reading Lines

The lines of a source are read one after the other: its tokens up to a line break belong to
the first, and the lines after it do not depend on it.

## Main results

* `readLinesFrom_line`, `readLinesFrom_last`: the lines, from one to the next.
* `ending_of_readLinesFrom`: lines are read only from a source that scans to its end.
-/

namespace Harvest.Pattern

variable {diagnostics : Diagnostics}

namespace LineDraft

/-- The tokens of a line, one after the other. -/
def pushAll [Diagnostics] (d : LineDraft) (tokens : List (Token × Nat)) :
    Except CompileError LineDraft :=
  tokens.foldlM (fun d t => d.push t.1 t.2) d

/-- Without tokens a line stays as it is. -/
@[simp] theorem pushAll_nil (d : LineDraft) : d.pushAll [] = .ok d := rfl

/-- The first token of a line, and those after it. -/
theorem pushAll_cons (d : LineDraft) (token : Token) (line : Nat)
    (tokens : List (Token × Nat)) :
    d.pushAll ((token, line) :: tokens) = d.push token line >>= fun d => d.pushAll tokens := by
  rw [pushAll, List.foldlM_cons]
  rfl

/-- The tokens of a line in two parts. -/
theorem pushAll_append (d : LineDraft) (tokens tokens' : List (Token × Nat)) :
    d.pushAll (tokens ++ tokens') = d.pushAll tokens >>= fun d => d.pushAll tokens' :=
  List.foldlM_append

/-- A token is accepted on any line on which it is accepted at all. -/
theorem push_eq_ok_iff {d d' : LineDraft} {token : Token} {line : Nat} :
    d.push token line = .ok d' ↔
      { d with number := some (d.number.getD line) }.add d.number.isNone token = .ok d' := by
  rw [push]
  cases add _ d.number.isNone token <;> simp

end LineDraft

/-- Without tokens, the line that has begun is the last one. -/
theorem readLinesFrom_nil (line : Nat) (d : LineDraft) :
    readLinesFrom (.ok line) d [] = (d.finish line).map Option.toList := rfl

/-- A line break ends the line that has begun. -/
theorem readLinesFrom_lineBreak (ending : Except CompileError Nat) (d : LineDraft)
    (line : Nat) (rest : List (Token × Nat)) :
    readLinesFrom ending d ((.lineBreak, line) :: rest) =
      d.finish line >>= fun made =>
        (readLinesFrom ending .empty rest).map (made.toList ++ ·) := by
  rw [readLinesFrom, if_pos rfl]
  cases d.finish line with
  | error e => rfl
  | ok made => cases readLinesFrom ending .empty rest <;> rfl

/-- Any other token belongs to the line that has begun. -/
theorem readLinesFrom_token (ending : Except CompileError Nat) (d : LineDraft) {token : Token}
    (h : token ≠ .lineBreak) (line : Nat) (rest : List (Token × Nat)) :
    readLinesFrom ending d ((token, line) :: rest) =
      d.push token line >>= fun d => readLinesFrom ending d rest := by
  rw [readLinesFrom, if_neg h]

/-- Tokens without a line break belong to one line. -/
theorem readLinesFrom_append {ending : Except CompileError Nat} {d : LineDraft}
    {tokens : List (Token × Nat)} (h : ∀ t ∈ tokens, t.1 ≠ .lineBreak)
    (more : List (Token × Nat)) :
    readLinesFrom ending d (tokens ++ more) =
      d.pushAll tokens >>= fun d => readLinesFrom ending d more := by
  induction tokens generalizing d with
  | nil => rfl
  | cons t tokens ih =>
      obtain ⟨token, line⟩ := t
      obtain ⟨hne, hrest⟩ := List.forall_mem_cons.1 h
      rw [List.cons_append, readLinesFrom_token _ _ hne, LineDraft.pushAll_cons, bind_assoc]
      exact congrArg _ (funext fun d => ih hrest)

/-- The tokens of a line, and then its end. -/
def readLine [Diagnostics] (tokens : List (Token × Nat)) (line : Nat) :
    Except CompileError (Option Line) :=
  LineDraft.empty.pushAll tokens >>= fun d => d.finish line

/-- The last line ends with the source. -/
theorem readLinesFrom_last {tokens : List (Token × Nat)} (h : ∀ t ∈ tokens, t.1 ≠ .lineBreak)
    (line : Nat) :
    readLinesFrom (.ok line) .empty tokens = (readLine tokens line).map Option.toList := by
  rw [← List.append_nil tokens, readLinesFrom_append h, readLine, List.append_nil]
  cases LineDraft.empty.pushAll tokens <;> rfl

/-- Lines before a line break, and lines after it. -/
theorem readLinesFrom_seam (ending : Except CompileError Nat) (d : LineDraft)
    (tokens : List (Token × Nat)) (line : Nat) (more : List (Token × Nat)) :
    readLinesFrom ending d (tokens ++ (.lineBreak, line) :: more) =
      readLinesFrom (.ok line) d tokens >>= fun lines =>
        (readLinesFrom ending .empty more).map (lines ++ ·) := by
  induction tokens generalizing d with
  | nil =>
      rw [List.nil_append, readLinesFrom_lineBreak, readLinesFrom_nil]
      cases d.finish line <;> rfl
  | cons t tokens ih =>
      obtain ⟨token, n⟩ := t
      rw [List.cons_append]
      by_cases hbreak : token = .lineBreak
      · subst hbreak
        rw [readLinesFrom_lineBreak, readLinesFrom_lineBreak, ih]
        cases d.finish n with
        | error e => rfl
        | ok made =>
            cases readLinesFrom (.ok line) .empty tokens with
            | error e => rfl
            | ok lines =>
                change Except.map _ (Except.map _ _) = Except.map _ _
                cases readLinesFrom ending .empty more with
                | error e => rfl
                | ok lines' => simp [Except.map]
      · rw [readLinesFrom_token _ _ hbreak, readLinesFrom_token _ _ hbreak, bind_assoc]
        exact congrArg _ (funext fun d => ih d)

/-- A line before another one ends with a line break. -/
theorem readLinesFrom_line {ending : Except CompileError Nat} {tokens : List (Token × Nat)}
    (h : ∀ t ∈ tokens, t.1 ≠ .lineBreak) (line : Nat) (more : List (Token × Nat)) :
    readLinesFrom ending .empty (tokens ++ (.lineBreak, line) :: more) =
      readLine tokens line >>= fun made =>
        (readLinesFrom ending .empty more).map (made.toList ++ ·) := by
  rw [readLinesFrom_seam, readLinesFrom_last h]
  cases readLine tokens line <;> rfl

/-- Only tokens that end well are read as lines. -/
theorem ending_of_readLinesFrom {ending : Except CompileError Nat} {d : LineDraft}
    {tokens : List (Token × Nat)} {lines : List Line}
    (h : readLinesFrom ending d tokens = .ok lines) : ∃ line, ending = .ok line := by
  induction tokens generalizing d lines with
  | nil =>
      cases ending with
      | error e => cases h
      | ok line => exact ⟨line, rfl⟩
  | cons t tokens ih =>
      obtain ⟨token, line⟩ := t
      rw [readLinesFrom] at h
      split at h
      · obtain ⟨made, -, h⟩ := bind_eq_ok_iff.1 h
        obtain ⟨more, hmore, -⟩ := bind_eq_ok_iff.1 h
        exact ih hmore
      · obtain ⟨d', -, h⟩ := bind_eq_ok_iff.1 h
        exact ih h

/-! ### Lines further down -/

/-- A result as it is `n` lines further down: the lines of errors are counted from there,
and `f` does the same for the lines in a value. -/
def further {α : Type} (n : Nat) (f : α → α) : Except CompileError α → Except CompileError α
  | .ok a => .ok (f a)
  | .error e => .error ⟨e.line + n, e.fault⟩

/-- A line `n` lines further down. -/
def Line.further (n : Nat) (l : Line) : Line :=
  { l with number := l.number + n }

/-- A line that has begun `n` lines further down. -/
def LineDraft.further (n : Nat) (d : LineDraft) : LineDraft :=
  { d with number := d.number.map (· + n) }

/-- Further down, a result and what follows it are both further down. -/
theorem further_bind {α β : Type} {n : Nat} {f : α → α} {g : β → β}
    {x : Except CompileError α} {k k' : α → Except CompileError β}
    (h : ∀ a, k' (f a) = further n g (k a)) :
    further n f x >>= k' = further n g (x >>= k) := by
  cases x with
  | error e => rfl
  | ok a => exact h a

/-- Further down, the values made of a result are further down. -/
theorem further_map {α β : Type} {n : Nat} {f : α → α} {g : β → β}
    {x : Except CompileError α} {h h' : α → β} (heq : ∀ a, h' (f a) = g (h a)) :
    (further n f x).map h' = further n g (x.map h) := by
  cases x with
  | error e => rfl
  | ok a => exact congrArg Except.ok (heq a)

/-- Where a line has begun makes no difference to its captures. -/
theorem LineDraft.inCapture_further (n : Nat) (d : LineDraft) (description : String)
    (change : CaptureDraft → Except CompileFault CaptureDraft) :
    (d.further n).inCapture description change =
      (d.inCapture description change).map (LineDraft.further n) := by
  obtain ⟨number, depth, selector, optional, captures, openCapture⟩ := d
  cases openCapture with
  | none => rfl
  | some c =>
      simp only [inCapture, further]
      cases change c <;> rfl

/-- Where a line has begun makes no difference to its tokens. -/
theorem LineDraft.add_further (n : Nat) (d : LineDraft) (first : Bool) (token : Token) :
    (d.further n).add first token = (d.add first token).map (LineDraft.further n) := by
  cases token with
  | indent depth => cases first <;> rfl
  | selector text =>
      rw [add, add, addSelector, addSelector]
      change (if d.selector.isSome then _ else _) = _
      split
      · rfl
      · cases Css.Selector.read? text <;> rfl
  | questionMark | lineBreak | eof => rfl
  | leftBracket =>
      rw [add, add]
      change (if d.openCapture.isSome then _ else _) = _
      split <;> rfl
  | rightBracket =>
      obtain ⟨number, depth, selector, optional, captures, openCapture⟩ := d
      cases openCapture with
      | none => rfl
      | some c =>
          change c.finish.map _ = (c.finish.map _).map _
          cases c.finish <;> rfl
  | identifier text => exact inCapture_further n d _ _
  | regexp source => exact inCapture_further n d _ _

/-- A token of a line that is further down has its error there. -/
theorem LineDraft.push_further (n : Nat) (d : LineDraft) (token : Token) (line : Nat) :
    (d.further n).push token (line + n) =
      Pattern.further n (LineDraft.further n) (d.push token line) := by
  have hbegun : { d.further n with number := some ((d.further n).number.getD (line + n)) } =
      LineDraft.further n { d with number := some (d.number.getD line) } := by
    obtain ⟨number, _⟩ := d
    cases number <;> rfl
  have hfirst : (d.further n).number.isNone = d.number.isNone := Option.isNone_map
  rw [push, push, hbegun, hfirst, add_further]
  cases add _ d.number.isNone token <;> rfl

/-- A line that ends further down is the same line there. -/
theorem LineDraft.finish_further (n : Nat) (d : LineDraft) (line : Nat) :
    (d.further n).finish (line + n) =
      Pattern.further n (Option.map (Line.further n)) (d.finish line) := by
  obtain ⟨number, depth, selector, optional, captures, openCapture⟩ := d
  cases openCapture with
  | some c => rfl
  | none =>
      cases selector with
      | none => rfl
      | some s => cases number <;> rfl

/-- **Lines further down** are read in the same way. -/
theorem readLinesFrom_further (n : Nat) (ending : Except CompileError Nat) (d : LineDraft)
    (tokens : List (Token × Nat)) :
    readLinesFrom (further n (· + n) ending) (d.further n)
        (tokens.map fun t => (t.1, t.2 + n)) =
      further n (List.map (Line.further n)) (readLinesFrom ending d tokens) := by
  induction tokens generalizing d with
  | nil =>
      cases ending with
      | error e => rfl
      | ok line =>
          change ((d.further n).finish (line + n)).map Option.toList = _
          rw [LineDraft.finish_further]
          exact further_map fun made => by cases made <;> rfl
  | cons t tokens ih =>
      obtain ⟨token, line⟩ := t
      rw [List.map_cons]
      by_cases hbreak : token = .lineBreak
      · subst hbreak
        rw [readLinesFrom_lineBreak, readLinesFrom_lineBreak, LineDraft.finish_further]
        refine further_bind fun made => ?_
        rw [show LineDraft.empty = LineDraft.empty.further n from rfl, ih]
        refine further_map fun lines => ?_
        cases made <;> rfl
      · rw [readLinesFrom_token _ _ hbreak, readLinesFrom_token _ _ hbreak,
          LineDraft.push_further]
        exact further_bind fun d => ih d

end Harvest.Pattern
