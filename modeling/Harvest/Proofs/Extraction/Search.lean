import Harvest.Extraction.Basic
import Harvest.Proofs.Html.Postorder

/-!
# The Search as a Pass

A search recurses through trees, counts findings at every level and folds the flag of an
optional rule into each of these counts. Its effect is that of a flat pass: the elements are
taken in postorder, those that the selector matches are offered to the accepting function
one after the other, and the first failure ends it. Only the verdict remembers the flag.

## Main results

* `search_eq_mapM_candidates`: a search, with any accepting function, is the pass over its
  candidates.
* `search_accept_eq_pass`: the same for the two sinks of an extraction, with the order of the
  pass spelled out.
-/

namespace Harvest.Extraction

open Html Record

variable {σ : Type}

/-- The elements at and below some trees that a rule's selector matches, in postorder. -/
def candidates (heading : Pattern.Heading) (ts : List ElementTree) : List ElementTree :=
  (ElementTree.postorderOfList ts).filter fun t => heading.selector.matches t.place

/-- The verdict on a rule for which the elements offered were answered as given. -/
def verdictOf (heading : Pattern.Heading) (answers : List Bool) : Verdict :=
  if heading.optional || answers.any id then .matched else .noMatch

/-- The verdict on two searches of which one is enough. -/
def Verdict.or : Verdict → Verdict → Verdict
  | .matched, _ => .matched
  | .noMatch, v => v

/-! ### Verdicts -/

/-- The verdict on two lists of findings is made of theirs. -/
theorem verdictOf_append (heading : Pattern.Heading) (as bs : List Bool) :
    verdictOf heading (as ++ bs) = (verdictOf heading as).or (verdictOf heading bs) := by
  unfold verdictOf
  rw [List.any_append]
  cases heading.optional <;> cases as.any id <;> rfl

theorem verdict_zero (heading : Pattern.Heading) :
    verdict heading 0 = verdictOf heading [] := rfl

/-- The verdict on two numbers of findings is made of theirs. -/
theorem verdict_add (heading : Pattern.Heading) (m n : Nat) :
    verdict heading (m + n) = (verdict heading m).or (verdict heading n) := by
  unfold verdict
  have h : decide (0 < m + n) = (decide (0 < m) || decide (0 < n)) := by
    rw [← Bool.decide_or, decide_eq_decide]
    omega
  rw [h]
  cases heading.optional <;> cases decide (0 < m) <;> rfl

/-- One finding stands for a search that matched, at whatever level it was counted. -/
theorem verdict_ite_one (heading : Pattern.Heading) (findings : Nat) :
    verdict heading (if verdict heading findings = .matched then 1 else 0) =
      verdict heading findings := by
  unfold verdict
  cases heading.optional <;> cases decide (0 < findings) <;> rfl

/-- An accepted element is one finding. -/
theorem verdict_ite_succ (heading : Pattern.Heading) (findings : Nat) (accepted : Bool) :
    verdict heading (if accepted then findings + 1 else findings) =
      (verdict heading findings).or (verdictOf heading [accepted]) := by
  cases accepted with
  | false =>
      rw [show verdictOf heading [false] = verdict heading 0 from rfl, ← verdict_add]
      rfl
  | true =>
      rw [show verdictOf heading [true] = verdict heading 1 from rfl, ← verdict_add]
      rfl

/-! ### The pass -/

/-- A computation whose result is only looked at through `f` may be exchanged for one that
looks the same through `g`. -/
theorem bind_eq_bind_of_map_eq {α β γ δ : Type} {m : Writing σ α} {n : Writing σ β}
    {f : α → γ} {g : β → γ} (h : f <$> m = g <$> n) (next : γ → Writing σ δ) :
    (m >>= fun a => next (f a)) = n >>= fun b => next (g b) := by
  rw [← bind_map_left, h, bind_map_left]

theorem candidates_nil (heading : Pattern.Heading) : candidates heading [] = [] := rfl

/-- The candidates in a tree are those of its elements that the selector describes, in postorder. -/
theorem candidates_singleton (heading : Pattern.Heading) (t : ElementTree) :
    candidates heading [t] =
      t.postorder.filter fun t => heading.selector.matches t.place := by
  simp only [candidates, ElementTree.postorderOfList, List.append_nil]

/-- The candidates in a first tree come before those in the others. -/
theorem candidates_cons (heading : Pattern.Heading) (t : ElementTree)
    (ts : List ElementTree) :
    candidates heading (t :: ts) = candidates heading [t] ++ candidates heading ts := by
  simp only [candidates, ElementTree.postorderOfList, List.append_nil, List.filter_append]

/-- The candidates in a tree: those below its element, and then the element. -/
theorem candidates_node (heading : Pattern.Heading) (place : Place)
    (children : List ElementTree) :
    candidates heading [.node place children] =
      candidates heading children ++
        if heading.selector.matches place then [.node place children] else [] := by
  simp only [candidates, ElementTree.postorderOfList, ElementTree.postorder,
    List.append_nil, List.filter_append, List.filter_cons, List.filter_nil,
    ElementTree.place]

mutual

/-- The findings in one tree come to the verdict on the pass over its candidates. -/
theorem map_verdict_searchTree (heading : Pattern.Heading)
    (accept : ElementTree → Writing σ Bool) : ∀ t : ElementTree,
    verdict heading <$> searchTree heading accept t =
      verdictOf heading <$> (candidates heading [t]).mapM accept
  | .node place children => by
      have below := map_verdict_searchTrees heading accept children
      rw [searchTree, candidates_node]
      cases heading.selector.matches place with
      | false =>
          rw [if_neg Bool.false_ne_true, List.append_nil, ← below, map_bind]
          simp only [if_neg Bool.false_ne_true, map_pure, verdict_ite_one]
          exact (map_eq_pure_bind _ _).symm
      | true =>
          simp only [if_true, List.mapM_append, List.mapM_cons, List.mapM_nil, map_bind,
            map_pure, bind_assoc, pure_bind, verdict_ite_succ, verdict_ite_one,
            verdictOf_append]
          exact bind_eq_bind_of_map_eq below fun v => do
            let accepted ← accept (.node place children)
            pure (v.or (verdictOf heading [accepted]))

/-- The findings in a list of trees come to the verdict on the pass over its candidates. -/
theorem map_verdict_searchTrees (heading : Pattern.Heading)
    (accept : ElementTree → Writing σ Bool) : ∀ ts : List ElementTree,
    verdict heading <$> searchTrees heading accept ts =
      verdictOf heading <$> (candidates heading ts).mapM accept
  | [] => by
      rw [searchTrees, candidates_nil, List.mapM_nil, map_pure, map_pure, verdict_zero]
  | t :: ts => by
      have first := map_verdict_searchTree heading accept t
      have rest := map_verdict_searchTrees heading accept ts
      rw [searchTrees, candidates_cons, List.mapM_append]
      simp only [map_bind, map_pure, verdict_add, verdictOf_append]
      calc (do
              let found ← searchTree heading accept t
              let more ← searchTrees heading accept ts
              pure ((verdict heading found).or (verdict heading more)))
          = (do
              let answers ← (candidates heading [t]).mapM accept
              let more ← searchTrees heading accept ts
              pure ((verdictOf heading answers).or (verdict heading more))) :=
            bind_eq_bind_of_map_eq first fun v => do
              let more ← searchTrees heading accept ts
              pure (v.or (verdict heading more))
        _ = (do
              let answers ← (candidates heading [t]).mapM accept
              let more ← (candidates heading ts).mapM accept
              pure ((verdictOf heading answers).or (verdictOf heading more))) :=
            bind_congr fun answers =>
              bind_eq_bind_of_map_eq rest fun v => pure ((verdictOf heading answers).or v)

end

/-- **A search is a pass.** It offers its candidates, in postorder, to the accepting
function and comes out as matched if the rule is optional or one of them is accepted. -/
theorem search_eq_mapM_candidates (heading : Pattern.Heading)
    (accept : ElementTree → Writing σ Bool) (ts : List ElementTree) :
    search heading accept ts = (do
      let answers ← (candidates heading ts).mapM accept
      pure (verdictOf heading answers)) := by
  rw [search, ← map_eq_pure_bind, ← map_eq_pure_bind, map_verdict_searchTrees]

/-- **The search of an extraction is a pass**, for either sink and from any list of trees:
from the root of a document for a top rule, from the children of an element for a child
rule. The elements at and below the trees are listed in postorder, each once; those that the
selector matches are accepted or rejected one after the other, up to the first failure. The
rule has matched if it is optional or one of them was accepted. -/
theorem search_accept_eq_pass (filters : Filter.Registry) (τ : RecordType) (sink : Sink)
    (r : Pattern.Rule) (ts : List ElementTree) :
    ElementTree.IsPostorder ts (ElementTree.postorderOfList ts) ∧
    search r.heading (accept filters τ sink r) ts = (do
      let answers ← ((ElementTree.postorderOfList ts).filter fun t =>
        r.heading.selector.matches t.place).mapM (accept filters τ sink r)
      pure (if r.heading.optional || answers.any id then .matched else .noMatch)) :=
  ⟨ElementTree.isPostorder_postorderOfList ts,
    search_eq_mapM_candidates r.heading (accept filters τ sink r) ts⟩

end Harvest.Extraction
