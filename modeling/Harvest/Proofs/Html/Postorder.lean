import Harvest.Extraction.Search

/-!
# The Order of a Search

`ElementTree.postorder` lists the elements of a tree by recursion. This module says without
recursion on trees what such a list is. An *address* leads from a list of trees to an
element: the position of a tree, then at each step the position of a child. An address
precedes another one if it lies below it, or if it turns to the left where the two part.
`IsPostorder` asks for all addresses of a list of trees in that order, each once.

## Main results

* `isPostorder_postorderOfList`: the recursive list is in postorder.
* `mem_postorderOfList`: it holds the trees and everything below them.
-/

namespace Harvest.Html.ElementTree

/-- The tree to which an address leads from a tree: each step goes to a child. -/
def below? : ElementTree → List Nat → Option ElementTree
  | t, [] => some t
  | t, i :: address => t.children[i]?.bind fun c => c.below? address

/-- The tree to which an address leads from a list of trees. -/
def at? (ts : List ElementTree) : List Nat → Option ElementTree
  | [] => none
  | i :: address => ts[i]?.bind fun t => t.below? address

/-- The order of addresses: what lies below an element precedes it, and where two addresses
part, the left one precedes. -/
def Precedes : List Nat → List Nat → Prop
  | [], _ => False
  | _ :: _, [] => True
  | i :: a, j :: b => i < j ∨ i = j ∧ Precedes a b

/-- Whether `es` lists the elements of the trees `ts`, at and below their tops, in
postorder, each at its own address and no address left out. -/
def IsPostorder (ts es : List ElementTree) : Prop :=
  ∃ addresses : List (List Nat),
    addresses.Nodup ∧
    addresses.Pairwise Precedes ∧
    (∀ a, a ∈ addresses ↔ (at? ts a).isSome) ∧
    addresses.map (at? ts) = es.map some

/-- No address precedes itself. -/
theorem not_precedes_self (a : List Nat) : ¬ Precedes a a := by
  induction a with
  | nil => exact id
  | cons i a ih =>
      rintro (hlt | ⟨-, h⟩)
      · exact Nat.lt_irrefl i hlt
      · exact ih h

/-! ### The addresses of the recursive list -/

mutual

/-- The addresses of a tree, children before their parent. -/
def addresses : ElementTree → List (List Nat)
  | .node _ children => addressesOfList 0 children ++ [[]]

/-- The addresses of a list of trees whose first one has position `first`. -/
def addressesOfList : (first : Nat) → List ElementTree → List (List Nat)
  | _, [] => []
  | first, t :: ts => t.addresses.map (first :: ·) ++ addressesOfList (first + 1) ts

end

/-- An address of a list of trees begins with a position in the list. -/
theorem exists_cons_of_mem_addressesOfList {ts : List ElementTree} {first : Nat}
    {a : List Nat} (h : a ∈ addressesOfList first ts) : ∃ i b, a = i :: b ∧ first ≤ i := by
  induction ts generalizing first with
  | nil => cases h
  | cons t ts ih =>
      rw [addressesOfList, List.mem_append, List.mem_map] at h
      rcases h with ⟨b, -, rfl⟩ | h
      · exact ⟨first, b, rfl, Nat.le_refl first⟩
      · obtain ⟨i, b, rfl, hi⟩ := ih h
        exact ⟨i, b, rfl, by omega⟩

mutual

/-- The addresses of a tree are listed in their order. -/
theorem pairwise_addresses : ∀ t : ElementTree, t.addresses.Pairwise Precedes
  | .node place children => by
      rw [addresses, List.pairwise_append]
      refine ⟨pairwise_addressesOfList 0 children, List.pairwise_singleton _ _, ?_⟩
      intro a ha b hb
      obtain ⟨i, a, rfl, -⟩ := exists_cons_of_mem_addressesOfList ha
      obtain rfl := List.mem_singleton.1 hb
      exact trivial

/-- The addresses of a list of trees are listed in their order. -/
theorem pairwise_addressesOfList : ∀ (first : Nat) (ts : List ElementTree),
    (addressesOfList first ts).Pairwise Precedes
  | _, [] => List.Pairwise.nil
  | first, t :: ts => by
      rw [addressesOfList, List.pairwise_append]
      refine ⟨?_, pairwise_addressesOfList (first + 1) ts, ?_⟩
      · rw [List.pairwise_map]
        exact (pairwise_addresses t).imp fun h => .inr ⟨rfl, h⟩
      · intro a ha b hb
        obtain ⟨a, -, rfl⟩ := List.mem_map.1 ha
        obtain ⟨i, b, rfl, hi⟩ := exists_cons_of_mem_addressesOfList hb
        exact .inl (by omega)

end

mutual

/-- The addresses of a tree are those that lead to an element. -/
theorem mem_addresses : ∀ (t : ElementTree) (a : List Nat),
    a ∈ t.addresses ↔ (t.below? a).isSome
  | .node place children, a => by
      rw [addresses, List.mem_append, mem_addressesOfList 0 children a, List.mem_singleton]
      cases a with
      | nil => simp [below?]
      | cons i a => simp [below?, ElementTree.children, and_assoc]

/-- The addresses of a list of trees are those that lead to an element. -/
theorem mem_addressesOfList : ∀ (first : Nat) (ts : List ElementTree) (a : List Nat),
    a ∈ addressesOfList first ts ↔
      ∃ i b, a = (first + i) :: b ∧ (ts[i]?.bind fun t => t.below? b).isSome
  | first, [], a => by simp [addressesOfList]
  | first, t :: ts, a => by
      rw [addressesOfList, List.mem_append, List.mem_map,
        mem_addressesOfList (first + 1) ts a]
      constructor
      · rintro (⟨b, hb, rfl⟩ | ⟨i, b, rfl, hb⟩)
        · exact ⟨0, b, rfl, by simpa using (mem_addresses t b).1 hb⟩
        · exact ⟨i + 1, b, by rw [Nat.add_right_comm, Nat.add_assoc], by simpa using hb⟩
      · rintro ⟨i, b, rfl, hb⟩
        cases i with
        | zero => exact .inl ⟨b, (mem_addresses t b).2 (by simpa using hb), rfl⟩
        | succ i =>
            exact .inr ⟨i, b, by rw [Nat.add_right_comm, Nat.add_assoc], by simpa using hb⟩

end

mutual

/-- Following the addresses of a tree gives its elements. -/
theorem map_below?_addresses : ∀ t : ElementTree,
    t.addresses.map t.below? = t.postorder.map some
  | .node place children => by
      have h := map_at?_addressesOfList [] children
      rw [List.nil_append, List.length_nil] at h
      rw [addresses, postorder, List.map_append, List.map_append, ← h]
      congr 1
      refine List.map_congr_left fun a ha => ?_
      obtain ⟨i, a, rfl, -⟩ := exists_cons_of_mem_addressesOfList ha
      rfl

/-- Following the addresses of a list of trees gives their elements. -/
theorem map_at?_addressesOfList : ∀ before ts : List ElementTree,
    (addressesOfList before.length ts).map (at? (before ++ ts)) = (postorderOfList ts).map some
  | _, [] => rfl
  | before, t :: ts => by
      have h := map_at?_addressesOfList (before ++ [t]) ts
      rw [List.append_assoc, List.singleton_append, List.length_append,
        List.length_singleton] at h
      rw [addressesOfList, postorderOfList, List.map_append, List.map_append, h,
        List.map_map, ← map_below?_addresses t]
      congr 1
      refine List.map_congr_left fun a _ => ?_
      simp [at?]

end

/-- The recursive list of the elements of trees is in postorder. -/
theorem isPostorder_postorderOfList (ts : List ElementTree) :
    IsPostorder ts (postorderOfList ts) := by
  have hpairwise := pairwise_addressesOfList 0 ts
  have hnodup : (addressesOfList 0 ts).Nodup := by
    refine List.Pairwise.imp ?_ hpairwise
    rintro a b hab rfl
    exact not_precedes_self a hab
  refine ⟨addressesOfList 0 ts, hnodup, hpairwise, fun a => ?_, map_at?_addressesOfList [] ts⟩
  rw [mem_addressesOfList]
  cases a with
  | nil => simp [at?]
  | cons i a => simp [at?, and_assoc]

/-! ### Elements below an element -/

/-- The elements below an element: its children, and what lies below them. -/
inductive IsBelow : ElementTree → ElementTree → Prop
  /-- A child of an element lies below it. -/
  | child {e t : ElementTree} (h : e ∈ t.children) : IsBelow e t
  /-- What lies below a child of an element lies below it. -/
  | deeper {e c t : ElementTree} (h : c ∈ t.children) (hc : IsBelow e c) : IsBelow e t

theorem isBelow_iff {e t : ElementTree} :
    IsBelow e t ↔ ∃ c ∈ t.children, e = c ∨ IsBelow e c := by
  constructor
  · intro h
    cases h with
    | child h => exact ⟨e, h, .inl rfl⟩
    | deeper h hc => exact ⟨_, h, .inr hc⟩
  · rintro ⟨c, hc, rfl | h⟩
    · exact .child hc
    · exact .deeper hc h

mutual

/-- The postorder of a tree holds the tree and everything below it. -/
theorem mem_postorder {e : ElementTree} : ∀ t : ElementTree,
    e ∈ t.postorder ↔ e = t ∨ IsBelow e t
  | .node place children => by
      rw [postorder, List.mem_append, mem_postorderOfList children, List.mem_singleton,
        isBelow_iff, or_comm, ElementTree.children]

/-- The postorder of a list of trees holds the trees and everything below them. -/
theorem mem_postorderOfList {e : ElementTree} : ∀ ts : List ElementTree,
    e ∈ postorderOfList ts ↔ ∃ t ∈ ts, e = t ∨ IsBelow e t
  | [] => by simp [postorderOfList]
  | t :: ts => by
      rw [postorderOfList, List.mem_append, mem_postorder t, mem_postorderOfList ts]
      simp

end

end Harvest.Html.ElementTree
