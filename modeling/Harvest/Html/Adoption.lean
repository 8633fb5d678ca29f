import Harvest.Html.Builder

/-!
# Misnested Formatting

When the end tag of a formatting element comes while blocks are open inside the element,
the element is split: the *furthest block*, the outermost one in it, is moved out, and the
formatting is repeated inside of the block and of the formatting elements in between. The
steps are repeated, since the block may hold further elements that are split.
-/

namespace Harvest.Html.Builder

/-- Closes the innermost open element of a name, unless a special element is open in it. -/
def closeAny (b : Builder) (name : String) : Builder :=
  let found := b.openElements.find? fun i =>
    (b.nameOf i).isAmong [name] || (b.nameOf i).isAmong specialNames
  match found with
  | none => b
  | some i =>
      if (b.nameOf i).isAmong [name] then
        let b := b.closeImpliedExcept name
        { b with openElements := (b.openElements.dropWhile (· != i)).tail }
      else b

/-- The tag that a formatting element was made from. -/
def formattingTag? (b : Builder) (i : Nat) : Option Tag :=
  b.formatting.findSome? fun f => match f with
    | .marker => none
    | .element j tag => if i = j then some tag else none

/-- Puts an entry in the place of the entry of a node. -/
def replaceFormatting (i : Nat) (entry : Formatting) (entries : List Formatting) :
    List Formatting :=
  entries.map fun f => if f.isOf i then entry else f

/-- Puts an entry right after that of a node, which is before it in a list that has the
latest entry first. -/
def addFormattingAfter (i : Nat) (entry : Formatting) : List Formatting → List Formatting
  | [] => []
  | f :: rest => if f.isOf i then entry :: f :: rest else f :: addFormattingAfter i entry rest

/-- Where the chain between a formatting element and its furthest block stands. -/
structure Chain where
  /-- The state of tree building. -/
  builder : Builder
  /-- The node that was moved last. -/
  last : Nat
  /-- The open elements of the chain that are kept, innermost first. -/
  kept : List Nat
  /-- The formatting element after which the repeated one is entered, if it does not take
  the place of the split one. -/
  bookmark : Option Nat

/-- Goes through the open elements between block and formatting element, from the block
outward. Formatting elements among the first three are repeated around what was moved
last; all other elements are closed. -/
def Chain.extend (block : Nat) : (count : Nat) → List Nat → Chain → Chain
  | _, [], c => c
  | count, node :: rest, c =>
      match c.builder.formattingTag? node with
      | none => Chain.extend block (count + 1) rest c
      | some tag =>
          if 3 ≤ count then
            Chain.extend block (count + 1) rest { c with builder := c.builder.dropFormatting node }
          else
            let (b, i) := c.builder.create (.html tag.name) (plainAttributes tag.attributes)
            let b := { b with
              formatting := replaceFormatting node (.element i tag) b.formatting
              draft := b.draft.append i c.last }
            let bookmark := if c.last = block then some i else c.bookmark
            Chain.extend block (count + 1) rest ⟨b, i, c.kept ++ [i], bookmark⟩

/-- Splits the latest formatting element of a name once, if a block is open in it. The
second component tells whether that was the case. -/
def splitFormatting (b : Builder) (name : String) : Builder × Bool :=
  match b.recentFormatting.find? fun f => f.2.name = name with
  | none => (b.closeAny name, false)
  | some (element, tag) =>
      if !b.openElements.contains element then (b.dropFormatting element, false)
      else if !b.scopeHas bounds (· = element) b.openElements then (b, false)
      else
        let inner := b.openElements.takeWhile (· != element)
        let outer := (b.openElements.dropWhile (· != element)).tail
        match (inner.filter fun i => (b.nameOf i).isAmong specialNames).getLast? with
        | none => ({ b with openElements := outer }.dropFormatting element, false)
        | some block =>
            let innermost := inner.takeWhile (· != block)
            let between := (inner.dropWhile (· != block)).tail
            let chain := Chain.extend block 0 between ⟨b, block, [], none⟩
            let b := { chain.builder with
              draft := chain.builder.draft.detach chain.last
              openElements := innermost ++ block :: chain.kept ++ element :: outer }
            let b := b.put (b.placeIn (outer.headD Draft.document)) chain.last
            let (b, i) := b.create (.html tag.name) (plainAttributes tag.attributes)
            let draft := (b.draft.moveChildren block i).append block i
            let entry := Formatting.element i tag
            let formatting := match chain.bookmark with
              | none => replaceFormatting element entry b.formatting
              | some previous =>
                  (addFormattingAfter previous entry b.formatting).filter fun f =>
                    !f.isOf element
            ({ b with
              draft
              formatting
              openElements := innermost ++ i :: block :: chain.kept ++ outer }, true)

/-- Splits formatting elements at most `rounds` times. -/
def splitRepeatedly (name : String) : (rounds : Nat) → Builder → Builder
  | 0, b => b
  | rounds + 1, b =>
      match b.splitFormatting name with
      | (b, true) => splitRepeatedly name rounds b
      | (b, false) => b

/-- The end tag of a formatting element. -/
def closeFormatting (b : Builder) (name : String) : Builder :=
  if b.currentIs [name] && !b.isFormatting b.current then b.pop
  else splitRepeatedly name 8 b

end Harvest.Html.Builder
