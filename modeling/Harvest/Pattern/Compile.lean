import Harvest.Pattern.Line

/-!
# Compiling Patterns

A pattern source is scanned, its tokens are gathered into lines, and the lines are nested by
their depth. The lines of one depth make a *block*. A deeper line opens a block below the
rule before it, and a line that is less deep ends the block and is left to the blocks around
it. The outermost block has depth zero.

* `buildBlock`: the rules of a block and the lines after it.
* `Pattern.compile`: the pattern of a source.
-/

namespace Harvest.Pattern

/-- What comes of a block for which there are at most `n` lines. -/
structure Block (n : Nat) where
  /-- The rules of the block, in order. -/
  rules : List Rule
  /-- The lines that are left to the block around it. -/
  rest : List Line
  /-- No lines are added. -/
  length_rest_le : rest.length ≤ n

/-- A block for which there are more lines. -/
def Block.weaken {m n : Nat} (b : Block m) (h : m ≤ n) : Block n :=
  ⟨b.rules, b.rest, Nat.le_trans b.length_rest_le h⟩

/-- Reads the lines of a block of the given depth, which has the rules `siblings` so far. A
line of that depth is the next rule. A deeper line opens a block below the last rule, which
has to be there. A line that is less deep ends the block. -/
def buildBlock (depth : Nat) (siblings : List Rule) :
    (lines : List Line) → Except CompileError (Block lines.length)
  | [] => .ok ⟨siblings, [], Nat.le_refl _⟩
  | l :: rest =>
      if l.depth < depth then .ok ⟨siblings, l :: rest, Nat.le_refl _⟩
      else if depth < l.depth then
        match siblings.getLast? with
        | none => .error ⟨l.number, .unexpectedIndent⟩
        | some parent => do
            let inner ← buildBlock l.depth (parent.children ++ [.mk l.heading []]) rest
            let outer ← buildBlock depth
              (siblings.dropLast ++ [.mk parent.heading inner.rules]) inner.rest
            pure (outer.weaken (Nat.le_succ_of_le inner.length_rest_le))
      else do
        let block ← buildBlock depth (siblings ++ [.mk l.heading []]) rest
        pure (block.weaken (Nat.le_succ _))
termination_by lines => lines.length
decreasing_by
  · exact Nat.lt_succ_self _
  · exact Nat.lt_succ_of_le inner.length_rest_le
  · exact Nat.lt_succ_self _

/-- The rules that lines make. -/
def arrange (lines : List Line) : Except CompileError (List Rule) :=
  (buildBlock 0 [] lines).map Block.rules

/-- The rules of a source. -/
def compileRules [Diagnostics] (source : List Char) : Except CompileError (List Rule) := do
  let lines ← readLines (scanAll source)
  arrange lines

/-- Compiles a source. The pattern has no filters of its own yet. -/
def compile [Diagnostics] (source : String) : Except CompileError Pattern :=
  (compileRules source.toList).map fun rules => ⟨rules, .empty⟩

end Harvest.Pattern
