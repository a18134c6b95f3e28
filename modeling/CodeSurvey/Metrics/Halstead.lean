/-
# Operators and operands

The counts of operators and operands in the expressions of a file, and the measures derived from
them.  Operators and operands are told apart by their source text.
-/
import CodeSurvey.Syntax.Search

namespace CodeSurvey

namespace Tree

/-- The texts of the operators of an expression node itself. -/
def ownOperators (source : List Char) (t : Tree) : List (List Char) :=
  match t.kind with
  | .binaryOperator | .booleanOperator | .augmentedAssignment | .unaryOperator =>
    (t.part? .operator).toList.map (·.text source)
  | .notOperator => ["not".toList]
  | .comparisonOperator => (t.parts .operators).map (·.text source)
  | _ => []

/-- The texts of the operands of an expression node itself.  Those of a comparison are all its named
nodes. -/
def ownOperands (source : List Char) (t : Tree) : List (List Char) :=
  match t.kind with
  | .binaryOperator | .booleanOperator | .augmentedAssignment =>
    ((t.part? .left).toList ++ (t.part? .right).toList).map (·.text source)
  | .unaryOperator | .notOperator => (t.part? .argument).toList.map (·.text source)
  | .comparisonOperator => t.named.map (·.text source)
  | _ => []

end Tree

/-! ## Counting -/

/-- Texts that were met: the different ones, and how many there were. -/
structure Tally where
  distinct : List (List Char) := []
  total : Nat := 0

/-- A tally with one more text. -/
def Tally.add (c : Tally) (text : List Char) : Tally :=
  ⟨c.distinct.insert text, c.total + 1⟩

/-- The operators and operands that were met. -/
structure OperationTally where
  operators : Tally := {}
  operands : Tally := {}

/-- A tally with the operators and operands of one more node. -/
def OperationTally.process (source : List Char) (c : OperationTally) (t : Tree) : OperationTally :=
  { operators := (t.ownOperators source).foldl Tally.add c.operators
    operands := (t.ownOperands source).foldl Tally.add c.operands }

/-- The search for operations.  The last of the nodes below a node is looked at next. -/
def operationSearch (source : List Char) : TreeSearch OperationTally where
  next t := t.children.reverse
  note := OperationTally.process source
  next_le := Tree.length_preorderAll_reverse_le

/-- Counts of operators and operands: different ones and all of them. -/
structure HalsteadCounts where
  distinctOperators : Nat
  distinctOperands : Nat
  operators : Nat
  operands : Nat
  deriving Repr, DecidableEq

/-- The counts of a syntax tree. -/
def HalsteadCounts.ofTree (source : List Char) (root : Tree) : HalsteadCounts :=
  let met := (operationSearch source).search [root] {}
  { distinctOperators := met.operators.distinct.length
    distinctOperands := met.operands.distinct.length
    operators := met.operators.total
    operands := met.operands.total }

/-! ## Measures -/

/-- The counts with the measures derived from them. -/
structure HalsteadMetrics where
  counts : HalsteadCounts
  vocabulary : Nat
  length : Nat
  volume : Float
  difficulty : Float
  effort : Float

/-- The measures of given counts. -/
def HalsteadMetrics.ofCounts (c : HalsteadCounts) : HalsteadMetrics :=
  let vocabulary := c.distinctOperators + c.distinctOperands
  let length := c.operators + c.operands
  let volume := if vocabulary = 0 then 0 else length.toFloat * vocabulary.toFloat.log2
  let difficulty :=
    if c.distinctOperands = 0 then 0
    else c.distinctOperators.toFloat / 2 * (c.operands.toFloat / c.distinctOperands.toFloat)
  { counts := c
    vocabulary := vocabulary
    length := length
    volume := volume
    difficulty := difficulty
    effort := difficulty * volume }

end CodeSurvey
