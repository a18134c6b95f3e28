/-
# Cyclomatic complexity

The complexity of a function is one more than the number of decision points in it, those of nested
definitions left out: they are scored on their own.
-/
import CodeSurvey.Syntax.Search

namespace CodeSurvey

/-- The kinds of nodes that add an independent path. -/
def Kind.isDecision (k : Kind) : Bool :=
  match k with
  | .ifStatement | .elifClause | .conditionalExpression | .forStatement | .whileStatement
  | .forInClause | .ifClause | .booleanOperator | .exceptClause | .caseClause => true
  | _ => false

/-- The kinds of nodes whose decision points belong to another definition. -/
def Kind.isDefinition (k : Kind) : Bool :=
  match k with
  | .functionDefinition | .classDefinition | .decoratedDefinition => true
  | _ => false

namespace Tree

/-- A number of decision points with one more if a node is one. -/
def countDecision (n : Nat) (t : Tree) : Nat :=
  if t.kind.isDecision then n + 1 else n

/-- The search for decision points.  The last of the nodes below a node is looked at next. -/
def decisionSearch : TreeSearch Nat where
  next t := t.children.reverse
  note := countDecision
  next_le := length_preorderAll_reverse_le

/-- The search for the decision points of a definition, which passes over nested definitions. -/
def ownDecisionSearch : TreeSearch Nat where
  next t := if t.kind.isDefinition then [] else t.children.reverse
  note n t := if t.kind.isDefinition then n else countDecision n t
  next_le t := by
    split
    · exact Nat.zero_le _
    · exact length_preorderAll_reverse_le t

/-- The cyclomatic complexity of a definition. -/
def cyclomatic (t : Tree) : Nat :=
  ownDecisionSearch.search t.children.reverse 1

/-- The decision points of a tree, nested definitions included. -/
def decisionPoints (t : Tree) : Nat :=
  decisionSearch.search [t] 0

end Tree

end CodeSurvey
