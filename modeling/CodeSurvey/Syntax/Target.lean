/-
# Targets

What stands on the left of an assignment or after `for` looks like an expression at first.
`Tree.toTarget?` reads an expression as a target: a name, an attribute, a subscript, one of them
after a star, or a tuple or list of targets.
-/
import CodeSurvey.Syntax.Tree

namespace CodeSurvey.Tree

/-- The kind that an expression has as a target, if it can be one. -/
def targetKind? : Kind → Option Kind
  | .identifier => some .identifier
  | .memberAccess => some .memberAccess
  | .subscript => some .subscript
  | .listSplat => some .listSplatPattern
  | .listSplatPattern => some .listSplatPattern
  | .tuple => some .tuplePattern
  | .parenthesizedExpression => some .tuplePattern
  | .tuplePattern => some .tuplePattern
  | .list => some .listPattern
  | .listPattern => some .listPattern
  | _ => none

/-- Whether a target of this kind is taken as it stands. -/
def isPlainTarget (k : Kind) : Bool :=
  k = .identifier || k = .memberAccess || k = .subscript

mutual
/-- Reads an expression as a target. -/
def toTarget? : Tree → Option Tree
  | node k f s t cs =>
    if isPlainTarget k then some (node k f s t cs)
    else match targetKind? k with
      | some .listSplatPattern =>
        if cs.all fun c => !c.kind.isNamed || isPlainTarget c.kind then
          some (node .listSplatPattern f s t cs)
        else none
      | some k' => (toTargets? cs).map (node k' f s t)
      | none => none

/-- Reads all named nodes of a list as targets. -/
def toTargets? : List Tree → Option (List Tree)
  | [] => some []
  | c :: cs => do
    let c' ← if c.kind.isNamed then toTarget? c else some c
    let cs' ← toTargets? cs
    return c' :: cs'
end

end CodeSurvey.Tree
