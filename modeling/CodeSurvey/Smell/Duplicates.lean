/-
# Duplicate signatures

Functions with the same name and the same number of positional parameters are likely copies.
-/
import CodeSurvey.Distinct
import CodeSurvey.Outline.Basic

namespace CodeSurvey

/-- A function that shares its signature. -/
structure Occurrence where
  file : String
  className : Option String
  function : String
  line : Nat
  deriving Repr, DecidableEq

/-- A signature: a name and a number of positional parameters. -/
abbrev Signature := String × Nat

/-- Functions with the same signature. -/
structure DuplicateCluster where
  signature : String
  parameterCount : Nat
  count : Nat
  occurrences : List Occurrence
  deriving Repr, DecidableEq

/-- All functions with their signatures, in file and definition order. -/
def signedOccurrences (outlines : List Outline) : List (Signature × Occurrence) :=
  outlines.flatMap fun o => o.functions.map fun f =>
    ((f.name, f.positionalCount), ⟨o.path, f.className, f.name, f.lineStart⟩)

/-- The clusters of functions with the same signature, in the order of their first function. -/
def findDuplicates (outlines : List Outline) : List DuplicateCluster :=
  ((Groups.addAll (signedOccurrences outlines) []).filter (1 < ·.2.length)).map
    fun group => ⟨group.1.1, group.1.2, group.2.length, group.2⟩

end CodeSurvey
