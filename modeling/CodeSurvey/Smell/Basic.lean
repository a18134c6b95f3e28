/-
# Smells

A smell is a likely weakness of the code at a line, with a severity and what it is about.
-/
namespace CodeSurvey

/-- How much a smell matters. -/
inductive Severity where
  | info
  | low
  | medium
  | high
  | critical
  deriving Repr, DecidableEq, Inhabited

namespace Severity

/-- Severities in rising order. -/
def rank : Severity → Nat
  | info => 0
  | low => 1
  | medium => 2
  | high => 3
  | critical => 4

/-- The word for a severity. -/
def word : Severity → String
  | info => "info"
  | low => "low"
  | medium => "medium"
  | high => "high"
  | critical => "critical"

/-- The severity that a word stands for. -/
def ofWord? : String → Option Severity
  | "info" => some info
  | "low" => some low
  | "medium" => some medium
  | "high" => some high
  | "critical" => some critical
  | _ => none

end Severity

/-- What kind of entity lacks a docstring. -/
inductive EntityKind where
  | function
  | classEntity
  deriving Repr, DecidableEq

/-- The word for a kind of entity. -/
def EntityKind.word : EntityKind → String
  | function => "function"
  | classEntity => "class"

/-- The kind of entity that a word stands for. -/
def EntityKind.ofWord? : String → Option EntityKind
  | "function" => some function
  | "class" => some classEntity
  | _ => none

/-- What a smell is about. -/
inductive SmellKind where
  | longFunction (name : String) (lines : Nat)
  | longClass (name : String) (lines methods : Nat)
  | missingDocstring (name : String) (entity : EntityKind)
  | tooManyParameters (name : String) (count : Nat) (parameters : List String)
  | deadCode (name : String)
  | magicNumber (value context : String)
  | nonConstantGlobal (name : String)
  deriving Repr, DecidableEq

/-- The label that smells are grouped by. -/
def SmellKind.label : SmellKind → String
  | longFunction .. => "long_function"
  | longClass .. => "long_class"
  | missingDocstring .. => "missing_docstring"
  | tooManyParameters .. => "too_many_parameters"
  | deadCode .. => "dead_code"
  | magicNumber .. => "magic_number"
  | nonConstantGlobal .. => "non_constant_global"

/-- A likely weakness of the code at a line. -/
structure Smell where
  line : Nat
  severity : Severity
  kind : SmellKind
  deriving Repr, DecidableEq

/-- The number of smells of each severity. -/
structure SmellSummary where
  critical : Nat
  high : Nat
  medium : Nat
  low : Nat
  info : Nat
  total : Nat
  deriving Repr, DecidableEq

/-- Counts smells by severity. -/
def SmellSummary.ofSmells (smells : List Smell) : SmellSummary :=
  let count (s : Severity) := smells.countP (·.severity = s)
  { critical := count .critical
    high := count .high
    medium := count .medium
    low := count .low
    info := count .info
    total := smells.length }

end CodeSurvey
