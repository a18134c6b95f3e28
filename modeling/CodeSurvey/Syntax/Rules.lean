/-
# Rules that call each other

The grammar is recursive: an expression holds expressions, a block holds statements.  `Rules` names
the rules that are used inside other ones.  A rule is written over a given `Rules`, and the grammar
of nesting depth `n + 1` is made of the rules over the grammar of depth `n`.
-/
import CodeSurvey.Syntax.Reader

namespace CodeSurvey

/-- How tightly an operator binds, from `lambda` (loosest) to `**` (tightest). -/
abbrev Binding := Nat

namespace Binding

/-- Any expression. -/
def any : Binding := 0

/-- A choice by `if` and `else`. -/
def conditional : Binding := 1

/-- A value with `as` and a target. -/
def capture : Binding := 2

/-- Alternatives. -/
def disjunction : Binding := 3

/-- Conjunctions. -/
def conjunction : Binding := 4

/-- Negations. -/
def negation : Binding := 5

/-- Chains of comparisons. -/
def comparison : Binding := 6

/-- Powers, and what a sign applies to. -/
def power : Binding := 14

/-- No operators at all: an atom with its calls, attributes and subscripts. -/
def bare : Binding := 15

end Binding

/-- The rules that other rules use for what is nested in them. -/
structure Rules where
  /-- An expression whose operators bind at least as tightly as given. -/
  expression : Lines → Binding → Parse Tree
  /-- The right side of an assignment. -/
  rightSide : Parse Tree
  /-- An annotation, possibly with a bound after a colon. -/
  typeHint : Lines → Bool → Parse Tree
  /-- A replacement field of a formatted string. -/
  interpolation : Parse Tree
  /-- A pattern of a case clause. -/
  pattern : Lines → Parse Tree
  /-- The body of a compound statement. -/
  suite : Parse Tree

/-- The rules of the grammar without any nesting. -/
def Rules.none : Rules :=
  ⟨fun _ _ => failure, failure, fun _ _ => failure, failure, fun _ => failure, failure⟩

/-- Whether an expression may start with the given characters. -/
def startsExpression (cs : List Char) : Bool :=
  match wordOf cs with
  | [] =>
    match cs with
    | '.' :: '.' :: '.' :: _ => true
    | '.' :: c :: _ => isAsciiDigit c
    | '*' :: c :: _ => c != '*' && c != '='
    | '-' :: c :: _ => c != '=' && c != '>'
    | '+' :: c :: _ => c != '='
    | c :: _ =>
      isAsciiDigit c || ['(', '[', '\x7b', '~', '\'', '"', (Char.ofNat 0x60)].contains c
    | [] => false
  | w =>
    let w := String.ofList w
    w ∉ reservedWords || ["not", "lambda", "True", "False", "None"].contains w

/-- Whether an expression comes next. -/
def expressionNext (lines : Lines) : Parse Bool := do
  return startsExpression (← upcoming lines)

end CodeSurvey
