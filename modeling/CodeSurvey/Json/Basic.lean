/-
# JSON values

Values of the JSON format.  Integers and other numbers are told apart, and an object keeps its
members in order, repeated keys included.
-/
namespace CodeSurvey

/-- A JSON value. -/
inductive Json where
  | null
  | bool (b : Bool)
  | int (n : Int)
  | num (x : Float)
  | str (s : String)
  | arr (items : List Json)
  | obj (members : List (String × Json))
  deriving Inhabited

namespace Json

/-- A natural number as a value. -/
def nat (n : Nat) : Json := .int n

/-- A list of texts as a value. -/
def strs (items : List String) : Json := .arr (items.map .str)

/-- A value that may be absent. -/
def option {α : Type} (f : α → Json) : Option α → Json
  | some a => f a
  | none => .null

/-- The first member of an object with a given key. -/
def member? : Json → String → Option Json
  | obj members, key => (members.find? (·.1 = key)).map (·.2)
  | _, _ => none

/-- The text that a value is. -/
def str? : Json → Option String
  | str s => some s
  | _ => none

/-- The natural number that a value is. -/
def nat? : Json → Option Nat
  | int n => if 0 ≤ n then some n.toNat else none
  | _ => none

/-- The truth value that a value is. -/
def bool? : Json → Option Bool
  | bool b => some b
  | _ => none

/-- The items of an array. -/
def items? : Json → Option (List Json)
  | arr items => some items
  | _ => none

/-- The number that a value is, integers included. -/
def float? : Json → Option Float
  | num x => some x
  | int n => some (Float.ofInt n)
  | _ => none

end Json

end CodeSurvey
