/-
# Parameter lists

A parameter list is a sequence of items.  Three things are read off it: the named parameters, the
starred ones, and how many of the named ones are neither positional-only nor keyword-only.
-/
import CodeSurvey.Syntax.Tree

namespace CodeSurvey

/-- An item of a parameter list. -/
inductive ParameterItem where
  /-- A parameter with a name, with or without annotation and default. -/
  | named (name : String)
  /-- A parameter with one star; those after it are given by name only. -/
  | rest (name : Option String)
  /-- A parameter with two stars. -/
  | restByName (name : Option String)
  /-- The slash after the positional-only parameters. -/
  | slash
  /-- The bare star before the keyword-only parameters. -/
  | star
  /-- Anything else, such as a comment or a tuple of targets. -/
  | other
  deriving Repr, DecidableEq

namespace ParameterItem

/-- The name of a named parameter. -/
def name? : ParameterItem → Option String
  | named name => some name
  | _ => none

/-- A starred name with its stars. -/
def variadic? : ParameterItem → Option String
  | rest (some name) => some ("*" ++ name)
  | restByName (some name) => some ("**" ++ name)
  | _ => none

/-- Whether the named parameters after the item are keyword-only. -/
def opensKeywords : ParameterItem → Bool
  | rest _ => true
  | star => true
  | _ => false

/-- The name inside a starred parameter. -/
def starredName (source : List Char) (t : Tree) : Option String :=
  (t.named.find? (·.kind = .identifier)).map fun n => String.ofList (n.text source)

/-- The item that a starred parameter stands for. -/
def ofStarred (source : List Char) (t : Tree) : ParameterItem :=
  match t.kind with
  | .listSplatPattern => rest (starredName source t)
  | .dictionarySplatPattern => restByName (starredName source t)
  | _ => other

/-- The item that a node of a parameter list stands for. -/
def ofTree (source : List Char) (t : Tree) : ParameterItem :=
  match t.kind with
  | .identifier => named (String.ofList (t.text source))
  | .defaultParameter | .typedDefaultParameter =>
    match t.part? .name with
    | some n => if n.kind = .identifier then named (String.ofList (n.text source)) else other
    | none => other
  | .typedParameter =>
    match t.named.head? with
    | some n =>
      if n.kind = .identifier then named (String.ofList (n.text source)) else ofStarred source n
    | none => other
  | .positionalSeparator => slash
  | .keywordSeparator => star
  | _ => ofStarred source t

end ParameterItem

/-- The names of the named parameters. -/
def parameterNames (items : List ParameterItem) : List String :=
  items.filterMap (·.name?)

/-- The starred parameters. -/
def variadicNames (items : List ParameterItem) : List String :=
  items.filterMap (·.variadic?)

/-- Counts, from the left, the named parameters that may be given by position: a slash starts the
count again, and nothing counts after a star. -/
def positionalFrom (count : Nat) (keywordOnly : Bool) : List ParameterItem → Nat
  | [] => count
  | item :: items =>
    match item with
    | .named _ => positionalFrom (if keywordOnly then count else count + 1) keywordOnly items
    | .slash => positionalFrom 0 keywordOnly items
    | item => positionalFrom count (keywordOnly || item.opensKeywords) items

/-- The number of named parameters that are neither positional-only nor keyword-only. -/
def positionalCount (items : List ParameterItem) : Nat :=
  positionalFrom 0 false items

end CodeSurvey
