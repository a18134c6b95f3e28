/-
# From trees to outlines

A walk over a syntax tree meets every definition and import once, in source order, and knows
whether it stands in a class or in a function.
-/
import CodeSurvey.Metrics.Complexity
import CodeSurvey.Outline.Basic
import CodeSurvey.Outline.Docstring
import CodeSurvey.Outline.Parameters

namespace CodeSurvey

/-- What a walk meets. -/
inductive Entry where
  | function (f : FunctionEntry)
  | class (c : ClassEntry)
  | import (i : ImportEntry)
  | global (g : GlobalEntry)
  deriving Repr, DecidableEq

/-- Where a walk stands: the innermost class or function around it. -/
inductive Scope where
  | file
  | inClass (name : String)
  | inFunction
  deriving Repr, DecidableEq

/-- The class that functions of a scope belong to. -/
def Scope.className : Scope → Option String
  | inClass name => some name
  | _ => none

/-- The source text of a node as a string. -/
def Tree.textIn (source : List Char) (t : Tree) : String :=
  String.ofList (t.text source)

/-- The line that a node starts on, counted from one. -/
def Tree.firstLine (t : Tree) : Nat := t.start.row + 1

/-- The line that a node stops on, counted from one. -/
def Tree.lastLine (t : Tree) : Nat := t.stop.row + 1

/-! ## Functions and classes -/

/-- The docstring of a body: its first statement, if that starts with a string. -/
def bodyDocstring (source : List Char) (body : Tree) : Option String := do
  let first ← body.named.find? (·.kind ≠ .comment)
  guard (first.kind = .expressionStatement)
  let value ← first.named.head?
  match value.kind with
  | .string => docstringOf (← literalValue? (value.text source))
  | .concatenatedString =>
    let pieces ← (value.named.filter (·.kind = .string)).mapM fun p =>
      literalValue? (p.text source)
    docstringOf pieces.flatten
  | _ => none

/-- The name that a call's function goes by: a bare name, or the last attribute. -/
def calleeName? (source : List Char) (t : Tree) : Option String :=
  match t.kind with
  | .identifier => some (t.textIn source)
  | .memberAccess => (t.part? .member).map (·.textIn source)
  | _ => none

/-- The name that a call node calls. -/
def callName? (source : List Char) (t : Tree) : Option String := do
  guard (t.kind = .call)
  calleeName? source (← t.part? .function)

/-- Names with one more at the end, unless it is among them. -/
def noteName (names : List String) (name : String) : List String :=
  if names.contains name then names else names ++ [name]

/-- The search for calls, in source order: it finds the names that nodes call. -/
def callSearch (source : List Char) : TreeSearch (List String) where
  next := Tree.children
  note names t :=
    match callName? source t with
    | some name => noteName names name
    | none => names
  next_le _ := Nat.le_refl _

/-- The names called anywhere in a tree. -/
def callNames (source : List Char) (t : Tree) : List String :=
  (callSearch source).search [t] []

/-- The entry of a function definition. -/
def functionOf? (source : List Char) (scope : Scope) (decorators : List String) (t : Tree) :
    Option FunctionEntry := do
  let name ← t.part? .name
  let items := match t.part? .parameters with
    | some p => p.named.map (ParameterItem.ofTree source)
    | none => []
  return {
    name := name.textIn source
    className := scope.className
    parameters := parameterNames items
    variadic := variadicNames items
    positionalCount := positionalCount items
    returnType := (t.part? .returnType).map (·.textIn source)
    docstring := (t.part? .body).bind (bodyDocstring source)
    lineStart := t.firstLine
    lineEnd := t.lastLine
    decorators := decorators
    isAsync := t.children.head?.any fun c => c.kind = .mark && c.textIn source = "async"
    calls := callNames source t
    complexity := t.cyclomatic
    lineCount := t.lastLine - t.firstLine + 1 }

/-- The names of the functions directly in the body of a class. -/
def methodNames (source : List Char) (body : Tree) : List String :=
  body.named.filterMap fun child => do
    let definition ←
      match child.kind with
      | .functionDefinition => some child
      | .decoratedDefinition => (child.part? .definition).filter (·.kind = .functionDefinition)
      | _ => none
    return (← definition.part? .name).textIn source

/-- The entry of a class definition. -/
def classOf? (source : List Char) (decorators : List String) (t : Tree) :
    Option ClassEntry := do
  let name ← t.part? .name
  let body := t.part? .body
  let bases : List Tree := match t.part? .superclasses with
    | some args => args.named.filter fun a => a.kind ≠ .keywordArgument && a.kind ≠ .comment
    | none => []
  return {
    name := name.textIn source
    bases := bases.map (·.textIn source)
    docstring := body.bind (bodyDocstring source)
    methods := (body.map (methodNames source)).getD []
    decorators := decorators
    lineStart := t.firstLine
    lineEnd := t.lastLine
    lineCount := t.lastLine - t.firstLine + 1 }

/-- The text of a decorator without the signs before it. -/
def decoratorText (source : List Char) (t : Tree) : String :=
  String.ofList (trimChars ((t.text source).dropWhile (· == '@')))

/-- The texts of the decorators among the parts of a decorated definition. -/
def decoratorTexts (source : List Char) (parts : List Tree) : List String :=
  (parts.filter (·.kind = .decorator)).map (decoratorText source)

/-! ## Imports and variables -/

/-- The entry of an import of modules. -/
def importOf (source : List Char) (t : Tree) : ImportEntry :=
  let items := (t.parts .name).filterMap fun item =>
    match item.kind with
    | .dottedName => some (item.textIn source, none)
    | .aliasedImport => do
      let name ← item.part? .name
      return (name.textIn source, (item.part? .asName).map (·.textIn source))
    | _ => none
  .plain (items.map (·.1)) (items.filterMap fun (m, asName) => asName.map (m, ·)) t.firstLine

/-- The names that an import takes from a module. -/
def importedNames (source : List Char) (t : Tree) : List String :=
  if t.children.any (·.kind = .wildcardImport) then ["*"]
  else (t.parts .name).filterMap fun item =>
    match item.kind with
    | .aliasedImport => (item.part? .name).map (·.textIn source)
    | _ => some (item.textIn source)

/-- The module that names are imported from, and the number of points before it. -/
def importSource (source : List Char) (t : Tree) : Option String × Nat :=
  match t.part? .moduleName with
  | none => (none, 0)
  | some m =>
    if m.kind = .relativeImport then
      let dots := (m.children.filter (·.kind = .importDots)).getLast?
      let name := (m.children.filter (·.kind = .dottedName)).getLast?
      (name.map (·.textIn source), (dots.map fun d => (d.text source).count '.').getD 0)
    else (some (m.textIn source), 0)

/-- The entry of an import of names. -/
def fromImportOf (source : List Char) (t : Tree) : ImportEntry :=
  let (module?, level) := importSource source t
  .names module? (importedNames source t) level t.firstLine

/-- The entry of an import of language features. -/
def futureImportOf (source : List Char) (t : Tree) : ImportEntry :=
  .names (some "__future__") (importedNames source t) 0 t.firstLine

/-- The variable that a statement assigns first, if it is a bare name. -/
def globalOf? (source : List Char) (t : Tree) : Option GlobalEntry := do
  let assignment ← t.named.head?
  guard (assignment.kind = .assignment)
  let target ← assignment.part? .left
  guard (target.kind = .identifier)
  return ⟨target.textIn source, t.firstLine⟩

/-! ## The walk -/

/-- The kinds of nodes that define a function or a class under a name. -/
def Kind.isNamedDefinition (k : Kind) : Bool :=
  k = .functionDefinition || k = .classDefinition

mutual
/-- What a walk meets from a node on, given the kind of the node above. -/
def entriesOf (source : List Char) (scope : Scope) (above : Kind) (decorators : List String) :
    Tree → List Entry
  | .node k f s t cs =>
    let here := Tree.node k f s t cs
    match k with
    | .functionDefinition =>
      match functionOf? source scope decorators here with
      | some e => .function e :: entriesAmong source .inFunction k cs
      | none => []
    | .classDefinition =>
      match classOf? source decorators here with
      | some e => .class e :: entriesAmong source (.inClass e.name) k cs
      | none => []
    | .decoratedDefinition =>
      match entriesUnder? source scope (decoratorTexts source cs) cs with
      | some entries => entries
      | none => entriesAmong source scope k cs
    | .importStatement => [.import (importOf source here)]
    | .fromImportStatement => [.import (fromImportOf source here)]
    | .futureImportStatement => [.import (futureImportOf source here)]
    | .expressionStatement =>
      let global := if above = .file then (globalOf? source here).toList else []
      global.map .global ++ entriesAmong source scope k cs
    | _ => entriesAmong source scope k cs

/-- What a walk meets in the nodes below a node of a given kind. -/
def entriesAmong (source : List Char) (scope : Scope) (above : Kind) : List Tree → List Entry
  | [] => []
  | c :: cs => entriesOf source scope above [] c ++ entriesAmong source scope above cs

/-- What a walk meets in the definition that decorators belong to, if there is one. -/
def entriesUnder? (source : List Char) (scope : Scope) (decorators : List String) :
    List Tree → Option (List Entry)
  | [] => none
  | c :: cs =>
    if c.field = some .definition then
      if c.kind.isNamedDefinition then
        some (entriesOf source scope .decoratedDefinition decorators c)
      else none
    else entriesUnder? source scope decorators cs
end

/-- The functions among entries. -/
def Entry.function? : Entry → Option FunctionEntry
  | function f => some f
  | _ => none

/-- The classes among entries. -/
def Entry.class? : Entry → Option ClassEntry
  | .class c => some c
  | _ => none

/-- The imports among entries. -/
def Entry.import? : Entry → Option ImportEntry
  | .import i => some i
  | _ => none

/-- The variables among entries. -/
def Entry.global? : Entry → Option GlobalEntry
  | .global g => some g
  | _ => none

/-- The outline of a file with a given syntax tree. -/
def Outline.ofTree (path : String) (source : List Char) (root : Tree) : Outline :=
  let entries := entriesAmong source .file root.kind root.children
  { path := path
    functions := entries.filterMap Entry.function?
    classes := entries.filterMap Entry.class?
    imports := entries.filterMap Entry.import?
    globals := entries.filterMap Entry.global? }

end CodeSurvey
