/-
# Outlines as JSON

The JSON form of outlines and the way back.  Absent optional parts are `null`, and an import
carries its kind as a tag.
-/
import CodeSurvey.Json.Basic
import CodeSurvey.Outline.Basic

namespace CodeSurvey

/-! ## Reading members -/

namespace Json

/-- The texts of an array. -/
def strs? (v : Json) : Option (List String) := do
  (← v.items?).mapM Json.str?

/-- The text under a key. -/
def strAt? (v : Json) (key : String) : Option String := do
  (← v.member? key).str?

/-- The natural number under a key. -/
def natAt? (v : Json) (key : String) : Option Nat := do
  (← v.member? key).nat?

/-- The truth value under a key. -/
def boolAt? (v : Json) (key : String) : Option Bool := do
  (← v.member? key).bool?

/-- The texts under a key. -/
def strsAt? (v : Json) (key : String) : Option (List String) := do
  (← v.member? key).strs?

/-- The text under a key that may be `null` or absent. -/
def optionalStrAt? (v : Json) (key : String) : Option (Option String) :=
  match v.member? key with
  | none => some none
  | some .null => some none
  | some (.str s) => some (some s)
  | some _ => none

/-- The items under a key, each read by a given function. -/
def listAt? {α : Type} (read : Json → Option α) (v : Json) (key : String) : Option (List α) := do
  (← (← v.member? key).items?).mapM read

/-- A pair of texts. -/
def strPair? : Json → Option (String × String)
  | .arr [.str a, .str b] => some (a, b)
  | _ => none

end Json

/-! ## Functions and classes -/

/-- The JSON form of a function. -/
def FunctionEntry.toJson (f : FunctionEntry) : Json :=
  .obj [
    ("name", .str f.name),
    ("class_name", .option .str f.className),
    ("parameters", .strs f.parameters),
    ("variadic", .strs f.variadic),
    ("positional_count", .nat f.positionalCount),
    ("return_annotation", .option .str f.returnType),
    ("docstring", .option .str f.docstring),
    ("line_start", .nat f.lineStart),
    ("line_end", .nat f.lineEnd),
    ("decorators", .strs f.decorators),
    ("is_async", .bool f.isAsync),
    ("calls", .strs f.calls),
    ("complexity", .nat f.complexity),
    ("line_count", .nat f.lineCount)]

/-- Reads a function from its JSON form. -/
def FunctionEntry.ofJson? (v : Json) : Option FunctionEntry := do
  return {
    name := ← v.strAt? "name"
    className := ← v.optionalStrAt? "class_name"
    parameters := ← v.strsAt? "parameters"
    variadic := ← v.strsAt? "variadic"
    positionalCount := ← v.natAt? "positional_count"
    returnType := ← v.optionalStrAt? "return_annotation"
    docstring := ← v.optionalStrAt? "docstring"
    lineStart := ← v.natAt? "line_start"
    lineEnd := ← v.natAt? "line_end"
    decorators := ← v.strsAt? "decorators"
    isAsync := ← v.boolAt? "is_async"
    calls := ← v.strsAt? "calls"
    complexity := ← v.natAt? "complexity"
    lineCount := ← v.natAt? "line_count" }

/-- The JSON form of a class. -/
def ClassEntry.toJson (c : ClassEntry) : Json :=
  .obj [
    ("name", .str c.name),
    ("bases", .strs c.bases),
    ("docstring", .option .str c.docstring),
    ("methods", .strs c.methods),
    ("decorators", .strs c.decorators),
    ("line_start", .nat c.lineStart),
    ("line_end", .nat c.lineEnd),
    ("line_count", .nat c.lineCount)]

/-- Reads a class from its JSON form. -/
def ClassEntry.ofJson? (v : Json) : Option ClassEntry := do
  return {
    name := ← v.strAt? "name"
    bases := ← v.strsAt? "bases"
    docstring := ← v.optionalStrAt? "docstring"
    methods := ← v.strsAt? "methods"
    decorators := ← v.strsAt? "decorators"
    lineStart := ← v.natAt? "line_start"
    lineEnd := ← v.natAt? "line_end"
    lineCount := ← v.natAt? "line_count" }

/-! ## Imports, variables and outlines -/

/-- The JSON form of an import. -/
def ImportEntry.toJson : ImportEntry → Json
  | .plain modules aliases line =>
    .obj [
      ("type", .str "plain"),
      ("modules", .strs modules),
      ("aliases", .arr (aliases.map fun (m, asName) => .strs [m, asName])),
      ("line", .nat line)]
  | .names source imported level line =>
    .obj [
      ("type", .str "from"),
      ("module", .option .str source),
      ("names", .strs imported),
      ("level", .nat level),
      ("line", .nat line)]

/-- Reads an import from its JSON form. -/
def ImportEntry.ofJson? (v : Json) : Option ImportEntry := do
  match ← v.strAt? "type" with
  | "plain" =>
    return .plain (← v.strsAt? "modules") (← v.listAt? Json.strPair? "aliases")
      (← v.natAt? "line")
  | "from" =>
    return .names (← v.optionalStrAt? "module") (← v.strsAt? "names") (← v.natAt? "level")
      (← v.natAt? "line")
  | _ => none

/-- The JSON form of a variable. -/
def GlobalEntry.toJson (g : GlobalEntry) : Json :=
  .obj [("name", .str g.name), ("line", .nat g.line)]

/-- Reads a variable from its JSON form. -/
def GlobalEntry.ofJson? (v : Json) : Option GlobalEntry := do
  return ⟨← v.strAt? "name", ← v.natAt? "line"⟩

/-- The JSON form of an outline. -/
def Outline.toJson (o : Outline) : Json :=
  .obj [
    ("path", .str o.path),
    ("functions", .arr (o.functions.map FunctionEntry.toJson)),
    ("classes", .arr (o.classes.map ClassEntry.toJson)),
    ("imports", .arr (o.imports.map ImportEntry.toJson)),
    ("globals", .arr (o.globals.map GlobalEntry.toJson))]

/-- Reads an outline from its JSON form. -/
def Outline.ofJson? (v : Json) : Option Outline := do
  return {
    path := ← v.strAt? "path"
    functions := ← v.listAt? FunctionEntry.ofJson? "functions"
    classes := ← v.listAt? ClassEntry.ofJson? "classes"
    imports := ← v.listAt? ImportEntry.ofJson? "imports"
    globals := ← v.listAt? GlobalEntry.ofJson? "globals" }

end CodeSurvey
