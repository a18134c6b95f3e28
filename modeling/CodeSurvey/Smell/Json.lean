/-
# Smells as JSON

The JSON form of smells and the way back.  The kind of a smell is a tag beside its line and
severity.
-/
import CodeSurvey.Outline.Json
import CodeSurvey.Smell.Basic
import CodeSurvey.Smell.Duplicates

namespace CodeSurvey

/-- The members of an object that say what a smell is about. -/
def SmellKind.members : SmellKind → List (String × Json)
  | longFunction name lines => [("name", .str name), ("lines", .nat lines)]
  | longClass name lines methods =>
    [("name", .str name), ("lines", .nat lines), ("methods", .nat methods)]
  | missingDocstring name entity => [("name", .str name), ("entity", .str entity.word)]
  | tooManyParameters name count parameters =>
    [("name", .str name), ("count", .nat count), ("parameters", .strs parameters)]
  | deadCode name => [("name", .str name)]
  | magicNumber value context => [("value", .str value), ("context", .str context)]
  | nonConstantGlobal name => [("name", .str name)]

/-- The JSON form of a smell. -/
def Smell.toJson (s : Smell) : Json :=
  .obj (("line", .nat s.line) :: ("severity", .str s.severity.word) ::
    ("type", .str s.kind.label) :: s.kind.members)

/-- Reads what a smell is about. -/
def SmellKind.ofJson? (v : Json) : Option SmellKind := do
  match ← v.strAt? "type" with
  | "long_function" => return longFunction (← v.strAt? "name") (← v.natAt? "lines")
  | "long_class" =>
    return longClass (← v.strAt? "name") (← v.natAt? "lines") (← v.natAt? "methods")
  | "missing_docstring" =>
    return missingDocstring (← v.strAt? "name") (← EntityKind.ofWord? (← v.strAt? "entity"))
  | "too_many_parameters" =>
    return tooManyParameters (← v.strAt? "name") (← v.natAt? "count") (← v.strsAt? "parameters")
  | "dead_code" => return deadCode (← v.strAt? "name")
  | "magic_number" => return magicNumber (← v.strAt? "value") (← v.strAt? "context")
  | "non_constant_global" => return nonConstantGlobal (← v.strAt? "name")
  | _ => none

/-- Reads a smell from its JSON form. -/
def Smell.ofJson? (v : Json) : Option Smell := do
  return ⟨← v.natAt? "line", ← Severity.ofWord? (← v.strAt? "severity"), ← SmellKind.ofJson? v⟩

/-- The JSON form of counts by severity. -/
def SmellSummary.toJson (s : SmellSummary) : Json :=
  .obj [
    ("critical", .nat s.critical),
    ("high", .nat s.high),
    ("medium", .nat s.medium),
    ("low", .nat s.low),
    ("info", .nat s.info),
    ("total", .nat s.total)]

/-- The JSON form of a function with a shared signature; the class is left out if there is none. -/
def Occurrence.toJson (o : Occurrence) : Json :=
  .obj (("file", .str o.file) ::
    (o.className.map fun c => ("class_name", Json.str c)).toList ++
    [("function", .str o.function), ("line", .nat o.line)])

/-- The JSON form of a cluster. -/
def DuplicateCluster.toJson (c : DuplicateCluster) : Json :=
  .obj [
    ("signature", .str c.signature),
    ("parameter_count", .nat c.parameterCount),
    ("count", .nat c.count),
    ("occurrences", .arr (c.occurrences.map Occurrence.toJson))]

end CodeSurvey
