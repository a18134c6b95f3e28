/-
# Metrics as JSON

The JSON form of the metrics of files and repositories, and for files also the way back.
-/
import CodeSurvey.Outline.Json
import CodeSurvey.Metrics.Repository

namespace CodeSurvey

/-! ## Writing -/

/-- The JSON form of a function's complexity; the class is left out if there is none. -/
def FunctionComplexity.toJson (f : FunctionComplexity) : Json :=
  .obj (("name", .str f.name) ::
    (f.className.map fun c => ("class_name", Json.str c)).toList ++
    [("line", .nat f.line), ("complexity", .nat f.complexity)])

/-- The JSON form of line counts. -/
def LineMetrics.toJson (m : LineMetrics) : Json :=
  .obj [
    ("loc", .nat m.loc),
    ("sloc", .nat m.sloc),
    ("comments", .nat m.comments),
    ("blank", .nat m.blank),
    ("comment_ratio", .num m.commentRatio),
    ("code_ratio", .num m.codeRatio)]

/-- The JSON form of the complexities of a file. -/
def ComplexityMetrics.toJson (m : ComplexityMetrics) : Json :=
  .obj [
    ("average", .num m.average),
    ("max", .nat m.max),
    ("functions", .arr (m.functions.map FunctionComplexity.toJson)),
    ("high_complexity_count", .nat m.highCount),
    ("high_complexity_functions", .arr (m.highFunctions.map FunctionComplexity.toJson))]

/-- The JSON form of a maintainability score. -/
def Maintainability.toJson (m : Maintainability) : Json :=
  .obj [("score", .num m.score), ("rank", .str m.rank.letter)]

/-- The JSON form of operator and operand measures. -/
def HalsteadMetrics.toJson (m : HalsteadMetrics) : Json :=
  .obj [
    ("h1", .nat m.counts.distinctOperators),
    ("h2", .nat m.counts.distinctOperands),
    ("n1", .nat m.counts.operators),
    ("n2", .nat m.counts.operands),
    ("vocabulary", .nat m.vocabulary),
    ("length", .nat m.length),
    ("volume", .num m.volume),
    ("difficulty", .num m.difficulty),
    ("effort", .num m.effort)]

/-- The JSON form of the structure of a file. -/
def StructureMetrics.toJson (m : StructureMetrics) : Json :=
  .obj [
    ("functions", .nat m.functions),
    ("classes", .nat m.classes),
    ("imports", .nat m.imports),
    ("average_function_length", .num m.averageFunctionLength),
    ("average_class_length", .num m.averageClassLength)]

/-- The JSON form of the documentation of a file. -/
def DocumentationMetrics.toJson (m : DocumentationMetrics) : Json :=
  .obj [
    ("coverage", .num m.coverage),
    ("functions_with_docs", .nat m.functionsWithDocs),
    ("classes_with_docs", .nat m.classesWithDocs)]

/-- The JSON form of what a syntax tree shows. -/
def CodeMetrics.toJson (m : CodeMetrics) : Json :=
  .obj [
    ("complexity", m.complexity.toJson),
    ("maintainability", m.maintainability.toJson),
    ("halstead", m.halstead.toJson),
    ("structure", m.structure'.toJson),
    ("documentation", m.documentation.toJson)]

/-- The JSON form of the metrics of a file; what a syntax tree would show is left out without
one. -/
def FileMetrics.toJson (m : FileMetrics) : Json :=
  .obj (("raw", m.lines.toJson) ::
    (m.code.map fun c => ("code", c.toJson)).toList)

/-- The JSON form of a file with its complexity. -/
def ComplexFile.toJson (f : ComplexFile) : Json :=
  .obj [
    ("file", .str f.file),
    ("average_complexity", .num f.average),
    ("max_complexity", .nat f.max)]

/-- The JSON form of the metrics of a repository. -/
def RepositoryMetrics.toJson (m : RepositoryMetrics) : Json :=
  .obj [
    ("total_files", .nat m.totalFiles),
    ("lines", .obj [
      ("total", .nat m.lines.total),
      ("source", .nat m.lines.source),
      ("comments", .nat m.lines.comments),
      ("blank", .nat m.lines.blank),
      ("comment_ratio", .num m.lines.commentRatio)]),
    ("structure", .obj [
      ("total_functions", .nat m.structure'.functions),
      ("total_classes", .nat m.structure'.classes),
      ("total_imports", .nat m.structure'.imports),
      ("average_functions_per_file", .num m.structure'.functionsPerFile),
      ("average_classes_per_file", .num m.structure'.classesPerFile)]),
    ("average_documentation_coverage", .num m.documentationCoverage),
    ("average_complexity", .num m.averageComplexity),
    ("average_maintainability", .num m.averageMaintainability),
    ("total_high_complexity_files", .nat m.highComplexityFiles.length),
    ("high_complexity_files", .arr (m.highComplexityFiles.map fun f =>
      .obj [
        ("file", .str f.file),
        ("count", .nat f.count),
        ("functions", .arr (f.functions.map FunctionComplexity.toJson))])),
    ("most_complex_files", .arr (m.mostComplexFiles.map ComplexFile.toJson))]

/-! ## Reading -/

/-- The number under a key. -/
def Json.floatAt? (v : Json) (key : String) : Option Float := do
  (← v.member? key).float?

/-- Reads a function's complexity. -/
def FunctionComplexity.ofJson? (v : Json) : Option FunctionComplexity := do
  return {
    name := ← v.strAt? "name"
    className := ← v.optionalStrAt? "class_name"
    line := ← v.natAt? "line"
    complexity := ← v.natAt? "complexity" }

/-- Reads line counts. -/
def LineMetrics.ofJson? (v : Json) : Option LineMetrics := do
  return {
    loc := ← v.natAt? "loc"
    sloc := ← v.natAt? "sloc"
    comments := ← v.natAt? "comments"
    blank := ← v.natAt? "blank"
    commentRatio := ← v.floatAt? "comment_ratio"
    codeRatio := ← v.floatAt? "code_ratio" }

/-- Reads the complexities of a file. -/
def ComplexityMetrics.ofJson? (v : Json) : Option ComplexityMetrics := do
  return {
    average := ← v.floatAt? "average"
    max := ← v.natAt? "max"
    functions := ← v.listAt? FunctionComplexity.ofJson? "functions"
    highCount := ← v.natAt? "high_complexity_count"
    highFunctions := ← v.listAt? FunctionComplexity.ofJson? "high_complexity_functions" }

/-- The rank that a letter stands for. -/
def Rank.ofLetter? : String → Option Rank
  | "A" => some a
  | "B" => some b
  | "C" => some c
  | _ => none

/-- Reads a maintainability score. -/
def Maintainability.ofJson? (v : Json) : Option Maintainability := do
  return ⟨← v.floatAt? "score", ← Rank.ofLetter? (← v.strAt? "rank")⟩

/-- Reads operator and operand measures. -/
def HalsteadMetrics.ofJson? (v : Json) : Option HalsteadMetrics := do
  return {
    counts := {
      distinctOperators := ← v.natAt? "h1"
      distinctOperands := ← v.natAt? "h2"
      operators := ← v.natAt? "n1"
      operands := ← v.natAt? "n2" }
    vocabulary := ← v.natAt? "vocabulary"
    length := ← v.natAt? "length"
    volume := ← v.floatAt? "volume"
    difficulty := ← v.floatAt? "difficulty"
    effort := ← v.floatAt? "effort" }

/-- Reads the structure of a file. -/
def StructureMetrics.ofJson? (v : Json) : Option StructureMetrics := do
  return {
    functions := ← v.natAt? "functions"
    classes := ← v.natAt? "classes"
    imports := ← v.natAt? "imports"
    averageFunctionLength := ← v.floatAt? "average_function_length"
    averageClassLength := ← v.floatAt? "average_class_length" }

/-- Reads the documentation of a file. -/
def DocumentationMetrics.ofJson? (v : Json) : Option DocumentationMetrics := do
  return {
    coverage := ← v.floatAt? "coverage"
    functionsWithDocs := ← v.natAt? "functions_with_docs"
    classesWithDocs := ← v.natAt? "classes_with_docs" }

/-- Reads what a syntax tree shows. -/
def CodeMetrics.ofJson? (v : Json) : Option CodeMetrics := do
  return {
    complexity := ← ComplexityMetrics.ofJson? (← v.member? "complexity")
    maintainability := ← Maintainability.ofJson? (← v.member? "maintainability")
    halstead := ← HalsteadMetrics.ofJson? (← v.member? "halstead")
    structure' := ← StructureMetrics.ofJson? (← v.member? "structure")
    documentation := ← DocumentationMetrics.ofJson? (← v.member? "documentation") }

/-- Reads the metrics of a file. -/
def FileMetrics.ofJson? (v : Json) : Option FileMetrics := do
  let lines ← LineMetrics.ofJson? (← v.member? "raw")
  match v.member? "code" with
  | none => return ⟨lines, none⟩
  | some .null => return ⟨lines, none⟩
  | some c => return ⟨lines, some (← CodeMetrics.ofJson? c)⟩

end CodeSurvey
