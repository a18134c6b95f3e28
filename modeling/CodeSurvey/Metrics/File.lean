/-
# Metrics of a file

What is measured of one file: its lines, and, if it has a syntax tree, the complexity of its
functions, the maintainability index, operators and operands, structure and documentation.
-/
import CodeSurvey.Metrics.Complexity
import CodeSurvey.Metrics.Halstead
import CodeSurvey.Metrics.Lines
import CodeSurvey.Metrics.Maintainability
import CodeSurvey.Outline.Basic

namespace CodeSurvey

/-- The complexity of a function. -/
structure FunctionComplexity where
  name : String
  className : Option String
  line : Nat
  complexity : Nat
  deriving Repr, DecidableEq

/-- The complexity of a function of an outline. -/
def FunctionComplexity.ofFunction (f : FunctionEntry) : FunctionComplexity :=
  ⟨f.name, f.className, f.lineStart, f.complexity⟩

/-- The complexities of the functions of a file. -/
structure ComplexityMetrics where
  average : Float
  max : Nat
  functions : List FunctionComplexity
  highCount : Nat
  highFunctions : List FunctionComplexity

/-- The average of natural numbers, rounded to hundredths; zero if there are none. -/
def averageOf (ns : List Nat) : Float :=
  if ns.isEmpty then 0 else roundHundredth ((ns.foldl (· + ·) 0).toFloat / ns.length.toFloat)

/-- The complexities of functions, those above a limit listed apart. -/
def ComplexityMetrics.ofFunctions (limit : Nat) (functions : List FunctionEntry) :
    ComplexityMetrics :=
  let listed := functions.map .ofFunction
  let high := listed.filter (limit < ·.complexity)
  { average := averageOf (functions.map (·.complexity))
    max := (functions.map (·.complexity)).foldl Nat.max 0
    functions := listed
    highCount := high.length
    highFunctions := high }

/-- How many entities a file has and how long they are. -/
structure StructureMetrics where
  functions : Nat
  classes : Nat
  imports : Nat
  averageFunctionLength : Float
  averageClassLength : Float

/-- The structure of an outline. -/
def StructureMetrics.ofOutline (o : Outline) : StructureMetrics :=
  { functions := o.functions.length
    classes := o.classes.length
    imports := o.imports.length
    averageFunctionLength := averageOf (o.functions.map (·.lineCount))
    averageClassLength := averageOf (o.classes.map (·.lineCount)) }

/-- How many entities have docstrings. -/
structure DocumentationMetrics where
  /-- The share of functions and classes with a docstring, in percent. -/
  coverage : Float
  functionsWithDocs : Nat
  classesWithDocs : Nat

/-- The documentation of an outline. -/
def DocumentationMetrics.ofOutline (o : Outline) : DocumentationMetrics :=
  let functions := o.functions.countP (·.docstring.isSome)
  let classes := o.classes.countP (·.docstring.isSome)
  ⟨percentage (functions + classes) o.entityCount, functions, classes⟩

/-- What is measured of a file with a syntax tree. -/
structure CodeMetrics where
  complexity : ComplexityMetrics
  maintainability : Maintainability
  halstead : HalsteadMetrics
  structure' : StructureMetrics
  documentation : DocumentationMetrics

/-- What is measured of a file. -/
structure FileMetrics where
  lines : LineMetrics
  code : Option CodeMetrics

/-- The metrics of a file without a syntax tree. -/
def FileMetrics.ofText (content : String) : FileMetrics :=
  ⟨.ofText content, none⟩

/-- The metrics of a file with a syntax tree. -/
def FileMetrics.ofTree (limit : Nat) (content : String) (root : Tree) (o : Outline) :
    FileMetrics :=
  let lines := LineMetrics.ofText content
  let halstead := HalsteadMetrics.ofCounts (.ofTree content.toList root)
  let total := root.decisionPoints + o.functions.length
  let commentPercent :=
    if lines.sloc = 0 then 0 else lines.comments.toFloat / lines.sloc.toFloat * 100
  let score := maintainabilityIndex halstead.volume total lines.sloc commentPercent
  { lines := lines
    code := some {
      complexity := .ofFunctions limit o.functions
      maintainability := .ofScore (roundHundredth score)
      halstead := halstead
      structure' := .ofOutline o
      documentation := .ofOutline o } }

/-- The average complexity of a file, zero without a syntax tree. -/
def FileMetrics.averageComplexity (m : FileMetrics) : Float :=
  (m.code.map (·.complexity.average)).getD 0

/-- The maintainability score of a file, zero without a syntax tree. -/
def FileMetrics.score (m : FileMetrics) : Float :=
  (m.code.map (·.maintainability.score)).getD 0

end CodeSurvey
