/-
# Metrics of a repository

The totals and averages over the files of a repository, and its most complex files.
-/
import CodeSurvey.Metrics.File

namespace CodeSurvey

/-- Line counts over all files. -/
structure LineTotals where
  total : Nat
  source : Nat
  comments : Nat
  blank : Nat
  commentRatio : Float

/-- Entity counts over all files. -/
structure StructureTotals where
  functions : Nat
  classes : Nat
  imports : Nat
  functionsPerFile : Float
  classesPerFile : Float

/-- A file with functions above the complexity limit. -/
structure HighComplexityFile where
  file : String
  count : Nat
  functions : List FunctionComplexity

/-- A file with its complexity. -/
structure ComplexFile where
  file : String
  average : Float
  max : Nat

/-- What is measured of a repository. -/
structure RepositoryMetrics where
  totalFiles : Nat
  lines : LineTotals
  structure' : StructureTotals
  documentationCoverage : Float
  averageComplexity : Float
  averageMaintainability : Float
  highComplexityFiles : List HighComplexityFile
  mostComplexFiles : List ComplexFile

/-- The mean of numbers, rounded to hundredths; zero if there are none. -/
def meanOf (xs : List Float) : Float :=
  if xs.isEmpty then 0 else roundHundredth (xs.foldl (· + ·) 0 / xs.length.toFloat)

/-- A natural number per file on average, rounded to hundredths; zero without files. -/
def perFile (n files : Nat) : Float :=
  if files = 0 then 0 else roundHundredth (n.toFloat / files.toFloat)

/-- The length of the list of most complex files. -/
def topComplexFiles : Nat := 5

/-- The order of floating-point numbers that also places the two zeros: an integer that grows with
the number. -/
def floatRank (x : Float) : Int :=
  let bits := x.toBits.toNat
  let half := Nat.pow 2 63
  if bits < half then bits else -(bits - half : Int) - 1

/-- Files by falling average complexity, in their own order where the averages are equal. -/
def rankedFiles (files : List ComplexFile) : List ComplexFile :=
  files.mergeSort fun a b => floatRank b.average ≤ floatRank a.average

/-- The metrics of a repository from those of its files, with their paths. -/
def RepositoryMetrics.ofFiles (files : List (String × FileMetrics)) : RepositoryMetrics :=
  let sumLines (f : LineMetrics → Nat) := (files.map fun (_, m) => f m.lines).foldl (· + ·) 0
  let parsed := files.filterMap fun (path, m) => m.code.map (path, ·)
  let sumCode (f : StructureMetrics → Nat) :=
    (parsed.map fun (_, c) => f c.structure').foldl (· + ·) 0
  let ranked := parsed.filter fun (_, c) => c.complexity.average > 0
  let total := sumLines (·.loc)
  let comments := sumLines (·.comments)
  let functions := sumCode (·.functions)
  let classes := sumCode (·.classes)
  { totalFiles := files.length
    lines := {
      total := total
      source := sumLines (·.sloc)
      comments := comments
      blank := sumLines (·.blank)
      commentRatio := percentage comments total }
    structure' := {
      functions := functions
      classes := classes
      imports := sumCode (·.imports)
      functionsPerFile := perFile functions files.length
      classesPerFile := perFile classes files.length }
    documentationCoverage := meanOf (parsed.map (·.2.documentation.coverage))
    averageComplexity := meanOf (ranked.map (·.2.complexity.average))
    averageMaintainability :=
      meanOf ((parsed.map (·.2.maintainability.score)).filter (· > 0))
    highComplexityFiles := parsed.filterMap fun (path, c) =>
      if 0 < c.complexity.highCount then
        some ⟨path, c.complexity.highCount, c.complexity.highFunctions⟩
      else none
    mostComplexFiles :=
      (rankedFiles (ranked.map fun (path, c) =>
        ⟨path, c.complexity.average, c.complexity.max⟩)).take topComplexFiles }

end CodeSurvey
