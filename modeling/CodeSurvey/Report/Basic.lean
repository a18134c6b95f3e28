/-
# Reports on repositories

The survey of a list of files: a report on each file, what the files show together, and a summary.
-/
import CodeSurvey.Graph.CallGraph
import CodeSurvey.Graph.Dependency
import CodeSurvey.Metrics.Repository
import CodeSurvey.Report.File
import CodeSurvey.Smell.Duplicates

namespace CodeSurvey

/-- Where a survey was made and how long it took. -/
structure Metadata where
  source : String
  seconds : Float

/-- The figures of a survey at a glance. -/
structure Summary where
  totalFiles : Nat
  analyzedFiles : Nat
  failedFiles : Nat
  totalFunctions : Nat
  totalClasses : Nat
  totalLines : Nat
  totalSmells : Nat
  smellsBySeverity : SmellSummary
  /-- The number of smells of each kind, in the order of their first smells. -/
  smellsByKind : List (String × Nat)
  averageComplexity : Float
  averageMaintainability : Float
  mostComplexFiles : List ComplexFile
  duplicateClusters : Nat
  recursiveFunctions : Nat
  hasCircularDependencies : Bool
  circularDependencies : Nat
  isolatedFiles : Nat

/-- The survey of a list of files. -/
structure Report where
  metadata : Option Metadata
  files : List FileReport
  dependencies : DependencyAnalysis
  calls : CallGraph
  callAnalysis : CallAnalysis
  duplicates : List DuplicateCluster
  metrics : RepositoryMetrics
  summary : Summary

/-- Counts by label, with one more for a label; a new label is put at the end. -/
def countLabel (label : String) : List (String × Nat) → List (String × Nat)
  | [] => [(label, 1)]
  | (l, n) :: counts =>
    if l = label then (l, n + 1) :: counts else (l, n) :: countLabel label counts

/-- The number of smells of each kind, in the order of their first smells. -/
def countKinds (smells : List Smell) : List (String × Nat) :=
  smells.foldl (fun counts s => countLabel s.kind.label counts) []

/-- The summary of a survey. -/
def summarize (files : List FileReport) (dependencies : DependencyAnalysis) (calls : CallAnalysis)
    (duplicates : List DuplicateCluster) (metrics : RepositoryMetrics) : Summary :=
  let smells := files.flatMap (·.smells)
  let bySeverity := SmellSummary.ofSmells smells
  let failed := files.countP (·.isFailed)
  { totalFiles := files.length
    analyzedFiles := files.length - failed
    failedFiles := failed
    totalFunctions := (files.map (·.outline.functions.length)).foldl (· + ·) 0
    totalClasses := (files.map (·.outline.classes.length)).foldl (· + ·) 0
    totalLines := (files.map (·.file.lineCount)).foldl (· + ·) 0
    totalSmells := bySeverity.total
    smellsBySeverity := bySeverity
    smellsByKind := countKinds smells
    averageComplexity := metrics.averageComplexity
    averageMaintainability := metrics.averageMaintainability
    mostComplexFiles := metrics.mostComplexFiles
    duplicateClusters := duplicates.length
    recursiveFunctions := calls.recursiveFunctions.length
    hasCircularDependencies := dependencies.hasCircular
    circularDependencies := dependencies.circularDependencies.length
    isolatedFiles := dependencies.isolatedFiles.length }

/-- The calls that keep functions alive in a scope. -/
def DeadCodeScope.liveness (scope : DeadCodeScope) (outlines : List Outline) : Liveness :=
  match scope with
  | .file => .file
  | .repository => .repository (calledNames outlines)

/-- The reports on the single files of a survey. -/
def surveyFiles (settings : Settings) (detectors : List Detector) (files : List SourceFile) :
    List FileReport :=
  let measured := files.map (measureFile settings.thresholds.maxComplexity)
  let outlines := measured.map (·.outline)
  let liveness := settings.deadCodeScope.liveness outlines
  detectSmells detectors settings.thresholds liveness files outlines measured

/-- Surveys a list of files. -/
def survey (settings : Settings) (detectors : List Detector) (files : List SourceFile) : Report :=
  let reports := surveyFiles settings detectors files
  let outlines := reports.map (·.outline)
  let dependencies := DependencyAnalysis.ofOutlines outlines
  let calls := CallGraph.ofOutlines outlines
  let callAnalysis := calls.analysis
  let duplicates := findDuplicates outlines
  let metrics := RepositoryMetrics.ofFiles (reports.map fun r => (r.file.path, r.metrics))
  { metadata := none
    files := reports
    dependencies := dependencies
    calls := calls
    callAnalysis := callAnalysis
    duplicates := duplicates
    metrics := metrics
    summary := summarize reports dependencies callAnalysis duplicates metrics }

/-- The warning about files that were not understood, if there are any. -/
def Summary.warnings (s : Summary) : List String :=
  if s.failedFiles = 0 then []
  else [toString s.failedFiles ++ " of " ++ toString s.totalFiles ++ " files failed to parse"]

/-- A number of thousandths of a second in seconds. -/
def secondsOfMillis (millis : Nat) : Float :=
  (millis / 1000).toFloat + (millis % 1000 * 1000000).toFloat / 1000000000

/-- Adds where a survey was made and how long it took. -/
def Report.withMetadata (r : Report) (source : String) (seconds : Float) : Report :=
  { r with metadata := some ⟨source, roundHundredth seconds⟩ }

end CodeSurvey
