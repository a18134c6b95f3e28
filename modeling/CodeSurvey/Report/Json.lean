/-
# Reports as JSON

The JSON form of reports.
-/
import CodeSurvey.Graph.Json
import CodeSurvey.Metrics.Json
import CodeSurvey.Outline.Json
import CodeSurvey.Report.Basic
import CodeSurvey.Smell.Json

namespace CodeSurvey

/-- The JSON form of a fault report. -/
def FaultReport.toJson (r : FaultReport) : Json :=
  .obj [
    ("path", .str r.path),
    ("line", .nat r.line),
    ("column", .nat r.column),
    ("message", .str r.message)]

/-- The members of an object that say whether a file could be read. -/
def statusMembers (path : String) : Option Fault → List (String × Json)
  | none => [("status", .str "analyzed")]
  | some fault => [("status", .str "failed"), ("error", (fault.report path).toJson)]

/-- The JSON form of the report on a file. -/
def FileReport.toJson (r : FileReport) : Json :=
  .obj (
    [("path", .str r.file.path),
      ("size", .nat r.file.size),
      ("line_count", .nat r.file.lineCount)] ++
    statusMembers r.file.path r.fault ++
    [("unit", r.outline.toJson),
      ("metrics", r.metrics.toJson),
      ("smells", .arr (r.smells.map Smell.toJson))])

/-- The JSON form of a summary. -/
def Summary.toJson (s : Summary) : Json :=
  .obj [
    ("total_files", .nat s.totalFiles),
    ("analyzed_files", .nat s.analyzedFiles),
    ("failed_files", .nat s.failedFiles),
    ("total_functions", .nat s.totalFunctions),
    ("total_classes", .nat s.totalClasses),
    ("total_lines_of_code", .nat s.totalLines),
    ("total_code_smells", .nat s.totalSmells),
    ("smells_by_severity", s.smellsBySeverity.toJson),
    ("smells_by_type", .obj (s.smellsByKind.map fun (l, n) => (l, .nat n))),
    ("average_complexity", .num s.averageComplexity),
    ("average_maintainability", .num s.averageMaintainability),
    ("most_complex_files", .arr (s.mostComplexFiles.map ComplexFile.toJson)),
    ("duplicate_clusters", .nat s.duplicateClusters),
    ("recursive_functions", .nat s.recursiveFunctions),
    ("dependency_analysis", .obj [
      ("has_circular_dependencies", .bool s.hasCircularDependencies),
      ("circular_dependencies", .nat s.circularDependencies),
      ("isolated_files", .nat s.isolatedFiles)])]

/-- The JSON form of where a survey was made and how long it took. -/
def Metadata.toJson (m : Metadata) : Json :=
  .obj [("source", .str m.source), ("analysis_time_seconds", .num m.seconds)]

/-- The members of the JSON form of a report; metadata is left out if there is none. -/
def Report.members (r : Report) : List (String × Json) :=
  (r.metadata.map fun m => ("metadata", m.toJson)).toList ++
  [("files", .arr (r.files.map FileReport.toJson)),
    ("dependencies", r.dependencies.toJson),
    ("call_graph", .obj [
      ("graph", r.calls.graph.toJson),
      ("analysis", r.callAnalysis.toJson)]),
    ("duplicates", .arr (r.duplicates.map DuplicateCluster.toJson)),
    ("repository_metrics", r.metrics.toJson),
    ("summary", r.summary.toJson)]

/-- The JSON form of a report. -/
def Report.toJson (r : Report) : Json :=
  .obj r.members

end CodeSurvey
