/-
# Graphs as JSON

The JSON form of graphs and of what they show.
-/
import CodeSurvey.Graph.CallGraph
import CodeSurvey.Graph.Dependency
import CodeSurvey.Json.Basic

namespace CodeSurvey

/-- The JSON form of a graph: its nodes with their degrees, and its edges by the keys of their
ends. -/
def Digraph.toJson (g : Digraph) : Json :=
  .obj [
    ("nodes", .arr (g.nodes.map fun v =>
      .obj [
        ("id", .str (g.key v)),
        ("label", .str (g.label v)),
        ("in_degree", .nat (g.inDegree v)),
        ("out_degree", .nat (g.outDegree v))])),
    ("edges", .arr (g.edges.map fun (u, v) =>
      .obj [("source", .str (g.key u)), ("target", .str (g.key v))]))]

/-! ## Calls -/

/-- The JSON form of a definition; the class is left out if there is none. -/
def FunctionDefinition.toJson (d : FunctionDefinition) : Json :=
  .obj ([("id", .str d.id), ("name", .str d.name), ("file", .str d.file)] ++
    (d.className.map fun c => ("class_name", Json.str c)).toList ++
    [("line", .nat d.line), ("complexity", .nat d.complexity)])

/-- The JSON form of what a call may mean. -/
def Resolution.toJson : Resolution → Json
  | unresolved => .obj [("status", .str "unresolved")]
  | unique t => .obj [("status", .str "unique"), ("targets", .str t)]
  | ambiguous ts => .obj [("status", .str "ambiguous"), ("targets", .strs ts)]

/-- The JSON form of a call. -/
def CallSite.toJson (s : CallSite) : Json :=
  .obj [("caller", .str s.caller), ("name", .str s.name), ("resolution", s.resolution.toJson)]

/-- The JSON form of a function with a number of calls. -/
def CallCount.toJson (c : CallCount) : Json :=
  .obj [("function", .str c.function), ("name", .str c.name), ("calls", .nat c.calls)]

/-- The JSON form of what the call graph shows. -/
def CallAnalysis.toJson (a : CallAnalysis) : Json :=
  .obj [
    ("total_functions", .nat a.totalFunctions),
    ("total_calls", .nat a.totalCalls),
    ("most_called", .arr (a.mostCalled.map CallCount.toJson)),
    ("most_calls", .arr (a.mostCalls.map CallCount.toJson)),
    ("recursive_functions", .arr (a.recursiveFunctions.map fun f =>
      .obj [("function", .str f.function), ("name", .str f.name)])),
    ("dead_end_functions", .nat a.deadEnds),
    ("average_calls_per_function", .num a.averageCalls),
    ("unique_calls", .nat a.uniqueCalls),
    ("ambiguous_calls", .nat a.ambiguousCalls),
    ("unresolved_calls", .nat a.unresolvedCalls)]

/-! ## Dependencies -/

/-- The JSON form of what the dependencies show. -/
def DependencyAnalysis.toJson (a : DependencyAnalysis) : Json :=
  .obj [
    ("total_files", .nat a.graph.nodeCount),
    ("graph", a.graph.toJson),
    ("file_dependencies", .obj (a.fileDependencies.map fun (f, ts) => (f, .strs ts))),
    ("most_depended_upon", .arr (a.mostDependedUpon.map fun f =>
      .obj [("file", .str f.file), ("dependents", .nat f.count)])),
    ("most_dependencies", .arr (a.mostDependencies.map fun f =>
      .obj [("file", .str f.file), ("dependencies", .nat f.count)])),
    ("circular_dependencies", .arr (a.circularDependencies.map Json.strs)),
    ("isolated_files", .strs a.isolatedFiles),
    ("has_circular_dependencies", .bool a.hasCircular)]

end CodeSurvey
