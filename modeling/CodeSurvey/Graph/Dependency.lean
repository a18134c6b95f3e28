/-
# Dependencies between files

A file depends on another if it imports a module whose name, written as a path, stands within the
path of the other file.  The first such file is meant.
-/
import CodeSurvey.Graph.Circuits
import CodeSurvey.Outline.Basic
import CodeSurvey.Text.Basic

namespace CodeSurvey

/-! ## Building -/

/-- The paths that an import may stand for, in order. -/
def importPaths (i : ImportEntry) : List (List Char) :=
  (i.modules.filter (· ≠ "")).map fun m =>
    m.toList.map fun c => if c = '.' then '/' else c

/-- The first path, other than the importing file's, that a piece of path stands within. -/
def importTarget? (paths : List String) (importer : String) (piece : List Char) :
    Option String :=
  paths.find? fun p => p ≠ importer && isWithin piece p.toList

/-- The last part of a path. -/
def pathLabel (path : String) : String :=
  (splitText '/' path).getLastD path

/-- The files that an outline's imports lead to, in order. -/
def importTargets (paths : List String) (o : Outline) : List String :=
  (o.imports.flatMap importPaths).filterMap (importTarget? paths o.path)

/-- The graph whose nodes are the files and whose edges lead from a file to those that it
imports. -/
def dependencyGraph (outlines : List Outline) : Digraph :=
  let paths := outlines.map (·.path)
  let nodes := paths.foldl (fun g p => g.addNode p (pathLabel p)) Digraph.empty
  outlines.foldl
    (fun g o => (importTargets paths o).foldl (fun g t => g.link o.path t) g) nodes

/-! ## Analysis -/

/-- A file with a number of other files. -/
structure FileCount where
  file : String
  count : Nat
  deriving Repr, DecidableEq

/-- What the dependencies show. -/
structure DependencyAnalysis where
  graph : Digraph
  /-- For each file with dependencies, the files that it depends on. -/
  fileDependencies : List (String × List String)
  mostDependedUpon : List FileCount
  mostDependencies : List FileCount
  circularDependencies : List (List String)
  isolatedFiles : List String
  deriving Repr, DecidableEq

/-- The length of the rankings of files. -/
def topFiles : Nat := 5

/-- The number of circular dependencies that are listed. -/
def maxCircularDependencies : Nat := 5

/-- What a graph of dependencies shows. -/
def DependencyAnalysis.ofGraph (g : Digraph) : DependencyAnalysis :=
  let counts (ranked : List (Nat × Nat)) := ranked.map fun (v, n) => ⟨g.key v, n⟩
  { graph := g
    fileDependencies := (g.nodes.filter fun v => 0 < g.outDegree v).map fun v =>
      (g.key v, (g.successors v).map g.key)
    mostDependedUpon := counts (g.topBy g.inDegree topFiles)
    mostDependencies := counts (g.topBy g.outDegree topFiles)
    circularDependencies := (g.circuits maxCircularDependencies).map (·.map g.key)
    isolatedFiles :=
      (g.nodes.filter fun v => g.inDegree v + g.outDegree v = 0).map g.key }

/-- Whether some files depend on each other. -/
def DependencyAnalysis.hasCircular (a : DependencyAnalysis) : Bool :=
  !a.circularDependencies.isEmpty

/-- What the imports of some files show. -/
def DependencyAnalysis.ofOutlines (outlines : List Outline) : DependencyAnalysis :=
  .ofGraph (dependencyGraph outlines)

end CodeSurvey
