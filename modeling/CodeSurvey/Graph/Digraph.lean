/-
# Directed graphs

A directed graph with named nodes.  Nodes are numbered in the order in which they are added, and
nodes and edges are added at most once.  Beside the lists of keys and edges a graph keeps an index of
the keys, a set of the edges and the neighbours of every node, which answer its questions.
-/
namespace CodeSurvey

/-- A directed graph whose nodes have a key and a label. -/
structure Digraph where
  keys : List String := []
  labels : List String := []
  /-- The node of each key, in no order that matters. -/
  index : List (String × Nat) := []
  /-- For each node, the nodes that its edges lead to, in the order of the edges. -/
  succ : List (List Nat) := []
  /-- For each node, the nodes whose edges lead to it, in the order of the edges. -/
  pred : List (List Nat) := []
  edges : List (Nat × Nat) := []
  /-- The edges once more, in no order that matters. -/
  edgeSet : List (Nat × Nat) := []
  deriving Repr, DecidableEq, Inhabited

namespace Digraph

/-- The graph without nodes. -/
def empty : Digraph := {}

/-! ## Views -/

/-- The number of nodes. -/
def nodeCount (g : Digraph) : Nat := g.keys.length

/-- The number of edges. -/
def edgeCount (g : Digraph) : Nat := g.edges.length

/-- All nodes, in order. -/
def nodes (g : Digraph) : List Nat := List.range g.nodeCount

/-- The node with a given key. -/
def node? (g : Digraph) (key : String) : Option Nat := g.index.lookup key

/-- The key of a node. -/
def key (g : Digraph) (v : Nat) : String := g.keys.getD v ""

/-- The label of a node. -/
def label (g : Digraph) (v : Nat) : String := g.labels.getD v ""

/-- The nodes that the edges of a node lead to. -/
def successors (g : Digraph) (v : Nat) : List Nat := g.succ.getD v []

/-- The nodes whose edges lead to a node. -/
def predecessors (g : Digraph) (v : Nat) : List Nat := g.pred.getD v []

/-- The number of edges that lead to a node. -/
def inDegree (g : Digraph) (v : Nat) : Nat := (g.predecessors v).length

/-- The number of edges that leave a node. -/
def outDegree (g : Digraph) (v : Nat) : Nat := (g.successors v).length

/-- Whether an edge leads from one node to another. -/
def hasEdge (g : Digraph) (u v : Nat) : Bool := g.edgeSet.contains (u, v)

/-! ## Building -/

/-- Adds a node.  A key that is known keeps its node and its label. -/
def addNode (g : Digraph) (key label : String) : Digraph :=
  if (g.node? key).isSome then g
  else
    { g with
      index := (key, g.nodeCount) :: g.index
      keys := g.keys ++ [key]
      labels := g.labels ++ [label]
      succ := g.succ ++ [[]]
      pred := g.pred ++ [[]] }

/-- Adds an edge between two nodes, if there is none. -/
def addEdge (g : Digraph) (u v : Nat) : Digraph :=
  if g.hasEdge u v then g
  else
    { g with
      edgeSet := (u, v) :: g.edgeSet
      succ := g.succ.modify u (· ++ [v])
      pred := g.pred.modify v (· ++ [u])
      edges := g.edges ++ [(u, v)] }

/-- Adds an edge between two keys; nothing is added if one of them has no node. -/
def link (g : Digraph) (source target : String) : Digraph :=
  match g.node? source, g.node? target with
  | some u, some v => g.addEdge u v
  | _, _ => g

/-! ## Rankings -/

/-- The nodes of positive degree with their degrees, by falling degree and in their own order where
the degrees are equal, at most `limit` of them. -/
def topBy (g : Digraph) (degree : Nat → Nat) (limit : Nat) : List (Nat × Nat) :=
  (((g.nodes.map fun v => (v, degree v)).filter (0 < ·.2)).mergeSort
    fun a b => b.2 ≤ a.2).take limit

end Digraph

end CodeSurvey
