/-
# Strongly connected components

Two nodes are in the same component if each can be reached from the other.  One depth-first walk
finds all components.  It numbers the nodes as it enters them and keeps those whose component is
open on a stack.  Every node on the way has a low mark: the lowest number on the stack that it is
known to reach.  A node that is left with its own number as its low mark closes a component, which
is what lies on the stack from that node on.  So a component comes after those that its edges lead
to.
-/
import CodeSurvey.Graph.Digraph

namespace CodeSurvey

namespace Digraph

/-! ## The state of a walk -/

/-- A node on the way of a walk, and the number of its edges that were followed. -/
structure Frame where
  node : Nat
  followed : Nat := 0
  deriving Repr, DecidableEq

/-- The state of a walk. -/
structure Traversal where
  /-- For each node, its number in the order of entry, if it was entered. -/
  index : List (Option Nat)
  /-- For each node, its low mark. -/
  low : List Nat
  /-- For each node, whether it is on the stack. -/
  stacked : List Bool
  /-- The nodes whose component is open, the latest first. -/
  stack : List Nat := []
  /-- The way to the current node, the latest first. -/
  frames : List Frame := []
  /-- The number of the next node that is entered. -/
  next : Nat := 0
  /-- The components that are closed. -/
  components : List (List Nat) := []
  deriving Repr, DecidableEq

namespace Traversal

/-- The state before a walk through some number of nodes. -/
def start (n : Nat) : Traversal :=
  { index := List.replicate n none
    low := List.replicate n 0
    stacked := List.replicate n false }

/-- The number of a node, if it was entered. -/
def index? (t : Traversal) (v : Nat) : Option Nat := t.index.getD v none

/-- The low mark of a node. -/
def lowOf (t : Traversal) (v : Nat) : Nat := t.low.getD v 0

/-- Whether a node is on the stack. -/
def isStacked (t : Traversal) (v : Nat) : Bool := t.stacked.getD v false

/-- Enters a node. -/
def enter (t : Traversal) (v : Nat) : Traversal :=
  { t with
    index := t.index.set v (some t.next)
    low := t.low.set v t.next
    stacked := t.stacked.set v true
    stack := v :: t.stack
    frames := ⟨v, 0⟩ :: t.frames
    next := t.next + 1 }

/-- Lowers the low mark of a node, if it is higher. -/
def lower (t : Traversal) (v mark : Nat) : Traversal :=
  { t with low := t.low.set v (min (t.lowOf v) mark) }

/-- Takes nodes from a stack, up to and with a given node. -/
def popThrough (v : Nat) : List Nat → List Nat × List Nat
  | [] => ([], [])
  | w :: stack =>
    if w = v then ([w], stack)
    else
      let (taken, rest) := popThrough v stack
      (w :: taken, rest)

/-- Closes the component of a node. -/
def close (t : Traversal) (v : Nat) : Traversal :=
  let (taken, rest) := popThrough v t.stack
  { t with
    stack := rest
    stacked := taken.foldl (fun flags w => flags.set w false) t.stacked
    components := t.components ++ [taken.reverse] }

end Traversal

/-! ## Walks -/

/-- Follows an edge to a node. -/
def follow (keep : Nat → Bool) (t : Traversal) (v w : Nat) : Traversal :=
  if keep w then
    match t.index? w with
    | none => t.enter w
    | some i => if t.isStacked w then t.lower v i else t
  else t

/-- Leaves a node.  The node before it on the way, if there is one, reaches what this one reaches. -/
def leave (t : Traversal) (v : Nat) : Traversal :=
  let t := match t.frames with
    | [] => t
    | parent :: _ => t.lower parent.node (t.lowOf v)
  if t.index? v = some (t.lowOf v) then t.close v else t

/-- One step of a walk: it follows the next edge of the current node, or leaves the node. -/
def step (g : Digraph) (keep : Nat → Bool) (t : Traversal) : Traversal :=
  match t.frames with
  | [] => t
  | f :: frames =>
    match (g.successors f.node)[f.followed]? with
    | some w =>
      follow keep { t with frames := { f with followed := f.followed + 1 } :: frames } f.node w
    | none => leave { t with frames := frames } f.node

/-- Goes on with a walk until its way is empty. -/
def walkFrom (g : Digraph) (keep : Nat → Bool) : Nat → Traversal → Traversal
  | 0, t => t
  | fuel + 1, t => if t.frames.isEmpty then t else walkFrom g keep fuel (step g keep t)

/-- Walks from a node, if it is kept and was not entered.  No node is left twice and no edge is
followed twice. -/
def walkRoot (g : Digraph) (keep : Nat → Bool) (t : Traversal) (root : Nat) : Traversal :=
  if keep root && (t.index? root).isNone then
    walkFrom g keep (g.nodeCount + g.edgeCount) (t.enter root)
  else t

/-! ## Components -/

/-- The components of the kept part of a graph that walks from some nodes find. -/
def componentsWithin (g : Digraph) (keep : Nat → Bool) (roots : List Nat) : List (List Nat) :=
  (roots.foldl (walkRoot g keep) (Traversal.start g.nodeCount)).components

/-- The strongly connected components, in the order in which the walk closes them.  The nodes of each
are in the order in which the walk enters them. -/
def components (g : Digraph) : List (List Nat) :=
  g.componentsWithin (fun _ => true) g.nodes

/-- The component of a node in the part of the graph whose nodes are not below it. -/
def componentAbove? (g : Digraph) (start : Nat) : Option (List Nat) :=
  (g.componentsWithin (start ≤ ·) [start]).find? (·.contains start)

end Digraph

end CodeSurvey
