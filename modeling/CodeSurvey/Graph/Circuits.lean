/-
# Elementary circuits

An elementary circuit is a closed path that visits no node twice.  Every circuit is written from
its lowest node.  There are two searches: one that remembers which nodes cannot lead back for now
and leaves them out, and one that follows all paths up to a given length.
-/
import CodeSurvey.Graph.Components

namespace CodeSurvey

namespace Digraph

/-! ## Search with blocked nodes -/

/-- The state of a search.  A blocked node is left out until a node that it waits for is
released. -/
structure Search where
  blocked : List Nat := []
  /-- Pairs of a node and one that waits for it. -/
  waiting : List (Nat × Nat) := []
  /-- The circuits found so far. -/
  found : List (List Nat) := []
  deriving Repr, DecidableEq

namespace Search

/-- Blocks a node. -/
def block (s : Search) (v : Nat) : Search :=
  { s with blocked := v :: s.blocked }

/-- The nodes that wait for a node. -/
def waitersOf (s : Search) (v : Nat) : List Nat :=
  (s.waiting.filter (·.1 = v)).map (·.2)

/-- Forgets all blocks of some nodes and who waits for them. -/
def clear (s : Search) (nodes : List Nat) : Search :=
  { s with
    blocked := s.blocked.filter (!nodes.contains ·)
    waiting := s.waiting.filter (!nodes.contains ·.1) }

/-- Takes the block from a node and forgets who waited for it. -/
def release (s : Search) (v : Nat) : Search :=
  { s with
    blocked := s.blocked.filter (· ≠ v)
    waiting := s.waiting.filter (·.1 ≠ v) }

/-- Releases a node, and in turn the blocked nodes that wait for it. -/
def unblockFrom : Nat → Search → Nat → Search
  | 0, s, _ => s
  | fuel + 1, s, v =>
    (s.waitersOf v).foldl
      (fun s w => if s.blocked.contains w then unblockFrom fuel s w else s) (s.release v)

/-- Releases a node, and in turn the blocked nodes that wait for it. -/
def unblock (s : Search) (v : Nat) : Search :=
  unblockFrom s.blocked.length s v

/-- Lets a node wait for several others. -/
def await (s : Search) (v : Nat) (others : List Nat) : Search :=
  others.foldl
    (fun s w => if s.waiting.contains (w, v) then s
      else { s with waiting := s.waiting ++ [(w, v)] }) s

/-- Adds a circuit to those found. -/
def record (s : Search) (circuit : List Nat) : Search :=
  { s with found := s.found ++ [circuit] }

end Search

/-- Goes on with a search along an edge to `w`: `path` is recorded if it is closed, and `visit` goes
on from a node that is not blocked.  Says whether this or an earlier edge led back to `start`. -/
def followEdge (start limit : Nat) (path : List Nat) (visit : Nat → Search → Bool × Search)
    (r : Bool × Search) (w : Nat) : Bool × Search :=
  let (found, s) := r
  if limit ≤ s.found.length then (found, s)
  else if w = start then (true, s.record path)
  else if s.blocked.contains w then (found, s)
  else
    let (again, s) := visit w s
    (found || again, s)

/-- Follows the paths through `v` in a component.  Says whether one of them led back to `start`.  The
node stays blocked if none did. -/
def circuitFrom (g : Digraph) (component : List Nat) (start limit : Nat) :
    Nat → List Nat → Nat → Search → Bool × Search
  | 0, _, _, s => (false, s)
  | fuel + 1, above, v, s =>
    let path := above ++ [v]
    let next := (g.successors v).filter component.contains
    let (found, s) := next.foldl
      (followEdge start limit path (circuitFrom g component start limit fuel path))
      (false, s.block v)
    (found, if found then s.unblock v else s.await v next)

/-- Adds the circuits whose lowest node is `start`.  What was remembered about the nodes of its
component is forgotten first. -/
def addCircuitsAt (g : Digraph) (limit : Nat) (s : Search) (start : Nat) : Search :=
  if limit ≤ s.found.length then s
  else
    match g.componentAbove? start with
    | none => s
    | some component =>
      if component.length = 1 && !g.hasEdge start start then s
      else
        (circuitFrom g component start limit component.length [] start (s.clear component)).2

/-- The elementary circuits, at most `limit` of them. -/
def circuits (g : Digraph) (limit : Nat) : List (List Nat) :=
  (g.nodes.foldl (addCircuitsAt g limit) {}).found

/-! ## Search along all paths -/

/-- Follows all paths of at most `maxLength` nodes that begin with `path`, whose last node is
`v`. -/
def boundedFrom (g : Digraph) (maxLength limit start : Nat) :
    Nat → List Nat → Nat → List (List Nat) → List (List Nat)
  | 0, _, _, found => found
  | fuel + 1, path, v, found =>
    (g.successors v).foldl
      (fun found w =>
        if limit ≤ found.length then found
        else if w = start then found ++ [path]
        else if start < w && !path.contains w && path.length < maxLength then
          boundedFrom g maxLength limit start fuel (path ++ [w]) w found
        else found)
      found

/-- The elementary circuits of at most `maxLength` nodes, at most `limit` of them. -/
def circuitsUpTo (g : Digraph) (maxLength limit : Nat) : List (List Nat) :=
  g.nodes.foldl
    (fun found start => boundedFrom g maxLength limit start g.nodeCount [start] start found) []

end Digraph

end CodeSurvey
