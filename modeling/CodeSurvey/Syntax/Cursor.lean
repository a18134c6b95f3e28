/-
# Cursors

A cursor stands at a node of a tree.  It moves to the first node below, to the next node beside it
or to the node above, and fails where there is none.  With these moves alone it goes through a tree
in source order.  Each time it has one node less ahead (`ahead_eq_cons`), so it comes to an end.
-/
import CodeSurvey.Syntax.Tree

namespace CodeSurvey

/-- A place in a tree. -/
structure Cursor where
  node : Tree
  /-- The nodes that follow it below the same node. -/
  later : List Tree := []
  /-- The nodes above it, the nearest first, each with those that follow it. -/
  above : List (Tree × List Tree) := []
  deriving Repr

namespace Cursor

/-- The cursor at the root of a tree. -/
def ofRoot (root : Tree) : Cursor := { node := root }

/-! ## Moves -/

/-- Moves to the first node below. -/
def firstChild? (c : Cursor) : Option Cursor :=
  match c.node.children with
  | [] => none
  | t :: ts => some ⟨t, ts, (c.node, c.later) :: c.above⟩

/-- Moves to the node that follows below the same node. -/
def nextSibling? (c : Cursor) : Option Cursor :=
  match c.later with
  | [] => none
  | t :: ts => some ⟨t, ts, c.above⟩

/-- Moves to the node above. -/
def parent? (c : Cursor) : Option Cursor :=
  match c.above with
  | [] => none
  | (t, ts) :: above => some ⟨t, ts, above⟩

theorem above_of_parent? {c p : Cursor} (h : c.parent? = some p) :
    c.above = (p.node, p.later) :: p.above := by
  unfold parent? at h
  split at h
  · cases h
  · next habove =>
    cases h
    exact habove

/-- Moves up until a node follows, and then to that node. -/
@[semireducible] def climb? (c : Cursor) : Option Cursor :=
  match _h : c.parent? with
  | none => none
  | some p =>
    match p.nextSibling? with
    | some d => some d
    | none => p.climb?
termination_by c.above.length
decreasing_by
  rw [above_of_parent? _h]
  exact Nat.lt_succ_self _

/-- Moves to the next node of the tree in source order. -/
def advance? (c : Cursor) : Option Cursor :=
  c.firstChild? <|> c.nextSibling? <|> c.climb?

/-! ## What lies ahead -/

/-- The nodes that come after a node and those below it, in source order. -/
def beyond (c : Cursor) : List Tree :=
  Tree.preorderAll c.later ++ c.above.flatMap fun p => Tree.preorderAll p.2

/-- The nodes that a cursor has not left, in source order. -/
def ahead (c : Cursor) : List Tree :=
  c.node :: (Tree.preorderAll c.node.children ++ c.beyond)

/-- The first of some nodes and what lies ahead of it. -/
theorem ahead_eq_preorderAll (t : Tree) (ts : List Tree) (above : List (Tree × List Tree)) :
    ahead ⟨t, ts, above⟩ =
      Tree.preorderAll (t :: ts) ++ above.flatMap fun p => Tree.preorderAll p.2 := by
  cases t with
  | node k f s e cs =>
    rw [Tree.preorderAll, Tree.preorder]
    simp only [ahead, beyond, Tree.children, List.cons_append, List.append_assoc]

theorem ahead_firstChild? (c : Cursor) :
    c.firstChild?.elim c.beyond ahead = Tree.preorderAll c.node.children ++ c.beyond := by
  unfold firstChild?
  split
  · next hnone =>
    rw [hnone, Tree.preorderAll]
    rfl
  · next t ts hsome =>
    rw [hsome, Option.elim_some, ahead_eq_preorderAll, List.flatMap_cons]
    rfl

theorem ahead_nextSibling? (c : Cursor) :
    c.nextSibling?.elim (c.above.flatMap fun p => Tree.preorderAll p.2) ahead = c.beyond := by
  unfold nextSibling? beyond
  split
  · next hnone =>
    rw [hnone, Tree.preorderAll]
    rfl
  · next t ts hsome => rw [hsome, Option.elim_some, ahead_eq_preorderAll]

theorem ahead_climb? (c : Cursor) :
    c.climb?.elim [] ahead = c.above.flatMap fun p => Tree.preorderAll p.2 := by
  fun_induction climb? c with
  | case1 c hroot =>
    have habove : c.above = [] := by
      unfold parent? at hroot
      split at hroot
      · assumption
      · cases hroot
    rw [habove]
    rfl
  | case2 c p hparent d hnext =>
    have hd := ahead_nextSibling? p
    rw [hnext, Option.elim_some] at hd
    rw [above_of_parent? hparent, List.flatMap_cons]
    exact hd
  | case3 c p hparent hnext ih =>
    have hp := ahead_nextSibling? p
    rw [hnext, Option.elim_none] at hp
    rw [above_of_parent? hparent, List.flatMap_cons, ih]
    exact hp

/-- Going on leaves one node behind. -/
theorem ahead_eq_cons (c : Cursor) : c.ahead = c.node :: c.advance?.elim [] ahead := by
  have hchild := ahead_firstChild? c
  have hnext := ahead_nextSibling? c
  have hclimb := ahead_climb? c
  rw [ahead, ← hchild, advance?]
  cases c.firstChild? with
  | some d => rfl
  | none =>
    rw [← hnext]
    cases c.nextSibling? with
    | some d => rfl
    | none =>
      rw [← hclimb]
      rfl

theorem length_ahead_lt {c d : Cursor} (h : c.advance? = some d) :
    d.ahead.length < c.ahead.length := by
  rw [ahead_eq_cons c, h]
  exact Nat.lt_succ_self _

/-! ## Searching -/

/-- Goes on through a tree until a node gives an answer. -/
@[semireducible] def findSome? {α : Type} (f : Tree → Option α) (c : Cursor) : Option α :=
  match f c.node with
  | some a => some a
  | none =>
    match _h : c.advance? with
    | none => none
    | some d => d.findSome? f
termination_by c.ahead.length
decreasing_by exact length_ahead_lt _h

end Cursor

end CodeSurvey
