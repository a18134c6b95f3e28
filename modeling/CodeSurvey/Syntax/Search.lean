/-
# Searching trees with a stack

A search looks at nodes of a tree one after the other.  The nodes still to look at stand on a stack,
where each gives way to nodes below it.  There are fewer of them after every turn, so a search comes to
an end, and what every turn keeps holds there (`search_induction`).
-/
import CodeSurvey.Syntax.Tree

namespace CodeSurvey

/-- A way to search trees. -/
structure TreeSearch (α : Type) where
  /-- The nodes that a node gives way to, the next one first. -/
  next : Tree → List Tree
  /-- What is found, given what was found before and the node that is looked at. -/
  note : α → Tree → α
  /-- There are no more nodes to look at than stand below the node. -/
  next_le : ∀ t, (Tree.preorderAll (next t)).length ≤ (Tree.preorderAll t.children).length

namespace TreeSearch

variable {α : Type}

/-- One turn of a search, given the nodes still to look at and what was found. -/
def step (s : TreeSearch α) : List Tree × α → List Tree × α
  | ([], found) => ([], found)
  | (t :: rest, found) => (s.next t ++ rest, s.note found t)

/-- A number of turns of a search. -/
def run (s : TreeSearch α) : Nat → List Tree × α → List Tree × α
  | 0, x => x
  | turns + 1, x => s.run turns (s.step x)

/-- What a search finds, given the nodes to begin with.  It takes one turn for each node at most. -/
def search (s : TreeSearch α) (pending : List Tree) (found : α) : α :=
  (s.run (Tree.preorderAll pending).length (pending, found)).2

/-! ## What a search keeps -/

/-- A turn leaves fewer nodes to look at. -/
theorem length_step (s : TreeSearch α) (x : List Tree × α) :
    (Tree.preorderAll (s.step x).1).length ≤ (Tree.preorderAll x.1).length - 1 := by
  obtain ⟨pending, found⟩ := x
  cases pending with
  | nil => exact Nat.le_refl _
  | cons t rest =>
    have hnext := s.next_le t
    rw [Tree.preorderAll_cons_eq, step, Tree.preorderAll_append, List.length_append,
      List.length_cons, Tree.preorderAll_append, List.length_append]
    omega

/-- What every turn keeps holds after one turn for each node, when nothing is left to look at. -/
theorem run_induction {s : TreeSearch α} {motive : List Tree → α → Prop}
    (step : ∀ t rest found, motive (t :: rest) found → motive (s.next t ++ rest) (s.note found t))
    {turns : Nat} {x : List Tree × α} (hturns : (Tree.preorderAll x.1).length ≤ turns)
    (h : motive x.1 x.2) : motive [] (s.run turns x).2 := by
  induction turns generalizing x with
  | zero =>
    obtain ⟨pending, found⟩ := x
    cases pending with
    | nil => exact h
    | cons t rest =>
      rw [Tree.preorderAll_cons_eq] at hturns
      exact absurd hturns (Nat.not_succ_le_zero _)
  | succ turns ih =>
    have hlength := s.length_step x
    refine ih (x := s.step x) (by omega) ?_
    obtain ⟨pending, found⟩ := x
    cases pending with
    | nil => exact h
    | cons t rest => exact step t rest found h

/-- What every turn keeps holds of what a search finds. -/
theorem search_induction {s : TreeSearch α} {motive : List Tree → α → Prop}
    (step : ∀ t rest found, motive (t :: rest) found → motive (s.next t ++ rest) (s.note found t))
    (pending : List Tree) (found : α) (h : motive pending found) :
    motive [] (s.search pending found) :=
  run_induction step (x := (pending, found)) (Nat.le_refl _) h

end TreeSearch

end CodeSurvey
