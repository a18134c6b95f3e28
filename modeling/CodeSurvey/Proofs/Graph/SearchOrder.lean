/-
# Depth-first order

A depth-first search follows the successors of every node in their order.  So of two walks that part
at a node, it finds the one first that goes on to the earlier successor there.  A walk is therefore
known by its `turns`, the places of its nodes among the successors of the nodes before, and walks
are found in the lexicographic order of their turns.  Searches whose every step collects what is
found along one successor after the other keep to this order (`pairwise_precedes_flatMap`).
-/
import CodeSurvey.Graph.Digraph
import CodeSurvey.Proofs.Listing
import Mathlib.Data.List.Lex

namespace CodeSurvey

namespace Digraph

/-- The turns of a walk: the place of every node among the successors of the node before. -/
def turns (g : Digraph) : List Nat → List Nat
  | u :: v :: rest => (g.successors u).idxOf v :: turns g (v :: rest)
  | _ => []

/-- A depth-first search finds one walk before another: where they part, the first goes on to an
earlier successor. -/
def Precedes (g : Digraph) (p q : List Nat) : Prop := g.turns p < g.turns q

instance (g : Digraph) (p q : List Nat) : Decidable (g.Precedes p q) :=
  inferInstanceAs (Decidable (g.turns p < g.turns q))

section Turns

variable {g : Digraph}

/-- A walk turns as its two parts do. -/
theorem turns_append (above rest : List Nat) (v : Nat) :
    g.turns (above ++ v :: rest) = g.turns (above ++ [v]) ++ g.turns (v :: rest) := by
  induction above with
  | nil => rfl
  | cons u above ih =>
    cases above with
    | nil => rfl
    | cons w above =>
      simp only [List.cons_append, turns] at ih ⊢
      rw [ih]

/-- Walks that part at `v` are found in the order of the successors of `v`. -/
theorem precedes_of_parting {above p q : List Nat} {v w w' : Nat} (hp : above ++ [v, w] <+: p)
    (hq : above ++ [v, w'] <+: q)
    (hlt : (g.successors v).idxOf w < (g.successors v).idxOf w') : g.Precedes p q := by
  obtain ⟨more, rfl⟩ := hp
  obtain ⟨more', rfl⟩ := hq
  unfold Precedes
  rw [List.append_assoc, List.append_assoc]
  simp only [List.cons_append, List.nil_append]
  rw [turns_append, turns_append above (w' :: more'), turns, turns]
  exact List.append_left_lt (List.cons_lt_cons_iff.2 (Or.inl hlt))

/-- What is found along some successors of `v`, one after the other, is found in depth-first order.
An item `c` stands for the walk `walk c`. -/
theorem pairwise_precedes_flatMap (walk : List Nat → List Nat) (above : List Nat) {next : List Nat}
    {v : Nat} {items : Nat → List (List Nat)} (hnodup : (g.successors v).Nodup)
    (hnext : next.Sublist (g.successors v))
    (hitems : ∀ w ∈ next, (items w).Pairwise fun c c' => g.Precedes (walk c) (walk c'))
    (hwalk : ∀ w ∈ next, ∀ c ∈ items w, above ++ [v, w] <+: walk c) :
    (next.flatMap items).Pairwise fun c c' => g.Precedes (walk c) (walk c') := by
  rw [List.pairwise_flatMap]
  refine ⟨hitems, ?_⟩
  have hplaces := (pairwise_idxOf_lt hnodup).sublist hnext
  refine hplaces.imp_of_mem fun {w w'} hw hw' hlt c hc c' hc' => ?_
  exact precedes_of_parting (hwalk w hw c hc) (hwalk w' hw' c' hc') hlt

end Turns

end Digraph

end CodeSurvey
