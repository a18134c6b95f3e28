/-
# Components and reachability

The components of a graph divide its nodes: every node is in exactly one of them.  Two nodes are in
the same component if and only if each can be reached from the other, and an edge that leaves a
component leads to one that is listed earlier (`components_divide_nodes`).  The component of a node
in the part of the graph whose nodes are not below it has the same property in that part
(`componentAbove?_spec`).
-/
import CodeSurvey.Proofs.Graph.Traversal
import Mathlib.Algebra.Order.BigOperators.Group.Finset

namespace CodeSurvey

namespace Digraph

open Relation

/-- One node can be reached from another along edges. -/
def Reaches (g : Digraph) (u v : Nat) : Prop := ReflTransGen g.Edge u v

/-! ## Walks from several nodes -/

/-- A walk whose way is empty. -/
structure AtRest (g : Digraph) (keep : Nat → Bool) (t : Traversal) : Prop where
  sound : g.Sound keep t []
  frames : t.frames = []

section Roots

variable {g : Digraph} {keep : Nat → Bool} {t : Traversal}

theorem atRest_start (g : Digraph) (keep : Nat → Bool) :
    g.AtRest keep (Traversal.start g.nodeCount) := by
  have hnone (v : Nat) : (Traversal.start g.nodeCount).index? v = none := by
    show (List.replicate g.nodeCount none).getD v none = none
    rw [List.getD_eq_getElem?_getD, List.getElem?_replicate]
    split <;> rfl
  have hnew (v : Nat) : ¬ (Traversal.start g.nodeCount).Entered v := by
    rw [Traversal.Entered, hnone]
    exact Bool.false_ne_true
  -- no node is entered yet, so little is to be checked but the sizes
  refine ⟨?_, rfl⟩
  constructor
  · exact Traversal.sized_start g.nodeCount
  · intro v
    show (Traversal.start g.nodeCount).Entered v ↔ v ∈ [] ∨ v ∈ List.flatten []
    simp [hnew v]
  · exact fun v hv => absurd hv (hnew v)
  · exact fun v hv => absurd hv (hnew v)
  · exact List.Pairwise.nil
  · exact List.nodup_nil
  · intro v
    show (List.replicate g.nodeCount false).getD v false = true ↔ v ∈ []
    rw [List.getD_eq_getElem?_getD, List.getElem?_replicate]
    split <;> simp
  · rfl
  · exact List.Forall₂.nil
  · exact List.isChain_nil
  · intro before component after heq
    exact absurd heq.symm (List.append_ne_nil_of_right_ne_nil _ (List.cons_ne_nil _ _))

/-- A walk that starts from rest follows every edge and leaves every node at most once. -/
theorem AtRest.remaining_le (hg : g.Consistent) (h : g.AtRest keep t) :
    g.remaining t ≤ g.nodeCount + g.edgeCount := by
  calc g.remaining t
      = g.stepsToEnter t.index := by rw [remaining, h.frames, stepsOnWay, Nat.add_zero]
    _ ≤ ∑ v ∈ Finset.range g.nodeCount, (g.outDegree v + 1) :=
        Finset.sum_le_sum_of_subset (Finset.filter_subset _ _)
    _ = g.nodeCount + g.edgeCount := by
        rw [Finset.sum_add_distrib, hg.sum_outDegree, ← Finset.card_eq_sum_ones,
          Finset.card_range, Nat.add_comm]

/-- A walk from a node comes to rest, and the node was entered if it is kept. -/
theorem AtRest.walkRoot (hg : g.Consistent) (h : g.AtRest keep t) {root : Nat}
    (hroot : root < g.nodeCount) :
    g.AtRest keep (walkRoot g keep t root) ∧
      (∀ v, t.Entered v → (walkRoot g keep t root).Entered v) ∧
      (keep root = true → (walkRoot g keep t root).Entered root) := by
  unfold Digraph.walkRoot
  by_cases hkeep : keep root = true
  · by_cases hentered : t.Entered root
    · have hisNone : (t.index? root).isNone = false := by
        rw [Traversal.Entered] at hentered
        rw [← Option.not_isSome, hentered]
        rfl
      rw [if_neg (by rw [hisNone, Bool.and_false]; exact Bool.false_ne_true)]
      exact ⟨h, fun v hv => hv, fun _ => hentered⟩
    · have hisNone : (t.index? root).isNone = true := by
        rw [Traversal.Entered, Bool.not_eq_true] at hentered
        rw [← Option.not_isSome, hentered]
        rfl
      rw [if_pos (by rw [hkeep, hisNone]; rfl)]
      have hsound : g.Sound keep (t.enter root) [[root]] := by
        have henter := h.sound.enter hentered hroot hkeep t.frames
        rw [h.frames] at henter
        have := henter List.Forall₂.nil (List.isChain_singleton _)
        rw [← h.frames] at this
        exact this
      -- the steps left are at most one for each node and each edge
      have hfuel : g.remaining (t.enter root) ≤ g.nodeCount + g.edgeCount := by
        rw [remaining_enter h.sound.sized hroot hentered]
        exact h.remaining_le hg
      obtain ⟨hdone, hframes, hkept⟩ := walkFrom_sound hg hsound hfuel
      have hentered_enter := h.sound.sized.entered_enter hroot
      exact ⟨⟨hdone, hframes⟩, fun v hv => hkept v ((hentered_enter v).2 (Or.inr hv)),
        fun _ => hkept root ((hentered_enter root).2 (Or.inl rfl))⟩
  · rw [if_neg (by simp [hkeep])]
    exact ⟨h, fun v hv => hv, fun hk => absurd hk hkeep⟩

/-- Walks from several nodes come to rest, and all of these nodes that are kept were entered. -/
theorem AtRest.foldl_walkRoot (hg : g.Consistent) (h : g.AtRest keep t) {roots : List Nat}
    (hroots : ∀ root ∈ roots, root < g.nodeCount) :
    g.AtRest keep (roots.foldl (Digraph.walkRoot g keep) t) ∧
      (∀ v, t.Entered v → (roots.foldl (Digraph.walkRoot g keep) t).Entered v) ∧
      ∀ root ∈ roots, keep root = true →
        (roots.foldl (Digraph.walkRoot g keep) t).Entered root := by
  induction roots generalizing t with
  | nil => exact ⟨h, fun v hv => hv, fun root hroot => absurd hroot List.not_mem_nil⟩
  | cons root roots ih =>
    rw [List.foldl_cons]
    obtain ⟨hrest, hkept, hself⟩ := h.walkRoot hg (hroots root List.mem_cons_self)
    obtain ⟨hrest', hkept', hroots'⟩ :=
      ih hrest (fun r hr => hroots r (List.mem_cons_of_mem root hr))
    refine ⟨hrest', fun v hv => hkept' v (hkept v hv), fun r hr hkeep => ?_⟩
    rcases List.mem_cons.1 hr with rfl | hr
    · exact hkept' r (hself hkeep)
    · exact hroots' r hr hkeep

end Roots

/-! ## Components within a part of a graph -/

/-- What is known of the components that walks find. -/
structure ComponentsOf (g : Digraph) (keep : Nat → Bool) (components : List (List Nat)) : Prop where
  closed : g.ClosedInOrder keep components
  nodup : components.flatten.Nodup
  kept : ∀ v ∈ components.flatten, v < g.nodeCount ∧ keep v = true

section Within

variable {g : Digraph} {keep : Nat → Bool} {components : List (List Nat)}

/-- The components that walks from some nodes find hold all of these nodes that are kept. -/
theorem componentsWithin_spec (hg : g.Consistent) (keep : Nat → Bool) (roots : List Nat)
    (hroots : ∀ root ∈ roots, root < g.nodeCount) :
    g.ComponentsOf keep (g.componentsWithin keep roots) ∧
      ∀ root ∈ roots, keep root = true → root ∈ (g.componentsWithin keep roots).flatten := by
  obtain ⟨⟨hsound, -⟩, -, hentered⟩ := (atRest_start g keep).foldl_walkRoot hg hroots
  unfold componentsWithin
  have hstack := hsound.stack_eq
  rw [List.flatten_nil] at hstack
  have hmem (v : Nat) (hv : (roots.foldl (walkRoot g keep)
      (Traversal.start g.nodeCount)).Entered v) :
      v ∈ (roots.foldl (walkRoot g keep) (Traversal.start g.nodeCount)).components.flatten := by
    refine ((hsound.entered_iff v).1 hv).resolve_left ?_
    rw [hstack]
    exact List.not_mem_nil
  refine ⟨⟨hsound.closed, ?_, fun v hv => ?_⟩, fun root hroot hkeep => ?_⟩
  · have hnodup := hsound.nodup
    rw [hstack, List.nil_append] at hnodup
    exact hnodup
  · exact hsound.entered_kept v ((hsound.entered_iff v).2 (Or.inr hv))
  · exact hmem root (hentered root hroot hkeep)

/-- The components up to some point are closed in order. -/
theorem ClosedInOrder.of_append {before after : List (List Nat)}
    (h : g.ClosedInOrder keep (before ++ after)) : g.ClosedInOrder keep before := by
  intro front component back heq
  refine h front component (back ++ after) ?_
  rw [heq, List.append_assoc]
  rfl

/-- Only nodes of components can be reached from nodes of components. -/
theorem ClosedInOrder.mem_flatten_of_reaches (h : g.ClosedInOrder keep components) {u v : Nat}
    (hu : u ∈ components.flatten) (huv : g.ReachesWithin keep u v) : v ∈ components.flatten := by
  induction huv with
  | refl => exact hu
  | @tail x w _ hedge ih =>
    obtain ⟨component, hc, hx⟩ := List.mem_flatten.1 ih
    obtain ⟨before, after, rfl⟩ := List.append_of_mem hc
    rw [List.flatten_append, List.flatten_cons, List.mem_append, List.mem_append]
    rcases (h before component after rfl).2.2 x hx w hedge with hw | hw
    · exact Or.inr (Or.inl hw)
    · exact Or.inl hw

/-- A component holds what its members reach and are reached from. -/
theorem ComponentsOf.mem_iff (h : g.ComponentsOf keep components) {component : List Nat}
    (hc : component ∈ components) {u v : Nat} (hu : u ∈ component) :
    v ∈ component ↔ g.ReachesWithin keep u v ∧ g.ReachesWithin keep v u := by
  obtain ⟨before, after, heq⟩ := List.append_of_mem hc
  constructor
  · intro hv
    have hreach := (h.closed before component after heq).2.1
    exact ⟨hreach u hu v hv, hreach v hv u hu⟩
  · rintro ⟨huv, hvu⟩
    have hclosed := h.closed
    rw [heq, List.append_cons] at hclosed
    have hu' : u ∈ (before ++ [component]).flatten := by
      rw [List.flatten_append, List.flatten_singleton]
      exact List.mem_append_right _ hu
    have hv := hclosed.of_append.mem_flatten_of_reaches hu' huv
    rw [List.flatten_append, List.flatten_singleton, List.mem_append] at hv
    refine hv.resolve_left (fun hv => ?_)
    -- the components before this one do not lead to it
    have hbefore := hclosed.of_append.of_append.mem_flatten_of_reaches hv hvu
    have hnodup := h.nodup
    rw [heq, List.flatten_append, List.nodup_append'] at hnodup
    refine hnodup.2.2 hbefore ?_
    rw [List.flatten_cons]
    exact List.mem_append_left _ hu

end Within

/-- The component of a node in the part of the graph that is not below it holds the nodes that it
reaches there and that reach it. -/
theorem componentAbove?_spec {g : Digraph} (hg : g.Consistent) {start : Nat}
    (hstart : start < g.nodeCount) :
    ∃ component, g.componentAbove? start = some component ∧ component.Nodup ∧
      ∀ v, v ∈ component ↔ g.ReachesWithin (start ≤ ·) start v ∧
        g.ReachesWithin (start ≤ ·) v start := by
  obtain ⟨hcomponents, hroots⟩ := componentsWithin_spec hg (start ≤ ·) [start]
    (fun root hroot => by rw [List.mem_singleton.1 hroot]; exact hstart)
  have hmem := hroots start (List.mem_singleton_self start) (decide_eq_true le_rfl)
  obtain ⟨c, hc, hsc⟩ := List.mem_flatten.1 hmem
  obtain ⟨component, hfind⟩ : ∃ component, g.componentAbove? start = some component := by
    unfold componentAbove?
    rw [← Option.isSome_iff_exists, List.find?_isSome]
    exact ⟨c, hc, List.contains_iff_mem.2 hsc⟩
  have hin : component ∈ g.componentsWithin (start ≤ ·) [start] := List.mem_of_find?_eq_some hfind
  have hself : start ∈ component := by
    unfold componentAbove? at hfind
    have := List.find?_some hfind
    exact List.contains_iff_mem.1 this
  exact ⟨component, hfind, (List.nodup_flatten.1 hcomponents.nodup).1 component hin,
    fun v => hcomponents.mem_iff hin hself⟩

/-! ## The components of a graph -/

section Whole

variable {g : Digraph}

/-- The kept edges are the edges if every node is kept. -/
theorem reachesWithin_true (hg : g.Consistent) (u v : Nat) :
    g.ReachesWithin (fun _ => true) u v ↔ g.Reaches u v := by
  have hedge : g.KeptEdge (fun _ => true) = g.Edge := by
    funext a b
    exact propext ((and_iff_left rfl).trans hg.mem_successors)
  rw [ReachesWithin, Reaches, hedge]

/-- The components of a graph hold every node once. -/
theorem flatten_components_perm (hg : g.Consistent) :
    g.components.flatten.Perm (List.range g.nodeCount) := by
  obtain ⟨hcomponents, hroots⟩ := componentsWithin_spec hg (fun _ => true) g.nodes
    (fun root hroot => List.mem_range.1 hroot)
  refine (List.perm_ext_iff_of_nodup hcomponents.nodup List.nodup_range).2 (fun v => ?_)
  constructor
  · exact fun hv => List.mem_range.2 (hcomponents.kept v hv).1
  · exact fun hv => hroots v hv rfl

/-- A node has one place among the components. -/
theorem index_unique_of_nodup_flatten {components : List (List Nat)}
    (h : components.flatten.Nodup) {i j v : Nat} {c d : List Nat} (hi : components[i]? = some c)
    (hj : components[j]? = some d) (hc : v ∈ c) (hd : v ∈ d) : i = j := by
  obtain ⟨hi', rfl⟩ := List.getElem?_eq_some_iff.1 hi
  obtain ⟨hj', rfl⟩ := List.getElem?_eq_some_iff.1 hj
  have hdisjoint := List.pairwise_iff_getElem.1 (List.nodup_flatten.1 h).2
  rcases lt_trichotomy i j with hlt | heq | hlt
  · exact absurd hd (hdisjoint i j hi' hj' hlt hc)
  · exact heq
  · exact absurd hc (hdisjoint j i hj' hi' hlt hd)

/-- **The components divide the nodes by mutual reachability, and those that edges lead to come
first.** -/
theorem components_divide_nodes (h : g.Built) :
    g.components.flatten.Perm (List.range g.nodeCount) ∧ [] ∉ g.components ∧
    (∀ u v, u < g.nodeCount → v < g.nodeCount →
      ((∃ c ∈ g.components, u ∈ c ∧ v ∈ c) ↔ g.Reaches u v ∧ g.Reaches v u)) ∧
    ∀ (u w i j : Nat) (c d : List Nat), g.Edge u w → g.components[i]? = some c →
      g.components[j]? = some d → u ∈ c → w ∈ d → i ≠ j → j < i := by
  have hg := h.consistent
  have hperm := flatten_components_perm hg
  obtain ⟨hcomponents, -⟩ := componentsWithin_spec hg (fun _ => true) g.nodes
    (fun root hroot => List.mem_range.1 hroot)
  refine ⟨hperm, fun hnil => ?_, fun u v hu _ => ?_, ?_⟩
  · obtain ⟨before, after, heq⟩ := List.append_of_mem hnil
    exact (hcomponents.closed before [] after heq).1 rfl
  · rw [← reachesWithin_true hg, ← reachesWithin_true hg]
    constructor
    · rintro ⟨c, hc, huc, hvc⟩
      exact (hcomponents.mem_iff hc huc).1 hvc
    · intro huv
      obtain ⟨c, hc, huc⟩ := List.mem_flatten.1 (hperm.mem_iff.2 (List.mem_range.2 hu))
      exact ⟨c, hc, huc, (hcomponents.mem_iff hc huc).2 huv⟩
  · intro u w i j c d hedge hi hj huc hwd hij
    obtain ⟨hi', hc⟩ := List.getElem?_eq_some_iff.1 hi
    have hsplit : g.components = g.components.take i ++ c :: g.components.drop (i + 1) := by
      rw [← hc, List.cons_getElem_drop_succ, List.take_append_drop]
    have hkept : g.KeptEdge (fun _ => true) u w := ⟨hg.mem_successors.2 hedge, rfl⟩
    rcases (hcomponents.closed _ c _ hsplit).2.2 u huc w hkept with hw | hw
    · exact absurd (index_unique_of_nodup_flatten hcomponents.nodup hi hj hw hwd) hij
    · -- the edge ends in an earlier component, and no node is in two
      obtain ⟨d', hd', hwd'⟩ := List.mem_flatten.1 hw
      obtain ⟨k, hk⟩ := List.mem_iff_getElem?.1 hd'
      rw [List.getElem?_take] at hk
      split at hk
      · rename_i hki
        rw [index_unique_of_nodup_flatten hcomponents.nodup hj hk hwd hwd']
        exact hki
      · exact absurd hk (by simp)

/-- The four nodes of `knot` on its circuits are one component, and it comes after the node that the
last edge leads to. -/
theorem components_divide_nodes_knot :
    knot.components = [[4], [0, 1, 2, 3]] ∧ (knot.Reaches 1 3 ∧ knot.Reaches 3 1) ∧
    ¬ (knot.Reaches 3 4 ∧ knot.Reaches 4 3) ∧ knot.Edge 3 4 ∧ 0 < 1 := by
  have hcomponents : knot.components = [[4], [0, 1, 2, 3]] := by decide
  obtain ⟨-, -, hsame, horder⟩ := components_divide_nodes built_knot
  rw [hcomponents] at hsame horder
  have hedge : knot.Edge 3 4 := by
    unfold Edge
    decide
  refine ⟨hcomponents, ?_, ?_, hedge, ?_⟩
  · exact (hsame 1 3 (by decide) (by decide)).1 (by decide)
  · rw [← hsame 3 4 (by decide) (by decide)]
    decide
  · exact horder 3 4 1 0 [0, 1, 2, 3] [4] hedge rfl rfl (by decide) (by decide) (by decide)

end Whole

end Digraph

end CodeSurvey
