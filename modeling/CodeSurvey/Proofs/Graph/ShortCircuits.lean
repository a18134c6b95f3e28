/-
# The short circuits and their order

The search along all paths is asked for circuits of a given number of nodes at most.  It begins at
every node in turn, goes to higher nodes only, and follows successors in their order.  So it lists
every short circuit once, by its lowest node first and then in depth-first order
(`pairwise_circuitKey`).  There is only one such list (`listsShortCircuits_iff`), and the search
gives its beginning.
-/
import CodeSurvey.Proofs.Graph.Circuits
import CodeSurvey.Proofs.Graph.SearchOrder

namespace CodeSurvey

namespace Digraph

/-- The walk around a circuit, back to its first node. -/
def around : List Nat → List Nat
  | [] => []
  | v :: rest => v :: (rest ++ [v])

/-- What circuits are ordered by: the first node, and then the turns of the walk around. -/
def circuitKey (g : Digraph) (c : List Nat) : List Nat :=
  c.headD 0 :: g.turns (around c)

/-- The elementary circuits of at most `maxLength` nodes. -/
def shortCircuits (g : Digraph) (maxLength : Nat) : Set (Cycle Nat) :=
  {z ∈ g.elementaryCircuits | z.length ≤ maxLength}

/-- All circuits of at most `maxLength` nodes, each once and from its lowest node, by that node and
in depth-first order. -/
structure ListsShortCircuits (g : Digraph) (maxLength : Nat) (cs : List (List Nat)) : Prop where
  elementary : ∀ c ∈ cs, g.IsElementary c ∧ LowestFirst c ∧ c.length ≤ maxLength
  once : ∀ z ∈ g.shortCircuits maxLength, (cs.map Cycle.ofList).count z = 1
  ordered : cs.Pairwise fun c c' => g.circuitKey c < g.circuitKey c'

section Order

variable {g : Digraph} (hg : g.Consistent)

include hg

/-! ## Depth-first order -/

/-- Paths back are listed in depth-first order. -/
theorem pairwise_returnsFrom (start fuel : Nat) (above : List Nat) (v : Nat) :
    (returnsFrom (g.successorsAbove start) start fuel (above ++ [v]) v).Pairwise
      fun c c' => g.Precedes (c ++ [start]) (c' ++ [start]) := by
  induction fuel generalizing above v with
  | zero => exact List.Pairwise.nil
  | succ fuel ih =>
    rw [returnsFrom_succ]
    refine pairwise_precedes_flatMap (· ++ [start]) above (hg.successors_nodup v)
      List.filter_sublist (fun w _ => ?_) (fun w _ c hc => ?_)
    · unfold returnsAlong
      split
      · exact List.pairwise_singleton _ _
      · split
        · exact List.Pairwise.nil
        · exact ih (above ++ [v]) w
    · -- what is found along `w` goes on to `w`, or is closed by it
      unfold returnsAlong at hc
      split at hc
      · rename_i hstart
        rw [List.mem_singleton.1 hc, hstart, List.append_assoc]
        exact List.prefix_rfl
      · split at hc
        · exact absurd hc List.not_mem_nil
        · obtain ⟨more, rfl, -⟩ := mem_returnsFrom_iff.1 hc
          rw [List.append_assoc above, List.append_assoc]
          exact List.prefix_append _ _

/-- The circuits with one lowest node are listed in depth-first order. -/
theorem pairwise_circuitsAt (length start : Nat) :
    (g.circuitsAt length start).Pairwise fun c c' => g.circuitKey c < g.circuitKey c' := by
  have hordered := pairwise_returnsFrom hg start length [] start
  refine hordered.imp_of_mem fun {c c'} hc hc' hprecedes => ?_
  obtain ⟨rest, rfl⟩ := List.head?_eq_some_iff.1 ((mem_circuitsAt hg).1 hc).2.1
  obtain ⟨rest', rfl⟩ := List.head?_eq_some_iff.1 ((mem_circuitsAt hg).1 hc').2.1
  exact List.cons_lt_cons_iff.2 (Or.inr ⟨rfl, hprecedes⟩)

/-- The circuits from all nodes are listed by their lowest nodes, and then in depth-first order. -/
theorem pairwise_circuitKey (length : Nat) :
    (g.nodes.flatMap (g.circuitsAt length)).Pairwise
      fun c c' => g.circuitKey c < g.circuitKey c' := by
  rw [List.pairwise_flatMap]
  refine ⟨fun start _ => pairwise_circuitsAt hg length start, ?_⟩
  refine List.pairwise_lt_range.imp fun {start start'} hlt c hc c' hc' => ?_
  obtain ⟨rest, rfl⟩ := List.head?_eq_some_iff.1 ((mem_circuitsAt hg).1 hc).2.1
  obtain ⟨rest', rfl⟩ := List.head?_eq_some_iff.1 ((mem_circuitsAt hg).1 hc').2.1
  exact List.cons_lt_cons_iff.2 (Or.inl hlt)

/-! ## All short circuits -/

omit hg in
/-- A short circuit can be written from its lowest node. -/
theorem mem_shortCircuits_iff {maxLength : Nat} {z : Cycle Nat} :
    z ∈ g.shortCircuits maxLength ↔
      ∃ c, (g.IsElementary c ∧ LowestFirst c ∧ c.length ≤ maxLength) ∧ (c : Cycle Nat) = z := by
  constructor
  · rintro ⟨hz, hlength⟩
    obtain ⟨c, ⟨helementary, hlowest⟩, rfl⟩ := mem_elementaryCircuits_iff.1 hz
    exact ⟨c, ⟨helementary, hlowest, hlength⟩, rfl⟩
  · rintro ⟨c, ⟨helementary, -, hlength⟩, rfl⟩
    exact ⟨⟨c, helementary, rfl⟩, hlength⟩

omit hg in
/-- A list of the short circuits holds every one of them that begins with its lowest node. -/
theorem ListsShortCircuits.mem_iff {maxLength : Nat} {cs : List (List Nat)}
    (h : g.ListsShortCircuits maxLength cs) (c : List Nat) :
    c ∈ cs ↔ g.IsElementary c ∧ LowestFirst c ∧ c.length ≤ maxLength := by
  refine ⟨h.elementary c, fun hc => ?_⟩
  have hcount := h.once c (mem_shortCircuits_iff.2 ⟨c, hc, rfl⟩)
  obtain ⟨c', hc', heq⟩ := List.mem_map.1 (List.count_pos_iff.1 (hcount ▸ Nat.one_pos))
  rw [hc.1.ofList_inj hc.2.1 (h.elementary c' hc').2.1 heq.symm]
  exact hc'

/-- The short circuits are those that the searches from all nodes find. -/
theorem mem_shortCircuits {maxLength : Nat} {z : Cycle Nat} :
    z ∈ g.shortCircuits maxLength ↔
      z ∈ (g.nodes.flatMap (g.circuitsAt (min g.nodeCount maxLength))).map Cycle.ofList := by
  rw [mem_shortCircuits_iff, List.mem_map]
  simp only [mem_flatMap_circuitsAt hg]

/-- There are as many short circuits as the searches from all nodes find. -/
theorem ncard_shortCircuits (maxLength : Nat) :
    (g.shortCircuits maxLength).Finite ∧ (g.shortCircuits maxLength).ncard =
      (g.nodes.flatMap (g.circuitsAt (min g.nodeCount maxLength))).length := by
  rw [← List.length_map (f := Cycle.ofList)]
  exact finite_and_ncard_of_nodup (map_ofList_nodup hg maxLength) (fun z => mem_shortCircuits hg)

/-- The searches from all nodes list the short circuits, and there is no other list of them in the
same order. -/
theorem listsShortCircuits_iff {maxLength : Nat} {cs : List (List Nat)} :
    g.ListsShortCircuits maxLength cs ↔
      cs = g.nodes.flatMap (g.circuitsAt (min g.nodeCount maxLength)) := by
  constructor
  · intro h
    refine eq_of_pairwise_key_lt h.ordered (pairwise_circuitKey hg _) fun c => ?_
    rw [h.mem_iff, mem_flatMap_circuitsAt hg]
  · rintro rfl
    refine ⟨fun c hc => (mem_flatMap_circuitsAt hg).1 hc, fun z hz => ?_,
      pairwise_circuitKey hg _⟩
    exact List.count_eq_one_of_mem (map_ofList_nodup hg maxLength) ((mem_shortCircuits hg).1 hz)

end Order

/-- **The search along all paths lists the short circuits up to its limit, in the order of their
lowest nodes and depth first.**  The list of all short circuits is the only one in this order, and
it holds each of them once, from its lowest node. -/
theorem circuitsUpTo_list_short {g : Digraph} (h : g.Built) {maxLength : Nat}
    (hlength : 1 ≤ maxLength) (limit : Nat) :
    (g.shortCircuits maxLength).Finite ∧
    (∃ all, (∀ cs, g.ListsShortCircuits maxLength cs ↔ cs = all) ∧
      all.length = (g.shortCircuits maxLength).ncard ∧
      g.circuitsUpTo maxLength limit =
        all.take (min limit (g.shortCircuits maxLength).ncard)) ∧
    (g.circuitsUpTo maxLength limit).length = min limit (g.shortCircuits maxLength).ncard ∧
    ∀ c ∈ g.circuitsUpTo maxLength limit, c.length ≤ maxLength := by
  have hg := h.consistent
  obtain ⟨hfinite, hcard⟩ := ncard_shortCircuits hg maxLength
  have hbound : maxLength - 1 + 1 = maxLength := Nat.sub_add_cancel hlength
  rw [circuitsUpTo_eq_take, hbound, hcard]
  refine ⟨hfinite, ⟨_, fun cs => listsShortCircuits_iff hg, rfl, ?_⟩, List.length_take,
    fun c hc => ?_⟩
  · rw [List.take_eq_take_min]
  · exact ((mem_flatMap_circuitsAt hg).1 (List.mem_of_mem_take hc)).2.2

/-- Of the three circuits of `knot` two are short, and the longer one between them is left out. -/
theorem circuitsUpTo_list_short_knot :
    knot.Built ∧ (knot.shortCircuits 2).ncard = 2 ∧
    (∀ cs, knot.ListsShortCircuits 2 cs ↔ cs = [[0, 1], [3]]) := by
  obtain ⟨-, ⟨all, hall, hcard, htake⟩, hlength, -⟩ :=
    circuitsUpTo_list_short built_knot (Nat.one_le_ofNat : 1 ≤ 2) 5
  have hcircuits : knot.circuitsUpTo 2 5 = [[0, 1], [3]] := by decide
  rw [hcircuits, List.length_cons, List.length_singleton] at hlength
  have htwo : (knot.shortCircuits 2).ncard = 2 := by omega
  rw [hcircuits, htwo, List.take_of_length_le (by omega)] at htake
  rw [htake]
  exact ⟨built_knot, htwo, hall⟩

end Digraph

end CodeSurvey
