/-
# Recursive functions

The functions that are listed as recursive call themselves, or lie on a short cycle of calls
(`exists_circuit_of_mem`).  Cycles are looked at in the order of the search, and only the first
thousand of them.  What they hold is listed as long as there is room (`mem_recursiveNodes_iff`), so
nobody is missed where there are no more cycles.  In a crowd of eight functions that all call each
other there are more, and a cycle that comes after them is missed.
-/
import CodeSurvey.Proofs.Graph.CallRelation
import CodeSurvey.Proofs.Graph.CircularDependencies
import CodeSurvey.Proofs.Graph.Representation
import CodeSurvey.Proofs.Graph.ShortCircuits

namespace CodeSurvey

namespace CallGraph

/-! ## Nodes of short circuits -/

/-- The nodes that are looked at: those with an edge to themselves, and those of the first short
circuits. -/
def recursionCandidates (g : Digraph) : List Nat :=
  (g.nodes.filter fun v => g.hasEdge v v) ++
    (g.circuitsUpTo maxRecursionLength maxRecursionCycles).flatten

/-- The nodes that are listed. -/
def recursiveNodes (g : Digraph) : List Nat :=
  (firstBy id (recursionCandidates g)).take maxRecursiveFunctions

theorem recursiveFunctions_eq (c : CallGraph) :
    c.recursiveFunctions = (recursiveNodes c.graph).map fun v => ⟨c.graph.key v, c.graph.label v⟩ :=
  rfl

section Nodes

variable {g : Digraph}

theorem recursiveNodes_nodup (g : Digraph) : (recursiveNodes g).Nodup := by
  have hnodup := map_firstBy_nodup id (recursionCandidates g)
  rw [List.map_id] at hnodup
  exact hnodup.sublist (List.take_sublist _ _)

theorem mem_candidates_of_mem {v : Nat} (hv : v ∈ recursiveNodes g) : v ∈ recursionCandidates g :=
  mem_firstBy_id.1 (List.mem_of_mem_take hv)

/-- Where there is room all candidates are listed. -/
theorem mem_recursiveNodes_iff (hroom : (recursiveNodes g).length < maxRecursiveFunctions)
    {v : Nat} : v ∈ recursiveNodes g ↔ v ∈ recursionCandidates g := by
  refine ⟨mem_candidates_of_mem, fun hv => ?_⟩
  rw [recursiveNodes, List.length_take] at hroom
  rw [recursiveNodes, List.take_of_length_le (by omega)]
  exact mem_firstBy_id.2 hv

variable (hg : g.Consistent)

include hg

theorem mem_loops_iff {v : Nat} : (v ∈ g.nodes.filter fun v => g.hasEdge v v) ↔ g.Edge v v := by
  rw [List.mem_filter, hg.hasEdge_iff]
  exact and_iff_right_of_imp fun hedge => List.mem_range.2 (hg.edge_lt v v hedge).1

/-- A candidate has an edge to itself or lies on one of the first short circuits. -/
theorem mem_recursionCandidates {v : Nat} :
    v ∈ recursionCandidates g ↔
      g.Edge v v ∨ ∃ c ∈ g.circuitsUpTo maxRecursionLength maxRecursionCycles, v ∈ c := by
  rw [recursionCandidates, List.mem_append, mem_loops_iff hg, List.mem_flatten]

/-- Nodes with an edge to themselves are listed before all others. -/
theorem pairwise_loops_first :
    (recursiveNodes g).Pairwise fun v w => g.Edge w w → g.Edge v v := by
  have hloop {v : Nat} (hv : v ∈ firstBy id (g.nodes.filter fun v => g.hasEdge v v)) :
      g.Edge v v :=
    (mem_loops_iff hg).1 (mem_firstBy_id.1 hv)
  refine List.Pairwise.sublist (List.take_sublist _ _) ?_
  rw [recursionCandidates, firstBy_append, List.pairwise_append]
  refine ⟨?_, ?_, fun v hv w _ _ => hloop hv⟩
  · exact List.pairwise_of_forall_mem_list fun v hv w _ _ => hloop hv
  · -- what comes later was left out before if it has an edge to itself
    refine List.pairwise_of_forall_mem_list fun v _ w hw hedge => ?_
    have hnew := of_decide_eq_true (List.mem_filter.1 hw).2
    rw [List.map_id] at hnew
    exact absurd ((mem_loops_iff hg).2 hedge) hnew

/-- A listed node lies on a short circuit. -/
theorem exists_circuit_of_mem {v : Nat} (hv : v ∈ recursiveNodes g) :
    ∃ c, g.IsElementary c ∧ c.length ≤ maxRecursionLength ∧ v ∈ c := by
  rcases (mem_recursionCandidates hg).1 (mem_candidates_of_mem hv) with hedge | ⟨c, hc, hv⟩
  · exact ⟨[v], ⟨List.nodup_singleton v, List.isChain_pair.2 hedge⟩, Nat.le_of_ble_eq_true rfl,
      List.mem_singleton_self v⟩
  · rw [Digraph.circuitsUpTo_eq_take] at hc
    obtain ⟨helementary, -, hlength⟩ :=
      (Digraph.mem_flatMap_circuitsAt hg).1 (List.mem_of_mem_take hc)
    exact ⟨c, helementary, hlength, hv⟩

end Nodes

end CallGraph

namespace Digraph

/-- Keys that are linked to a ring are those of a circuit. -/
theorem Consistent.exists_isElementary {g : Digraph} (hg : g.Consistent) {ids : List String}
    (hne : ids ≠ []) (hnodup : ids.Nodup)
    (hring : (ids ++ ids.take 1).IsChain fun a b => (a, b) ∈ g.keyEdges) :
    ∃ c, g.IsElementary c ∧ c.map g.key = ids := by
  have hedges : ∀ a b, (a, b) ∈ g.keyEdges →
      g.Edge (g.nodeOf a) (g.nodeOf b) ∧ g.key (g.nodeOf b) = b := by
    intro a b hab
    obtain ⟨u, v, hedge, rfl, rfl⟩ := mem_keyEdges.1 hab
    obtain ⟨hu, hv⟩ := hg.edge_lt u v hedge
    rw [hg.nodeOf_key hu, hg.nodeOf_key hv]
    exact ⟨hedge, rfl⟩
  obtain ⟨a, rest, rfl⟩ := List.exists_cons_of_ne_nil hne
  have hclosed : a :: rest ++ (a :: rest).take 1 = a :: (rest ++ [a]) := rfl
  rw [hclosed] at hring
  obtain ⟨hlinks, hkeys⟩ := isChain_and_iff.1 (hring.imp hedges)
  -- every key of the ring is that of a node, because an edge leads to it
  have hback : ((a :: rest).map g.nodeOf).map g.key = a :: rest := by
    rw [List.map_map]
    refine (List.map_congr_left fun id hid => ?_).trans (List.map_id _)
    refine hkeys id ?_
    rw [List.mem_append, List.mem_singleton]
    exact (List.mem_cons.1 hid).symm
  refine ⟨(a :: rest).map g.nodeOf, ⟨?_, ?_⟩, hback⟩
  · rw [← hback] at hnodup
    exact hnodup.of_map
  · have hmap := (List.isChain_map g.nodeOf).2 hlinks
    rw [List.map_cons, List.map_append] at hmap
    exact hmap

end Digraph

/-! ## Cycles of calls -/

namespace CallGraph

/-- A function may call another one, by the ids of both. -/
def LeadsTo (outlines : List Outline) (a b : String) : Prop :=
  Calls (ofOutlines outlines).definitions outlines a b

/-- Different functions each of which may call the next, and the last the first, by their ids. -/
def IsCallCycle (outlines : List Outline) (ids : List String) : Prop :=
  ids ≠ [] ∧ ids.Nodup ∧ (ids ++ ids.take 1).IsChain (LeadsTo outlines)

/-- The ids of the functions that are listed as recursive. -/
def recursiveIds (outlines : List Outline) : List String :=
  (ofOutlines outlines).analysis.recursiveFunctions.map (·.function)

section Cycles

variable {outlines : List Outline}

theorem leadsTo_iff {a b : String} :
    LeadsTo outlines a b ↔ (a, b) ∈ (ofOutlines outlines).graph.keyEdges :=
  ((graph_ofOutlines outlines).2.2.2 a b).symm

theorem leadsTo_self_iff {v : Nat} (hv : v < (ofOutlines outlines).graph.nodeCount) :
    LeadsTo outlines ((ofOutlines outlines).graph.key v) ((ofOutlines outlines).graph.key v) ↔
      (ofOutlines outlines).graph.Edge v v := by
  have hg := consistent_ofOutlines outlines
  rw [leadsTo_iff, Digraph.mem_keyEdges]
  constructor
  · rintro ⟨u, w, hedge, hu, hw⟩
    obtain ⟨hult, hwlt⟩ := hg.edge_lt u w hedge
    rwa [hg.key_inj hult hv hu, hg.key_inj hwlt hv hw] at hedge
  · exact fun hedge => ⟨v, v, hedge, rfl, rfl⟩

/-- The functions of a cycle of calls are the nodes of a circuit. -/
theorem isCallCycle_iff {ids : List String} :
    IsCallCycle outlines ids ↔ ∃ c, (ofOutlines outlines).graph.IsElementary c ∧
      c.map (ofOutlines outlines).graph.key = ids := by
  have hg := consistent_ofOutlines outlines
  have hedges : LeadsTo outlines = fun a b => (a, b) ∈ (ofOutlines outlines).graph.keyEdges := by
    funext a b
    exact propext leadsTo_iff
  rw [IsCallCycle, hedges]
  constructor
  · rintro ⟨hne, hnodup, hring⟩
    exact hg.exists_isElementary hne hnodup hring
  · rintro ⟨c, hc, rfl⟩
    refine ⟨fun hnil => ?_, hc.map_key hg⟩
    exact (Digraph.isElementary_iff.1 hc).1 (List.map_eq_nil_iff.1 hnil)

theorem recursiveIds_eq : recursiveIds outlines =
    (recursiveNodes (ofOutlines outlines).graph).map (ofOutlines outlines).graph.key := by
  rw [recursiveIds, analysis, recursiveFunctions_eq, List.map_map]
  rfl

/-- The circuits that are looked at are the first of all short ones. -/
theorem circuitsUpTo_eq_take_of_lists {g : Digraph} (hg : g.Consistent) {cycles : List (List Nat)}
    (hcycles : g.ListsShortCircuits 5 cycles) :
    g.circuitsUpTo maxRecursionLength maxRecursionCycles = cycles.take 1000 := by
  rw [(Digraph.listsShortCircuits_iff hg).1 hcycles, Digraph.circuitsUpTo_eq_take]
  rfl

/-- Where there is room every candidate is listed by its id. -/
theorem key_mem_recursiveIds (hroom : (recursiveIds outlines).length < 10) {v : Nat}
    (hv : v ∈ recursionCandidates (ofOutlines outlines).graph) :
    (ofOutlines outlines).graph.key v ∈ recursiveIds outlines := by
  rw [recursiveIds_eq] at hroom ⊢
  rw [List.length_map] at hroom
  exact List.mem_map_of_mem ((mem_recursiveNodes_iff hroom).2 hv)

end Cycles

/-- **The functions that are listed as recursive lie on short cycles of calls, those that call
themselves first.**  If the list is not full, it misses no function that calls itself or lies on one
of the first thousand cycles, and so none at all if there are no more cycles. -/
theorem recursiveFunctions_follow_cycles (outlines : List Outline) :
    (recursiveIds outlines).Nodup ∧ (recursiveIds outlines).length ≤ 10 ∧
    (∀ id ∈ recursiveIds outlines, ∃ ids, IsCallCycle outlines ids ∧ ids.length ≤ 5 ∧ id ∈ ids) ∧
    ((recursiveIds outlines).Pairwise fun a b => LeadsTo outlines b b → LeadsTo outlines a a) ∧
    ((recursiveIds outlines).length < 10 →
      (∀ id, LeadsTo outlines id id → id ∈ recursiveIds outlines) ∧
      (∀ cycles, (ofOutlines outlines).graph.ListsShortCircuits 5 cycles →
        ∀ c ∈ cycles.take 1000, ∀ v ∈ c,
          (ofOutlines outlines).graph.key v ∈ recursiveIds outlines) ∧
      (((ofOutlines outlines).graph.shortCircuits 5).ncard ≤ 1000 →
        ∀ ids, IsCallCycle outlines ids → ids.length ≤ 5 →
          ∀ id ∈ ids, id ∈ recursiveIds outlines)) := by
  have hg := consistent_ofOutlines outlines
  have hlt {v : Nat} (hv : v ∈ recursiveNodes (ofOutlines outlines).graph) :
      v < (ofOutlines outlines).graph.nodeCount := by
    obtain ⟨c, hc, -, hv⟩ := exists_circuit_of_mem hg hv
    exact hc.lt hg hv
  have hlists : (ofOutlines outlines).graph.ListsShortCircuits 5 _ :=
    (Digraph.listsShortCircuits_iff hg).2 rfl
  -- with room left nothing is cut off, so all that the scan looks at is reported
  have hscanned {cycles : List (List Nat)} (hroom : (recursiveIds outlines).length < 10)
      (hcycles : (ofOutlines outlines).graph.ListsShortCircuits 5 cycles) {c : List Nat}
      (hc : c ∈ cycles.take 1000) {v : Nat} (hv : v ∈ c) :
      (ofOutlines outlines).graph.key v ∈ recursiveIds outlines := by
    rw [← circuitsUpTo_eq_take_of_lists hg hcycles] at hc
    exact key_mem_recursiveIds hroom ((mem_recursionCandidates hg).2 (Or.inr ⟨c, hc, hv⟩))
  refine ⟨?_, ?_, ?_, ?_, fun hroom => ⟨fun id hid => ?_, fun cycles hcycles c hc v hv =>
    hscanned hroom hcycles hc hv, fun hfew ids hids hlength id hid => ?_⟩⟩
  · rw [recursiveIds_eq]
    exact hg.map_key_nodup (fun v hv => hlt hv) (recursiveNodes_nodup _)
  · rw [recursiveIds_eq, List.length_map, recursiveNodes]
    exact List.length_take_le _ _
  · intro id hid
    rw [recursiveIds_eq] at hid
    obtain ⟨v, hv, rfl⟩ := List.mem_map.1 hid
    obtain ⟨c, hc, hlength, hv⟩ := exists_circuit_of_mem hg hv
    refine ⟨_, isCallCycle_iff.2 ⟨c, hc, rfl⟩, ?_, List.mem_map_of_mem hv⟩
    rw [List.length_map]
    exact hlength
  · rw [recursiveIds_eq, List.pairwise_map]
    refine (pairwise_loops_first hg).imp_of_mem fun {v w} hv hw hloops => ?_
    rw [leadsTo_self_iff (hlt hv), leadsTo_self_iff (hlt hw)]
    exact hloops
  · -- a function that calls itself is a loop of the graph, since keys tell nodes apart
    obtain ⟨v, w, hedge, rfl, hkey⟩ := Digraph.mem_keyEdges.1 (leadsTo_iff.1 hid)
    obtain ⟨hv, hw⟩ := hg.edge_lt v w hedge
    obtain rfl := hg.key_inj hw hv hkey
    exact key_mem_recursiveIds hroom ((mem_recursionCandidates hg).2 (Or.inl hedge))
  · -- the cycle is listed from its lowest node, and none is cut off
    obtain ⟨c, hc, rfl⟩ := isCallCycle_iff.1 hids
    obtain ⟨v, hv, rfl⟩ := List.mem_map.1 hid
    obtain ⟨c', hr, hlowest⟩ :=
      Digraph.exists_isRotated_lowestFirst (Digraph.isElementary_iff.1 hc).1
    rw [List.length_map, hr.perm.length_eq] at hlength
    have hc' := (hlists.mem_iff c').2 ⟨hc.of_isRotated hr, hlowest, hlength⟩
    rw [(Digraph.ncard_shortCircuits hg 5).2] at hfew
    refine hscanned hroom hlists ?_ (hr.mem_iff.1 hv)
    rwa [List.take_of_length_le hfew]

/-- Two functions that call each other, and one that calls itself. -/
def pairOutlines : List Outline :=
  [callingFile "m" [("p", ["q"]), ("q", ["p"]), ("r", ["r"])]]

/-- All three are listed, the one that calls itself first. -/
theorem recursiveFunctions_follow_cycles_pair :
    recursiveIds pairOutlines = ["m::r", "m::p", "m::q"] ∧
    ((ofOutlines pairOutlines).graph.shortCircuits 5).ncard ≤ 1000 ∧
    IsCallCycle pairOutlines ["m::p", "m::q"] ∧ "m::q" ∈ recursiveIds pairOutlines ∧
    LeadsTo pairOutlines "m::r" "m::r" := by
  have hids : recursiveIds pairOutlines = ["m::r", "m::p", "m::q"] := by decide
  have hfew : ((ofOutlines pairOutlines).graph.shortCircuits 5).ncard ≤ 1000 := by
    rw [(Digraph.ncard_shortCircuits (consistent_ofOutlines pairOutlines) 5).2]
    decide
  have hcycle : IsCallCycle pairOutlines ["m::p", "m::q"] :=
    isCallCycle_iff.2 ⟨[0, 1], by unfold Digraph.IsElementary Digraph.Edge; decide,
      by decide⟩
  obtain ⟨-, -, -, -, hcomplete⟩ := recursiveFunctions_follow_cycles pairOutlines
  obtain ⟨-, -, hall⟩ := hcomplete (by rw [hids]; decide)
  exact ⟨hids, hfew, hcycle, hall hfew _ hcycle (by decide) "m::q" (by decide),
    leadsTo_iff.2 (by decide)⟩

/-! ## A crowd -/

/-- The names of a crowd of functions that all call each other. -/
def crowd : List String := ["a", "b", "c", "d", "e", "f", "g", "h"]

/-- The crowd, and after it two functions that call each other. -/
def crowdedOutlines : List Outline :=
  [callingFile "m" (crowd.map (fun name => (name, crowd.filter (· ≠ name))) ++
    [("i", ["j"]), ("j", ["i"])])]

/-- The graph of the crowd: eight nodes with edges to each other, and two more. -/
def crowdedGraph : Digraph :=
  let others (v : Nat) : List Nat := (List.range 8).filter (· ≠ v)
  let neighbours : List (List Nat) := (List.range 8).map others ++ [[9], [8]]
  let keys := (crowd ++ ["i", "j"]).map ("m::" ++ ·)
  let edges := (List.range 8).flatMap (fun u => (others u).map fun v => (u, v)) ++ [(8, 9), (9, 8)]
  { keys := keys
    labels := crowd ++ ["i", "j"]
    index := keys.zipIdx.reverse
    succ := neighbours
    pred := neighbours
    edges := edges
    edgeSet := edges.reverse }

theorem graph_crowdedOutlines : (ofOutlines crowdedOutlines).graph = crowdedGraph := by
  decide +kernel

/-- The crowd alone has more circuits than are looked at. -/
theorem le_length_circuitsAt_crowded : 1000 ≤ (crowdedGraph.circuitsAt 5 0).length := by
  decide +kernel

/-- Circuits that begin in the crowd stay in it. -/
theorem lt_of_mem_circuitsAt_crowded (hg : crowdedGraph.Consistent) {c : List Nat}
    (hc : c ∈ crowdedGraph.circuitsAt 5 0) {v : Nat} (hv : v ∈ c) : v < 8 := by
  have hedges : ∀ e ∈ crowdedGraph.edges, e.1 < 8 → e.2 < 8 := by decide
  obtain ⟨helementary, hhead, -⟩ := (Digraph.mem_circuitsAt hg).1 hc
  obtain ⟨rest, rfl⟩ := List.head?_eq_some_iff.1 hhead
  refine List.IsChain.induction (· < 8) _ helementary.2 (fun u w hedge hu => ?_)
    (fun _ => Nat.zero_lt_succ 7) v ?_
  · exact hedges (u, w) hedge hu
  · rw [← List.cons_append]
    exact List.mem_append_left _ hv

/-- The nodes that are listed are those of the crowd. -/
theorem lt_of_mem_recursiveNodes_crowded (hg : crowdedGraph.Consistent) {v : Nat}
    (hv : v ∈ recursiveNodes crowdedGraph) : v < 8 := by
  have hloops : ∀ e ∈ crowdedGraph.edges, e.1 ≠ e.2 := by decide
  have hsplit : crowdedGraph.nodes.flatMap (crowdedGraph.circuitsAt 5) =
      crowdedGraph.circuitsAt 5 0 ++
        ((List.range 9).map (· + 1)).flatMap (crowdedGraph.circuitsAt 5) := rfl
  rcases (mem_recursionCandidates hg).1 (mem_candidates_of_mem hv) with hedge | ⟨c, hc, hv⟩
  · exact absurd rfl (hloops (v, v) hedge)
  · -- the search is over before it leaves the circuits of the first node
    have htake : crowdedGraph.circuitsUpTo maxRecursionLength maxRecursionCycles =
        (crowdedGraph.nodes.flatMap (crowdedGraph.circuitsAt 5)).take 1000 :=
      Digraph.circuitsUpTo_eq_take _ _ _
    rw [htake, hsplit, List.take_append_of_le_length le_length_circuitsAt_crowded] at hc
    exact lt_of_mem_circuitsAt_crowded hg (List.mem_of_mem_take hc) hv

/-- The list is not full, and still misses two functions that call each other: the circuits of the
crowd are all that is looked at. -/
theorem recursiveFunctions_miss_late_cycle :
    (recursiveIds crowdedOutlines).length < 10 ∧
    IsCallCycle crowdedOutlines ["m::i", "m::j"] ∧ "m::i" ∉ recursiveIds crowdedOutlines := by
  have hg := consistent_ofOutlines crowdedOutlines
  rw [recursiveIds_eq, isCallCycle_iff]
  rw [graph_crowdedOutlines] at hg ⊢
  refine ⟨?_, ⟨[8, 9], ?_, by decide⟩, fun hmem => ?_⟩
  · have hle := Digraph.length_le_of_nodup (recursiveNodes_nodup crowdedGraph)
      (fun v hv => lt_of_mem_recursiveNodes_crowded hg hv)
    rw [List.length_map]
    omega
  · unfold Digraph.IsElementary Digraph.Edge
    decide
  · obtain ⟨v, hv, hkey⟩ := List.mem_map.1 hmem
    have hother : ∀ v < 8, crowdedGraph.key v ≠ "m::i" := by decide
    exact hother v (lt_of_mem_recursiveNodes_crowded hg hv) hkey

end CallGraph

end CodeSurvey
