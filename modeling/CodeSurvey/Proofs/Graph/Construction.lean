/-
# Graphs built step by step

A graph is built if it comes from the graph without nodes by adding nodes and edges, where an edge
joins nodes that are there.  In a built graph the index finds each key where it is listed, and the
list of edges, the set of edges and the two tables of neighbours say the same: the successors of a
node are the targets of its edges, in the order of the edges, and its predecessors are the sources of
the edges that lead to it.  Linking keys adds the edges between them (`foldl_link_spec`).
-/
import CodeSurvey.Graph.Digraph
import Mathlib.Algebra.BigOperators.Group.Finset.Piecewise
import Mathlib.Data.List.Nodup

namespace CodeSurvey

namespace Digraph

/-- A graph that comes from the graph without nodes by adding nodes, and edges between nodes. -/
inductive Built : Digraph → Prop where
  | empty : Built Digraph.empty
  | addNode {g : Digraph} (key label : String) (h : Built g) : Built (g.addNode key label)
  | addEdge {g : Digraph} {u v : Nat} (h : Built g) (hu : u < g.nodeCount)
      (hv : v < g.nodeCount) : Built (g.addEdge u v)

/-- An edge leads from one node to another. -/
def Edge (g : Digraph) (u v : Nat) : Prop := (u, v) ∈ g.edges

/-- The parts of a graph agree. -/
structure Consistent (g : Digraph) : Prop where
  keys_nodup : g.keys.Nodup
  index_nodup : (g.index.map (·.1)).Nodup
  mem_index : ∀ key v, (key, v) ∈ g.index ↔ g.keys[v]? = some key
  labels_length : g.labels.length = g.nodeCount
  succ_length : g.succ.length = g.nodeCount
  pred_length : g.pred.length = g.nodeCount
  edges_nodup : g.edges.Nodup
  edgeSet_nodup : g.edgeSet.Nodup
  mem_edgeSet : ∀ u v, (u, v) ∈ g.edgeSet ↔ g.Edge u v
  edge_lt : ∀ u v, g.Edge u v → u < g.nodeCount ∧ v < g.nodeCount
  successors_eq : ∀ u, g.successors u = (g.edges.filter (·.1 = u)).map (·.2)
  predecessors_eq : ∀ v, g.predecessors v = (g.edges.filter (·.2 = v)).map (·.1)

/-! ## Looking up -/

/-- If no key comes twice, looking a key up finds its one entry. -/
theorem lookup_eq_some_iff_mem {index : List (String × Nat)} (h : (index.map (·.1)).Nodup)
    {key : String} {v : Nat} : index.lookup key = some v ↔ (key, v) ∈ index := by
  induction index with
  | nil => simp
  | cons e index ih =>
    obtain ⟨k, w⟩ := e
    obtain ⟨hnew, hrest⟩ := List.nodup_cons.1 h
    rw [List.mem_cons, Prod.mk.injEq]
    by_cases hkey : key = k
    · -- the first entry is the only one with its key
      subst hkey
      have hnot : (key, v) ∉ index := fun hmem => hnew (List.mem_map.2 ⟨_, hmem, rfl⟩)
      rw [List.lookup_cons_self, Option.some.injEq]
      simp [hnot, eq_comm]
    · rw [List.lookup_cons, beq_false_of_ne hkey, ih hrest]
      simp [hkey]

section Views

variable {g : Digraph} (h : g.Consistent)

include h

/-- Looking a key up and reading the key of a node are inverse to each other. -/
theorem Consistent.node?_eq_some_iff {key : String} {v : Nat} :
    g.node? key = some v ↔ g.keys[v]? = some key := by
  rw [node?, lookup_eq_some_iff_mem h.index_nodup, h.mem_index]

/-- The index knows the keys of the graph and no others. -/
theorem Consistent.isSome_node?_iff {key : String} :
    (g.node? key).isSome = true ↔ key ∈ g.keys := by
  rw [Option.isSome_iff_exists, List.mem_iff_getElem?]
  exact exists_congr fun v => h.node?_eq_some_iff

/-- The set of edges answers for the list of edges. -/
theorem Consistent.hasEdge_iff {u v : Nat} : g.hasEdge u v = true ↔ g.Edge u v := by
  rw [hasEdge, List.contains_iff_mem, h.mem_edgeSet]

/-- A key has a node, whose key it is. -/
theorem Consistent.exists_node? {key : String} (hk : key ∈ g.keys) :
    ∃ v, g.node? key = some v ∧ v < g.nodeCount ∧ g.key v = key := by
  obtain ⟨v, hv⟩ := List.mem_iff_getElem?.1 hk
  obtain ⟨hlt, -⟩ := List.getElem?_eq_some_iff.1 hv
  refine ⟨v, h.node?_eq_some_iff.2 hv, hlt, ?_⟩
  rw [Digraph.key, List.getD_eq_getElem?_getD, hv, Option.getD_some]

end Views

/-! ## Adding nodes -/

/-- An entry past the end of a table is the default, so one more default entry changes nothing. -/
theorem getD_concat_nil (table : List (List Nat)) (v : Nat) :
    (table ++ [[]]).getD v [] = table.getD v [] := by
  rw [List.getD_eq_getElem?_getD, List.getD_eq_getElem?_getD, List.getElem?_append]
  split
  · rfl
  · rename_i hv
    rw [List.getElem?_eq_none (Nat.le_of_not_lt hv)]
    cases v - table.length <;> simp

/-- A new node has no edges. -/
theorem edges_addNode (g : Digraph) (key label : String) :
    (g.addNode key label).edges = g.edges := by
  unfold addNode
  split <;> rfl

theorem successors_addNode (g : Digraph) (key label : String) (u : Nat) :
    (g.addNode key label).successors u = g.successors u := by
  unfold addNode
  split
  · rfl
  · exact getD_concat_nil g.succ u

theorem predecessors_addNode (g : Digraph) (key label : String) (v : Nat) :
    (g.addNode key label).predecessors v = g.predecessors v := by
  unfold addNode
  split
  · rfl
  · exact getD_concat_nil g.pred v

theorem nodeCount_le_addNode (g : Digraph) (key label : String) :
    g.nodeCount ≤ (g.addNode key label).nodeCount := by
  unfold addNode
  split
  · exact le_rfl
  · simp [nodeCount]

section Nodes

variable {g : Digraph} (h : g.Consistent) {key : String}

include h

/-- A key that is known adds nothing. -/
theorem Consistent.addNode_of_mem (hk : key ∈ g.keys) (label : String) :
    g.addNode key label = g := by
  unfold Digraph.addNode
  rw [if_pos (h.isSome_node?_iff.2 hk)]

/-- A key that is not known is added at the end of each list and to the index. -/
theorem Consistent.addNode_of_not_mem (hk : key ∉ g.keys) (label : String) :
    g.addNode key label =
      { g with
        index := (key, g.nodeCount) :: g.index
        keys := g.keys ++ [key]
        labels := g.labels ++ [label]
        succ := g.succ ++ [[]]
        pred := g.pred ++ [[]] } := by
  unfold Digraph.addNode
  rw [if_neg (mt h.isSome_node?_iff.1 hk)]

/-- The keys after adding one. -/
theorem Consistent.keys_addNode (key label : String) :
    (g.addNode key label).keys = if key ∈ g.keys then g.keys else g.keys ++ [key] := by
  by_cases hk : key ∈ g.keys
  · rw [h.addNode_of_mem hk, if_pos hk]
  · rw [h.addNode_of_not_mem hk, if_neg hk]

/-- A key that is not known brings its label. -/
theorem Consistent.labels_addNode (hk : key ∉ g.keys) (label : String) :
    (g.addNode key label).labels = g.labels ++ [label] := by
  rw [h.addNode_of_not_mem hk]

/-- A key that is not known has no entry in the index. -/
theorem Consistent.not_mem_index (hk : key ∉ g.keys) : key ∉ g.index.map (·.1) := by
  intro hmem
  obtain ⟨⟨k, v⟩, he, rfl⟩ := List.mem_map.1 hmem
  exact hk (List.mem_of_getElem? ((h.mem_index k v).1 he))

/-- The index after adding a key says where each key is listed. -/
theorem Consistent.mem_index_cons (key k : String) (v : Nat) :
    (k, v) ∈ (key, g.nodeCount) :: g.index ↔ (g.keys ++ [key])[v]? = some k := by
  rw [List.mem_cons, Prod.mk.injEq, h.mem_index, nodeCount, List.getElem?_append]
  rcases Nat.lt_trichotomy v g.keys.length with hv | rfl | hv
  · simp [hv, hv.ne]
  · simp [eq_comm]
  · have hout : g.keys[v]? = none := List.getElem?_eq_none hv.le
    have hpast : [key][v - g.keys.length]? = none :=
      List.getElem?_eq_none (by rw [List.length_singleton]; omega)
    rw [if_neg hv.not_gt, hout, hpast]
    simp [hv.ne']

/-- Adding a node keeps a graph consistent. -/
theorem Consistent.addNode (key label : String) : (g.addNode key label).Consistent := by
  by_cases hk : key ∈ g.keys
  · rw [h.addNode_of_mem hk]
    exact h
  -- a new node gets a row in every table and has no edges
  have hnew := h.addNode_of_not_mem hk label
  have hlength {α : Type} {table : List α} (a : α) (ht : table.length = g.nodeCount) :
      (table ++ [a]).length = (g.keys ++ [key]).length := by
    rw [List.length_append, List.length_append, ht]
    rfl
  constructor
  · rw [hnew]
    exact List.concat_eq_append ▸ h.keys_nodup.concat hk
  · rw [hnew]
    exact List.nodup_cons.2 ⟨h.not_mem_index hk, h.index_nodup⟩
  · rw [hnew]
    exact h.mem_index_cons key
  · rw [hnew]
    exact hlength label h.labels_length
  · rw [hnew]
    exact hlength [] h.succ_length
  · rw [hnew]
    exact hlength [] h.pred_length
  · rw [edges_addNode]
    exact h.edges_nodup
  · rw [hnew]
    exact h.edgeSet_nodup
  · rw [hnew]
    exact h.mem_edgeSet
  · intro u v huv
    have hle := g.nodeCount_le_addNode key label
    have := h.edge_lt u v (by rw [Edge, edges_addNode] at huv; exact huv)
    omega
  · intro u
    rw [successors_addNode, edges_addNode]
    exact h.successors_eq u
  · intro v
    rw [predecessors_addNode, edges_addNode]
    exact h.predecessors_eq v

end Nodes

/-! ## Adding edges -/

/-- The entry of a table after one entry was changed. -/
theorem getD_modify (table : List (List Nat)) (i j : Nat) (f : List Nat → List Nat)
    (hi : i < table.length) :
    (table.modify i f).getD j [] = if i = j then f (table.getD j []) else table.getD j [] := by
  rw [List.getD_eq_getElem?_getD, List.getD_eq_getElem?_getD, List.getElem?_modify]
  by_cases hij : i = j
  · subst hij
    rw [if_pos rfl, List.getElem?_eq_getElem hi]
    simp
  · rw [if_neg hij]
    simp [hij]

@[simp] theorem keys_addEdge (g : Digraph) (u v : Nat) : (g.addEdge u v).keys = g.keys := by
  unfold addEdge
  split <;> rfl

@[simp] theorem labels_addEdge (g : Digraph) (u v : Nat) : (g.addEdge u v).labels = g.labels := by
  unfold addEdge
  split <;> rfl

@[simp] theorem index_addEdge (g : Digraph) (u v : Nat) : (g.addEdge u v).index = g.index := by
  unfold addEdge
  split <;> rfl

@[simp] theorem nodeCount_addEdge (g : Digraph) (u v : Nat) :
    (g.addEdge u v).nodeCount = g.nodeCount := by
  rw [nodeCount, nodeCount, keys_addEdge]

section Edges

variable {g : Digraph} (h : g.Consistent) {u v : Nat}

include h

/-- An edge that is there is not added again. -/
theorem Consistent.addEdge_of_edge (huv : g.Edge u v) : g.addEdge u v = g := by
  unfold Digraph.addEdge
  rw [if_pos (h.hasEdge_iff.2 huv)]

/-- Adding an edge that is not there puts it into the set and at the end of each list that shows
it. -/
theorem Consistent.addEdge_of_not_edge (huv : ¬ g.Edge u v) :
    g.addEdge u v =
      { g with
        edgeSet := (u, v) :: g.edgeSet
        succ := g.succ.modify u (· ++ [v])
        pred := g.pred.modify v (· ++ [u])
        edges := g.edges ++ [(u, v)] } := by
  unfold Digraph.addEdge
  rw [if_neg (mt h.hasEdge_iff.1 huv)]

/-- The edges after adding one. -/
theorem Consistent.edge_addEdge (a b : Nat) :
    (g.addEdge u v).Edge a b ↔ g.Edge a b ∨ (a = u ∧ b = v) := by
  by_cases huv : g.Edge u v
  · rw [h.addEdge_of_edge huv]
    constructor
    · exact Or.inl
    · rintro (hab | ⟨rfl, rfl⟩)
      · exact hab
      · exact huv
  · rw [h.addEdge_of_not_edge huv, Edge, Edge, List.mem_append, List.mem_singleton, Prod.mk.injEq]

/-- Adding an edge between nodes keeps a graph consistent. -/
theorem Consistent.addEdge (hu : u < g.nodeCount) (hv : v < g.nodeCount) :
    (g.addEdge u v).Consistent := by
  by_cases huv : g.Edge u v
  · rw [h.addEdge_of_edge huv]
    exact h
  have hnew := h.addEdge_of_not_edge huv
  constructor
  · rw [keys_addEdge]
    exact h.keys_nodup
  · rw [index_addEdge]
    exact h.index_nodup
  · rw [index_addEdge, keys_addEdge]
    exact h.mem_index
  · rw [labels_addEdge, nodeCount_addEdge]
    exact h.labels_length
  · rw [nodeCount_addEdge, hnew]
    exact (List.length_modify ..).trans h.succ_length
  · rw [nodeCount_addEdge, hnew]
    exact (List.length_modify ..).trans h.pred_length
  · rw [hnew]
    exact List.concat_eq_append ▸ h.edges_nodup.concat huv
  · rw [hnew]
    exact List.nodup_cons.2 ⟨mt (h.mem_edgeSet u v).1 huv, h.edgeSet_nodup⟩
  · intro a b
    rw [h.edge_addEdge, hnew, List.mem_cons, h.mem_edgeSet, Prod.mk.injEq, or_comm]
  · intro a b hab
    rw [nodeCount_addEdge]
    rcases (h.edge_addEdge a b).1 hab with hab | ⟨rfl, rfl⟩
    · exact h.edge_lt a b hab
    · exact ⟨hu, hv⟩
  -- the tables change only at the two ends, where the list of edges gains one
  · intro a
    have ha := h.successors_eq a
    rw [successors] at ha
    rw [hnew, successors, getD_modify g.succ u a _ (by rw [h.succ_length]; exact hu), ha]
    by_cases hua : u = a <;> simp [hua]
  · intro b
    have hb := h.predecessors_eq b
    rw [predecessors] at hb
    rw [hnew, predecessors, getD_modify g.pred v b _ (by rw [h.pred_length]; exact hv), hb]
    by_cases hvb : v = b <;> simp [hvb]

end Edges

/-! ## Built graphs -/

/-- A graph without nodes is consistent. -/
theorem consistent_empty : Digraph.empty.Consistent := by
  constructor <;> simp [Digraph.empty, nodeCount, Edge, successors, predecessors]

/-- The parts of a built graph agree. -/
theorem Built.consistent {g : Digraph} (h : g.Built) : g.Consistent := by
  induction h with
  | empty => exact consistent_empty
  | addNode key label _ ih => exact ih.addNode key label
  | addEdge _ hu hv ih => exact ih.addEdge hu hv

/-- Edges that are counted at one of their ends are all counted once. -/
theorem sum_countP_eq_length {n : Nat} (f : Nat × Nat → Nat) {es : List (Nat × Nat)}
    (hes : ∀ e ∈ es, f e < n) :
    ∑ v ∈ Finset.range n, es.countP (f · = v) = es.length := by
  induction es with
  | nil => simp
  | cons e es ih =>
    have he : f e ∈ Finset.range n := Finset.mem_range.2 (hes e List.mem_cons_self)
    simp only [List.countP_cons, decide_eq_true_eq, Finset.sum_add_distrib, List.length_cons]
    rw [ih (fun e' he' => hes e' (List.mem_cons_of_mem _ he')), Finset.sum_ite_eq, if_pos he]

section Neighbours

variable {g : Digraph} (h : g.Consistent)

include h

/-- The successors of a node are the targets of its edges. -/
theorem Consistent.mem_successors {u v : Nat} : v ∈ g.successors u ↔ g.Edge u v := by
  rw [h.successors_eq, Edge]
  simp

/-- No successor is listed twice. -/
theorem Consistent.successors_nodup (u : Nat) : (g.successors u).Nodup := by
  rw [h.successors_eq]
  refine (h.edges_nodup.filter _).map_on ?_
  rintro ⟨a, b⟩ ha ⟨a', b'⟩ ha' rfl
  have h1 : a = u := by simpa using (List.mem_filter.1 ha).2
  have h2 : a' = u := by simpa using (List.mem_filter.1 ha').2
  rw [h1, h2]

/-- The predecessors of a node are the sources of the edges that lead to it. -/
theorem Consistent.mem_predecessors {u v : Nat} : u ∈ g.predecessors v ↔ g.Edge u v := by
  rw [h.predecessors_eq, Edge]
  simp

/-- No predecessor is listed twice. -/
theorem Consistent.predecessors_nodup (v : Nat) : (g.predecessors v).Nodup := by
  rw [h.predecessors_eq]
  refine (h.edges_nodup.filter _).map_on ?_
  rintro ⟨a, b⟩ ha ⟨a', b'⟩ ha' rfl
  have h1 : b = v := by simpa using (List.mem_filter.1 ha).2
  have h2 : b' = v := by simpa using (List.mem_filter.1 ha').2
  rw [h1, h2]

/-- A successor is a node. -/
theorem Consistent.successor_lt {u v : Nat} (hv : v ∈ g.successors u) : v < g.nodeCount :=
  (h.edge_lt u v (h.mem_successors.1 hv)).2

/-- The out-degrees add up to the number of edges. -/
theorem Consistent.sum_outDegree : ∑ v ∈ Finset.range g.nodeCount, g.outDegree v = g.edgeCount := by
  have hcount (v : Nat) : g.outDegree v = g.edges.countP (·.1 = v) := by
    rw [outDegree, h.successors_eq, List.length_map, List.countP_eq_length_filter]
  rw [Finset.sum_congr rfl (fun v _ => hcount v)]
  exact sum_countP_eq_length (·.1) (fun e he => (h.edge_lt e.1 e.2 he).1)

/-- The in-degrees add up to the number of edges. -/
theorem Consistent.sum_inDegree : ∑ v ∈ Finset.range g.nodeCount, g.inDegree v = g.edgeCount := by
  have hcount (v : Nat) : g.inDegree v = g.edges.countP (·.2 = v) := by
    rw [inDegree, h.predecessors_eq, List.length_map, List.countP_eq_length_filter]
  rw [Finset.sum_congr rfl (fun v _ => hcount v)]
  exact sum_countP_eq_length (·.2) (fun e he => (h.edge_lt e.1 e.2 he).2)

end Neighbours

/-! ## Edges between keys -/

/-- The edges, as pairs of keys. -/
def keyEdges (g : Digraph) : List (String × String) :=
  g.edges.map fun e => (g.key e.1, g.key e.2)

/-- Edges between keys are those between their nodes. -/
theorem mem_keyEdges {g : Digraph} {a b : String} :
    (a, b) ∈ g.keyEdges ↔ ∃ u v, g.Edge u v ∧ g.key u = a ∧ g.key v = b := by
  simp [keyEdges, Edge]

/-- Linking two keys keeps the nodes and adds the edge between the keys. -/
theorem link_spec {g : Digraph} (hg : g.Built) {source target : String}
    (hs : source ∈ g.keys) (ht : target ∈ g.keys) :
    (g.link source target).Built ∧ (g.link source target).keys = g.keys ∧
    (g.link source target).labels = g.labels ∧
    ∀ p, p ∈ (g.link source target).keyEdges ↔ p ∈ g.keyEdges ∨ p = (source, target) := by
  obtain ⟨u, hu, hult, rfl⟩ := hg.consistent.exists_node? hs
  obtain ⟨v, hv, hvlt, rfl⟩ := hg.consistent.exists_node? ht
  have hlink : g.link (g.key u) (g.key v) = g.addEdge u v := by
    unfold link
    rw [hu, hv]
  have hkey (w : Nat) : (g.addEdge u v).key w = g.key w := by
    rw [Digraph.key, keys_addEdge, Digraph.key]
  rw [hlink]
  refine ⟨hg.addEdge hult hvlt, keys_addEdge g u v, labels_addEdge g u v, ?_⟩
  rintro ⟨a, b⟩
  rw [mem_keyEdges, mem_keyEdges, Prod.mk.injEq]
  simp only [hkey, hg.consistent.edge_addEdge]
  constructor
  · rintro ⟨i, j, hij | ⟨rfl, rfl⟩, ha, hb⟩
    · exact Or.inl ⟨i, j, hij, ha, hb⟩
    · exact Or.inr ⟨ha.symm, hb.symm⟩
  · rintro (⟨i, j, hij, ha, hb⟩ | ⟨ha, hb⟩)
    · exact ⟨i, j, Or.inl hij, ha, hb⟩
    · exact ⟨u, v, Or.inr ⟨rfl, rfl⟩, ha.symm, hb.symm⟩

/-- Linking several pairs of keys keeps the nodes and adds the edges between the keys. -/
theorem foldl_link_spec {g : Digraph} (hg : g.Built) {pairs : List (String × String)}
    (hpairs : ∀ p ∈ pairs, p.1 ∈ g.keys ∧ p.2 ∈ g.keys) :
    (pairs.foldl (fun g p => g.link p.1 p.2) g).Built ∧
    (pairs.foldl (fun g p => g.link p.1 p.2) g).keys = g.keys ∧
    (pairs.foldl (fun g p => g.link p.1 p.2) g).labels = g.labels ∧
    ∀ p, p ∈ (pairs.foldl (fun g p => g.link p.1 p.2) g).keyEdges ↔
      p ∈ g.keyEdges ∨ p ∈ pairs := by
  induction pairs generalizing g with
  | nil => exact ⟨hg, rfl, rfl, fun p => by simp⟩
  | cons first pairs ih =>
    rw [List.foldl_cons]
    obtain ⟨hs, ht⟩ := hpairs first List.mem_cons_self
    obtain ⟨hbuilt, hkeys, hlabels, hedges⟩ := link_spec hg hs ht
    obtain ⟨hbuilt', hkeys', hlabels', hedges'⟩ := ih hbuilt (fun p hp => by
      rw [hkeys]
      exact hpairs p (List.mem_cons_of_mem first hp))
    refine ⟨hbuilt', hkeys'.trans hkeys, hlabels'.trans hlabels, fun p => ?_⟩
    rw [hedges', hedges, List.mem_cons, or_assoc]

/-! ## A small graph -/

/-- Adding nodes one after another builds a graph. -/
theorem Built.foldl_addNode {g : Digraph} (hg : g.Built) (keys : List String) :
    (keys.foldl (fun g key => g.addNode key key) g).Built := by
  induction keys generalizing g with
  | nil => exact hg
  | cons key keys ih => exact ih (hg.addNode key key)

/-- So does adding edges between nodes that are there. -/
theorem Built.foldl_addEdge {g : Digraph} (hg : g.Built) {es : List (Nat × Nat)}
    (hes : ∀ e ∈ es, e.1 < g.nodeCount ∧ e.2 < g.nodeCount) :
    (es.foldl (fun g e => g.addEdge e.1 e.2) g).Built := by
  induction es generalizing g with
  | nil => exact hg
  | cons e es ih =>
    obtain ⟨hu, hv⟩ := hes e List.mem_cons_self
    refine ih (hg.addEdge hu hv) (fun e' he' => ?_)
    rw [nodeCount_addEdge]
    exact hes e' (List.mem_cons_of_mem e he')

/-- Two circuits through the first of five nodes, a loop at the fourth, and an edge that leads from it
to the last. -/
def knot : Digraph :=
  [(0, 1), (1, 0), (0, 2), (2, 3), (3, 0), (3, 3), (3, 4)].foldl (fun g e => g.addEdge e.1 e.2)
    (["a", "b", "c", "d", "e"].foldl (fun g key => g.addNode key key) Digraph.empty)

theorem built_knot : knot.Built :=
  (Built.empty.foldl_addNode _).foldl_addEdge (by decide)

end Digraph

end CodeSurvey
