/-
# The parts of a graph stay in agreement

A graph says several things more than once: a key is listed and stands in the index, and an edge
stands in the list of edges, in the set of edges and in a table of neighbours at each of its ends.
However a graph grows, these parts agree (`representation_stays_consistent`).  Nodes are only ever added at the end
(`Grows.keys_prefix`, `Grows.labels_prefix`), so a node keeps its number, its key and its label.
-/
import CodeSurvey.Proofs.Graph.Construction

namespace CodeSurvey

namespace Digraph

/-- A graph that comes from another by adding nodes, and edges between nodes. -/
inductive Grows (g : Digraph) : Digraph → Prop where
  | refl : Grows g g
  | addNode {g' : Digraph} (key label : String) (h : Grows g g') : Grows g (g'.addNode key label)
  | addEdge {g' : Digraph} {u v : Nat} (h : Grows g g') (hu : u < g'.nodeCount)
      (hv : v < g'.nodeCount) : Grows g (g'.addEdge u v)

section Growing

variable {g g' : Digraph}

theorem Grows.built (h : g.Grows g') (hg : g.Built) : g'.Built := by
  induction h with
  | refl => exact hg
  | addNode key label _ ih => exact ih.addNode key label
  | addEdge _ hu hv ih => exact ih.addEdge hu hv

/-- A node is added after the others, if at all. -/
theorem prefix_addNode (g : Digraph) (key label : String) :
    g.keys <+: (g.addNode key label).keys ∧ g.labels <+: (g.addNode key label).labels := by
  unfold addNode
  split
  · exact ⟨List.prefix_rfl, List.prefix_rfl⟩
  · exact ⟨List.prefix_append _ _, List.prefix_append _ _⟩

theorem Grows.keys_prefix (h : g.Grows g') : g.keys <+: g'.keys := by
  induction h with
  | refl => exact List.prefix_rfl
  | addNode key label _ ih => exact ih.trans (prefix_addNode _ key label).1
  | addEdge _ _ _ ih => rwa [keys_addEdge]

theorem Grows.labels_prefix (h : g.Grows g') : g.labels <+: g'.labels := by
  induction h with
  | refl => exact List.prefix_rfl
  | addNode key label _ ih => exact ih.trans (prefix_addNode _ key label).2
  | addEdge _ _ _ ih => rwa [labels_addEdge]

end Growing

/-! ## Looking up and reading -/

/-- An entry of a list is that of a longer list. -/
theorem getD_of_prefix {names names' : List String} (h : names <+: names') {v : Nat}
    (hv : v < names.length) : names'.getD v "" = names.getD v "" := by
  obtain ⟨more, rfl⟩ := h
  rw [List.getD_eq_getElem?_getD, List.getD_eq_getElem?_getD, List.getElem?_append_left hv]

theorem getElem?_keys {g : Digraph} {v : Nat} (hv : v < g.nodeCount) :
    g.keys[v]? = some (g.key v) := by
  have hlt : v < g.keys.length := hv
  rw [key, List.getD_eq_getElem?_getD, List.getElem?_eq_getElem hlt]
  rfl

/-- The node with a given key, or the first node if there is none. -/
def nodeOf (g : Digraph) (key : String) : Nat := (g.node? key).getD 0

section Parts

variable {g : Digraph} (h : g.Consistent)

include h

/-- The key of a node is found at this node. -/
theorem Consistent.nodeOf_key {v : Nat} (hv : v < g.nodeCount) : g.nodeOf (g.key v) = v := by
  rw [nodeOf, h.node?_eq_some_iff.2 (getElem?_keys hv), Option.getD_some]

/-- The index has one entry for each key. -/
theorem Consistent.index_perm_keys : (g.index.map (·.1)).Perm g.keys := by
  refine (List.perm_ext_iff_of_nodup h.index_nodup h.keys_nodup).2 fun key => ?_
  rw [List.mem_map, List.mem_iff_getElem?]
  constructor
  · rintro ⟨⟨key', v⟩, hmem, rfl⟩
    exact ⟨v, (h.mem_index key' v).1 hmem⟩
  · rintro ⟨v, hv⟩
    exact ⟨(key, v), (h.mem_index key v).2 hv, rfl⟩

/-- The set of edges holds the listed edges, each once. -/
theorem Consistent.edgeSet_perm_edges : g.edgeSet.Perm g.edges :=
  (List.perm_ext_iff_of_nodup h.edgeSet_nodup h.edges_nodup).2 fun e => h.mem_edgeSet e.1 e.2

/-- The index leads to nodes only. -/
theorem Consistent.lt_of_mem_index {e : String × Nat} (he : e ∈ g.index) : e.2 < g.nodeCount :=
  (List.getElem?_eq_some_iff.1 ((h.mem_index e.1 e.2).1 he)).1

/-- The tables of neighbours hold nodes only. -/
theorem Consistent.lt_of_mem_succ {row : List Nat} (hrow : row ∈ g.succ) {v : Nat} (hv : v ∈ row) :
    v < g.nodeCount := by
  obtain ⟨u, hu, rfl⟩ := List.mem_iff_getElem.1 hrow
  apply h.successor_lt (u := u)
  rwa [successors, List.getD_eq_getElem?_getD, List.getElem?_eq_getElem hu]

theorem Consistent.lt_of_mem_pred {row : List Nat} (hrow : row ∈ g.pred) {u : Nat} (hu : u ∈ row) :
    u < g.nodeCount := by
  obtain ⟨v, hv, rfl⟩ := List.mem_iff_getElem.1 hrow
  refine (h.edge_lt u v (h.mem_predecessors.1 ?_)).1
  rwa [predecessors, List.getD_eq_getElem?_getD, List.getElem?_eq_getElem hv]

end Parts

/-- **The parts of a graph agree however it grows.**  Keys are distinct, the index leads to where they
are listed and back, and every table has one entry per key.  The nodes that were there keep their
number, key and label.  The edges are listed once and are those of the set of edges, and each of them
is found by looking it up, at its source and at its target.  Only nodes are stored.  The neighbours of
a node are its edges in their order, so the degrees add up to the number of edges. -/
theorem representation_stays_consistent {g g' : Digraph} (hg : g.Built) (hgrows : g.Grows g') :
    g'.keys.Nodup ∧ (g'.index.map (·.1)).Perm g'.keys ∧
    (∀ key v, ((key, v) ∈ g'.index ↔ g'.keys[v]? = some key) ∧
      (g'.node? key = some v ↔ g'.keys[v]? = some key)) ∧
    g'.labels.length = g'.nodeCount ∧ g'.succ.length = g'.nodeCount ∧
    g'.pred.length = g'.nodeCount ∧
    (∀ v < g.nodeCount, v < g'.nodeCount ∧ g'.key v = g.key v ∧ g'.label v = g.label v ∧
      g'.node? (g.key v) = some v) ∧
    (∀ u v, ((u, v) ∈ g'.edgeSet ↔ (u, v) ∈ g'.edges) ∧
      (g'.hasEdge u v = true ↔ (u, v) ∈ g'.edges) ∧
      (v ∈ g'.successors u ↔ (u, v) ∈ g'.edges) ∧
      (u ∈ g'.predecessors v ↔ (u, v) ∈ g'.edges)) ∧
    g'.edges.Nodup ∧ g'.edgeSet.Perm g'.edges ∧
    (∀ v, (g'.successors v).Nodup ∧ (g'.predecessors v).Nodup) ∧
    (∀ e ∈ g'.index, e.2 < g'.nodeCount) ∧
    (∀ e ∈ g'.edges, e.1 < g'.nodeCount ∧ e.2 < g'.nodeCount) ∧
    (∀ row ∈ g'.succ, ∀ v ∈ row, v < g'.nodeCount) ∧
    (∀ row ∈ g'.pred, ∀ u ∈ row, u < g'.nodeCount) ∧
    ∑ v ∈ Finset.range g'.nodeCount, g'.inDegree v = g'.edgeCount ∧
    ∑ v ∈ Finset.range g'.nodeCount, g'.outDegree v = g'.edgeCount ∧
    ∀ v, g'.successors v = (g'.edges.filter (·.1 = v)).map (·.2) ∧
      g'.predecessors v = (g'.edges.filter (·.2 = v)).map (·.1) := by
  have h := (hgrows.built hg).consistent
  refine ⟨h.keys_nodup, h.index_perm_keys, fun key v => ⟨h.mem_index key v, h.node?_eq_some_iff⟩,
    h.labels_length, h.succ_length, h.pred_length, ?_,
    fun u v => ⟨h.mem_edgeSet u v, h.hasEdge_iff, h.mem_successors, h.mem_predecessors⟩,
    h.edges_nodup, h.edgeSet_perm_edges,
    fun v => ⟨h.successors_nodup v, h.predecessors_nodup v⟩, fun e he => h.lt_of_mem_index he,
    fun e he => h.edge_lt e.1 e.2 he, fun row hrow v hv => h.lt_of_mem_succ hrow hv,
    fun row hrow u hu => h.lt_of_mem_pred hrow hu, h.sum_inDegree, h.sum_outDegree,
    fun v => ⟨h.successors_eq v, h.predecessors_eq v⟩⟩
  intro v hv
  have hv' : v < g'.nodeCount := Nat.lt_of_lt_of_le hv hgrows.keys_prefix.length_le
  have hkey : g'.key v = g.key v := getD_of_prefix hgrows.keys_prefix hv
  have hlabel : g'.label v = g.label v := by
    apply getD_of_prefix hgrows.labels_prefix
    rw [hg.consistent.labels_length]
    exact hv
  refine ⟨hv', hkey, hlabel, ?_⟩
  rw [h.node?_eq_some_iff, ← hkey]
  exact getElem?_keys hv'

/-- The small graph after a key and a loop that it has, and a new node with a loop. -/
def grownKnot : Digraph :=
  (((knot.addNode "a" "again").addEdge 3 3).addNode "f" "f").addEdge 5 5

/-- The first node keeps its label and its entry in the index, and only the new loop is counted. -/
theorem representation_stays_consistent_grown :
    knot.Built ∧ knot.Grows grownKnot ∧ grownKnot.label 0 = "a" ∧
    grownKnot.node? "a" = some 0 ∧ grownKnot.edgeCount = 8 ∧
    grownKnot.edgeSet.length = 8 ∧ (grownKnot.index.map (·.1)).Perm grownKnot.keys ∧
    ∑ v ∈ Finset.range grownKnot.nodeCount, grownKnot.inDegree v = 8 := by
  have hgrows : knot.Grows grownKnot :=
    (((Grows.refl.addNode "a" "again").addEdge (by decide) (by decide)).addNode
      "f" "f").addEdge (by decide) (by decide)
  have hcount : grownKnot.edgeCount = 8 := by decide
  obtain ⟨-, hindex, -, -, -, -, hkept, -, -, hset, -, -, -, -, -, hdegrees, -, -⟩ :=
    representation_stays_consistent built_knot hgrows
  obtain ⟨-, -, hlabel, hnode⟩ := hkept 0 (by decide)
  have hfirst : knot.key 0 = "a" ∧ knot.label 0 = "a" := by decide
  rw [hfirst.2] at hlabel
  rw [hfirst.1] at hnode
  exact ⟨built_knot, hgrows, hlabel, hnode, hcount, hset.length_eq.trans hcount, hindex,
    hdegrees.trans hcount⟩

end Digraph

end CodeSurvey
