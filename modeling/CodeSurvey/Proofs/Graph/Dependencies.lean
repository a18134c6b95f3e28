/-
# Dependencies follow the imports

A file depends on another if one of its imports means the other: the first file, but the importing
one, whose path holds the name of the module written as a path (`DependsOn`).  The files are the
nodes of the graph of dependencies (`HasFiles`), the imports link them, and so the edges between
files are the dependencies (`dependencyGraph_spec`).  What the analysis shows is read off the tables
of neighbours, which say the same as the edges (`agreesWith_ofGraph`).
-/
import CodeSurvey.Distinct
import CodeSurvey.Graph.Dependency
import CodeSurvey.Proofs.Graph.Construction
import CodeSurvey.Proofs.Graph.Ranking
import Mathlib.Data.Set.Card

namespace CodeSurvey

/-! ## Neighbours by their keys -/

namespace Digraph

/-- The keys of the nodes are listed in their order. -/
theorem map_key_nodes (g : Digraph) : g.nodes.map g.key = g.keys := by
  apply List.ext_getElem
  · simp [nodes, nodeCount]
  · intro v hv hkeys
    simp [nodes, key, hkeys]

section Keys

variable {g : Digraph} (h : g.Consistent)

include h

/-- Nodes with one key are one node. -/
theorem Consistent.key_inj {u v : Nat} (hu : u < g.nodeCount) (hv : v < g.nodeCount)
    (hkey : g.key u = g.key v) : u = v := by
  rw [key, key, List.getD_eq_getElem?_getD, List.getD_eq_getElem?_getD,
    List.getElem?_eq_getElem hu, List.getElem?_eq_getElem hv] at hkey
  exact h.keys_nodup.getElem_inj_iff.1 hkey

/-- No edge between two keys is listed twice. -/
theorem Consistent.keyEdges_nodup : g.keyEdges.Nodup := by
  refine h.edges_nodup.map_on ?_
  rintro ⟨u, v⟩ huv ⟨u', v'⟩ huv' hkeys
  obtain ⟨hsource, htarget⟩ := Prod.mk.inj hkeys
  obtain ⟨hu, hv⟩ := h.edge_lt u v huv
  obtain ⟨hu', hv'⟩ := h.edge_lt u' v' huv'
  rw [h.key_inj hu hu' hsource, h.key_inj hv hv' htarget]

/-- Among nodes, different ones have different keys. -/
theorem Consistent.map_key_nodup {vs : List Nat} (hvs : ∀ v ∈ vs, v < g.nodeCount)
    (hnodup : vs.Nodup) : (vs.map g.key).Nodup :=
  hnodup.map_on fun _ hu _ hv => h.key_inj (hvs _ hu) (hvs _ hv)

/-- No key is listed twice among those that a node leads to. -/
theorem Consistent.successorKeys_nodup (v : Nat) : ((g.successors v).map g.key).Nodup :=
  h.map_key_nodup (fun _ hw => h.successor_lt hw) (h.successors_nodup v)

theorem Consistent.predecessorKeys_nodup (v : Nat) : ((g.predecessors v).map g.key).Nodup :=
  h.map_key_nodup (fun u hu => (h.edge_lt u v (h.mem_predecessors.1 hu)).1)
    (h.predecessors_nodup v)

/-- The keys that a node leads to are those at the ends of its edges. -/
theorem Consistent.mem_successorKeys {v : Nat} (hv : v < g.nodeCount) {q : String} :
    q ∈ (g.successors v).map g.key ↔ (g.key v, q) ∈ g.keyEdges := by
  rw [List.mem_map, mem_keyEdges]
  constructor
  · rintro ⟨w, hw, rfl⟩
    exact ⟨v, w, h.mem_successors.1 hw, rfl, rfl⟩
  · rintro ⟨u, w, hedge, hkey, rfl⟩
    obtain rfl := h.key_inj (h.edge_lt u w hedge).1 hv hkey
    exact ⟨w, h.mem_successors.2 hedge, rfl⟩

/-- The keys that lead to a node are those at the starts of its edges. -/
theorem Consistent.mem_predecessorKeys {v : Nat} (hv : v < g.nodeCount) {q : String} :
    q ∈ (g.predecessors v).map g.key ↔ (q, g.key v) ∈ g.keyEdges := by
  rw [List.mem_map, mem_keyEdges]
  constructor
  · rintro ⟨u, hu, rfl⟩
    exact ⟨u, v, h.mem_predecessors.1 hu, rfl, rfl⟩
  · rintro ⟨u, w, hedge, rfl, hkey⟩
    obtain rfl := h.key_inj (h.edge_lt u w hedge).2 hv hkey
    exact ⟨u, h.mem_predecessors.2 hedge, rfl⟩

end Keys

end Digraph

/-- A list without repetitions is as long as the set of its items is large. -/
theorem length_eq_ncard {keys : List String} (hnodup : keys.Nodup) {p : String → Prop}
    (hp : ∀ q, q ∈ keys ↔ p q) : keys.length = {q | p q}.ncard := by
  have hset : {q | p q} = (keys.toFinset : Set String) := by
    ext q
    simp [hp]
  rw [hset, Set.ncard_coe_finset, List.toFinset_card_of_nodup hnodup]

/-- A list is empty if nothing has the property of its items. -/
theorem length_eq_zero_iff_forall_not {keys : List String} {p : String → Prop}
    (hp : ∀ q, q ∈ keys ↔ p q) : keys.length = 0 ↔ ∀ q, ¬ p q := by
  rw [List.length_eq_zero_iff, List.eq_nil_iff_forall_not_mem]
  exact forall_congr' fun q => not_congr (hp q)

/-! ## What an analysis shows -/

open Classical in
/-- An analysis shows some files and a relation between them. -/
structure DependencyAnalysis.AgreesWith (a : DependencyAnalysis) (files : List String)
    (R : String → String → Prop) : Prop where
  files_eq : a.graph.keys = files
  files_nodup : files.Nodup
  edges : ∀ p q, (p, q) ∈ a.graph.keyEdges ↔ R p q
  edges_nodup : a.graph.keyEdges.Nodup
  /-- The files with dependencies are those that are related to some file. -/
  dependents : a.fileDependencies.map (·.1) = files.filter fun p => ∃ q, R p q
  dependencies : ∀ d ∈ a.fileDependencies, d.2.Nodup ∧ ∀ q, q ∈ d.2 ↔ R d.1 q
  isolated : a.isolatedFiles = files.filter fun p => ∀ q, ¬ R p q ∧ ¬ R q p
  mostDependedUpon : IsRanking files (fun p => {q | R q p}.ncard) 5
    (a.mostDependedUpon.map fun c => (c.file, c.count))
  mostDependencies : IsRanking files (fun p => {q | R p q}.ncard) 5
    (a.mostDependencies.map fun c => (c.file, c.count))

/-- Nodes that are chosen by their keys. -/
theorem map_key_filter {g : Digraph} {p : Nat → Bool} {r : String → Prop} [DecidablePred r]
    (hp : ∀ v ∈ g.nodes, p v = true ↔ r (g.key v)) :
    (g.nodes.filter p).map g.key = g.keys.filter fun key => r key := by
  rw [← g.map_key_nodes, List.filter_map]
  congr 1
  refine List.filter_congr fun v hv => ?_
  rw [Bool.eq_iff_iff, hp v hv, Function.comp_apply, decide_eq_true_eq]

/-- The most frequent files are ranked by what their nodes are ranked by. -/
theorem isRanking_fileCounts {g : Digraph} {degree : Nat → Nat} {count : String → Nat}
    (hcount : ∀ v ∈ g.nodes, degree v = count (g.key v)) :
    IsRanking g.keys count 5
      (((g.topBy degree topFiles).map fun (v, n) => FileCount.mk (g.key v) n).map
        fun c => (c.file, c.count)) := by
  rw [← g.map_key_nodes, List.map_map]
  exact (g.isRanking_topBy degree 5).map fun v hv => (hcount v hv).symm

section Analysis

variable {g : Digraph} (h : g.Consistent)

include h

/-- As many edges leave a node as there are keys that its key leads to. -/
theorem outDegree_eq_ncard {v : Nat} (hv : v ∈ g.nodes) :
    g.outDegree v = {q | (g.key v, q) ∈ g.keyEdges}.ncard := by
  have hlength := length_eq_ncard (h.successorKeys_nodup v)
    fun q => h.mem_successorKeys (List.mem_range.1 hv)
  rwa [List.length_map] at hlength

theorem outDegree_eq_zero_iff {v : Nat} (hv : v ∈ g.nodes) :
    g.outDegree v = 0 ↔ ∀ q, (g.key v, q) ∉ g.keyEdges := by
  have hlength := length_eq_zero_iff_forall_not
    fun q => h.mem_successorKeys (List.mem_range.1 hv) (q := q)
  rwa [List.length_map] at hlength

/-- As many edges lead to a node as there are keys that lead to its key. -/
theorem inDegree_eq_ncard {v : Nat} (hv : v ∈ g.nodes) :
    g.inDegree v = {q | (q, g.key v) ∈ g.keyEdges}.ncard := by
  have hlength := length_eq_ncard (h.predecessorKeys_nodup v)
    fun q => h.mem_predecessorKeys (List.mem_range.1 hv)
  rwa [List.length_map] at hlength

theorem inDegree_eq_zero_iff {v : Nat} (hv : v ∈ g.nodes) :
    g.inDegree v = 0 ↔ ∀ q, (q, g.key v) ∉ g.keyEdges := by
  have hlength := length_eq_zero_iff_forall_not
    fun q => h.mem_predecessorKeys (List.mem_range.1 hv) (q := q)
  rwa [List.length_map] at hlength

open Classical in
/-- What a graph shows are its keys and the edges between them. -/
theorem agreesWith_ofGraph :
    (DependencyAnalysis.ofGraph g).AgreesWith g.keys fun p q => (p, q) ∈ g.keyEdges where
  files_eq := rfl
  files_nodup := h.keys_nodup
  edges := fun _ _ => Iff.rfl
  edges_nodup := h.keyEdges_nodup
  dependents := by
    rw [DependencyAnalysis.ofGraph, List.map_map]
    refine map_key_filter fun v hv => ?_
    rw [decide_eq_true_eq, Nat.pos_iff_ne_zero, ne_eq, outDegree_eq_zero_iff h hv]
    push Not
    rfl
  dependencies := by
    rintro d hd
    obtain ⟨v, hv, rfl⟩ := List.mem_map.1 hd
    have hlt : v < g.nodeCount := List.mem_range.1 (List.mem_of_mem_filter hv)
    exact ⟨h.successorKeys_nodup v, fun q => h.mem_successorKeys hlt⟩
  isolated := by
    refine map_key_filter fun v hv => ?_
    rw [decide_eq_true_eq, Nat.add_eq_zero_iff, inDegree_eq_zero_iff h hv,
      outDegree_eq_zero_iff h hv, and_comm, forall_and]
  mostDependedUpon := isRanking_fileCounts fun _ hv => inDegree_eq_ncard h hv
  mostDependencies := isRanking_fileCounts fun _ hv => outDegree_eq_ncard h hv

end Analysis

/-! ## Files and imports -/

/-- The name of a module, written as a path. -/
def modulePath (m : String) : List Char :=
  m.toList.map fun c => if c = '.' then '/' else c

/-- A path may be meant by a module that a file imports. -/
def Matches (importer m path : String) : Prop :=
  path ≠ importer ∧ modulePath m <:+: path.toList

/-- A path is the first that may be meant by a module that a file imports. -/
def IsMeant (paths : List String) (importer m path : String) : Prop :=
  ∃ front back, paths = front ++ path :: back ∧ Matches importer m path ∧
    ∀ earlier ∈ front, ¬ Matches importer m earlier

/-- A file with one path has an import that means the file with another. -/
def DependsOn (outlines : List Outline) (a b : String) : Prop :=
  ∃ o ∈ outlines, o.path = a ∧ ∃ i ∈ o.imports, ∃ m ∈ i.modules, m ≠ "" ∧
    IsMeant (outlines.map (·.path)) a m b

/-- The file that an import is resolved to is the one that is meant. -/
theorem importTarget?_eq_some_iff {paths : List String} {importer m path : String} :
    importTarget? paths importer (modulePath m) = some path ↔ IsMeant paths importer m path := by
  have hmatches : ∀ p : String,
      (p ≠ importer && isWithin (modulePath m) p.toList) = true ↔ Matches importer m p := by
    intro p
    rw [Bool.and_eq_true, decide_eq_true_eq, isWithin_iff_infix, Matches]
  have hother : ∀ p : String, (!(p ≠ importer && isWithin (modulePath m) p.toList)) = true ↔
      ¬ Matches importer m p := by
    intro p
    rw [Bool.not_eq_true', Bool.eq_false_iff, ne_eq, hmatches]
  rw [importTarget?, List.find?_eq_some_iff_append, hmatches]
  simp only [hother]
  constructor
  · rintro ⟨hpath, front, back, hpaths, hfront⟩
    exact ⟨front, back, hpaths, hpath, hfront⟩
  · rintro ⟨front, back, hpaths, hpath, hfront⟩
    exact ⟨hpath, front, back, hpaths, hfront⟩

/-- The pairs of a file and another that one of its imports means. -/
def importPairs (outlines : List Outline) : List (String × String) :=
  outlines.flatMap fun o => (importTargets (outlines.map (·.path)) o).map (o.path, ·)

/-- The pairs of importing and imported files are those that depend on each other. -/
theorem mem_importPairs {outlines : List Outline} {a b : String} :
    (a, b) ∈ importPairs outlines ↔ DependsOn outlines a b := by
  have htargets : ∀ o : Outline, b ∈ importTargets (outlines.map (·.path)) o ↔
      ∃ i ∈ o.imports, ∃ m ∈ i.modules, m ≠ "" ∧
        IsMeant (outlines.map (·.path)) o.path m b := by
    intro o
    rw [importTargets, List.mem_filterMap]
    constructor
    · rintro ⟨piece, hpiece, htarget⟩
      obtain ⟨i, hi, hpiece⟩ := List.mem_flatMap.1 hpiece
      obtain ⟨m, hm, rfl⟩ := List.mem_map.1 hpiece
      obtain ⟨hm, hname⟩ := List.mem_filter.1 hm
      exact ⟨i, hi, m, hm, of_decide_eq_true hname, importTarget?_eq_some_iff.1 htarget⟩
    · rintro ⟨i, hi, m, hm, hname, hmeant⟩
      have hpiece : modulePath m ∈ importPaths i :=
        List.mem_map_of_mem (List.mem_filter.2 ⟨hm, decide_eq_true hname⟩)
      exact ⟨modulePath m, List.mem_flatMap.2 ⟨i, hi, hpiece⟩,
        importTarget?_eq_some_iff.2 hmeant⟩
  rw [importPairs, List.mem_flatMap]
  refine exists_congr fun o => and_congr_right fun _ => ?_
  rw [List.mem_map]
  constructor
  · rintro ⟨t, ht, heq⟩
    obtain ⟨rfl, rfl⟩ := Prod.mk.inj heq
    exact ⟨rfl, (htargets o).1 ht⟩
  · rintro ⟨rfl, hmeant⟩
    exact ⟨b, (htargets o).2 hmeant, rfl⟩

/-- What is true after the nodes of some paths were added. -/
structure HasFiles (paths : List String) (g : Digraph) : Prop where
  built : g.Built
  keys : g.keys = firstBy id paths
  edges : g.edges = []

/-- One more file becomes one more node, unless it was there. -/
theorem HasFiles.addNode {paths : List String} {g : Digraph} (h : HasFiles paths g)
    (path label : String) : HasFiles (paths ++ [path]) (g.addNode path label) := by
  refine ⟨h.built.addNode path label, ?_, ?_⟩
  · rw [h.built.consistent.keys_addNode, firstBy_concat, h.keys, List.map_id]
    simp only [mem_firstBy_id, id]
  · rw [Digraph.edges_addNode, h.edges]

theorem HasFiles.foldl_addNode {done : List String} {g : Digraph} (h : HasFiles done g)
    (paths : List String) :
    HasFiles (done ++ paths) (paths.foldl (fun g p => g.addNode p (pathLabel p)) g) := by
  induction paths generalizing done g with
  | nil =>
    rw [List.append_nil]
    exact h
  | cons path paths ih =>
    rw [List.foldl_cons, List.append_cons]
    exact ih (h.addNode path (pathLabel path))

/-! ## The graph of dependencies -/

section Whole

variable (outlines : List Outline)

/-- The ends of a dependency are files. -/
theorem mem_paths_of_dependsOn {outlines : List Outline} {a b : String}
    (h : DependsOn outlines a b) :
    a ∈ outlines.map (·.path) ∧ b ∈ outlines.map (·.path) := by
  obtain ⟨o, ho, rfl, i, -, m, -, -, front, back, hpaths, -⟩ := h
  refine ⟨List.mem_map_of_mem ho, ?_⟩
  rw [hpaths]
  exact List.mem_append_right front List.mem_cons_self

/-- The nodes are the files, and the edges are the dependencies. -/
theorem dependencyGraph_spec :
    (dependencyGraph outlines).Built ∧
      (dependencyGraph outlines).keys = firstBy id (outlines.map (·.path)) ∧
      ∀ a b, (a, b) ∈ (dependencyGraph outlines).keyEdges ↔ DependsOn outlines a b := by
  have hstart : HasFiles [] Digraph.empty := ⟨.empty, rfl, rfl⟩
  have hfiles := hstart.foldl_addNode (outlines.map (·.path))
  rw [List.nil_append] at hfiles
  have hends : ∀ p ∈ importPairs outlines, p.1 ∈ firstBy id (outlines.map (·.path)) ∧
      p.2 ∈ firstBy id (outlines.map (·.path)) := by
    intro p hp
    rw [mem_firstBy_id, mem_firstBy_id]
    exact mem_paths_of_dependsOn (mem_importPairs.1 hp)
  rw [← hfiles.keys] at hends
  obtain ⟨hbuilt, hkeys, -, hedges⟩ := Digraph.foldl_link_spec hfiles.built hends
  have hgraph : dependencyGraph outlines = (importPairs outlines).foldl
      (fun g p => g.link p.1 p.2) ((outlines.map (·.path)).foldl
        (fun g p => g.addNode p (pathLabel p)) Digraph.empty) := by
    rw [importPairs, List.foldl_flatMap]
    simp only [dependencyGraph, List.foldl_map]
  rw [hgraph]
  refine ⟨hbuilt, hkeys.trans hfiles.keys, fun a b => ?_⟩
  rw [hedges, mem_importPairs, Digraph.keyEdges, hfiles.edges, List.map_nil]
  exact or_iff_right List.not_mem_nil

/-- **Dependencies follow the imports.**  The edges are the pairs of a file and the first other file
that one of its imports means, and all that the analysis of the graph shows agrees with them. -/
theorem dependencies_follow_imports :
    (DependencyAnalysis.ofOutlines outlines).AgreesWith (firstBy id (outlines.map (·.path)))
      (DependsOn outlines) := by
  obtain ⟨hbuilt, hkeys, hedges⟩ := dependencyGraph_spec outlines
  have hrelation : (fun p q => (p, q) ∈ (dependencyGraph outlines).keyEdges) =
      DependsOn outlines := by
    funext p q
    exact propext (hedges p q)
  rw [← hkeys, ← hrelation]
  exact agreesWith_ofGraph hbuilt.consistent

end Whole

end CodeSurvey
