/-
# Circular dependencies

A list of circuits that is cut after a few is still enough to tell whether there is any.  Where no
node has an edge to itself, there is a circuit if and only if two nodes reach each other
(`exists_isElementary_iff`): a path back to a node can be shortened until it visits no node twice.
Files never depend on themselves (`not_dependsOn_self`), so this is what the analysis of dependencies
says about files (`circular_iff_mutual_dependency`).
-/
import CodeSurvey.Proofs.Graph.Circuits
import CodeSurvey.Proofs.Graph.Dependencies

namespace CodeSurvey

open Relation

namespace Digraph

/-! ## Nodes that reach each other -/

/-- Two different nodes reach each other. -/
def HasMutual (g : Digraph) : Prop :=
  ∃ u v, u ≠ v ∧ g.Reaches u v ∧ g.Reaches v u

section Circuits

variable {g : Digraph}

/-- What can be reached is reached along a path without a node twice. -/
theorem Reaches.exists_path {u v : Nat} (h : g.Reaches u v) :
    ∃ rest, (u :: rest).Nodup ∧ (u :: rest).IsChain g.Edge ∧ (u :: rest).getLast? = some v := by
  induction h using ReflTransGen.head_induction_on with
  | refl => exact ⟨[], List.nodup_singleton v, List.isChain_singleton v, rfl⟩
  | @head u w hedge _ ih =>
    obtain ⟨rest, hnodup, hchain, hlast⟩ := ih
    by_cases hu : u ∈ w :: rest
    · -- the path comes back to `u`: what lies before is left out
      obtain ⟨front, back, hsplit⟩ := List.append_of_mem hu
      rw [hsplit] at hnodup hchain hlast
      refine ⟨back, hnodup.of_append_right, hchain.right_of_append, ?_⟩
      rw [← hlast, List.getLast?_append_of_ne_nil front (List.cons_ne_nil u back)]
    · refine ⟨w :: rest, List.nodup_cons.2 ⟨hu, hnodup⟩,
        List.isChain_cons_cons.2 ⟨hedge, hchain⟩, ?_⟩
      rw [← hlast, List.getLast?_cons_cons]

/-- Without loops a circuit has a second node. -/
theorem IsElementary.exists_second (hloop : ∀ v, ¬ g.Edge v v) {c : List Nat}
    (h : g.IsElementary c) : ∃ u v rest, c = u :: v :: rest := by
  match c with
  | [] => exact h.elim
  | [v] => exact absurd (List.isChain_pair.1 h.2) (hloop v)
  | u :: v :: rest => exact ⟨u, v, rest, rfl⟩

/-- Without loops there is a circuit if and only if two nodes reach each other. -/
theorem exists_isElementary_iff (hloop : ∀ v, ¬ g.Edge v v) :
    (∃ c, g.IsElementary c) ↔ g.HasMutual := by
  constructor
  · rintro ⟨c, hc⟩
    obtain ⟨u, v, rest, rfl⟩ := hc.exists_second hloop
    obtain ⟨hnodup, hchain⟩ := hc
    rw [List.cons_append, List.isChain_cons_cons] at hchain
    have hne : u ≠ v := by
      rintro rfl
      exact (List.nodup_cons.1 hnodup).1 List.mem_cons_self
    refine ⟨u, v, hne, .single hchain.1, ?_⟩
    exact List.relationReflTransGen_of_exists_isChain_cons (rest ++ [u]) hchain.2 (by simp)
  · rintro ⟨u, v, hne, huv, hvu⟩
    obtain ⟨w, hedge, hwv⟩ := huv.cases_head.resolve_left hne
    obtain ⟨rest, hnodup, hchain, hlast⟩ := Reaches.exists_path (hwv.trans hvu)
    -- the edge from `u` to `w` closes the path from `w` to `u`
    refine ⟨w :: rest, hnodup, ?_⟩
    rw [← List.cons_append, List.isChain_append]
    refine ⟨hchain, List.isChain_singleton w, ?_⟩
    rw [hlast]
    rintro x ⟨⟩ y ⟨⟩
    exact hedge

/-- However few circuits are listed, one is listed if there is any. -/
theorem circuits_ne_nil_iff (hg : g.Consistent) {limit : Nat} (hlimit : 0 < limit) :
    g.circuits limit ≠ [] ↔ ∃ c, g.IsElementary c := by
  have htake : g.circuits limit ≠ [] ↔ g.allCircuits ≠ [] := by
    rw [circuits_eq_take hg, ne_eq, List.take_eq_nil_iff, not_or]
    exact and_iff_right hlimit.ne'
  rw [htake]
  constructor
  · intro hne
    obtain ⟨c, hc⟩ := List.exists_mem_of_ne_nil _ hne
    exact ⟨c, ((mem_allCircuits hg).1 hc).1⟩
  · rintro ⟨c, hc⟩
    obtain ⟨c', hr, hlowest⟩ := exists_isRotated_lowestFirst (isElementary_iff.1 hc).1
    exact List.ne_nil_of_mem ((mem_allCircuits hg).2 ⟨hc.of_isRotated hr, hlowest⟩)

/-! ## Components of several nodes -/

/-- What reaches another node is a node of the graph. -/
theorem Consistent.lt_of_reaches (hg : g.Consistent) {u v : Nat} (h : g.Reaches u v)
    (hne : u ≠ v) : u < g.nodeCount := by
  obtain ⟨w, hedge, -⟩ := ReflTransGen.cases_head h |>.resolve_left hne
  exact (hg.edge_lt u w hedge).1

/-- Two nodes reach each other if and only if some component has two nodes. -/
theorem hasMutual_iff_component (hg : g.Consistent) :
    g.HasMutual ↔ ∃ c ∈ g.components, 2 ≤ c.length := by
  obtain ⟨hcomponents, hroots⟩ := componentsWithin_spec hg (fun _ => true) g.nodes
    (fun root hroot => List.mem_range.1 hroot)
  have hmem {c : List Nat} (hc : c ∈ g.components) {u v : Nat} (hu : u ∈ c) :
      v ∈ c ↔ g.Reaches u v ∧ g.Reaches v u := by
    rw [← reachesWithin_true hg, ← reachesWithin_true hg]
    exact hcomponents.mem_iff hc hu
  constructor
  · rintro ⟨u, v, hne, huv, hvu⟩
    have hu : u ∈ g.nodes := List.mem_range.2 (hg.lt_of_reaches huv hne)
    obtain ⟨c, hc, huc⟩ := List.mem_flatten.1 (hroots u hu rfl)
    have hvc : v ∈ c := (hmem hc huc).2 ⟨huv, hvu⟩
    have hpair : [u, v].Nodup := by simpa using hne
    have hsubset : [u, v] ⊆ c := by simp [huc, hvc]
    exact ⟨c, hc, (hpair.subperm hsubset).length_le⟩
  · rintro ⟨c, hc, hlength⟩
    have hnodup : c.Nodup := (List.nodup_flatten.1 hcomponents.nodup).1 c hc
    match c, hlength with
    | u :: v :: rest, _ =>
      have hne : u ≠ v := by
        rintro rfl
        exact (List.nodup_cons.1 hnodup).1 List.mem_cons_self
      exact ⟨u, v, hne, (hmem hc List.mem_cons_self).1 (by simp)⟩

end Circuits

/-! ## Reaching by keys -/

section Keys

variable {g : Digraph} (hg : g.Consistent)

include hg

/-- What the key of a node reaches are the keys of the nodes that it reaches. -/
theorem Consistent.reflTransGen_key_iff {u : Nat} (hu : u < g.nodeCount) {b : String} :
    ReflTransGen (fun p q => (p, q) ∈ g.keyEdges) (g.key u) b ↔
      ∃ v < g.nodeCount, g.key v = b ∧ g.Reaches u v := by
  constructor
  · intro h
    induction h with
    | refl => exact ⟨u, hu, rfl, .refl⟩
    | tail _ hedge ih =>
      obtain ⟨v, hv, rfl, hreach⟩ := ih
      obtain ⟨x, w, hxw, hkey, rfl⟩ := mem_keyEdges.1 hedge
      obtain ⟨hx, hw⟩ := hg.edge_lt x w hxw
      obtain rfl := hg.key_inj hx hv hkey
      exact ⟨w, hw, rfl, ReflTransGen.tail hreach hxw⟩
  · rintro ⟨v, -, rfl, h⟩
    refine ReflTransGen.lift g.key (fun x y hxy => ?_) u v h
    exact mem_keyEdges.2 ⟨x, y, hxy, rfl, rfl⟩

omit hg in
theorem key_mem_keys {v : Nat} (hv : v < g.nodeCount) : g.key v ∈ g.keys := by
  rw [← g.map_key_nodes]
  exact List.mem_map_of_mem (List.mem_range.2 hv)

/-- Two nodes reach each other if and only if two keys do. -/
theorem Consistent.hasMutual_iff_keys :
    g.HasMutual ↔ ∃ a ∈ g.keys, ∃ b ∈ g.keys, a ≠ b ∧
      ReflTransGen (fun p q => (p, q) ∈ g.keyEdges) a b ∧
      ReflTransGen (fun p q => (p, q) ∈ g.keyEdges) b a := by
  constructor
  · rintro ⟨u, v, hne, huv, hvu⟩
    have hu := hg.lt_of_reaches huv hne
    have hv := hg.lt_of_reaches hvu hne.symm
    exact ⟨g.key u, key_mem_keys hu, g.key v, key_mem_keys hv,
      fun hkey => hne (hg.key_inj hu hv hkey),
      (hg.reflTransGen_key_iff hu).2 ⟨v, hv, rfl, huv⟩,
      (hg.reflTransGen_key_iff hv).2 ⟨u, hu, rfl, hvu⟩⟩
  · rintro ⟨a, ha, b, -, hne, hab, hba⟩
    obtain ⟨u, -, hu, rfl⟩ := hg.exists_node? ha
    obtain ⟨v, hv, rfl, huv⟩ := (hg.reflTransGen_key_iff hu).1 hab
    obtain ⟨w, hw, hkey, hvu⟩ := (hg.reflTransGen_key_iff hv).1 hba
    obtain rfl := hg.key_inj hw hu hkey
    exact ⟨w, v, fun heq => hne (congrArg g.key heq), huv, hvu⟩

/-- The keys of a circuit are different, and each is linked to the next and the last to the first. -/
theorem IsElementary.map_key {c : List Nat} (hc : g.IsElementary c) :
    (c.map g.key).Nodup ∧
      (c.map g.key ++ (c.map g.key).take 1).IsChain fun p q => (p, q) ∈ g.keyEdges := by
  refine ⟨hg.map_key_nodup (fun v hv => hc.lt hg hv) (isElementary_iff.1 hc).2.1, ?_⟩
  match c, hc with
  | v :: rest, hc =>
    have hclosed : (v :: rest).map g.key ++ ((v :: rest).map g.key).take 1 =
        (v :: (rest ++ [v])).map g.key := by
      simp
    rw [hclosed, List.isChain_map]
    exact hc.2.imp fun a b hab => mem_keyEdges.2 ⟨a, b, hab, rfl, rfl⟩

end Keys

end Digraph

/-! ## Files -/

/-- A file does not depend on itself. -/
theorem not_dependsOn_self (outlines : List Outline) (a : String) : ¬ DependsOn outlines a a := by
  rintro ⟨o, -, -, i, -, m, -, -, front, back, -, hmatches, -⟩
  exact hmatches.1 rfl

section Whole

variable (outlines : List Outline)

theorem consistent_dependencyGraph : (dependencyGraph outlines).Consistent :=
  (dependencyGraph_spec outlines).1.consistent

/-- The dependencies are the edges of their graph. -/
theorem keyEdges_dependencyGraph :
    (fun p q => (p, q) ∈ (dependencyGraph outlines).keyEdges) = DependsOn outlines := by
  obtain ⟨-, -, hedges⟩ := dependencyGraph_spec outlines
  funext p q
  exact propext (hedges p q)

theorem dependencyGraph_not_edge_self (v : Nat) : ¬ (dependencyGraph outlines).Edge v v := by
  intro hedge
  have hself : (fun p q => (p, q) ∈ (dependencyGraph outlines).keyEdges)
      ((dependencyGraph outlines).key v) ((dependencyGraph outlines).key v) :=
    Digraph.mem_keyEdges.2 ⟨v, v, hedge, rfl, rfl⟩
  rw [keyEdges_dependencyGraph] at hself
  exact not_dependsOn_self outlines _ hself

/-- The analysis shows circular dependencies if and only if two files reach each other. -/
theorem hasCircular_iff :
    (DependencyAnalysis.ofOutlines outlines).hasCircular = true ↔
      (dependencyGraph outlines).HasMutual := by
  have hlimit : 0 < maxCircularDependencies := by decide
  rw [← Digraph.exists_isElementary_iff (dependencyGraph_not_edge_self outlines),
    ← Digraph.circuits_ne_nil_iff (consistent_dependencyGraph outlines) hlimit]
  simp [DependencyAnalysis.hasCircular, DependencyAnalysis.ofOutlines, DependencyAnalysis.ofGraph]

/-- Two files depend on each other, perhaps through others. -/
def HasMutualDependency : Prop :=
  ∃ a ∈ outlines.map (·.path), ∃ b ∈ outlines.map (·.path), a ≠ b ∧
    ReflTransGen (DependsOn outlines) a b ∧ ReflTransGen (DependsOn outlines) b a

theorem hasMutual_dependencyGraph :
    (dependencyGraph outlines).HasMutual ↔ HasMutualDependency outlines := by
  obtain ⟨-, hkeys, -⟩ := dependencyGraph_spec outlines
  rw [(consistent_dependencyGraph outlines).hasMutual_iff_keys, keyEdges_dependencyGraph, hkeys]
  simp only [mem_firstBy_id, HasMutualDependency]

end Whole

/-- **Dependencies are circular if and only if two files depend on each other**, perhaps through
others, that is, if some component has two files.  What is listed are rings of at least two different
files, each of which depends on the next and the last on the first. -/
theorem circular_iff_mutual_dependency (outlines : List Outline) :
    ((DependencyAnalysis.ofOutlines outlines).hasCircular = true ↔ HasMutualDependency outlines) ∧
    ((DependencyAnalysis.ofOutlines outlines).hasCircular = true ↔
      ∃ c ∈ (dependencyGraph outlines).components, 2 ≤ c.length) ∧
    ∀ files ∈ (DependencyAnalysis.ofOutlines outlines).circularDependencies,
      2 ≤ files.length ∧ files.Nodup ∧ (files ++ files.take 1).IsChain (DependsOn outlines) := by
  have hg := consistent_dependencyGraph outlines
  refine ⟨?_, ?_, fun files hfiles => ?_⟩
  · rw [hasCircular_iff, hasMutual_dependencyGraph]
  · rw [hasCircular_iff, Digraph.hasMutual_iff_component hg]
  · obtain ⟨c, hc, rfl⟩ := List.mem_map.1 hfiles
    rw [Digraph.circuits_eq_take hg] at hc
    obtain ⟨helementary, -⟩ := (Digraph.mem_allCircuits hg).1 (List.mem_of_mem_take hc)
    refine ⟨?_, ?_⟩
    · obtain ⟨u, v, rest, rfl⟩ := helementary.exists_second (dependencyGraph_not_edge_self outlines)
      simp
    · rw [← keyEdges_dependencyGraph]
      exact helementary.map_key hg

/-- Three files in a ring, the second of them listed twice, and a file that imports itself. -/
def ringOutlines : List Outline :=
  let file (path : String) (modules : List String) : Outline :=
    ⟨path, [], [], [.plain modules [] 1], []⟩
  [file "p/a.py" ["p.b", "os"], file "p/b.py" ["sys"], file "p/b.py" ["p.c"], file "p/c.py" ["a"],
    file "d.py" ["d"]]

/-- The ring is listed, and the file that imports itself is not. -/
theorem circular_iff_mutual_dependency_ring :
    (DependencyAnalysis.ofOutlines ringOutlines).circularDependencies =
      [["p/a.py", "p/b.py", "p/c.py"]] ∧
    HasMutualDependency ringOutlines ∧
    DependsOn ringOutlines "p/c.py" "p/a.py" ∧ ¬ DependsOn ringOutlines "d.py" "d.py" := by
  obtain ⟨hmutual, -, hrings⟩ := circular_iff_mutual_dependency ringOutlines
  have hlisted : (DependencyAnalysis.ofOutlines ringOutlines).circularDependencies =
      [["p/a.py", "p/b.py", "p/c.py"]] := by
    decide
  obtain ⟨-, -, hchain⟩ := hrings ["p/a.py", "p/b.py", "p/c.py"] (by rw [hlisted]; simp)
  refine ⟨hlisted, hmutual.1 (by decide), ?_, not_dependsOn_self ringOutlines "d.py"⟩
  simp only [List.take, List.cons_append, List.nil_append, List.isChain_cons_cons] at hchain
  exact hchain.2.2.1

end CodeSurvey
