/-
# Nodes and the nodes above them

Equal trees may stand at several places of a tree, so what holds of a node because of the nodes
around it is said of its lineage: the node together with the nodes above it.  The lineages of a tree
come in the order of its nodes (`map_node_lineagesUnder`), and the nodes of a lineage are those whose
trees its node stands in (`exists_above_iff`).
-/
import CodeSurvey.Proofs.Syntax.Grammar

namespace CodeSurvey

/-- A node of a tree with the nodes above it, the nearest first. -/
structure Lineage where
  node : Tree
  above : List Tree

namespace Tree

mutual
/-- All nodes of a tree below some nodes, in source order, each with the nodes above it. -/
def lineagesUnder (above : List Tree) : Tree → List Lineage
  | node k f s t cs =>
    ⟨node k f s t cs, above⟩ :: lineagesAmong (node k f s t cs :: above) cs

/-- All nodes of several trees below some nodes, in source order, each with the nodes above it. -/
def lineagesAmong (above : List Tree) : List Tree → List Lineage
  | [] => []
  | c :: cs => lineagesUnder above c ++ lineagesAmong above cs
end

/-- All nodes of a tree with the nodes above them, in source order. -/
def lineages (t : Tree) : List Lineage :=
  t.lineagesUnder []

/-- The lineages among trees are those of each tree, one after another. -/
theorem lineagesAmong_eq_flatMap (above : List Tree) (cs : List Tree) :
    lineagesAmong above cs = cs.flatMap (lineagesUnder above) := by
  induction cs with
  | nil => rfl
  | cons c cs ih => rw [lineagesAmong, ih, List.flatMap_cons]

/-- A node stands below the nodes around it, and its children stand below it as well. -/
theorem lineagesUnder_node (above : List Tree) (k : Kind) (f : Option Field) (s t : Place)
    (cs : List Tree) :
    (node k f s t cs).lineagesUnder above =
      ⟨node k f s t cs, above⟩ ::
        cs.flatMap (lineagesUnder (node k f s t cs :: above)) := by
  rw [lineagesUnder, lineagesAmong_eq_flatMap]

/-- The lineages come in the order of the nodes. -/
theorem map_node_lineagesUnder (above : List Tree) (t : Tree) :
    (t.lineagesUnder above).map Lineage.node = t.preorder := by
  induction t using inductionBelow generalizing above with
  | node k f s t cs ih =>
    rw [lineagesUnder_node, preorder_node, List.map_cons, List.map_flatMap]
    congr 1
    apply List.flatMap_congr
    intro c hc
    exact ih c hc _

/-- Every node of a tree has a lineage, and no other. -/
theorem mem_preorder_iff {t n : Tree} : n ∈ t.preorder ↔ ∃ l ∈ t.lineages, l.node = n := by
  rw [← map_node_lineagesUnder [] t, List.mem_map]
  rfl

/-- Something in a list that is put together is its head or comes from a piece. -/
theorem exists_mem_cons_flatMap {α β : Type} {p : β → Prop} {b : β} {f : α → List β}
    {xs : List α} : (∃ x ∈ b :: xs.flatMap f, p x) ↔ p b ∨ ∃ a ∈ xs, ∃ x ∈ f a, p x := by
  rw [List.exists_mem_cons_iff]
  refine or_congr_right ⟨?_, ?_⟩
  · rintro ⟨x, hx, hp⟩
    obtain ⟨a, ha, hx⟩ := List.mem_flatMap.1 hx
    exact ⟨a, ha, x, hx, hp⟩
  · rintro ⟨a, ha, x, hx, hp⟩
    exact ⟨x, List.mem_flatMap.2 ⟨a, ha, hx⟩, hp⟩

/-- The nodes of a lineage are those whose trees its node stands in. -/
theorem exists_above_iff {p q : Tree → Prop} (above : List Tree) (t : Tree) :
    (∃ l ∈ t.lineagesUnder above, q l.node ∧ ∃ d ∈ l.node :: l.above, p d) ↔
      (∃ d ∈ t.preorder, p d ∧ ∃ n ∈ d.preorder, q n) ∨
        (∃ d ∈ above, p d) ∧ ∃ n ∈ t.preorder, q n := by
  induction t using inductionBelow generalizing above with
  | node k f s t cs ih =>
    have hbelow : (∃ c ∈ cs, ∃ l ∈ c.lineagesUnder (node k f s t cs :: above),
        q l.node ∧ ∃ d ∈ l.node :: l.above, p d) ↔
        (∃ c ∈ cs, ∃ d ∈ c.preorder, p d ∧ ∃ n ∈ d.preorder, q n) ∨
          (∃ d ∈ node k f s t cs :: above, p d) ∧ ∃ c ∈ cs, ∃ n ∈ c.preorder, q n := by
      rw [exists_congr fun c => and_congr_right fun hc => ih c hc _]
      simp only [and_or_left, exists_or, and_left_comm (a := _ ∈ cs), exists_and_left]
    rw [lineagesUnder_node, exists_mem_cons_flatMap, hbelow, preorder_node,
      exists_mem_cons_flatMap, exists_mem_cons_flatMap, preorder_node, exists_mem_cons_flatMap,
      List.exists_mem_cons_iff]
    generalize (∃ d ∈ above, p d) = inAbove
    generalize (∃ c ∈ cs, ∃ n ∈ c.preorder, q n) = below
    generalize (∃ c ∈ cs, ∃ d ∈ c.preorder, p d ∧ ∃ n ∈ d.preorder, q n) = bothBelow
    tauto

end Tree

end CodeSurvey
