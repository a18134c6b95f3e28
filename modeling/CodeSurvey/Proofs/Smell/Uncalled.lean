/-
# Dead code has no callers

Dead code and the call graph decide in different ways whether a function is called: by the names
that functions call, and by the edges that these calls lead along.  An edge leads to a function of
the name that was called (`label_mem_calledNames`).  So a function whose name is not called has no
edge to it, and then it is neither among the most called functions nor among the recursive ones, and
chains do not lead to it (`isUncalled_of_inDegree`).
-/
import CodeSurvey.Proofs.Graph.CallChains
import CodeSurvey.Proofs.Graph.Circuits
import CodeSurvey.Proofs.Graph.Reordering
import CodeSurvey.Proofs.Smell.Callers

namespace CodeSurvey

/-! ## Nodes without an edge to them -/

/-- Past its first item, a chain leads to every item. -/
theorem exists_link_of_mem {α : Type} {r : α → α → Prop} {a b : α} {l : List α}
    (h : (a :: l).IsChain r) (hb : b ∈ l) : ∃ x, r x b := by
  have hlinks : (a :: l).IsChain fun x y => r x y ∧ ∃ x, r x y := h.imp fun x y hxy => ⟨hxy, x, hxy⟩
  exact (Digraph.isChain_and_iff.1 hlinks).2 b hb

namespace Digraph

section Sources

variable {g : Digraph}

theorem Consistent.inDegree_eq_zero_iff (hg : g.Consistent) {v : Nat} :
    g.inDegree v = 0 ↔ ∀ u, ¬ g.Edge u v := by
  rw [inDegree, List.length_eq_zero_iff, List.eq_nil_iff_forall_not_mem]
  simp only [hg.mem_predecessors]

/-- Every node of a circuit has an edge to it. -/
theorem IsElementary.exists_edge {c : List Nat} (h : g.IsElementary c) {v : Nat} (hv : v ∈ c) :
    ∃ u, g.Edge u v := by
  match c, h with
  | w :: rest, h =>
    refine exists_link_of_mem h.2 ?_
    rw [List.mem_append, List.mem_singleton]
    exact (List.mem_cons.1 hv).symm

/-- What the search along all paths lists are circuits. -/
theorem isElementary_of_mem_circuitsUpTo (hg : g.Consistent) {maxLength limit : Nat} {c : List Nat}
    (hc : c ∈ g.circuitsUpTo maxLength limit) : g.IsElementary c := by
  rw [circuitsUpTo_eq_take] at hc
  obtain ⟨start, -, hc⟩ := List.mem_flatMap.1 (List.mem_of_mem_take hc)
  exact ((mem_circuitsAt hg).1 hc).1

/-- A ranked node is one of positive degree. -/
theorem pos_of_mem_topBy {degree : Nat → Nat} {limit v n : Nat} (h : (v, n) ∈ g.topBy degree limit) :
    v < g.nodeCount ∧ 0 < degree v := by
  have hmem := List.mem_mergeSort.1 (List.mem_of_mem_take h)
  obtain ⟨hmem, hpos⟩ := List.mem_filter.1 hmem
  obtain ⟨w, hw, heq⟩ := List.mem_map.1 hmem
  obtain ⟨rfl, rfl⟩ := Prod.mk.inj heq
  exact ⟨List.mem_range.1 hw, of_decide_eq_true hpos⟩

end Sources

end Digraph

/-! ## Functions that are not called -/

namespace CallGraph

/-- A function that nothing calls, as far as the analysis and the chains show. -/
structure IsUncalled (c : CallGraph) (v : Nat) : Prop where
  inDegree : c.graph.inDegree v = 0
  mostCalled : ∀ e ∈ c.analysis.mostCalled, e.function ≠ c.graph.key v
  recursive : ∀ r ∈ c.analysis.recursiveFunctions, r.function ≠ c.graph.key v
  /-- In a chain it can only be the first. -/
  chains : ∀ start depth, ∀ chain ∈ c.chains start depth, c.graph.key v ∉ chain.tail

section Uncalled

variable {c : CallGraph} (hg : c.graph.Consistent)

include hg

/-- A function that may call itself, perhaps through others, has an edge to it. -/
theorem exists_edge_of_mem_recursiveFunctions {r : RecursiveFunction}
    (hr : r ∈ c.recursiveFunctions) :
    ∃ v < c.graph.nodeCount, r.function = c.graph.key v ∧ ∃ u, c.graph.Edge u v := by
  obtain ⟨v, hv, rfl⟩ := List.mem_map.1 hr
  rcases List.mem_append.1 (mem_of_mem_firstBy (List.mem_of_mem_take hv)) with hv | hv
  · obtain ⟨hnode, hloop⟩ := List.mem_filter.1 hv
    exact ⟨v, List.mem_range.1 hnode, rfl, v, hg.hasEdge_iff.1 hloop⟩
  · obtain ⟨circuit, hcircuit, hv⟩ := List.mem_flatten.1 hv
    have helementary := Digraph.isElementary_of_mem_circuitsUpTo hg hcircuit
    exact ⟨v, helementary.lt hg hv, rfl, helementary.exists_edge hv⟩

/-- A function without an edge to it is nowhere shown as called. -/
theorem isUncalled_of_inDegree {v : Nat} (hv : v < c.graph.nodeCount)
    (hzero : c.graph.inDegree v = 0) : c.IsUncalled v where
  inDegree := hzero
  mostCalled := by
    intro e he hfunction
    obtain ⟨⟨w, n⟩, hw, rfl⟩ := List.mem_map.1 he
    obtain ⟨hlt, hpos⟩ := Digraph.pos_of_mem_topBy hw
    obtain rfl := hg.key_inj hlt hv hfunction
    omega
  recursive := by
    intro r hr hfunction
    obtain ⟨w, hlt, hkey, u, hedge⟩ := exists_edge_of_mem_recursiveFunctions hg hr
    obtain rfl := hg.key_inj hlt hv (hkey.symm.trans hfunction)
    exact hg.inDegree_eq_zero_iff.1 hzero u hedge
  chains := by
    intro start depth chain hchain hmem
    obtain ⟨first, more, -, rfl, hlinks⟩ := exists_of_mem_chains hg hchain
    obtain ⟨w, hw, hkey⟩ := List.mem_map.1 hmem
    obtain ⟨u, hedge⟩ := exists_link_of_mem hlinks hw
    obtain rfl := hg.key_inj (hg.edge_lt u w hedge).2 hv hkey
    exact hg.inDegree_eq_zero_iff.1 hzero u hedge

end Uncalled

/-! ## Labels and called names -/

section Labels

variable {outlines : List Outline}

/-- The node of a definition has its name as label. -/
theorem exists_node_of_definition {d : FunctionDefinition}
    (hd : d ∈ (ofOutlines outlines).definitions) :
    ∃ v < (ofOutlines outlines).graph.nodeCount, (ofOutlines outlines).graph.key v = d.id ∧
      (ofOutlines outlines).graph.label v = d.name := by
  obtain ⟨-, hkeys, hlabels, -⟩ := graph_ofOutlines outlines
  obtain ⟨v, hv, rfl⟩ := List.mem_iff_getElem.1 hd
  refine ⟨v, ?_, ?_, ?_⟩
  · rwa [Digraph.nodeCount, hkeys, List.length_map]
  · rw [Digraph.key, hkeys, List.getD_eq_getElem?_getD, List.getElem?_map,
      List.getElem?_eq_getElem hv]
    rfl
  · rw [Digraph.label, hlabels, List.getD_eq_getElem?_getD, List.getElem?_map,
      List.getElem?_eq_getElem hv]
    rfl

variable (h : PlainNames outlines)

include h

/-- A function is the node of its name. -/
theorem exists_node_of_function {o : Outline} (ho : o ∈ outlines) {f : FunctionEntry}
    (hf : f ∈ o.functions) :
    ∃ v < (ofOutlines outlines).graph.nodeCount,
      (ofOutlines outlines).graph.label v = f.name := by
  have hnear : functionId o.path f.className f.name ∈
      nearTargets outlines o.path f.className f.name :=
    mem_nearTargets.2 ⟨f.className, .inr rfl, ⟨o, ho, rfl, f, hf, rfl, rfl⟩, rfl⟩
  obtain ⟨d, hd, -, hname⟩ := exists_definition_of_mem_near h hnear
  obtain ⟨v, hv, -, hlabel⟩ := exists_node_of_definition hd
  exact ⟨v, hv, hlabel.trans hname⟩

/-- An edge leads to a function of the name that was called. -/
theorem label_mem_calledNames {u v : Nat} (hedge : (ofOutlines outlines).graph.Edge u v) :
    (ofOutlines outlines).graph.label v ∈ calledNames outlines := by
  obtain ⟨-, -, -, hedges⟩ := graph_ofOutlines outlines
  have hg := consistent_ofOutlines outlines
  obtain ⟨o, ho, f, hf, -, name, hname, htarget⟩ :=
    (hedges _ _).1 (Digraph.mem_keyEdges.2 ⟨u, v, hedge, rfl, rfl⟩)
  have hplain := h o ho f hf
  rw [resolve_eq_scan h (hplain.calls name hname) hplain.className,
    Resolution.targets_ofTargets] at htarget
  obtain ⟨d, hd, hid, hdname⟩ := exists_definition_of_mem_scan h (hplain.calls name hname) htarget
  obtain ⟨w, hw, hkey, hlabel⟩ := exists_node_of_definition hd
  obtain rfl := hg.key_inj hw (hg.edge_lt u v hedge).2 (hkey.trans hid)
  rw [hlabel, hdname]
  exact mem_calledNames.2 ⟨o, ho, f, hf, hname⟩

end Labels

/-- **Dead code has no callers in the call graph.**  If a file of a repository reports a name, the
call graph has functions of that name, and none of them is called, as long as names hold no
separators. -/
theorem reported_functions_uncalled {outlines : List Outline} (h : PlainNames outlines)
    {o : Outline} (ho : o ∈ outlines) {content : String} {thresholds : Thresholds} {name : String}
    (hdead : FileContext.ReportsDead
      ⟨o, content, thresholds, .repository (calledNames outlines)⟩ name) :
    (∃ v < (ofOutlines outlines).graph.nodeCount, (ofOutlines outlines).graph.label v = name) ∧
    ∀ v < (ofOutlines outlines).graph.nodeCount, (ofOutlines outlines).graph.label v = name →
      (ofOutlines outlines).IsUncalled v := by
  have hg := consistent_ofOutlines outlines
  obtain ⟨⟨f, hf, hname⟩, -, huncalled⟩ := exists_deadFunctions_iff.1 hdead
  constructor
  · rw [← hname]
    exact exists_node_of_function h ho hf
  · intro v hv hlabel
    refine isUncalled_of_inDegree hg hv (hg.inDegree_eq_zero_iff.2 fun u hedge => huncalled ?_)
    rw [← hlabel]
    exact label_mem_calledNames h hedge

/-- A function and a method of one name that nothing calls.  Both call a function that calls
itself. -/
def unusedOutlines : List Outline :=
  let function (className : Option String) (name : String) (calls : List String) : FunctionEntry :=
    { (default : FunctionEntry) with name := name, className := className, calls := calls }
  [⟨"m.py", [function none "unused" ["used"], function none "used" ["used"]], [], [], []⟩,
    ⟨"n.py", [function (some "C") "unused" ["used"]], [], [], []⟩]

/-- The first file reports the name, and so the method of the second has no callers.  It begins a
chain. -/
theorem reported_functions_uncalled_method :
    PlainNames unusedOutlines ∧
    (ofOutlines unusedOutlines).graph.key 2 = "n.py::C.unused" ∧
    (ofOutlines unusedOutlines).graph.inDegree 2 = 0 ∧
    (ofOutlines unusedOutlines).analysis.mostCalled = [⟨"m.py::used", "used", 3⟩] ∧
    (∀ r ∈ (ofOutlines unusedOutlines).analysis.recursiveFunctions,
      r.function ≠ "n.py::C.unused") ∧
    (ofOutlines unusedOutlines).chains "n.py::C.unused" 5 = [["n.py::C.unused", "m.py::used"]] := by
  have hplain : PlainNames unusedOutlines := by decide
  have hfile : unusedOutlines.head (by decide) ∈ unusedOutlines := List.head_mem _
  have hkey : (ofOutlines unusedOutlines).graph.key 2 = "n.py::C.unused" := by decide
  have hdead : FileContext.ReportsDead ⟨unusedOutlines.head (by decide), "", {},
      .repository (calledNames unusedOutlines)⟩ "unused" := by
    decide
  obtain ⟨-, huncalled⟩ := reported_functions_uncalled hplain hfile hdead
  have hmethod := huncalled 2 (by decide) (by decide)
  refine ⟨hplain, hkey, hmethod.inDegree, by decide +kernel, ?_, by decide +kernel⟩
  rw [← hkey]
  exact hmethod.recursive

end CallGraph

end CodeSurvey
