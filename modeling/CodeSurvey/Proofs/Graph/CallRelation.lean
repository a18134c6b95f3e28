/-
# The call graph is the call relation

The call graph is built in two passes.  The first registers functions and leaves out those whose id
is known: what one registration does (`Registered.register`) gives the definitions and nodes after
all of them (`registered_ofDefinitions`).  The second adds an edge for every target of every call.
All callers and targets are nodes by then (`mem_ids_of_mem_targets`), so no call is lost, and the
edges are the pairs of a caller and a function that one of its calls may mean.
-/
import CodeSurvey.Graph.CallGraph
import CodeSurvey.Proofs.Graph.Construction

namespace CodeSurvey

/-- A function with one id calls a name that may mean the function with another. -/
def Calls (definitions : List FunctionDefinition) (outlines : List Outline) (u v : String) : Prop :=
  ∃ o ∈ outlines, ∃ f ∈ o.functions, f.qualifiedId o.path = u ∧
    ∃ name ∈ f.calls,
      v ∈ ((Registry.ofDefinitions definitions).resolve o.path f.className name).targets

/-! ## Resolution -/

theorem isDefined_iff {definitions : List FunctionDefinition} {id : String} :
    isDefined definitions id = true ↔ id ∈ definitions.map (·.id) := by
  simp [isDefined]

/-- What a call may mean is defined. -/
theorem mem_ids_of_mem_targets {definitions : List FunctionDefinition} {file name t : String}
    {callerClass : Option String}
    (h : t ∈ ((Registry.ofDefinitions definitions).resolve file callerClass name).targets) :
    t ∈ definitions.map (·.id) := by
  rw [Registry.resolve, Resolution.targets_ofTargets] at h
  split at h
  · rw [Registry.find_byName_ofDefinitions] at h
    obtain ⟨d, hd, rfl⟩ := List.mem_map.1 h
    exact List.mem_map_of_mem (List.mem_of_mem_filter hd)
  · exact isDefined_iff.1 (List.mem_filter.1 h).2

namespace CallGraph

/-! ## Registering functions -/

/-- What is true after some definitions were registered. -/
structure Registered (registered : List FunctionDefinition) (c : CallGraph) : Prop where
  built : c.graph.Built
  definitions : c.definitions = firstBy (·.id) registered
  keys : c.graph.keys = c.definitions.map (·.id)
  labels : c.graph.labels = c.definitions.map (·.name)
  edges : c.graph.edges = []

/-- One registration adds a definition and its node, or nothing if the id is known. -/
theorem Registered.register {registered : List FunctionDefinition} {c : CallGraph}
    (h : Registered registered c) (d : FunctionDefinition) :
    Registered (registered ++ [d]) (c.register d) := by
  have hknown : d.id ∈ c.definitions.map (·.id) ↔ d.id ∈ registered.map (·.id) := by
    rw [h.definitions]
    exact mem_map_firstBy
  unfold CallGraph.register
  -- the list of definitions decides, but it has the same ids as the graph
  by_cases hd : d.id ∈ c.definitions.map (·.id)
  · rw [if_pos (isDefined_iff.2 hd)]
    refine ⟨h.built, ?_, h.keys, h.labels, h.edges⟩
    rw [firstBy_concat, if_pos (hknown.1 hd), h.definitions]
  · rw [if_neg (fun hdef => hd (isDefined_iff.1 hdef))]
    have hkey : d.id ∉ c.graph.keys := by
      rw [h.keys]
      exact hd
    refine ⟨h.built.addNode d.id d.name, ?_, ?_, ?_, ?_⟩
    · rw [firstBy_concat, if_neg (fun hmem => hd (hknown.2 hmem)), h.definitions]
    · rw [h.built.consistent.keys_addNode, if_neg hkey, h.keys, List.map_append, List.map_singleton]
    · rw [h.built.consistent.labels_addNode hkey, h.labels, List.map_append, List.map_singleton]
    · rw [Digraph.edges_addNode, h.edges]

/-- Several registrations, one after the other. -/
theorem Registered.foldl_register {registered : List FunctionDefinition} {c : CallGraph}
    (h : Registered registered c) (ds : List FunctionDefinition) :
    Registered (registered ++ ds) (ds.foldl CallGraph.register c) := by
  induction ds generalizing registered c with
  | nil =>
    rw [List.append_nil]
    exact h
  | cons d ds ih =>
    rw [List.foldl_cons, List.append_cons]
    exact ih (h.register d)

/-- The first definition of each id is kept, and these are the nodes. -/
theorem registered_ofDefinitions (ds : List FunctionDefinition) :
    Registered ds (ofDefinitions ds) := by
  have hstart : Registered [] ⟨Digraph.empty, [], []⟩ := ⟨.empty, rfl, rfl, rfl, rfl⟩
  exact hstart.foldl_register ds

/-! ## Connecting calls -/

/-- The pairs of a caller and a target of its call. -/
def callPairs (sites : List CallSite) : List (String × String) :=
  sites.flatMap fun s => s.resolution.targets.map (s.caller, ·)

/-- Connecting calls links the pairs of a caller and a target. -/
theorem foldl_connect (sites : List CallSite) (g : Digraph) :
    sites.foldl connect g = (callPairs sites).foldl (fun g p => g.link p.1 p.2) g := by
  rw [callPairs, List.foldl_flatMap]
  simp only [List.foldl_map]
  rfl

/-- The calls of some files are the calls of their functions. -/
theorem mem_callSites {definitions : List FunctionDefinition} {outlines : List Outline}
    {s : CallSite} :
    s ∈ outlines.flatMap (callSitesOf (Registry.ofDefinitions definitions)) ↔
      ∃ o ∈ outlines, ∃ f ∈ o.functions, ∃ name ∈ f.calls,
        s = ⟨f.qualifiedId o.path, name,
          (Registry.ofDefinitions definitions).resolve o.path f.className name⟩ := by
  simp only [callSitesOf, List.mem_flatMap, List.mem_map, eq_comm]

theorem mem_callPairs {definitions : List FunctionDefinition} {outlines : List Outline}
    {u v : String} :
    (u, v) ∈ callPairs (outlines.flatMap (callSitesOf (Registry.ofDefinitions definitions))) ↔
      Calls definitions outlines u v := by
  rw [callPairs, List.mem_flatMap]
  constructor
  · rintro ⟨s, hs, hp⟩
    obtain ⟨o, ho, f, hf, name, hname, rfl⟩ := mem_callSites.1 hs
    obtain ⟨t, ht, heq⟩ := List.mem_map.1 hp
    obtain ⟨rfl, rfl⟩ := Prod.mk.inj heq
    exact ⟨o, ho, f, hf, rfl, name, hname, ht⟩
  · rintro ⟨o, ho, f, hf, rfl, name, hname, hv⟩
    exact ⟨_, mem_callSites.2 ⟨o, ho, f, hf, name, hname, rfl⟩, List.mem_map_of_mem hv⟩

/-! ## The whole graph -/

section Whole

variable (outlines : List Outline)

theorem definitions_ofOutlines :
    (ofOutlines outlines).definitions = firstBy (·.id) (allDefinitions outlines) :=
  (registered_ofDefinitions (allDefinitions outlines)).definitions

theorem callSites_ofOutlines :
    (ofOutlines outlines).callSites =
      outlines.flatMap (callSitesOf (Registry.ofDefinitions (ofOutlines outlines).definitions)) :=
  rfl

/-- Every function is defined, by itself or by an earlier one with its id. -/
theorem qualifiedId_mem_ids {outlines : List Outline} {o : Outline} (ho : o ∈ outlines)
    {f : FunctionEntry} (hf : f ∈ o.functions) :
    f.qualifiedId o.path ∈ (ofOutlines outlines).definitions.map (·.id) := by
  rw [definitions_ofOutlines, mem_map_firstBy]
  refine List.mem_map.2 ⟨f.definition o.path, ?_, rfl⟩
  exact List.mem_flatMap.2 ⟨o, ho, List.mem_map_of_mem hf⟩

/-- The nodes are those of the definitions, and the edges those of the calls. -/
theorem graph_ofOutlines :
    (ofOutlines outlines).graph.Built ∧
    (ofOutlines outlines).graph.keys = (ofOutlines outlines).definitions.map (·.id) ∧
    (ofOutlines outlines).graph.labels = (ofOutlines outlines).definitions.map (·.name) ∧
    ∀ u v, (u, v) ∈ (ofOutlines outlines).graph.keyEdges ↔
      Calls (ofOutlines outlines).definitions outlines u v := by
  have hregistered := registered_ofDefinitions (allDefinitions outlines)
  have hgraph : (ofOutlines outlines).graph =
      (callPairs (ofOutlines outlines).callSites).foldl (fun g p => g.link p.1 p.2)
        (ofDefinitions (allDefinitions outlines)).graph := foldl_connect _ _
  have hpairs : ∀ p ∈ callPairs (ofOutlines outlines).callSites,
      p.1 ∈ (ofDefinitions (allDefinitions outlines)).graph.keys ∧
        p.2 ∈ (ofDefinitions (allDefinitions outlines)).graph.keys := by
    rintro ⟨u, v⟩ hp
    obtain ⟨o, ho, f, hf, rfl, name, -, hv⟩ := mem_callPairs.1 hp
    rw [hregistered.keys]
    exact ⟨qualifiedId_mem_ids ho hf, mem_ids_of_mem_targets hv⟩
  obtain ⟨hbuilt, hkeys, hlabels, hedges⟩ := Digraph.foldl_link_spec hregistered.built hpairs
  rw [hgraph]
  refine ⟨hbuilt, hkeys.trans hregistered.keys, hlabels.trans hregistered.labels, fun u v => ?_⟩
  have hnone : (ofDefinitions (allDefinitions outlines)).graph.keyEdges = [] := by
    rw [Digraph.keyEdges, hregistered.edges, List.map_nil]
  rw [hedges, hnone, callSites_ofOutlines, mem_callPairs]
  exact or_iff_right List.not_mem_nil

theorem consistent_ofOutlines : (ofOutlines outlines).graph.Consistent :=
  (graph_ofOutlines outlines).1.consistent

/-- **The call graph of some files is their call relation.**  Its nodes are the ids of all functions
in the order in which they first come up, the first definition of each kept; its calls are those of
all functions; and its edges lead, each once, from callers to what they may call. -/
theorem ofOutlines_is_call_relation :
    (ofOutlines outlines).definitions = firstBy (·.id) (allDefinitions outlines) ∧
    (∀ id, (ofOutlines outlines).definitions.find? (·.id = id) =
      (allDefinitions outlines).find? (·.id = id)) ∧
    (ofOutlines outlines).graph.keys = (ofOutlines outlines).definitions.map (·.id) ∧
    (ofOutlines outlines).graph.keys.Nodup ∧
    (ofOutlines outlines).graph.labels = (ofOutlines outlines).definitions.map (·.name) ∧
    (ofOutlines outlines).callSites =
      outlines.flatMap (fun o => o.functions.flatMap fun f => f.calls.map fun name =>
        ⟨f.qualifiedId o.path, name,
          (Registry.ofDefinitions (ofOutlines outlines).definitions).resolve o.path f.className
            name⟩) ∧
    (∀ u v, (u, v) ∈ (ofOutlines outlines).graph.keyEdges ↔
      Calls (ofOutlines outlines).definitions outlines u v) ∧
    (ofOutlines outlines).graph.edges.Nodup ∧
    ∀ s ∈ (ofOutlines outlines).callSites,
      ((ofOutlines outlines).graph.node? s.caller).isSome ∧
      ∀ t ∈ s.resolution.targets, ((ofOutlines outlines).graph.node? t).isSome := by
  obtain ⟨hbuilt, hkeys, hlabels, hedges⟩ := graph_ofOutlines outlines
  have hnode {id : String} (hid : id ∈ (ofOutlines outlines).definitions.map (·.id)) :
      ((ofOutlines outlines).graph.node? id).isSome := by
    rw [← hkeys] at hid
    exact hbuilt.consistent.isSome_node?_iff.2 hid
  refine ⟨definitions_ofOutlines outlines, fun id => ?_, hkeys, hbuilt.consistent.keys_nodup, hlabels,
    rfl, hedges, hbuilt.consistent.edges_nodup, fun s hs => ?_⟩
  · rw [definitions_ofOutlines]
    exact find?_firstBy _ _ id
  · obtain ⟨o, ho, f, hf, name, -, rfl⟩ := mem_callSites.1 hs
    exact ⟨hnode (qualifiedId_mem_ids ho hf), fun t ht => hnode (mem_ids_of_mem_targets ht)⟩

/-- A function that is defined twice and calls a name that two other files define. -/
def repeatedOutlines : List Outline :=
  let function (name : String) (line : Nat) (calls : List String) : FunctionEntry :=
    { (default : FunctionEntry) with name := name, lineStart := line, calls := calls }
  [⟨"a", [function "f" 1 ["g"], function "f" 4 ["h", "g"], function "g" 7 ["g"]], [], [], []⟩,
    ⟨"b", [function "h" 1 []], [], [], []⟩, ⟨"c", [function "h" 1 ["k"]], [], [], []⟩]

/-- Both definitions of the function call from its one node. -/
theorem ofOutlines_is_call_relation_repeated :
    (ofOutlines repeatedOutlines).graph.keys = ["a::f", "a::g", "b::h", "c::h"] ∧
    (ofOutlines repeatedOutlines).graph.edges = [(0, 1), (0, 2), (0, 3), (1, 1)] ∧
    Calls (ofOutlines repeatedOutlines).definitions repeatedOutlines "a::f" "c::h" ∧
    ((ofOutlines repeatedOutlines).graph.node? "c::h").isSome := by
  obtain ⟨-, -, -, -, -, -, hedges, -, hnodes⟩ := ofOutlines_is_call_relation repeatedOutlines
  refine ⟨by decide, by decide, (hedges _ _).1 (by decide), ?_⟩
  exact (hnodes ⟨"a::f", "h", .ambiguous ["b::h", "c::h"]⟩ (by decide)).2 "c::h"
    (by decide)

end Whole

/-- A file of functions, each given by its name and the names that it calls. -/
def callingFile (path : String) (functions : List (String × List String)) : Outline :=
  ⟨path, functions.map fun f => { (default : FunctionEntry) with name := f.1, calls := f.2 },
    [], [], []⟩

end CallGraph

end CodeSurvey
