/-
# Functions and their nodes

In the call graph a function is known by its id alone.  Ids of functions whose names hold no
separators tell file, class and name (`FunctionEntry.HasPlainId.qualifiedId_eq_iff`).  So two
functions come to one node only if they agree in all three, and there are as many nodes as there are
such triples (`nodeCount_ofOutlines`).
-/
import CodeSurvey.Proofs.Graph.Circuits
import CodeSurvey.Proofs.Graph.Representation
import CodeSurvey.Proofs.Graph.Resolution

namespace CodeSurvey

/-! ## Ids -/

/-- The names that go into the id of a function hold no separators. -/
structure FunctionEntry.HasPlainId (f : FunctionEntry) : Prop where
  name : IsPlainName f.name
  className : ∀ c ∈ f.className, IsPlainName c

instance (f : FunctionEntry) : Decidable f.HasPlainId :=
  decidable_of_iff (IsPlainName f.name ∧ ∀ c ∈ f.className, IsPlainName c)
    ⟨fun h => ⟨h.1, h.2⟩, fun h => ⟨h.name, h.className⟩⟩

/-- Functions with the same id agree in file, class and name. -/
theorem FunctionEntry.HasPlainId.qualifiedId_eq_iff {f f' : FunctionEntry} (hf : f.HasPlainId)
    (hf' : f'.HasPlainId) {file file' : String} :
    f.qualifiedId file = f'.qualifiedId file' ↔
      file = file' ∧ f.className = f'.className ∧ f.name = f'.name := by
  rw [qualifiedId_eq_functionId, qualifiedId_eq_functionId,
    functionId_inj hf.name hf'.name hf.className hf'.className]

/-! ## Nodes -/

/-- Different keys have different nodes. -/
theorem Digraph.Consistent.node?_eq_some_iff_eq {g : Digraph} (h : g.Consistent)
    {key key' : String} {v : Nat} (hv : g.node? key = some v) :
    g.node? key' = some v ↔ key' = key := by
  constructor
  · intro hv'
    rw [h.node?_eq_some_iff] at hv hv'
    exact Option.some.inj (hv'.symm.trans hv)
  · rintro rfl
    exact hv

/-- The files, classes and names of the functions that are defined. -/
def definedFunctions (outlines : List Outline) : Set (String × Option String × String) :=
  {k | Defines outlines k.1 k.2.1 k.2.2}

namespace CallGraph

section Nodes

variable {outlines : List Outline}

/-- Every function has a node. -/
theorem exists_node?_qualifiedId {o : Outline} (ho : o ∈ outlines) {f : FunctionEntry}
    (hf : f ∈ o.functions) :
    ∃ v < (ofOutlines outlines).graph.nodeCount,
      (ofOutlines outlines).graph.node? (f.qualifiedId o.path) = some v := by
  obtain ⟨-, hkeys, -, -⟩ := graph_ofOutlines outlines
  have hmem := qualifiedId_mem_ids ho hf
  rw [← hkeys] at hmem
  obtain ⟨v, hv, hlt, -⟩ := (consistent_ofOutlines outlines).exists_node? hmem
  exact ⟨v, hlt, hv⟩

/-- The nodes are those of the functions that are defined. -/
theorem mem_keys_ofOutlines {id : String} :
    id ∈ (ofOutlines outlines).graph.keys ↔
      ∃ k ∈ definedFunctions outlines, functionId k.1 k.2.1 k.2.2 = id := by
  obtain ⟨-, hkeys, -, -⟩ := graph_ofOutlines outlines
  rw [hkeys, mem_definition_ids]
  constructor
  · rintro ⟨o, ho, f, hf, rfl⟩
    exact ⟨(o.path, f.className, f.name), ⟨o, ho, rfl, f, hf, rfl, rfl⟩,
      (qualifiedId_eq_functionId f o.path).symm⟩
  · rintro ⟨k, ⟨o, ho, hpath, f, hf, hclass, hname⟩, rfl⟩
    refine ⟨o, ho, f, hf, ?_⟩
    rw [qualifiedId_eq_functionId, hpath, hclass, hname]

/-- The functions that are defined have different ids. -/
theorem injOn_functionId (h : ∀ o ∈ outlines, ∀ f ∈ o.functions, f.HasPlainId) :
    (definedFunctions outlines).InjOn fun k => functionId k.1 k.2.1 k.2.2 := by
  have hplain : ∀ k ∈ definedFunctions outlines,
      IsPlainName k.2.2 ∧ ∀ c ∈ k.2.1, IsPlainName c := by
    rintro k ⟨o, ho, -, f, hf, hclass, hname⟩
    rw [← hclass, ← hname]
    exact ⟨(h o ho f hf).name, (h o ho f hf).className⟩
  intro k hk k' hk' heq
  obtain ⟨hname, hclass⟩ := hplain k hk
  obtain ⟨hname', hclass'⟩ := hplain k' hk'
  obtain ⟨hfile, hsame, hsame'⟩ := (functionId_inj hname hname' hclass hclass').1 heq
  exact Prod.ext hfile (Prod.ext hsame hsame')

/-- There are as many nodes as there are functions that differ in file, class or name. -/
theorem nodeCount_ofOutlines (h : ∀ o ∈ outlines, ∀ f ∈ o.functions, f.HasPlainId) :
    (ofOutlines outlines).graph.nodeCount = (definedFunctions outlines).ncard := by
  have hnodup := (consistent_ofOutlines outlines).keys_nodup
  rw [← (injOn_functionId h).ncard_image]
  exact (Digraph.finite_and_ncard_of_nodup hnodup fun id => mem_keys_ofOutlines.symm).2.symm

/-- **Ids tell functions apart.**  If names and classes hold no separators, functions with the same
id have the same file, class and name, whatever the paths are.  So a node of the call graph stands
for the functions of one file with one class and name, and each of these triples has a node of its
own. -/
theorem ids_tell_functions (outlines : List Outline) :
    (∀ (f f' : FunctionEntry) (file file' : String), f.HasPlainId → f'.HasPlainId →
      (f.qualifiedId file = f'.qualifiedId file' ↔
        file = file' ∧ f.className = f'.className ∧ f.name = f'.name)) ∧
    ((∀ o ∈ outlines, ∀ f ∈ o.functions, f.HasPlainId) →
      (∀ o ∈ outlines, ∀ f ∈ o.functions, ∃ v < (ofOutlines outlines).graph.nodeCount,
        (ofOutlines outlines).graph.node? (f.qualifiedId o.path) = some v ∧
        ∀ o' ∈ outlines, ∀ f' ∈ o'.functions,
          ((ofOutlines outlines).graph.node? (f'.qualifiedId o'.path) = some v ↔
            o'.path = o.path ∧ f'.className = f.className ∧ f'.name = f.name)) ∧
      (ofOutlines outlines).graph.nodeCount = (definedFunctions outlines).ncard) := by
  refine ⟨fun f f' file file' hf hf' => hf.qualifiedId_eq_iff hf',
    fun h => ⟨fun o ho f hf => ?_, nodeCount_ofOutlines h⟩⟩
  obtain ⟨v, hlt, hv⟩ := exists_node?_qualifiedId ho hf
  refine ⟨v, hlt, hv, fun o' ho' f' hf' => ?_⟩
  rw [(consistent_ofOutlines outlines).node?_eq_some_iff_eq hv]
  exact (h o' ho' f' hf').qualifiedId_eq_iff (h o ho f hf)

end Nodes

/-- Files whose paths hold separators: one looks like the id of a function of another one. -/
def separatedPaths : List Outline :=
  [callingFile "a" [("g", []), ("g", [])], callingFile "a:" [("g", [])],
    ⟨"a", [{ (default : FunctionEntry) with name := "g", className := some "C" }], [], [], []⟩,
    callingFile "a::C.g" [("g", []), ("", [])]]

/-- Only the two functions that agree in file, class and name have one node. -/
theorem ids_tell_functions_separated :
    (∀ o ∈ separatedPaths, ∀ f ∈ o.functions, f.HasPlainId) ∧
    (ofOutlines separatedPaths).graph.keys =
      ["a::g", "a:::g", "a::C.g", "a::C.g::g", "a::C.g::"] ∧
    (definedFunctions separatedPaths).ncard = 5 := by
  have hplain : ∀ o ∈ separatedPaths, ∀ f ∈ o.functions, f.HasPlainId := by decide
  obtain ⟨-, hnodes⟩ := ids_tell_functions separatedPaths
  refine ⟨hplain, by decide, ?_⟩
  rw [← (hnodes hplain).2]
  decide

end CallGraph

end CodeSurvey
