/-
# The names that functions call

A search for calls looks at the nodes of a tree one by one and notes every name that is new.  What
it ends with does not change from turn to turn (`foldl_noteName_step`), so it is the names that the
nodes call, in source order and each at its first occurrence (`callNames_eq`).  A walk over any
tree, grammatical or not, meets some of its definitions in their order, and it has met the class
that a function is given before it meets the function (`meets_entriesOf`).  So the functions of an
outline refer to classes of the outline, and those that stand in a function call nothing that this
one does not call.
-/
import CodeSurvey.Proofs.Listing
import CodeSurvey.Proofs.Outline.Walk

namespace CodeSurvey

/-! ## Calls -/

/-- A node calls a name: it is a call of the name itself or of an attribute of that name. -/
def Tree.Calls (source : List Char) (t : Tree) (name : String) : Prop :=
  t.kind = .call ∧ ∃ callee, t.part? .function = some callee ∧
    (callee.kind = .identifier ∧ callee.textIn source = name ∨
      callee.kind = .memberAccess ∧
        ∃ member, callee.part? .member = some member ∧ member.textIn source = name)

/-- A name or a member of an object can be called by name. -/
theorem calleeName?_eq_some_iff {source : List Char} {t : Tree} {name : String} :
    calleeName? source t = some name ↔
      t.kind = .identifier ∧ t.textIn source = name ∨
        t.kind = .memberAccess ∧
          ∃ member, t.part? .member = some member ∧ member.textIn source = name := by
  unfold calleeName?
  split
  · next hk => simp [hk]
  · next hk => simp [hk]
  · next hidentifier hmember =>
    constructor
    · nofun
    · rintro (⟨hk, -⟩ | ⟨hk, -⟩)
      · exact absurd hk hidentifier
      · exact absurd hk hmember

/-- The name that a node calls is the one that is noted. -/
theorem callName?_eq_some_iff {source : List Char} {t : Tree} {name : String} :
    callName? source t = some name ↔ t.Calls source name := by
  unfold callName? Tree.Calls
  by_cases hk : t.kind = .call
  · simp [hk, guard, Option.bind_eq_some_iff, calleeName?_eq_some_iff]
  · simp [hk, guard]

/-! ## The search for calls -/

/-- A turn notes the name that the next node calls, and changes nothing about the names noted in the
end. -/
theorem foldl_noteName_step (source : List Char) (t : Tree) (rest : List Tree)
    (names : List String) :
    ((Tree.preorderAll ((callSearch source).next t ++ rest)).filterMap (callName? source)).foldl
        noteName ((callSearch source).note names t) =
      ((Tree.preorderAll (t :: rest)).filterMap (callName? source)).foldl noteName names := by
  rw [Tree.preorderAll_cons_eq]
  cases hname : callName? source t with
  | none =>
    rw [List.filterMap_cons_none hname]
    simp only [callSearch, hname]
  | some name =>
    rw [List.filterMap_cons_some hname, List.foldl_cons]
    simp only [callSearch, hname]

/-- Names are noted at their first occurrences. -/
theorem foldl_noteName (names : List String) : names.foldl noteName [] = firstBy id names := by
  induction names using List.reverseRecOn with
  | nil => rfl
  | append_singleton names name ih =>
    rw [List.foldl_concat, ih, firstBy_concat, List.map_id, noteName]
    simp only [List.contains_iff_mem, mem_firstBy_id, id]

/-- The names called in a tree are those that its nodes call, at their first occurrences. -/
theorem callNames_eq (source : List Char) (t : Tree) :
    callNames source t = firstBy id (t.preorder.filterMap (callName? source)) := by
  rw [← foldl_noteName, ← Tree.preorderAll_singleton]
  refine TreeSearch.search_induction (s := callSearch source) (motive := fun pending names =>
    ((Tree.preorderAll pending).filterMap (callName? source)).foldl noteName names =
      ((Tree.preorderAll [t]).filterMap (callName? source)).foldl noteName [])
    (fun next rest names h => ?_) [t] [] rfl
  rw [foldl_noteName_step]
  exact h

/-- The names called in a tree are those that some node of it calls. -/
theorem mem_callNames {source : List Char} {t : Tree} {name : String} :
    name ∈ callNames source t ↔ ∃ n ∈ t.preorder, n.Calls source name := by
  rw [callNames_eq, mem_firstBy_id, List.mem_filterMap]
  simp only [callName?_eq_some_iff]

/-- The nodes of one tree stand together among those of several. -/
theorem Tree.sublist_flatMap {c : Tree} {cs : List Tree} (h : c ∈ cs) :
    c.preorder.Sublist (cs.flatMap preorder) := by
  rw [List.flatMap_def]
  exact List.sublist_flatten_of_mem (List.mem_map_of_mem h)

/-- The nodes below a node of a tree stand together in the tree. -/
theorem Tree.preorder_sublist {outer inner : Tree} (h : inner ∈ outer.preorder) :
    inner.preorder.Sublist outer.preorder := by
  induction outer using Tree.inductionBelow with
  | node k f s t cs ih =>
    rw [preorder_node] at h
    rcases List.mem_cons.1 h with rfl | h
    · exact List.Sublist.refl _
    · obtain ⟨c, hc, hinner⟩ := List.mem_flatMap.1 h
      rw [preorder_node]
      exact ((ih c hc hinner).trans (sublist_flatMap hc)).cons _

/-- What is called below a node of a tree is called in the tree. -/
theorem callNames_subset (source : List Char) {outer inner : Tree} (h : inner ∈ outer.preorder) :
    callNames source inner ⊆ callNames source outer := by
  intro name hname
  obtain ⟨n, hn, hcalls⟩ := mem_callNames.1 hname
  exact mem_callNames.2 ⟨n, (Tree.preorder_sublist h).subset hn, hcalls⟩

/-! ## What a walk meets -/

/-- Entries record nodes from a list in its order, and the class of each function is that of the
scope or is recorded. -/
structure Meets (source : List Char) (scope : Scope) (within : List Tree) (entries : List Entry) :
    Prop where
  recorded : ∃ nodes, nodes.Sublist within ∧
    List.Forall₂ (Entry.Records source) nodes (entries.filter Entry.isRecord)
  resolved : ∀ f ∈ entries.filterMap Entry.function?, ∀ name, f.className = some name →
    scope.className = some name ∨ ∃ c ∈ entries.filterMap Entry.class?, c.name = name

namespace Meets

variable {source : List Char} {scope : Scope} {within within' : List Tree}
  {entries entries' : List Entry}

/-- Nothing is met at first. -/
theorem nil : Meets source scope within [] :=
  ⟨⟨[], List.nil_sublist within, .nil⟩, fun _ hf => absurd hf List.not_mem_nil⟩

/-- What is met among some nodes is met among more. -/
theorem mono (h : Meets source scope within entries) (hwithin : within.Sublist within') :
    Meets source scope within' entries := by
  obtain ⟨⟨nodes, hnodes, hrecords⟩, hresolved⟩ := h
  exact ⟨⟨nodes, hnodes.trans hwithin, hrecords⟩, hresolved⟩

/-- What is met in two places is met one after the other. -/
theorem append (h : Meets source scope within entries) (h' : Meets source scope within' entries') :
    Meets source scope (within ++ within') (entries ++ entries') := by
  obtain ⟨nodes, hnodes, hrecords⟩ := h.recorded
  obtain ⟨nodes', hnodes', hrecords'⟩ := h'.recorded
  refine ⟨⟨nodes ++ nodes', hnodes.append hnodes', ?_⟩, fun f hf name hname => ?_⟩
  · rw [List.filter_append]
    exact List.rel_append hrecords hrecords'
  · rw [List.filterMap_append, List.mem_append] at hf
    rw [List.filterMap_append]
    rcases hf with hf | hf
    · exact (h.resolved f hf name hname).imp_right fun ⟨c, hc, hcname⟩ =>
        ⟨c, List.mem_append_left _ hc, hcname⟩
    · exact (h'.resolved f hf name hname).imp_right fun ⟨c, hc, hcname⟩ =>
        ⟨c, List.mem_append_right _ hc, hcname⟩

/-- What is met in many places is met one after the other. -/
theorem flatMap {cs : List Tree} {nodesOf : Tree → List Tree} {entriesOf : Tree → List Entry}
    (h : ∀ c ∈ cs, Meets source scope (nodesOf c) (entriesOf c)) :
    Meets source scope (cs.flatMap nodesOf) (cs.flatMap entriesOf) := by
  induction cs with
  | nil => exact nil
  | cons c cs ih =>
    rw [List.forall_mem_cons] at h
    exact h.1.append (ih h.2)

/-- A function comes before what stands in it, and no class is meant there. -/
theorem ofFunction {n : Tree} {decorators : List String} {f : FunctionEntry}
    (hkind : n.kind = .functionDefinition) (hf : functionOf? source scope decorators n = some f)
    (h : Meets source .inFunction within entries) :
    Meets source scope (n :: within) (.function f :: entries) := by
  obtain ⟨nodes, hnodes, hrecords⟩ := h.recorded
  refine ⟨⟨n :: nodes, hnodes.cons_cons n, .cons (.ofFunction scope decorators hkind hf) hrecords⟩,
    fun g hg name hname => ?_⟩
  rcases List.mem_cons.1 hg with rfl | hg
  · rw [← (functionOf?_eq_some hf).2.1]
    exact .inl hname
  · rcases h.resolved g hg name hname with hscope | hclass
    · cases hscope
    · exact .inr hclass

/-- A class comes before what stands in it, and may be meant there. -/
theorem ofClass {n : Tree} {decorators : List String} {c : ClassEntry}
    (hkind : n.kind = .classDefinition) (hc : classOf? source decorators n = some c)
    (h : Meets source (.inClass c.name) within entries) :
    Meets source scope (n :: within) (.class c :: entries) := by
  obtain ⟨nodes, hnodes, hrecords⟩ := h.recorded
  refine ⟨⟨n :: nodes, hnodes.cons_cons n, .cons (.ofClass decorators hkind hc) hrecords⟩,
    fun g hg name hname => .inr ?_⟩
  rcases h.resolved g hg name hname with hscope | ⟨c', hc', hname'⟩
  · exact ⟨c, List.mem_cons_self, Option.some.inj hscope⟩
  · exact ⟨c', List.mem_cons_of_mem c hc', hname'⟩

/-- An import is met with its entry alone. -/
theorem ofImport {n : Tree} (hkind : n.kind.isImport = true) :
    Meets source scope (n :: within) [.import (importEntryOf source n)] := by
  refine ⟨⟨[n], (List.nil_sublist within).cons_cons n, .cons (.ofImport hkind) .nil⟩, ?_⟩
  exact fun f hf => absurd hf List.not_mem_nil

/-- Global variables stand for no node. -/
theorem ofGlobals (gs : List GlobalEntry) : Meets source scope [] (gs.map .global) := by
  induction gs with
  | nil => exact nil
  | cons g gs ih => exact ⟨ih.recorded, ih.resolved⟩

end Meets

/-- Below decorators, the entries are those of one definition. -/
theorem exists_of_entriesUnder? {source : List Char} {scope : Scope} {decorators : List String}
    {cs : List Tree} {entries : List Entry}
    (h : entriesUnder? source scope decorators cs = some entries) :
    ∃ c ∈ cs, entries = entriesOf source scope .decoratedDefinition decorators c := by
  induction cs with
  | nil =>
    rw [entriesUnder?] at h
    cases h
  | cons c cs ih =>
    rw [entriesUnder?] at h
    split at h
    · split at h
      · exact ⟨c, List.mem_cons_self, (Option.some.inj h).symm⟩
      · cases h
    · obtain ⟨d, hd, hentries⟩ := ih h
      exact ⟨d, List.mem_cons_of_mem c hd, hentries⟩

/-- A walk over any tree records nodes in their order, and knows the classes of functions. -/
theorem meets_entriesOf {source : List Char} (t : Tree) (scope : Scope) (above : Kind)
    (decorators : List String) :
    Meets source scope t.preorder (entriesOf source scope above decorators t) := by
  induction t using Tree.inductionBelow generalizing scope above decorators with
  | node k f s e cs ih =>
    have hbelow : ∀ scope above, Meets source scope (cs.flatMap Tree.preorder)
        (entriesAmong source scope above cs) := by
      intro scope above
      rw [entriesAmong_eq_flatMap]
      exact Meets.flatMap fun c hc => ih c hc scope above []
    have hskip : ∀ scope above, Meets source scope
        (.node k f s e cs :: cs.flatMap Tree.preorder) (entriesAmong source scope above cs) :=
      fun scope above => (hbelow scope above).mono (List.sublist_cons_self _ _)
    rw [Tree.preorder_node]
    -- the cases are those of the walk, and every import is the same case
    unfold entriesOf
    dsimp only
    split
    · split
      · next hf => exact (hbelow _ _).ofFunction rfl hf
      · exact .nil
    · split
      · next hc => exact (hbelow _ _).ofClass rfl hc
      · exact .nil
    · split
      · next hentries =>
        obtain ⟨c, hc, rfl⟩ := exists_of_entriesUnder? hentries
        exact (ih c hc scope _ _).mono ((Tree.sublist_flatMap hc).cons _)
      · exact hskip _ _
    · exact .ofImport rfl
    · exact .ofImport rfl
    · exact .ofImport rfl
    · exact (Meets.ofGlobals _).append (hskip _ _)
    · exact hskip _ _

/-- A walk over a file meets its nodes in their order. -/
theorem meets_file (source : List Char) (root : Tree) :
    Meets source .file root.preorder (entriesAmong source .file root.kind root.children) := by
  cases root with
  | node k f s e cs =>
    have hbelow : Meets source .file (cs.flatMap Tree.preorder) (entriesAmong source .file k cs) := by
      rw [entriesAmong_eq_flatMap]
      exact Meets.flatMap fun c _ => meets_entriesOf c .file k []
    rw [Tree.preorder_node]
    exact hbelow.mono (List.sublist_cons_self _ _)

/-! ## The functions of an outline -/

/-- A function refers to a class that is met. -/
theorem exists_class?_eq {path : String} {source : List Char} {root : Tree} {f : FunctionEntry}
    {name : String} (hf : f ∈ (Outline.ofTree path source root).functions)
    (hname : f.className = some name) :
    ∃ c ∈ (Outline.ofTree path source root).classes,
      (Outline.ofTree path source root).class? name = some c ∧ c.name = name := by
  rcases (meets_file source root).resolved f hf name hname with hscope | ⟨c, hc, hcname⟩
  · cases hscope
  · have hsome : ((Outline.ofTree path source root).classes.find? (·.name = name)).isSome = true := by
      rw [List.find?_isSome]
      exact ⟨c, hc, decide_eq_true hcname⟩
    obtain ⟨first, hfirst⟩ := Option.isSome_iff_exists.1 hsome
    have hnamed := List.find?_some hfirst
    exact ⟨first, List.mem_of_find?_eq_some hfirst, hfirst, of_decide_eq_true hnamed⟩

/-- The functions of an outline are those of nodes of the tree, in their order. -/
theorem exists_functionNodes (path : String) (source : List Char) (root : Tree) :
    ∃ nodes, nodes.Sublist root.preorder ∧
      List.Forall₂ (fun n f => Entry.Records source n (.function f))
        nodes (Outline.ofTree path source root).functions := by
  obtain ⟨nodes, hnodes, hrecords⟩ := (meets_file source root).recorded
  refine ⟨nodes.filter (·.kind = .functionDefinition), List.filter_sublist.trans hnodes, ?_⟩
  rw [Outline.ofTree, ← filterMap_filter_isRecord fun _ => rfl]
  refine forall₂_filter_filterMap hrecords ?_ ?_
  · rintro n e (⟨_, _, hk, _⟩ | ⟨_, hk, _⟩ | hk) hn
    · exact absurd (decide_eq_true hk) (Bool.eq_false_iff.1 hn)
    · rfl
    · rfl
  · rintro n e (⟨scope, decorators, hk, hf⟩ | ⟨_, hk, _⟩ | hk) hn
    · exact ⟨_, rfl, .ofFunction scope decorators hk hf⟩
    · rw [of_decide_eq_true hn] at hk
      cases hk
    · rw [of_decide_eq_true hn] at hk
      cases hk

/-- What is recorded as a function is the definition of one. -/
theorem Entry.Records.kind_eq {source : List Char} {n : Tree} {f : FunctionEntry}
    (h : Entry.Records source n (.function f)) : n.kind = .functionDefinition := by
  cases h with
  | ofFunction scope decorators hkind hf => exact hkind

/-- A function calls the names that are called in its node. -/
theorem Entry.Records.calls_eq {source : List Char} {n : Tree} {f : FunctionEntry}
    (h : Entry.Records source n (.function f)) : f.calls = callNames source n := by
  cases h with
  | ofFunction scope decorators hkind hf => exact (functionOf?_eq_some hf).2.2.1

/-- **Functions refer to classes of their file and list what they call.**  For every tree, the class
that a function of the outline is given is one of its classes.  The functions are those of nodes of
the tree, and each lists the names that the calls in its node go by, a bare name or the last
attribute, at their first occurrences in source order.  So no name is listed twice, and a function
whose node stands in the node of another one calls nothing that the other one does not call. -/
theorem functions_resolve_and_list_calls (path : String) (source : List Char) (root : Tree) :
    (∀ f ∈ (Outline.ofTree path source root).functions, ∀ name, f.className = some name →
      ∃ c ∈ (Outline.ofTree path source root).classes,
        (Outline.ofTree path source root).class? name = some c ∧ c.name = name) ∧
    (∀ n name, callName? source n = some name ↔ n.Calls source name) ∧
    ∃ nodes, nodes.Sublist root.preorder ∧
      List.Forall₂ (fun n f => Entry.Records source n (.function f) ∧
          ListsFirst (n.preorder.filterMap (callName? source)) f.calls ∧ f.calls.Nodup)
        nodes (Outline.ofTree path source root).functions ∧
      ∀ outer f inner g, (outer, f) ∈ nodes.zip (Outline.ofTree path source root).functions →
        (inner, g) ∈ nodes.zip (Outline.ofTree path source root).functions →
          inner ∈ outer.preorder → g.calls ⊆ f.calls := by
  obtain ⟨nodes, hnodes, hfunctions⟩ := exists_functionNodes path source root
  have hlists : ∀ n f, Entry.Records source n (.function f) →
      ListsFirst (n.preorder.filterMap (callName? source)) f.calls := by
    intro n f hf
    rw [hf.calls_eq, callNames_eq]
    exact listsFirst_firstBy _
  refine ⟨fun f hf name => exists_class?_eq hf, fun n name => callName?_eq_some_iff, nodes, hnodes,
    hfunctions.imp fun n f hf => ⟨hf, hlists n f hf, (hlists n f hf).nodup⟩, ?_⟩
  intro outer f inner g hf hg hinner
  rw [(List.forall₂_zip hfunctions hf).calls_eq, (List.forall₂_zip hfunctions hg).calls_eq]
  exact callNames_subset source hinner

/-- A method with a function in it. -/
def innerCallSource : List Char :=
  "class A:\n  def m(self):\n    def g(): f(); self.f(); h()\n    g()\n".toList

/-- A method refers to its class, and the function inside it calls less than it does. -/
theorem functions_resolve_and_list_calls_nested : ∃ root, readTree innerCallSource = .ok root ∧
    (∃ c ∈ (Outline.ofTree "a.py" innerCallSource root).classes,
      (Outline.ofTree "a.py" innerCallSource root).class? "A" = some c ∧ c.name = "A") ∧
    ∃ outer f inner g, Entry.Records innerCallSource outer (.function f) ∧
      Entry.Records innerCallSource inner (.function g) ∧ inner ∈ outer.preorder ∧
        f.calls = ["f", "h", "g"] ∧ g.calls = ["f", "h"] ∧ g.calls ⊆ f.calls := by
  have hcomputed : (readTree innerCallSource).toOption.map (fun root =>
      ((Outline.ofTree "a.py" innerCallSource root).functions.map fun f => (f.className, f.calls),
        (root.preorder.filter (·.kind = .functionDefinition)).map fun n =>
          (n.preorder.filter (·.kind = .functionDefinition)).length)) =
      some ([(some "A", ["f", "h", "g"]), (none, ["f", "h"])], [2, 1]) := by
    decide +kernel
  obtain ⟨root, hread, hcomputed⟩ := exists_readTree hcomputed
  obtain ⟨hentries, hlengths⟩ := Prod.mk.inj hcomputed
  obtain ⟨hclass, -, nodes, hnodes, hfunctions, hnested⟩ :=
    functions_resolve_and_list_calls "a.py" innerCallSource root
  obtain ⟨f, fs, hfs, hf, hrest⟩ := List.map_eq_cons_iff.1 hentries
  obtain ⟨g, gs, rfl, hg, hrest⟩ := List.map_eq_cons_iff.1 hrest
  rw [List.map_eq_nil_iff.1 hrest] at hfs
  obtain ⟨hfclass, hfcalls⟩ := Prod.mk.inj hf
  obtain ⟨-, hgcalls⟩ := Prod.mk.inj hg
  rw [hfs] at hfunctions hnested
  cases hfunctions with
  | @cons outer _ _ _ houter hfunctions =>
    cases hfunctions with
    | @cons inner _ _ _ hinner hfunctions =>
      cases hfunctions
      -- both trees have two functions, so these are the same
      have hall : [outer, inner] = root.preorder.filter (·.kind = .functionDefinition) := by
        have hkept := hnodes.filter (·.kind = .functionDefinition)
        rw [List.filter_eq_self.2 (by simp [houter.1.kind_eq, hinner.1.kind_eq])] at hkept
        refine hkept.eq_of_length ?_
        have hlength := congrArg List.length hlengths
        rw [List.length_map] at hlength
        exact hlength.symm
      have hbelow : inner ∈ outer.preorder := by
        have houtermem : outer ∈ root.preorder := hnodes.subset List.mem_cons_self
        have hkept := (Tree.preorder_sublist houtermem).filter (·.kind = .functionDefinition)
        rw [← hall] at hkept hlengths
        have hsame := hkept.eq_of_length (List.cons.inj hlengths).1
        have hmem : inner ∈ outer.preorder.filter (·.kind = .functionDefinition) := by
          rw [hsame]
          exact List.mem_cons_of_mem outer List.mem_cons_self
        exact (List.mem_filter.1 hmem).1
      have hsubset : g.calls ⊆ f.calls :=
        hnested outer f inner g List.mem_cons_self (List.mem_cons_of_mem _ List.mem_cons_self) hbelow
      exact ⟨root, hread, hclass f (hfs ▸ List.mem_cons_self) "A" hfclass, outer, f, inner, g,
        houter.1, hinner.1, hbelow, hfcalls, hgcalls, hsubset⟩

end CodeSurvey
