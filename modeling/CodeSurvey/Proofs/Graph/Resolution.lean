/-
# What calls mean

A call is resolved by looking up ids.  The rule that it is meant to follow speaks of functions: a
called name means the functions near the caller that have it, and if there are none, every function
whose id ends with it.  Where no name holds a separator the two agree (`resolve_eq_scan`), since
an id is defined exactly if its function is (`isDefined_functionId`).
-/
import CodeSurvey.Proofs.Graph.CallRelation
import CodeSurvey.Proofs.Outline.QualifiedId

namespace CodeSurvey

/-- A function whose names hold no separators: its own, that of its class, and those it calls. -/
structure FunctionEntry.IsPlain (f : FunctionEntry) : Prop where
  name : IsPlainName f.name
  className : ∀ c ∈ f.className, IsPlainName c
  calls : ∀ n ∈ f.calls, IsPlainName n

instance (f : FunctionEntry) : Decidable f.IsPlain :=
  decidable_of_iff (IsPlainName f.name ∧ (∀ c ∈ f.className, IsPlainName c) ∧
      ∀ n ∈ f.calls, IsPlainName n)
    ⟨fun h => ⟨h.1, h.2.1, h.2.2⟩, fun h => ⟨h.name, h.className, h.calls⟩⟩

/-- All functions of some files are plain. -/
def PlainNames (outlines : List Outline) : Prop :=
  ∀ o ∈ outlines, ∀ f ∈ o.functions, f.IsPlain

instance (outlines : List Outline) : Decidable (PlainNames outlines) :=
  inferInstanceAs (Decidable (∀ _ ∈ _, _))

/-! ## The rule for called names -/

/-- A file defines a function of a name, in a given class or outside of classes. -/
def Defines (outlines : List Outline) (file : String) (className : Option String)
    (name : String) : Prop :=
  ∃ o ∈ outlines, o.path = file ∧ ∃ f ∈ o.functions, f.className = className ∧ f.name = name

instance (outlines : List Outline) (file : String) (className : Option String) (name : String) :
    Decidable (Defines outlines file className name) :=
  inferInstanceAs (Decidable (∃ _ ∈ _, _))

/-- The functions of a name near a caller: the one outside of classes in its file, then the one in its
class. -/
def nearTargets (outlines : List Outline) (file : String) (callerClass : Option String)
    (name : String) : List String :=
  ((none :: callerClass.toList.map some).filter (Defines outlines file · name)).map
    (functionId file · name)

/-- What a called name means: the functions near the caller, or else all ids that end with it. -/
def scanTargets (outlines : List Outline) (ids : List String) (file : String)
    (callerClass : Option String) (name : String) : List String :=
  if nearTargets outlines file callerClass name = [] then ids.filter (EndsInName · name)
  else nearTargets outlines file callerClass name

/-! ## Definitions -/

/-- A definition is that of a function of a file. -/
theorem mem_allDefinitions {outlines : List Outline} {d : FunctionDefinition} :
    d ∈ allDefinitions outlines ↔
      ∃ o ∈ outlines, ∃ f ∈ o.functions, d = f.definition o.path := by
  simp only [allDefinitions, List.mem_flatMap, List.mem_map, eq_comm]

namespace CallGraph

section Plain

variable {outlines : List Outline}

/-- A definition has the id of a function with plain names. -/
theorem id_of_mem_definitions (h : PlainNames outlines) {d : FunctionDefinition}
    (hd : d ∈ (ofOutlines outlines).definitions) :
    IsPlainName d.name ∧ d.id = functionId d.file d.className d.name := by
  rw [definitions_ofOutlines] at hd
  obtain ⟨o, ho, f, hf, rfl⟩ := mem_allDefinitions.1 (mem_of_mem_firstBy hd)
  exact ⟨(h o ho f hf).name, qualifiedId_eq_functionId f o.path⟩

/-- The ids of the definitions are those of the functions. -/
theorem mem_definition_ids {id : String} :
    id ∈ (ofOutlines outlines).definitions.map (·.id) ↔
      ∃ o ∈ outlines, ∃ f ∈ o.functions, f.qualifiedId o.path = id := by
  rw [definitions_ofOutlines, mem_map_firstBy, List.mem_map]
  constructor
  · rintro ⟨d, hd, rfl⟩
    obtain ⟨o, ho, f, hf, rfl⟩ := mem_allDefinitions.1 hd
    exact ⟨o, ho, f, hf, rfl⟩
  · rintro ⟨o, ho, f, hf, rfl⟩
    exact ⟨f.definition o.path, mem_allDefinitions.2 ⟨o, ho, f, hf, rfl⟩, rfl⟩

/-- An id is defined exactly if its file defines a function of its class and name. -/
theorem isDefined_functionId (h : PlainNames outlines) {file name : String}
    {className : Option String} (hname : IsPlainName name)
    (hclass : ∀ c ∈ className, IsPlainName c) :
    isDefined (ofOutlines outlines).definitions (functionId file className name) = true ↔
      Defines outlines file className name := by
  rw [isDefined_iff, mem_definition_ids]
  constructor
  · rintro ⟨o, ho, f, hf, hid⟩
    have hplain := h o ho f hf
    rw [qualifiedId_eq_functionId, functionId_inj hplain.name hname hplain.className hclass] at hid
    exact ⟨o, ho, hid.1, f, hf, hid.2⟩
  · rintro ⟨o, ho, rfl, f, hf, rfl, rfl⟩
    exact ⟨o, ho, f, hf, qualifiedId_eq_functionId f o.path⟩

/-! ## Resolution -/

/-- The classes that a called name is looked for in are plain if the caller's is. -/
theorem isPlainName_of_mem_near {callerClass className : Option String}
    (hclass : ∀ c ∈ callerClass, IsPlainName c)
    (hmem : className ∈ none :: callerClass.toList.map some) :
    ∀ c ∈ className, IsPlainName c := by
  intro c hc
  apply hclass c
  cases callerClass <;> simp_all

/-- Looking up the ids near a caller finds the functions near it. -/
theorem near_eq_nearTargets (h : PlainNames outlines) {file name : String}
    {callerClass : Option String} (hname : IsPlainName name)
    (hclass : ∀ c ∈ callerClass, IsPlainName c) :
    (Registry.ofDefinitions (ofOutlines outlines).definitions).near file callerClass name =
      nearTargets outlines file callerClass name := by
  have hids : [file ++ "::" ++ name] ++
        (callerClass.map fun c => file ++ "::" ++ c ++ "." ++ name).toList =
      (none :: callerClass.toList.map some).map (functionId file · name) := by
    cases callerClass <;> rfl
  rw [Registry.near, hids, List.filter_map, nearTargets]
  congr 1
  apply List.filter_congr
  intro className hmem
  rw [Function.comp_apply, Bool.eq_iff_iff, Registry.ofDefinitions,
    isDefined_functionId h hname (isPlainName_of_mem_near hclass hmem), decide_eq_true_iff]

/-- Functions of a name are those whose ids end with it. -/
theorem filter_name_eq_filter_endsInName (h : PlainNames outlines) {name : String}
    (hname : IsPlainName name) :
    ((ofOutlines outlines).definitions.filter (·.name = name)).map (·.id) =
      ((ofOutlines outlines).definitions.map (·.id)).filter (EndsInName · name) := by
  rw [List.filter_map]
  congr 1
  apply List.filter_congr
  intro d hd
  obtain ⟨hplain, hid⟩ := id_of_mem_definitions h hd
  rw [Function.comp_apply, hid]
  simp only [endsInName_functionId hplain hname]

/-- Looking up ids and names follows the rule for called names. -/
theorem resolve_eq_scan (h : PlainNames outlines) {file name : String}
    {callerClass : Option String} (hname : IsPlainName name)
    (hclass : ∀ c ∈ callerClass, IsPlainName c) :
    (Registry.ofDefinitions (ofOutlines outlines).definitions).resolve file callerClass name =
      .ofTargets (scanTargets outlines ((ofOutlines outlines).definitions.map (·.id)) file
        callerClass name) := by
  unfold Registry.resolve scanTargets
  simp only [near_eq_nearTargets h hname hclass, Registry.find_byName_ofDefinitions,
    filter_name_eq_filter_endsInName h hname, List.isEmpty_iff]

/-! ## Targets -/

theorem nearTargets_nodup (outlines : List Outline) (file : String) {name : String}
    {callerClass : Option String} (hname : IsPlainName name)
    (hclass : ∀ c ∈ callerClass, IsPlainName c) :
    (nearTargets outlines file callerClass name).Nodup := by
  apply List.Nodup.map_on
  · intro a ha b hb hab
    have ha' := isPlainName_of_mem_near hclass (List.mem_of_mem_filter ha)
    have hb' := isPlainName_of_mem_near hclass (List.mem_of_mem_filter hb)
    exact ((functionId_inj hname hname ha' hb').1 hab).2.1
  · apply List.Nodup.filter
    cases callerClass <;> simp

theorem definition_ids_nodup (outlines : List Outline) :
    ((ofOutlines outlines).definitions.map (·.id)).Nodup := by
  obtain ⟨hbuilt, hkeys, -⟩ := graph_ofOutlines outlines
  rw [← hkeys]
  exact hbuilt.consistent.keys_nodup

/-- A function near a caller is defined under the called name. -/
theorem exists_definition_of_mem_near (h : PlainNames outlines) {file name t : String}
    {callerClass : Option String} (ht : t ∈ nearTargets outlines file callerClass name) :
    ∃ d ∈ (ofOutlines outlines).definitions, d.id = t ∧ d.name = name := by
  obtain ⟨className, hmem, rfl⟩ := List.mem_map.1 ht
  obtain ⟨o, ho, rfl, f, hf, rfl, rfl⟩ : Defines outlines file className name := by
    simpa using (List.mem_filter.1 hmem).2
  have hid := qualifiedId_eq_functionId f o.path
  have hname := (h o ho f hf).name
  obtain ⟨d, hd, heq⟩ := List.mem_map.1 (qualifiedId_mem_ids ho hf)
  refine ⟨d, hd, heq.trans hid, ?_⟩
  -- the definition that was kept may be another one, but equal ids end with equal names
  obtain ⟨hplain, hdid⟩ := id_of_mem_definitions h hd
  rw [← endsInName_functionId hplain hname, ← hdid, heq, hid, endsInName_functionId hname hname]

section Scan

variable (h : PlainNames outlines) {file name : String} {callerClass : Option String}
  (hname : IsPlainName name)

include h hname

theorem scanTargets_nodup (hclass : ∀ c ∈ callerClass, IsPlainName c) :
    (scanTargets outlines ((ofOutlines outlines).definitions.map (·.id)) file callerClass
      name).Nodup := by
  unfold scanTargets
  split
  · rw [← filter_name_eq_filter_endsInName h hname]
    exact (definition_ids_nodup outlines).sublist (List.filter_sublist.map _)
  · exact nearTargets_nodup outlines file hname hclass

/-- What a called name means is defined under this name. -/
theorem exists_definition_of_mem_scan {t : String}
    (ht : t ∈ scanTargets outlines ((ofOutlines outlines).definitions.map (·.id)) file callerClass
      name) :
    ∃ d ∈ (ofOutlines outlines).definitions, d.id = t ∧ d.name = name := by
  unfold scanTargets at ht
  split at ht
  · rw [← filter_name_eq_filter_endsInName h hname] at ht
    obtain ⟨d, hd, rfl⟩ := List.mem_map.1 ht
    exact ⟨d, List.mem_of_mem_filter hd, rfl, by simpa using (List.mem_filter.1 hd).2⟩
  · exact exists_definition_of_mem_near h ht

/-- A called name means nothing only if it is not defined. -/
theorem scanTargets_eq_nil_iff :
    scanTargets outlines ((ofOutlines outlines).definitions.map (·.id)) file callerClass name = [] ↔
      ∀ d ∈ (ofOutlines outlines).definitions, d.name ≠ name := by
  constructor
  · intro hnil d hd hdname
    unfold scanTargets at hnil
    split at hnil
    · rw [← filter_name_eq_filter_endsInName h hname, List.map_eq_nil_iff,
        List.filter_eq_nil_iff] at hnil
      exact hnil d hd (decide_eq_true hdname)
    · rename_i hnear
      exact hnear hnil
  · intro hnone
    rw [List.eq_nil_iff_forall_not_mem]
    intro t ht
    obtain ⟨d, hd, -, hdname⟩ := exists_definition_of_mem_scan h hname ht
    exact hnone d hd hdname

end Scan

theorem ofTargets_eq_unresolved {ts : List String} :
    Resolution.ofTargets ts = .unresolved ↔ ts = [] := by
  match ts with
  | [] => simp [Resolution.ofTargets]
  | [_] => simp [Resolution.ofTargets]
  | _ :: _ :: _ => simp [Resolution.ofTargets]

/-- **Calls mean what the rule for called names says**, as long as names hold no separators.  So the
targets of a call are distinct, they are definitions of the called name, and a call is unresolved
only if the name is not defined. -/
theorem callSites_follow_scan (outlines : List Outline) (h : PlainNames outlines) :
    (ofOutlines outlines).callSites =
      outlines.flatMap (fun o => o.functions.flatMap fun f => f.calls.map fun name =>
        ⟨f.qualifiedId o.path, name,
          .ofTargets (scanTargets outlines ((ofOutlines outlines).definitions.map (·.id)) o.path
            f.className name)⟩) ∧
    ∀ s ∈ (ofOutlines outlines).callSites,
      s.resolution.targets.Nodup ∧
      (∀ t ∈ s.resolution.targets,
        ∃ d ∈ (ofOutlines outlines).definitions, d.id = t ∧ d.name = s.name) ∧
      (s.resolution = .unresolved ↔
        ∀ d ∈ (ofOutlines outlines).definitions, d.name ≠ s.name) := by
  have hresolve {o : Outline} (ho : o ∈ outlines) {f : FunctionEntry} (hf : f ∈ o.functions)
      {name : String} (hname : name ∈ f.calls) :
      (Registry.ofDefinitions (ofOutlines outlines).definitions).resolve o.path f.className name =
        .ofTargets (scanTargets outlines ((ofOutlines outlines).definitions.map (·.id)) o.path
          f.className name) :=
    resolve_eq_scan h ((h o ho f hf).calls name hname) (h o ho f hf).className
  constructor
  · rw [callSites_ofOutlines]
    unfold callSitesOf
    apply List.flatMap_congr
    intro o ho
    apply List.flatMap_congr
    intro f hf
    apply List.map_congr_left
    intro name hname
    rw [hresolve ho hf hname]
  · intro s hs
    rw [callSites_ofOutlines] at hs
    obtain ⟨o, ho, f, hf, name, hcalled, rfl⟩ := mem_callSites.1 hs
    have hname := (h o ho f hf).calls name hcalled
    simp only [hresolve ho hf hcalled, Resolution.targets_ofTargets, ofTargets_eq_unresolved]
    exact ⟨scanTargets_nodup h hname (h o ho f hf).className,
      fun t ht => exists_definition_of_mem_scan h hname ht, scanTargets_eq_nil_iff h hname⟩

end Plain

/-- A file whose path looks like an id, with a function and a method of one name, and a file that
calls this name and one that is not defined. -/
def nestedOutlines : List Outline :=
  let function (className : Option String) (name : String) (calls : List String) : FunctionEntry :=
    { (default : FunctionEntry) with name := name, className := className, calls := calls }
  [⟨"a::C.f", [function none "f" [], function (some "C") "f" ["f"]], [], [], []⟩,
    ⟨"b", [function (some "C") "g" ["f", "k"]], [], [], []⟩]

theorem plainNames_nested : PlainNames nestedOutlines := by
  decide

/-- The method calls the function and itself, the other file both of them by the ends of their ids. -/
theorem callSites_follow_scan_nested :
    PlainNames nestedOutlines ∧
    (ofOutlines nestedOutlines).callSites =
      [⟨"a::C.f::C.f", "f", .ambiguous ["a::C.f::f", "a::C.f::C.f"]⟩,
        ⟨"b::C.g", "f", .ambiguous ["a::C.f::f", "a::C.f::C.f"]⟩,
        ⟨"b::C.g", "k", .unresolved⟩] ∧
    ∀ d ∈ (ofOutlines nestedOutlines).definitions, d.name ≠ "k" := by
  obtain ⟨hsites, hspec⟩ := callSites_follow_scan nestedOutlines plainNames_nested
  refine ⟨plainNames_nested, hsites.trans (by decide), ?_⟩
  exact (hspec ⟨"b::C.g", "k", .unresolved⟩ (by decide)).2.2.1 rfl

end CallGraph

end CodeSurvey
