/-
# Files in any order

Files are registered and linked one after the other, but as long as names hold no separators what a
call means can be said without their order (`Means`): an id tells its file, class and name, so
functions of one id are functions of one name, whichever of them is kept.  So the call graphs of the
same files in another order have the same functions and calls, and what is counted in them agrees
(`call_relation_of_perm`).
-/
import CodeSurvey.Proofs.Graph.Dependencies
import CodeSurvey.Proofs.Graph.Resolution

namespace CodeSurvey

/-! ## What calls mean, without an order -/

/-- A called name means a function: one of that name near the caller, or any of that name if there is
none near. -/
def Means (outlines : List Outline) (file : String) (callerClass : Option String)
    (name target : String) : Prop :=
  ∃ home className, Defines outlines home className name ∧
    target = functionId home className name ∧
    (home = file ∧ (className = none ∨ className = callerClass) ∨
      ¬ Defines outlines file none name ∧ ¬ Defines outlines file callerClass name)

/-- A function with one id calls a name that means the function with another. -/
def MayCall (outlines : List Outline) (u v : String) : Prop :=
  ∃ o ∈ outlines, ∃ f ∈ o.functions, f.qualifiedId o.path = u ∧
    ∃ name ∈ f.calls, Means outlines o.path f.className name v

section Meaning

variable {outlines : List Outline} {file name : String} {callerClass : Option String}

/-- The functions near a caller are outside of classes or in the caller's class. -/
theorem mem_nearTargets {t : String} :
    t ∈ nearTargets outlines file callerClass name ↔
      ∃ className, (className = none ∨ className = callerClass) ∧
        Defines outlines file className name ∧ t = functionId file className name := by
  have hclasses (className : Option String) :
      className ∈ none :: callerClass.toList.map some ↔
        className = none ∨ className = callerClass := by
    cases callerClass <;> simp
  rw [nearTargets, List.mem_map]
  simp only [List.mem_filter, hclasses, decide_eq_true_eq, and_assoc, @eq_comm _ t]

theorem nearTargets_eq_nil_iff :
    nearTargets outlines file callerClass name = [] ↔
      ¬ Defines outlines file none name ∧ ¬ Defines outlines file callerClass name := by
  rw [List.eq_nil_iff_forall_not_mem]
  simp only [mem_nearTargets]
  constructor
  · intro h
    exact ⟨fun hnone => h _ ⟨none, .inl rfl, hnone, rfl⟩,
      fun hclass => h _ ⟨callerClass, .inr rfl, hclass, rfl⟩⟩
  · rintro ⟨hnone, hclass⟩ t ⟨className, rfl | rfl, hdefines, -⟩
    · exact hnone hdefines
    · exact hclass hdefines

namespace CallGraph

/-- The ids that end with a name are those of the functions of that name. -/
theorem mem_filter_endsInName (h : PlainNames outlines) (hname : IsPlainName name) {t : String} :
    t ∈ ((ofOutlines outlines).definitions.map (·.id)).filter (EndsInName · name) ↔
      ∃ home className, Defines outlines home className name ∧
        t = functionId home className name := by
  rw [List.mem_filter, mem_definition_ids, decide_eq_true_eq]
  constructor
  · rintro ⟨⟨o, ho, f, hf, rfl⟩, hends⟩
    rw [qualifiedId_eq_functionId, endsInName_functionId (h o ho f hf).name hname] at hends
    subst hends
    exact ⟨o.path, f.className, ⟨o, ho, rfl, f, hf, rfl, rfl⟩, qualifiedId_eq_functionId f o.path⟩
  · rintro ⟨_, _, ⟨o, ho, rfl, f, hf, rfl, rfl⟩, rfl⟩
    exact ⟨⟨o, ho, f, hf, qualifiedId_eq_functionId f o.path⟩,
      (endsInName_functionId hname hname).2 rfl⟩

/-- The rule for called names finds what they mean. -/
theorem mem_scanTargets (h : PlainNames outlines) (hname : IsPlainName name) {t : String} :
    t ∈ scanTargets outlines ((ofOutlines outlines).definitions.map (·.id)) file callerClass name ↔
      Means outlines file callerClass name t := by
  unfold scanTargets Means
  by_cases hnear : nearTargets outlines file callerClass name = []
  · rw [if_pos hnear, mem_filter_endsInName h hname]
    have hnone := nearTargets_eq_nil_iff.1 hnear
    simp only [hnone, not_false_eq_true, and_self, or_true, and_true]
  · rw [if_neg hnear, mem_nearTargets]
    have hsome := mt nearTargets_eq_nil_iff.2 hnear
    simp only [hsome, or_false]
    constructor
    · rintro ⟨className, hclass, hdefines, rfl⟩
      exact ⟨file, className, hdefines, rfl, rfl, hclass⟩
    · rintro ⟨_, className, hdefines, rfl, rfl, hclass⟩
      exact ⟨className, hclass, hdefines, rfl⟩

/-- The targets of a call are what it means. -/
theorem mem_targets_iff_means (h : PlainNames outlines) (hname : IsPlainName name)
    (hclass : ∀ c ∈ callerClass, IsPlainName c) {t : String} :
    t ∈ ((Registry.ofDefinitions (ofOutlines outlines).definitions).resolve file callerClass
        name).targets ↔
      Means outlines file callerClass name t := by
  rw [resolve_eq_scan h hname hclass, Resolution.targets_ofTargets, mem_scanTargets h hname]

/-- The edges lead from callers to what their calls mean. -/
theorem mem_keyEdges_iff_mayCall (h : PlainNames outlines) {u v : String} :
    (u, v) ∈ (ofOutlines outlines).graph.keyEdges ↔ MayCall outlines u v := by
  obtain ⟨-, -, -, hedges⟩ := graph_ofOutlines outlines
  rw [hedges, Calls, MayCall]
  refine exists_congr fun o => and_congr_right fun ho => exists_congr fun f =>
    and_congr_right fun hf => and_congr_right fun _ => exists_congr fun called =>
      and_congr_right fun hcalled => ?_
  exact mem_targets_iff_means h ((h o ho f hf).calls called hcalled) (h o ho f hf).className

end CallGraph

end Meaning

/-! ## What is counted -/

/-- The nodes without a successor are those whose key is not the source of an edge. -/
theorem Digraph.Consistent.countP_outDegree_eq_zero {g : Digraph} (hg : g.Consistent) :
    g.nodes.countP (fun v => g.outDegree v = 0) =
      g.keys.countP fun key => ∀ e ∈ g.keyEdges, e.1 ≠ key := by
  rw [← g.map_key_nodes, List.countP_map]
  refine List.countP_congr fun v hv => ?_
  rw [Function.comp_apply, decide_eq_true_eq, decide_eq_true_eq, outDegree_eq_zero_iff hg hv]
  constructor
  · rintro hnone ⟨source, target⟩ he rfl
    exact hnone target he
  · intro hnone target he
    exact hnone _ he rfl

/-- Whether a call is resolved, and to one or to several functions, does not depend on the order of
its targets. -/
theorem Resolution.ofTargets_perm {ts ts' : List String} (h : ts.Perm ts') :
    (ofTargets ts = unresolved ∧ ofTargets ts' = unresolved) ∨
      (∃ t, ofTargets ts = unique t ∧ ofTargets ts' = unique t) ∨
      (ofTargets ts = ambiguous ts ∧ ofTargets ts' = ambiguous ts') := by
  match ts with
  | [] =>
    rw [h.nil_eq.symm]
    exact .inl ⟨rfl, rfl⟩
  | [t] =>
    rw [List.singleton_perm.1 h |>.symm]
    exact .inr (.inl ⟨t, rfl, rfl⟩)
  | _ :: _ :: _ =>
    match ts', h.length_eq with
    | _ :: _ :: _, _ => exact .inr (.inr ⟨rfl, rfl⟩)

/-! ## The same files in another order -/

namespace CallGraph

section Perm

variable {outlines outlines' : List Outline} (hperm : outlines.Perm outlines')

include hperm

theorem defines_perm {file name : String} {className : Option String} :
    Defines outlines file className name ↔ Defines outlines' file className name := by
  simp only [Defines, hperm.mem_iff]

theorem means_perm {file name t : String} {callerClass : Option String} :
    Means outlines file callerClass name t ↔ Means outlines' file callerClass name t := by
  simp only [Means, defines_perm hperm]

theorem mayCall_perm {u v : String} : MayCall outlines u v ↔ MayCall outlines' u v := by
  simp only [MayCall, means_perm hperm, hperm.mem_iff]

theorem plainNames_perm (h : PlainNames outlines) : PlainNames outlines' :=
  fun o ho => h o (hperm.mem_iff.2 ho)

/-- The functions are the same. -/
theorem keys_perm :
    (ofOutlines outlines).graph.keys.Perm (ofOutlines outlines').graph.keys := by
  obtain ⟨-, hkeys, -⟩ := graph_ofOutlines outlines
  obtain ⟨-, hkeys', -⟩ := graph_ofOutlines outlines'
  rw [hkeys, hkeys', List.perm_ext_iff_of_nodup (definition_ids_nodup outlines)
    (definition_ids_nodup outlines')]
  intro id
  simp only [mem_definition_ids, hperm.mem_iff]

section Plain

variable (h : PlainNames outlines)

include h

/-- The calls between functions are the same. -/
theorem keyEdges_perm :
    (ofOutlines outlines).graph.keyEdges.Perm (ofOutlines outlines').graph.keyEdges := by
  rw [List.perm_ext_iff_of_nodup (consistent_ofOutlines outlines).keyEdges_nodup
    (consistent_ofOutlines outlines').keyEdges_nodup]
  rintro ⟨u, v⟩
  rw [mem_keyEdges_iff_mayCall h, mem_keyEdges_iff_mayCall (plainNames_perm hperm h),
    mayCall_perm hperm]

/-- A call has the same targets. -/
theorem targets_perm (file : String) {name : String} {callerClass : Option String}
    (hname : IsPlainName name) (hclass : ∀ c ∈ callerClass, IsPlainName c) :
    (scanTargets outlines ((ofOutlines outlines).definitions.map (·.id)) file callerClass name).Perm
      (scanTargets outlines' ((ofOutlines outlines').definitions.map (·.id)) file callerClass
        name) := by
  have h' := plainNames_perm hperm h
  rw [List.perm_ext_iff_of_nodup (scanTargets_nodup h hname hclass)
    (scanTargets_nodup h' hname hclass)]
  intro t
  rw [mem_scanTargets h hname, mem_scanTargets h' hname, means_perm hperm]

/-- As many calls are resolved in some way, if the targets of ambiguous ones do not count. -/
theorem countP_callSites_perm {q : CallSite → Bool}
    (hq : ∀ caller name ts ts', q ⟨caller, name, .ambiguous ts⟩ = q ⟨caller, name, .ambiguous ts'⟩) :
    (ofOutlines outlines).callSites.countP q = (ofOutlines outlines').callSites.countP q := by
  have h' := plainNames_perm hperm h
  have hcounts (sites : List CallSite) : sites.countP q = (sites.map q).countP id := by
    rw [List.countP_map, Function.id_comp]
  -- each call is resolved alike, and the calls come in another order
  have halike :
      (outlines'.flatMap
          (callSitesOf (Registry.ofDefinitions (ofOutlines outlines).definitions))).map q =
        (outlines'.flatMap
          (callSitesOf (Registry.ofDefinitions (ofOutlines outlines').definitions))).map q := by
    simp only [callSitesOf, List.map_flatMap, List.map_map]
    refine List.flatMap_congr fun o ho => List.flatMap_congr fun f hf =>
      List.map_congr_left fun name hname => ?_
    have hplain := h' o ho f hf
    have hts := targets_perm hperm h o.path (hplain.calls name hname) hplain.className
    simp only [Function.comp_apply, resolve_eq_scan h (hplain.calls name hname) hplain.className,
      resolve_eq_scan h' (hplain.calls name hname) hplain.className]
    rcases Resolution.ofTargets_perm hts with ⟨hr, hr'⟩ | ⟨t, hr, hr'⟩ | ⟨hr, hr'⟩
    · rw [hr, hr']
    · rw [hr, hr']
    · rw [hr, hr', hq]
  rw [hcounts, hcounts, callSites_ofOutlines, callSites_ofOutlines, ← halike]
  exact ((hperm.flatMap_right _).map _).countP_eq id

end Plain

end Perm

/-- **The order of files does not matter for the call graph**, as long as names hold no separators.
The same functions call each other, and all counts of the analysis agree.  Files may even share
their paths. -/
theorem call_relation_of_perm {outlines outlines' : List Outline} (hperm : outlines.Perm outlines')
    (h : PlainNames outlines) :
    (ofOutlines outlines).graph.keys.Perm (ofOutlines outlines').graph.keys ∧
    (ofOutlines outlines).graph.keyEdges.Perm (ofOutlines outlines').graph.keyEdges ∧
    (ofOutlines outlines).analysis.totalFunctions = (ofOutlines outlines').analysis.totalFunctions ∧
    (ofOutlines outlines).analysis.totalCalls = (ofOutlines outlines').analysis.totalCalls ∧
    (ofOutlines outlines).analysis.deadEnds = (ofOutlines outlines').analysis.deadEnds ∧
    (ofOutlines outlines).analysis.uniqueCalls = (ofOutlines outlines').analysis.uniqueCalls ∧
    (ofOutlines outlines).analysis.ambiguousCalls = (ofOutlines outlines').analysis.ambiguousCalls ∧
    (ofOutlines outlines).analysis.unresolvedCalls =
      (ofOutlines outlines').analysis.unresolvedCalls := by
  have hkeys := keys_perm hperm
  have hedges := keyEdges_perm hperm h
  refine ⟨hkeys, hedges, hkeys.length_eq, ?_, ?_, countP_callSites_perm hperm h fun _ _ _ _ => rfl,
    countP_callSites_perm hperm h fun _ _ _ _ => rfl,
    countP_callSites_perm hperm h fun _ _ _ _ => rfl⟩
  · have hlength := hedges.length_eq
    rwa [Digraph.keyEdges, Digraph.keyEdges, List.length_map, List.length_map] at hlength
  · simp only [analysis, (consistent_ofOutlines outlines).countP_outDegree_eq_zero,
      (consistent_ofOutlines outlines').countP_outDegree_eq_zero, hedges.mem_iff]
    exact hkeys.countP_eq _

/-- The call of a name that two files define means both of them, in either order of the files. -/
theorem call_relation_of_perm_reversed :
    PlainNames repeatedOutlines ∧
    (ofOutlines repeatedOutlines.reverse).graph.keys = ["c::h", "b::h", "a::f", "a::g"] ∧
    ("a::f", "b::h") ∈ (ofOutlines repeatedOutlines.reverse).graph.keyEdges ∧
    (ofOutlines repeatedOutlines.reverse).analysis.deadEnds = 2 ∧
    (ofOutlines repeatedOutlines.reverse).analysis.uniqueCalls = 3 ∧
    (ofOutlines repeatedOutlines.reverse).analysis.ambiguousCalls = 1 := by
  have hplain : PlainNames repeatedOutlines := by decide
  obtain ⟨-, hedges, -, -, hdeadEnds, hunique, hambiguous, -⟩ :=
    call_relation_of_perm repeatedOutlines.reverse_perm.symm hplain
  rw [← hdeadEnds, ← hunique, ← hambiguous, ← hedges.mem_iff]
  exact ⟨hplain, by decide, by decide, by decide, by decide,
    by decide⟩

end CallGraph

end CodeSurvey
