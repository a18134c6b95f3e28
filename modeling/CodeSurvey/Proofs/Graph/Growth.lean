/-
# More files

Files that are added at the end of a list take away no relation between the files before them.  The
first file that an import means stays the first (`IsMeant.append`).  A call that means a function
near its caller keeps it, and one that means all functions of a name keeps them all, because a file
of another path defines nothing near the caller (`Means.append`).
-/
import CodeSurvey.Proofs.Graph.CircularDependencies
import CodeSurvey.Proofs.Graph.Reordering

namespace CodeSurvey

/-! ## Dependencies -/

/-- A node keeps its number if keys are added at the end. -/
theorem Digraph.Consistent.node?_of_prefix {g g' : Digraph} (hg : g.Consistent)
    (hg' : g'.Consistent) (h : g.keys <+: g'.keys) {key : String} {v : Nat}
    (hv : g.node? key = some v) : g'.node? key = some v := by
  rw [hg.node?_eq_some_iff] at hv
  obtain ⟨hlt, -⟩ := List.getElem?_eq_some_iff.1 hv
  obtain ⟨more, hkeys⟩ := h
  rw [hg'.node?_eq_some_iff, ← hkeys, List.getElem?_append_left hlt, hv]

section Append

variable {outlines more : List Outline}

/-- The files keep their numbers. -/
theorem keys_dependencyGraph_prefix :
    (dependencyGraph outlines).keys <+: (dependencyGraph (outlines ++ more)).keys := by
  obtain ⟨-, hkeys, -⟩ := dependencyGraph_spec outlines
  obtain ⟨-, hkeys', -⟩ := dependencyGraph_spec (outlines ++ more)
  rw [hkeys, hkeys', List.map_append, firstBy_append]
  exact List.prefix_append _ _

/-- The first path that a module means stays the first. -/
theorem IsMeant.append {paths : List String} {importer m path : String}
    (h : IsMeant paths importer m path) (later : List String) :
    IsMeant (paths ++ later) importer m path := by
  obtain ⟨front, back, rfl, hmatches, hfront⟩ := h
  exact ⟨front, back ++ later, by simp, hmatches, hfront⟩

theorem DependsOn.append {a b : String} (h : DependsOn outlines a b) :
    DependsOn (outlines ++ more) a b := by
  obtain ⟨o, ho, rfl, i, hi, m, hm, hname, hmeant⟩ := h
  refine ⟨o, List.mem_append_left more ho, rfl, i, hi, m, hm, hname, ?_⟩
  rw [List.map_append]
  exact hmeant.append _

/-- Files that depend on each other go on to do so. -/
theorem HasMutualDependency.append (h : HasMutualDependency outlines) :
    HasMutualDependency (outlines ++ more) := by
  obtain ⟨a, ha, b, hb, hne, hab, hba⟩ := h
  rw [HasMutualDependency, List.map_append]
  have hmono : DependsOn outlines ≤ DependsOn (outlines ++ more) := fun _ _ h => h.append
  exact ⟨a, List.mem_append_left _ ha, b, List.mem_append_left _ hb, hne,
    Relation.ReflTransGen.mono hmono _ _ hab, Relation.ReflTransGen.mono hmono _ _ hba⟩

/-! ## Calls -/

theorem Defines.append {file name : String} {className : Option String}
    (h : Defines outlines file className name) : Defines (outlines ++ more) file className name := by
  obtain ⟨o, ho, hrest⟩ := h
  exact ⟨o, List.mem_append_left more ho, hrest⟩

section Disjoint

variable (hpaths : (outlines.map (·.path)).Disjoint (more.map (·.path)))

include hpaths

/-- Files of other paths define nothing in a file. -/
theorem defines_append_iff {file name : String} {className : Option String}
    (hfile : file ∈ outlines.map (·.path)) :
    Defines (outlines ++ more) file className name ↔ Defines outlines file className name := by
  constructor
  · rintro ⟨o, ho, rfl, hrest⟩
    rcases List.mem_append.1 ho with ho | ho
    · exact ⟨o, ho, rfl, hrest⟩
    · exact absurd (List.mem_map_of_mem ho) (hpaths hfile)
  · exact Defines.append

/-- What a name means in a file, it goes on to mean. -/
theorem Means.append {file name target : String} {callerClass : Option String}
    (hfile : file ∈ outlines.map (·.path)) (h : Means outlines file callerClass name target) :
    Means (outlines ++ more) file callerClass name target := by
  obtain ⟨home, className, hdefines, htarget, hnear⟩ := h
  refine ⟨home, className, hdefines.append, htarget, ?_⟩
  rwa [defines_append_iff hpaths hfile, defines_append_iff hpaths hfile]

theorem MayCall.append {u v : String} (h : MayCall outlines u v) :
    MayCall (outlines ++ more) u v := by
  obtain ⟨o, ho, f, hf, hid, name, hname, hmeans⟩ := h
  exact ⟨o, List.mem_append_left more ho, f, hf, hid, name, hname,
    hmeans.append hpaths (List.mem_map_of_mem ho)⟩

end Disjoint

end Append

/-! ## Both relations -/

/-- **More files at the end take away no relation.**  Dependencies stay, files keep their numbers,
and circular dependencies do not go away.  Calls stay if names hold no separators and no file is
added under a path that is there. -/
theorem relations_stay_with_more_files (outlines more : List Outline) :
    (∀ a b, (a, b) ∈ (dependencyGraph outlines).keyEdges →
      (a, b) ∈ (dependencyGraph (outlines ++ more)).keyEdges) ∧
    (∀ path v, (dependencyGraph outlines).node? path = some v →
      (dependencyGraph (outlines ++ more)).node? path = some v) ∧
    (PlainNames (outlines ++ more) →
      (outlines.map (·.path)).Disjoint (more.map (·.path)) →
      ∀ u v, (u, v) ∈ (CallGraph.ofOutlines outlines).graph.keyEdges →
        (u, v) ∈ (CallGraph.ofOutlines (outlines ++ more)).graph.keyEdges) ∧
    ((DependencyAnalysis.ofOutlines outlines).hasCircular = true →
      (DependencyAnalysis.ofOutlines (outlines ++ more)).hasCircular = true) := by
  obtain ⟨hbuilt, -, hedges⟩ := dependencyGraph_spec outlines
  obtain ⟨hbuilt', -, hedges'⟩ := dependencyGraph_spec (outlines ++ more)
  refine ⟨fun a b hab => ?_, fun path v =>
    hbuilt.consistent.node?_of_prefix hbuilt'.consistent keys_dependencyGraph_prefix,
    fun hplain hpaths u v huv => ?_, fun hcircular => ?_⟩
  · exact (hedges' a b).2 ((hedges a b).1 hab).append
  · have hbefore : PlainNames outlines := fun o ho => hplain o (List.mem_append_left more ho)
    rw [CallGraph.mem_keyEdges_iff_mayCall hbefore] at huv
    exact (CallGraph.mem_keyEdges_iff_mayCall hplain).2 (huv.append hpaths)
  · rw [hasCircular_iff, hasMutual_dependencyGraph] at hcircular ⊢
    exact hcircular.append

/-- A file with one import, one function and the name that it calls. -/
def callingOutline (path module function called : String) : Outline :=
  ⟨path, [{ (default : FunctionEntry) with name := function, calls := [called] }], [],
    [.plain [module] [] 1], []⟩

/-- Two files that import each other, where one calls a function of the other. -/
def earlyOutlines : List Outline :=
  [callingOutline "a.py" "b" "f" "h", callingOutline "b.py" "a" "h" "k"]

/-- A file that could be meant by an import of the others, and that defines the called name too. -/
def lateOutlines : List Outline :=
  [callingOutline "b/b.py" "a" "h" "f"]

/-- The call means the functions of both files in the end. -/
theorem relations_stay_with_more_files_late :
    PlainNames (earlyOutlines ++ lateOutlines) ∧
    (earlyOutlines.map (·.path)).Disjoint (lateOutlines.map (·.path)) ∧
    ("a.py", "b.py") ∈ (dependencyGraph (earlyOutlines ++ lateOutlines)).keyEdges ∧
    (dependencyGraph (earlyOutlines ++ lateOutlines)).node? "b.py" = some 1 ∧
    ("a.py::f", "b.py::h") ∈
      (CallGraph.ofOutlines (earlyOutlines ++ lateOutlines)).graph.keyEdges ∧
    ("a.py::f", "b/b.py::h") ∈
      (CallGraph.ofOutlines (earlyOutlines ++ lateOutlines)).graph.keyEdges ∧
    (DependencyAnalysis.ofOutlines (earlyOutlines ++ lateOutlines)).hasCircular = true := by
  obtain ⟨hdependencies, hnumbers, hcalls, hcircular⟩ :=
    relations_stay_with_more_files earlyOutlines lateOutlines
  have hplain : PlainNames (earlyOutlines ++ lateOutlines) := by decide
  have hpaths : (earlyOutlines.map (·.path)).Disjoint (lateOutlines.map (·.path)) := by
    rw [List.disjoint_left]
    decide
  exact ⟨hplain, hpaths, hdependencies _ _ (by decide), hnumbers _ _ (by decide),
    hcalls hplain hpaths _ _ (by decide), by decide, hcircular (by decide)⟩

end CodeSurvey
