/-
# Dead code and calls from other files

Dead code looks for callers in the same file or in all files.  A function is dead if its name is not
called, and more calls leave fewer dead functions: those whose name is called now are gone and the
others stay, in their order (`deadFunctions_of_subset`).  No other detector looks at calls, so this is
all that the wider scope changes in a survey (`survey_in_wider_scope`).
-/
import CodeSurvey.Proofs.Report.Independence

namespace CodeSurvey

/-! ## Called names -/

/-- Some function of a file calls a name. -/
def Outline.CallsName (o : Outline) (name : String) : Prop :=
  ∃ f ∈ o.functions, name ∈ f.calls

instance (o : Outline) (name : String) : Decidable (o.CallsName name) :=
  inferInstanceAs (Decidable (∃ _ ∈ _, _))

theorem mem_calledNames {outlines : List Outline} {name : String} :
    name ∈ calledNames outlines ↔ ∃ o ∈ outlines, o.CallsName name := by
  simp only [calledNames, List.mem_flatMap, Outline.CallsName]

/-- Some other file calls a name, and the file at a position does not. -/
def CalledOnlyElsewhere (outlines : List Outline) (i : Nat) (name : String) : Prop :=
  (∃ o ∈ outlines.eraseIdx i, o.CallsName name) ∧ ∀ o ∈ outlines[i]?, ¬ o.CallsName name

instance (outlines : List Outline) (i : Nat) (name : String) :
    Decidable (CalledOnlyElsewhere outlines i name) :=
  inferInstanceAs (Decidable (_ ∧ _))

/-- A name that a file does not call is called by some file only if another one calls it. -/
theorem mem_calledNames_iff_elsewhere {outlines : List Outline} {i : Nat} {o : Outline}
    (ho : outlines[i]? = some o) {name : String} (hname : ¬ o.CallsName name) :
    name ∈ calledNames outlines ↔ CalledOnlyElsewhere outlines i name := by
  rw [mem_calledNames, CalledOnlyElsewhere, ho]
  constructor
  · rintro ⟨o', ho', hcalls⟩
    obtain ⟨j, hj⟩ := List.mem_iff_getElem?.1 ho'
    have hji : j ≠ i := by
      rintro rfl
      rw [ho] at hj
      exact hname (Option.some.inj hj ▸ hcalls)
    refine ⟨⟨o', List.mem_eraseIdx_iff_getElem?.2 ⟨j, hji, hj⟩, hcalls⟩, ?_⟩
    intro own hown
    rw [← Option.some.inj hown]
    exact hname
  · rintro ⟨⟨o', ho', hcalls⟩, -⟩
    exact ⟨o', List.mem_of_mem_eraseIdx ho', hcalls⟩

/-! ## Dead functions -/

/-- The function that a smell reports as dead code, if it does. -/
def Smell.deadName? (s : Smell) : Option String :=
  match s.kind with
  | .deadCode name => some name
  | _ => none

/-- A function that is reported as dead has a name that is not called. -/
theorem deadName?_of_mem_deadFunctions {called : List String} {functions : List FunctionEntry}
    {s : Smell} (hs : s ∈ deadFunctions called functions) :
    ∃ name, s.deadName? = some name ∧ name ∉ called := by
  obtain ⟨f, hf, rfl⟩ := List.mem_map.1 hs
  have hf' := (List.mem_filter.1 (mem_of_mem_firstBy hf)).2
  refine ⟨f.name, rfl, ?_⟩
  simp only [Bool.and_eq_true, Bool.not_eq_true', List.contains_eq_mem, decide_eq_false_iff_not]
    at hf'
  exact hf'.2

/-- More calls take away the dead functions that they call. -/
theorem deadFunctions_of_subset {called called' : List String}
    (h : ∀ name ∈ called, name ∈ called') (functions : List FunctionEntry) :
    deadFunctions called' functions =
      (deadFunctions called functions).filter fun s => !s.deadName?.any called'.contains := by
  unfold deadFunctions
  rw [List.filter_map]
  have hfilter : (functions.filter fun f => !isExempt f.name && !called'.contains f.name) =
      (functions.filter fun f => !isExempt f.name && !called.contains f.name).filter
        fun f => !called'.contains f.name := by
    rw [List.filter_filter]
    apply List.filter_congr
    intro f _
    by_cases hf : f.name ∈ called'
    · simp [hf]
    · have hf' : f.name ∉ called := fun hmem => hf (h _ hmem)
      simp [hf, hf']
  -- repeated names are left out after the test for calls, which is a test of the name
  rw [hfilter, firstBy_filter FunctionEntry.name (fun name => !called'.contains name)]
  rfl

/-! ## Detectors -/

/-- A detector does not look at calls, and reports no dead code. -/
structure Detector.IgnoresCalls (d : Detector) : Prop where
  detect_eq : ∀ (c : FileContext) (liveness : Liveness),
    d.detect { c with liveness := liveness } = d.detect c
  deadName?_eq_none : ∀ (c : FileContext), ∀ s ∈ d.detect c, s.deadName? = none

/-- A number without a name is no dead code. -/
theorem deadName?_of_mem_magicSmells {content : String} {s : Smell} (hs : s ∈ magicSmells content) :
    s.deadName? = none := by
  rw [magicSmells, magicSmellsAmong_eq_take] at hs
  obtain ⟨⟨line, number⟩, -, hline⟩ := List.mem_flatMap.1 (List.mem_of_mem_take hs)
  simp only [magicSmellsOf] at hline
  split at hline
  · obtain ⟨digits, -, rfl⟩ := List.mem_map.1 hline
    rfl
  · cases hline

/-- Of the built-in detectors only the one for dead code looks at calls. -/
theorem Detector.ignoresCalls_of_mem_builtIn {d : Detector} (hd : d ∈ builtIn)
    (hne : d ≠ deadCode) : d.IgnoresCalls := by
  simp only [builtIn, List.mem_cons, List.not_mem_nil, or_false] at hd
  rcases hd with rfl | rfl | rfl | rfl | rfl | rfl | rfl
  · refine ⟨fun _ _ => rfl, fun c s hs => ?_⟩
    obtain ⟨f, -, rfl⟩ := List.mem_map.1 hs
    rfl
  · refine ⟨fun _ _ => rfl, fun c s hs => ?_⟩
    obtain ⟨f, -, rfl⟩ := List.mem_map.1 hs
    rfl
  · refine ⟨fun _ _ => rfl, fun c s hs => ?_⟩
    rcases List.mem_append.1 hs with hs | hs
    · obtain ⟨f, -, rfl⟩ := List.mem_map.1 hs
      rfl
    · obtain ⟨c, -, rfl⟩ := List.mem_map.1 hs
      rfl
  · refine ⟨fun _ _ => rfl, fun c s hs => ?_⟩
    obtain ⟨f, -, hf⟩ := List.mem_filterMap.1 hs
    simp only at hf
    split at hf
    · rw [← Option.some.inj hf]
      rfl
    · cases hf
  · exact absurd rfl hne
  · exact ⟨fun _ _ => rfl, fun c s hs => deadName?_of_mem_magicSmells hs⟩
  · refine ⟨fun _ _ => rfl, fun c s hs => ?_⟩
    obtain ⟨g, -, rfl⟩ := List.mem_map.1 hs
    rfl

/-- A smell reports as dead a function that only other files call. -/
def Smell.IsRevived (s : Smell) (outlines : List Outline) (i : Nat) : Prop :=
  ∃ name ∈ s.deadName?, CalledOnlyElsewhere outlines i name

instance (s : Smell) (outlines : List Outline) (i : Nat) : Decidable (s.IsRevived outlines i) :=
  inferInstanceAs (Decidable (∃ _ ∈ _, _))

/-- With the calls of all files, a detector finds in a file what it finds with the calls of the file
alone, less the functions that only other files call. -/
theorem detect_repository {outlines : List Outline} {i : Nat} {o : Outline}
    (ho : outlines[i]? = some o) {d : Detector} (hd : d ∈ Detector.builtIn) (content : String)
    (thresholds : Thresholds) :
    d.detect ⟨o, content, thresholds, .repository (calledNames outlines)⟩ =
      (d.detect ⟨o, content, thresholds, .file⟩).filter fun s => ¬ s.IsRevived outlines i := by
  by_cases hne : d = .deadCode
  · subst hne
    have hsubset : ∀ name ∈ calledNames [o], name ∈ calledNames outlines := by
      intro name hname
      obtain ⟨_, ho', hcalls⟩ := mem_calledNames.1 hname
      rw [List.mem_singleton.1 ho'] at hcalls
      exact mem_calledNames.2 ⟨o, List.mem_of_getElem? ho, hcalls⟩
    -- the file does not call the function itself, so a caller is in another file
    have hdead : ∀ s ∈ deadFunctions (calledNames [o]) o.functions,
        (!s.deadName?.any (calledNames outlines).contains) =
          decide (¬ s.IsRevived outlines i) := by
      intro s hs
      obtain ⟨name, hsname, hname⟩ := deadName?_of_mem_deadFunctions hs
      have hown : ¬ o.CallsName name := fun hcalls =>
        hname (mem_calledNames.2 ⟨o, List.mem_singleton_self o, hcalls⟩)
      simp [Smell.IsRevived, hsname, mem_calledNames_iff_elsewhere ho hown]
    exact (deadFunctions_of_subset hsubset o.functions).trans (List.filter_congr hdead)
  · have hignores := Detector.ignoresCalls_of_mem_builtIn hd hne
    have hnone : ∀ s ∈ d.detect ⟨o, content, thresholds, .file⟩,
        decide (¬ s.IsRevived outlines i) = true := by
      intro s hs
      simp [Smell.IsRevived, hignores.deadName?_eq_none _ s hs]
    rw [List.filter_eq_self.2 hnone]
    exact hignores.detect_eq ⟨o, content, thresholds, .file⟩ _

/-! ## Surveys -/

/-- A survey in which dead code looks for callers in a given scope. -/
def surveyIn (scope : DeadCodeScope) (settings : Settings) (detectors : List Detector)
    (files : List SourceFile) : Report :=
  survey { settings with deadCodeScope := scope } detectors files

/-- With the calls of all files, the report of a file loses the functions that only other files
call. -/
theorem withSmells_repository {outlines : List Outline} {i : Nat} {r : FileReport}
    (hr : outlines[i]? = some r.outline) (hsmells : r.smells = []) {detectors : List Detector}
    (hd : ∀ d ∈ detectors, d ∈ Detector.builtIn) (thresholds : Thresholds) :
    r.withSmells detectors thresholds (.repository (calledNames outlines)) =
      { r.withSmells detectors thresholds .file with
        smells := (r.withSmells detectors thresholds .file).smells.filter
          fun s => ¬ s.IsRevived outlines i } := by
  unfold FileReport.withSmells
  split
  · rw [hsmells, List.filter_nil, ← hsmells]
  · simp only [detectAll, List.filter_flatMap]
    congr 1
    apply List.flatMap_congr
    intro d hmem
    exact detect_repository hr (hd d hmem) _ _

theorem smells_measureFile (limit : Nat) (f : SourceFile) : (measureFile limit f).smells = [] := by
  unfold measureFile
  simp only
  split <;> rfl

section Scopes

variable (settings : Settings) {detectors : List Detector}
  (hd : ∀ d ∈ detectors, d ∈ Detector.builtIn) (files : List SourceFile)

theorem outlines_surveyIn (scope : DeadCodeScope) :
    (surveyIn scope settings detectors files).files.map (·.outline) =
      files.map fun f => (measureFile settings.thresholds.maxComplexity f).outline := by
  rw [surveyIn, files_survey, surveyFiles_eq_map, List.map_map]
  simp [Function.comp_def]

include hd

/-- The reports on the files in the wider scope. -/
theorem files_surveyIn_repository :
    (surveyIn .repository settings detectors files).files =
      (surveyIn .file settings detectors files).files.mapIdx fun i r =>
        { r with
          smells := r.smells.filter fun s => ¬ s.IsRevived
            ((surveyIn .file settings detectors files).files.map (·.outline)) i } := by
  rw [outlines_surveyIn, surveyIn, surveyIn, files_survey, files_survey, surveyFiles_eq_map,
    surveyFiles_eq_map]
  apply List.ext_getElem?
  intro i
  rw [List.getElem?_map, List.getElem?_mapIdx, List.getElem?_map]
  cases hf : files[i]? with
  | none => rfl
  | some f =>
    simp only [Option.map_some, DeadCodeScope.liveness]
    rw [withSmells_repository _ (smells_measureFile _ f) hd]
    rw [List.getElem?_map, hf]
    rfl

end Scopes

/-- **The wider scope only takes away dead code.**  In every file it keeps the smells in their order,
less the functions reported as dead that some other file calls and the file itself does not; and it
changes nothing else in the survey but the numbers of smells in the summary. -/
theorem survey_in_wider_scope (settings : Settings) (detectors : List Detector)
    (hd : ∀ d ∈ detectors, d ∈ Detector.builtIn) (files : List SourceFile) :
    (surveyIn .repository settings detectors files).files =
      (surveyIn .file settings detectors files).files.mapIdx (fun i r =>
        { r with
          smells := r.smells.filter fun s => ¬ s.IsRevived
            ((surveyIn .file settings detectors files).files.map (·.outline)) i }) ∧
    (∀ (i : Nat) (r r' : FileReport),
      (surveyIn .file settings detectors files).files[i]? = some r →
      (surveyIn .repository settings detectors files).files[i]? = some r' →
      r'.smells.Sublist r.smells) ∧
    surveyIn .repository settings detectors files =
      { surveyIn .file settings detectors files with
        files := (surveyIn .repository settings detectors files).files
        summary :=
          { (surveyIn .file settings detectors files).summary with
            totalSmells :=
              (surveyIn .repository settings detectors files).summary.smellsBySeverity.total
            smellsBySeverity :=
              (surveyIn .repository settings detectors files).summary.smellsBySeverity
            smellsByKind := (surveyIn .repository settings detectors files).summary.smellsByKind } } := by
  have hfiles := files_surveyIn_repository settings hd files
  refine ⟨hfiles, ?_, ?_⟩
  · intro i r r' hr hr'
    rw [hfiles, List.getElem?_mapIdx, hr] at hr'
    rw [← Option.some.inj hr']
    exact List.filter_sublist
  · unfold surveyIn survey summarize
    simp only [surveyFiles_eq_map, List.map_map, List.length_map, List.countP_map, Function.comp_def,
      outline_withSmells, file_withSmells, metrics_withSmells, isFailed_withSmells]

/-- A function that only another file calls. -/
def helperFiles : List SourceFile :=
  [⟨"lib.py", "def helper(): 1"⟩, ⟨"app.py", "def main(): helper()"⟩]

/-- The function is dead in its file and alive among all files. -/
theorem survey_in_wider_scope_helper :
    (∀ d ∈ Detector.builtIn, d ∈ Detector.builtIn) ∧
    (surveyIn .file {} Detector.builtIn helperFiles).files.map (·.smells) =
      [[⟨1, .low, .missingDocstring "helper" .function⟩, ⟨1, .low, .deadCode "helper"⟩],
        [⟨1, .low, .missingDocstring "main" .function⟩]] ∧
    (surveyIn .repository {} Detector.builtIn helperFiles).files.map (·.smells) =
      [[⟨1, .low, .missingDocstring "helper" .function⟩],
        [⟨1, .low, .missingDocstring "main" .function⟩]] := by
  obtain ⟨hfiles, -, -⟩ :=
    survey_in_wider_scope {} Detector.builtIn (fun _ hd => hd) helperFiles
  refine ⟨fun _ hd => hd, by decide +kernel, ?_⟩
  rw [hfiles]
  decide +kernel

end CodeSurvey
