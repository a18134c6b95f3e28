/-
# The totals of a report agree

The same quantities are counted in several places: lines by the loader and by the classes of lines,
functions by the summary and by the metrics of files that could be read, smells by file, kind and
severity.  Each way of counting is brought to a sum over the files, where a file that could not be read
counts for nothing but its lines.  Looking for smells changes only the reports on the files
and the summary (`survey_eq_withSmells`), so the totals agree whatever smells are found.
-/
import CodeSurvey.Proofs.Graph.CallRelation
import CodeSurvey.Proofs.Metrics.LineClasses
import CodeSurvey.Proofs.Report.DeadCodeScope
import Mathlib.Algebra.Order.BigOperators.Group.List

namespace CodeSurvey

/-! ## Sums of counts -/

/-- Items that are missing count for nothing. -/
theorem sum_map_filterMap {α β : Type} (f : α → Option β) (g : β → Nat) (xs : List α) :
    ((xs.filterMap f).map g).sum = (xs.map fun x => ((f x).map g).getD 0).sum := by
  induction xs with
  | nil => rfl
  | cons x xs ih =>
    rw [List.filterMap_cons, List.map_cons, List.sum_cons]
    cases f x with
    | none => simp [ih]
    | some y => simp [ih]

/-! ## Files -/

section Measured

variable (limit : Nat) (f : SourceFile)

theorem lines_measureFile : (measureFile limit f).metrics.lines = .ofText f.content := by
  unfold measureFile
  simp only
  split <;> rfl

/-- The structure of a file is that of its outline, and a file without one has an empty outline. -/
theorem structure_measureFile {count : StructureMetrics → Nat} {size : Outline → Nat}
    (hcount : ∀ o, count (.ofOutline o) = size o) (hempty : ∀ path, size (.empty path) = 0) :
    ((measureFile limit f).metrics.code.map fun c => count c.structure').getD 0 =
      size (measureFile limit f).outline := by
  unfold measureFile
  simp only
  split
  · exact hcount _
  · exact (hempty f.path).symm

end Measured

/-- The metrics of files, with their paths. -/
def measuredFiles (limit : Nat) (files : List SourceFile) : List (String × FileMetrics) :=
  files.map fun f => (f.path, (measureFile limit f).metrics)

section Repository

variable (limit : Nat) (files : List SourceFile)

/-- The lines of a repository are those of its files. -/
theorem lines_measuredFiles :
    (RepositoryMetrics.ofFiles (measuredFiles limit files)).lines.total =
      (files.map (·.lineCount)).sum := by
  have hlines : (RepositoryMetrics.ofFiles (measuredFiles limit files)).lines.total =
      ((measuredFiles limit files).map fun m => m.2.lines.loc).foldl (· + ·) 0 := rfl
  rw [hlines, ← List.sum_eq_foldl, measuredFiles, List.map_map]
  congr 1
  apply List.map_congr_left
  intro f _
  rw [Function.comp_apply, lines_measureFile, loc_ofText, SourceFile.lineCount]

/-- The lines of a repository are source, comments and blank lines. -/
theorem lineClasses_measuredFiles :
    (RepositoryMetrics.ofFiles (measuredFiles limit files)).lines.total =
      (RepositoryMetrics.ofFiles (measuredFiles limit files)).lines.source +
        (RepositoryMetrics.ofFiles (measuredFiles limit files)).lines.comments +
        (RepositoryMetrics.ofFiles (measuredFiles limit files)).lines.blank := by
  have hsum (count : LineMetrics → Nat) :
      ((measuredFiles limit files).map fun m => count m.2.lines).foldl (· + ·) 0 =
        (files.map fun f => count (.ofText f.content)).sum := by
    simp only [measuredFiles, List.map_map, Function.comp_def, lines_measureFile,
      List.sum_eq_foldl]
  have hclasses : (files.map fun f => (LineMetrics.ofText f.content).loc).sum =
      (files.map fun f => (LineMetrics.ofText f.content).sloc).sum +
        (files.map fun f => (LineMetrics.ofText f.content).comments).sum +
        (files.map fun f => (LineMetrics.ofText f.content).blank).sum := by
    rw [← List.sum_map_add, ← List.sum_map_add]
    simp only [loc_eq_add]
  rw [← hsum, ← hsum, ← hsum, ← hsum] at hclasses
  exact hclasses

/-- The structure of a repository counts what the outlines of its files hold. -/
theorem sum_structure_measuredFiles (count : StructureMetrics → Nat) (size : Outline → Nat)
    (hcount : ∀ o, count (.ofOutline o) = size o) (hempty : ∀ path, size (.empty path) = 0) :
    (((measuredFiles limit files).filterMap fun m => m.2.code.map (m.1, ·)).map
        fun c => count c.2.structure').foldl (· + ·) 0 =
      (files.map fun f => size (measureFile limit f).outline).sum := by
  rw [← List.sum_eq_foldl, sum_map_filterMap, measuredFiles, List.map_map]
  congr 1
  apply List.map_congr_left
  intro f _
  rw [← structure_measureFile limit f hcount hempty, Function.comp_apply, Option.map_map]
  rfl

end Repository

/-! ## Smells -/

/-- Every smell has one of five severities. -/
theorem total_ofSmells (smells : List Smell) :
    (SmellSummary.ofSmells smells).critical + (SmellSummary.ofSmells smells).high +
      (SmellSummary.ofSmells smells).medium + (SmellSummary.ofSmells smells).low +
      (SmellSummary.ofSmells smells).info = (SmellSummary.ofSmells smells).total := by
  simp only [SmellSummary.ofSmells]
  induction smells with
  | nil => rfl
  | cons s smells ih =>
    simp only [List.countP_cons, List.length_cons]
    cases s.severity <;> simp <;> omega

/-- One more smell adds one to the count of its kind. -/
theorem sum_countLabel (label : String) (counts : List (String × Nat)) :
    ((countLabel label counts).map (·.2)).sum = (counts.map (·.2)).sum + 1 := by
  induction counts with
  | nil => rfl
  | cons count counts ih =>
    rw [countLabel]
    split
    · simp only [List.map_cons, List.sum_cons]
      omega
    · simp only [List.map_cons, List.sum_cons, ih]
      omega

/-- The smells of all kinds are all smells. -/
theorem sum_countKinds (smells : List Smell) :
    ((countKinds smells).map (·.2)).sum = smells.length := by
  suffices h : ∀ counts : List (String × Nat),
      ((smells.foldl (fun counts s => countLabel s.kind.label counts) counts).map (·.2)).sum =
        (counts.map (·.2)).sum + smells.length from
    (h []).trans (Nat.zero_add _)
  induction smells with
  | nil => exact fun _ => rfl
  | cons s smells ih =>
    intro counts
    rw [List.foldl_cons, ih, sum_countLabel, List.length_cons]
    omega

/-! ## Functions and calls -/

theorem length_firstBy_le {α β : Type} [DecidableEq β] (key : α → β) (as : List α) :
    (firstBy key as).length ≤ as.length := by
  induction as with
  | nil => exact Nat.le_refl _
  | cons a as ih =>
    rw [firstBy, List.length_cons, List.length_cons]
    exact Nat.succ_le_succ ((List.length_filter_le _ _).trans ih)

/-- The number of functions of some files. -/
def functionTotal (outlines : List Outline) : Nat :=
  (outlines.map (·.functions.length)).sum

/-- The number of calls that the functions of some files make. -/
def callTotal (outlines : List Outline) : Nat :=
  (outlines.map fun o => (o.functions.map (·.calls.length)).sum).sum

/-- The call graph has a node for each id, so at most one for each function. -/
theorem nodeCount_ofOutlines_le (outlines : List Outline) :
    (CallGraph.ofOutlines outlines).graph.nodeCount ≤ functionTotal outlines := by
  have hall : (allDefinitions outlines).length = functionTotal outlines := by
    rw [allDefinitions, List.length_flatMap]
    simp only [List.length_map]
    rfl
  obtain ⟨-, hkeys, -, -⟩ := CallGraph.graph_ofOutlines outlines
  rw [Digraph.nodeCount, hkeys, List.length_map, CallGraph.definitions_ofOutlines, ← hall]
  exact length_firstBy_le _ _

/-- A call is unresolved, or has one target, or several. -/
theorem resolutions_add_up (c : CallGraph) :
    c.analysis.uniqueCalls + c.analysis.ambiguousCalls + c.analysis.unresolvedCalls =
      c.callSites.length := by
  simp only [CallGraph.analysis]
  induction c.callSites with
  | nil => rfl
  | cons s sites ih =>
    simp only [List.countP_cons, List.length_cons]
    cases s.resolution <;> simp <;> omega

theorem length_callSites_ofOutlines (outlines : List Outline) :
    (CallGraph.ofOutlines outlines).callSites.length = callTotal outlines := by
  rw [CallGraph.callSites_ofOutlines, List.length_flatMap]
  simp only [callSitesOf, List.length_flatMap, List.length_map]
  rfl

/-- One more item makes one group longer. -/
theorem sum_length_add {κ α : Type} [DecidableEq κ] (k : κ) (a : α) (groups : Groups κ α) :
    ((groups.add k a).map (·.2.length)).sum = (groups.map (·.2.length)).sum + 1 := by
  induction groups with
  | nil => rfl
  | cons group groups ih =>
    rw [Groups.add]
    split
    · simp only [List.map_cons, List.sum_cons, List.length_append, List.length_singleton]
      omega
    · simp only [List.map_cons, List.sum_cons, ih]
      omega

/-- Every item is in one group. -/
theorem sum_length_addAll {κ α : Type} [DecidableEq κ] (items : List (κ × α))
    (groups : Groups κ α) :
    ((groups.addAll items).map (·.2.length)).sum =
      (groups.map (·.2.length)).sum + items.length := by
  induction items generalizing groups with
  | nil => rfl
  | cons x items ih =>
    rw [Groups.addAll, List.foldl_cons, ← Groups.addAll, ih, sum_length_add, List.length_cons]
    omega

/-- A function is in one cluster at most. -/
theorem sum_findDuplicates_le (outlines : List Outline) :
    ((findDuplicates outlines).map (·.count)).sum ≤ functionTotal outlines := by
  have hall : (signedOccurrences outlines).length = functionTotal outlines := by
    rw [signedOccurrences, List.length_flatMap]
    simp only [List.length_map]
    rfl
  rw [findDuplicates, List.map_map, ← hall, ← Nat.zero_add (signedOccurrences outlines).length]
  calc _
    _ ≤ ((Groups.addAll (signedOccurrences outlines) []).map (·.2.length)).sum :=
      (List.filter_sublist.map _).sum_le_sum fun _ _ => Nat.zero_le _
    _ = _ := sum_length_addAll _ []

/-! ## Smells found in any way -/

/-- A report with other smells for the files. -/
def Report.withSmells (r : Report) (found : Nat → List Smell) : Report :=
  let files := r.files.mapIdx fun i f => { f with smells := found i }
  { r with
    files := files
    summary := summarize files r.dependencies r.callAnalysis r.duplicates r.metrics }

/-- What does not depend on smells stays. -/
theorem map_files_withSmells {β : Type} {g : FileReport → β}
    (hg : ∀ (f : FileReport) (smells : List Smell), g { f with smells := smells } = g f)
    (r : Report) (found : Nat → List Smell) :
    (r.withSmells found).files.map g = r.files.map g := by
  apply List.ext_getElem?
  intro i
  simp only [Report.withSmells, List.getElem?_map, List.getElem?_mapIdx, Option.map_map]
  congr 1
  funext f
  exact hg f (found i)

/-- **Looking for smells changes the reports on the files and the summary only.** -/
theorem survey_eq_withSmells (settings : Settings) (detectors : List Detector)
    (files : List SourceFile) :
    ∃ found, survey settings detectors files = (survey settings [] files).withSmells found := by
  refine ⟨fun i => ((surveyFiles settings detectors files)[i]?.map (·.smells)).getD [], ?_⟩
  have houtlines : (surveyFiles settings detectors files).map (·.outline) =
      (surveyFiles settings [] files).map (·.outline) := by
    simp [surveyFiles_eq_map, Function.comp_def]
  have hmetrics : (surveyFiles settings detectors files).map (fun r => (r.file.path, r.metrics)) =
      (surveyFiles settings [] files).map fun r => (r.file.path, r.metrics) := by
    simp [surveyFiles_eq_map, Function.comp_def]
  -- the file at a place keeps its measures and takes the smells found there
  have hfiles : (surveyFiles settings [] files).mapIdx (fun i f =>
      { f with smells := ((surveyFiles settings detectors files)[i]?.map (·.smells)).getD [] }) =
      surveyFiles settings detectors files := by
    apply List.ext_getElem?
    intro i
    rw [List.getElem?_mapIdx]
    simp only [surveyFiles_eq_map, List.getElem?_map]
    cases files[i]? with
    | none => rfl
    | some f =>
      unfold FileReport.withSmells
      simp only [Option.map_some, Option.getD_some]
      split <;> rfl
  unfold survey Report.withSmells
  simp only
  rw [hfiles, houtlines, hmetrics]

/-! ## The whole report -/

/-- The totals of a report on some files agree across the ways in which they are computed. -/
structure Report.TotalsAgree (r : Report) (files : List SourceFile) : Prop where
  functions : r.summary.totalFunctions = r.metrics.structure'.functions
  classes : r.summary.totalClasses = r.metrics.structure'.classes
  lines : r.summary.totalLines = r.metrics.lines.total
  lineClasses : r.metrics.lines.total =
    r.metrics.lines.source + r.metrics.lines.comments + r.metrics.lines.blank
  readOrFailed : r.summary.analyzedFiles + r.summary.failedFiles = r.summary.totalFiles
  allFiles : r.summary.totalFiles = files.length
  measuredFiles : r.metrics.totalFiles = r.summary.totalFiles
  smells : r.summary.totalSmells = (r.files.map (·.smells.length)).sum
  smellKinds : (r.summary.smellsByKind.map (·.2)).sum = r.summary.totalSmells
  severities : r.summary.smellsBySeverity.critical + r.summary.smellsBySeverity.high +
    r.summary.smellsBySeverity.medium + r.summary.smellsBySeverity.low +
    r.summary.smellsBySeverity.info = r.summary.totalSmells
  severityTotal : r.summary.smellsBySeverity.total = r.summary.totalSmells
  /-- Functions with the same id are one function in the call graph. -/
  nodes : r.callAnalysis.totalFunctions ≤ r.summary.totalFunctions
  duplicates : (r.duplicates.map (·.count)).sum ≤ r.summary.totalFunctions
  calls : r.callAnalysis.uniqueCalls + r.callAnalysis.ambiguousCalls +
    r.callAnalysis.unresolvedCalls = callTotal (r.files.map (·.outline))

section Whole

variable (settings : Settings) (files : List SourceFile)

/-- Without detectors, files are only measured. -/
theorem files_survey_nil :
    (survey settings [] files).files =
      files.map (measureFile settings.thresholds.maxComplexity) := by
  rw [files_survey, surveyFiles_eq_map]
  apply List.map_congr_left
  intro f _
  unfold FileReport.withSmells
  split
  · rfl
  · rw [detectAll, List.flatMap_nil, ← smells_measureFile settings.thresholds.maxComplexity f]

theorem metrics_survey_nil :
    (survey settings [] files).metrics =
      .ofFiles (measuredFiles settings.thresholds.maxComplexity files) := by
  have hmetrics : (survey settings [] files).metrics =
      .ofFiles ((survey settings [] files).files.map fun r => (r.file.path, r.metrics)) := rfl
  rw [hmetrics, files_survey_nil, List.map_map, measuredFiles]
  simp only [Function.comp_def, file_measureFile]

/-- The totals agree whatever smells are found. -/
theorem totalsAgree_withSmells (found : Nat → List Smell) :
    ((survey settings [] files).withSmells found).TotalsAgree files := by
  have hmap {β : Type} {g : FileReport → β}
      (hg : ∀ (f : FileReport) (smells : List Smell), g { f with smells := smells } = g f) :
      ((survey settings [] files).withSmells found).files.map g =
        files.map fun f => g (measureFile settings.thresholds.maxComplexity f) := by
    rw [map_files_withSmells hg, files_survey_nil, List.map_map]
    rfl
  have hmetrics : ((survey settings [] files).withSmells found).metrics =
      .ofFiles (measuredFiles settings.thresholds.maxComplexity files) :=
    metrics_survey_nil settings files
  have houtlines : (survey settings [] files).files.map (·.outline) =
      ((survey settings [] files).withSmells found).files.map (·.outline) :=
    (map_files_withSmells (fun _ _ => rfl) _ _).symm
  -- a failed file has an empty outline, so it adds nothing to either side
  have hstructure (count : StructureMetrics → Nat) (size : Outline → Nat)
      (hcount : ∀ o, count (.ofOutline o) = size o) (hempty : ∀ path, size (.empty path) = 0) :
      (((survey settings [] files).withSmells found).files.map
          fun f => size f.outline).foldl (· + ·) 0 =
        (((measuredFiles settings.thresholds.maxComplexity files).filterMap
          fun m => m.2.code.map (m.1, ·)).map fun c => count c.2.structure').foldl (· + ·) 0 := by
    rw [sum_structure_measuredFiles _ files count size hcount hempty, hmap (fun _ _ => rfl),
      List.sum_eq_foldl]
  have hlength : ((survey settings [] files).withSmells found).files.length = files.length := by
    rw [← List.length_map (f := (·.file)), hmap (fun _ _ => rfl), List.length_map]
  have hfunctions : ((survey settings [] files).withSmells found).summary.totalFunctions =
      functionTotal ((survey settings [] files).files.map (·.outline)) := by
    rw [houtlines, functionTotal, List.map_map, List.sum_eq_foldl]
    rfl
  have hsmells : ((survey settings [] files).withSmells found).summary.totalSmells =
      (((survey settings [] files).withSmells found).files.map (·.smells.length)).sum :=
    List.length_flatMap
  constructor
  case functions =>
    rw [hmetrics]
    exact hstructure (·.functions) (·.functions.length) (fun _ => rfl) (fun _ => rfl)
  case classes =>
    rw [hmetrics]
    exact hstructure (·.classes) (·.classes.length) (fun _ => rfl) (fun _ => rfl)
  case lines =>
    rw [hmetrics, lines_measuredFiles, List.sum_eq_foldl]
    refine (congrArg (List.foldl (· + ·) 0) (hmap fun _ _ => rfl)).trans ?_
    simp only [file_measureFile]
  case lineClasses =>
    rw [hmetrics]
    exact lineClasses_measuredFiles _ files
  case readOrFailed => exact Nat.sub_add_cancel List.countP_le_length
  case allFiles => exact hlength
  case measuredFiles =>
    rw [hmetrics]
    exact (List.length_map _).trans hlength.symm
  case smells => exact hsmells
  case smellKinds => exact sum_countKinds _
  case severities => exact total_ofSmells _
  case severityTotal => rfl
  case nodes =>
    rw [hfunctions]
    exact nodeCount_ofOutlines_le _
  case duplicates =>
    rw [hfunctions]
    exact sum_findDuplicates_le _
  case calls =>
    rw [← houtlines, ← length_callSites_ofOutlines]
    exact resolutions_add_up _

end Whole

/-- **The totals of a report agree**, for every list of detectors and for every other way to find
smells. -/
theorem report_totals_agree (settings : Settings) (files : List SourceFile) :
    (∀ detectors, (survey settings detectors files).TotalsAgree files) ∧
    ∀ found, ((survey settings [] files).withSmells found).TotalsAgree files := by
  refine ⟨fun detectors => ?_, totalsAgree_withSmells settings files⟩
  obtain ⟨found, hfound⟩ := survey_eq_withSmells settings detectors files
  rw [hfound]
  exact totalsAgree_withSmells settings files found

end CodeSurvey
