/-
# Files are surveyed one by one

Smells are looked for only in the files that could be read, and entered afterwards at the positions
of these files.  What one entry changes (`getElem?_enterSmells`) gives what all of them change
(`getElem?_foldl_enterSmells`), since every position is entered at most once.  So each file has the
report that it would have alone (`surveyFiles_eq_map`), except that the other files may keep its
functions alive.
-/
import CodeSurvey.Report.Basic
import Mathlib.Data.List.Nodup

namespace CodeSurvey

/-! ## The report of one file -/

/-- The report with the smells that detectors find in the file; a file that could not be read has
none. -/
def FileReport.withSmells (r : FileReport) (detectors : List Detector) (thresholds : Thresholds)
    (liveness : Liveness) : FileReport :=
  if r.isFailed then r
  else
    { r with smells := detectAll detectors ⟨r.outline, r.file.content, thresholds, liveness⟩ }

section WithSmells

variable (r : FileReport) (detectors : List Detector) (thresholds : Thresholds)
  (liveness : Liveness)

@[simp] theorem file_withSmells : (r.withSmells detectors thresholds liveness).file = r.file := by
  unfold FileReport.withSmells
  split <;> rfl

@[simp] theorem fault_withSmells :
    (r.withSmells detectors thresholds liveness).fault = r.fault := by
  unfold FileReport.withSmells
  split <;> rfl

@[simp] theorem outline_withSmells :
    (r.withSmells detectors thresholds liveness).outline = r.outline := by
  unfold FileReport.withSmells
  split <;> rfl

@[simp] theorem metrics_withSmells :
    (r.withSmells detectors thresholds liveness).metrics = r.metrics := by
  unfold FileReport.withSmells
  split <;> rfl

@[simp] theorem isFailed_withSmells :
    (r.withSmells detectors thresholds liveness).isFailed = r.isFailed := by
  rw [FileReport.isFailed, fault_withSmells, FileReport.isFailed]

end WithSmells

@[simp] theorem file_measureFile (limit : Nat) (f : SourceFile) :
    (measureFile limit f).file = f := by
  unfold measureFile
  simp only
  split <;> rfl

/-- The report of a file that cannot be read. -/
theorem measureFile_of_error {f : SourceFile} {fault : Fault}
    (h : readTree f.content.toList = .error fault) (limit : Nat) :
    measureFile limit f = ⟨f, some fault, .empty f.path, .ofText f.content, []⟩ := by
  unfold measureFile
  simp only [h]

/-! ## Entering smells -/

/-- An entry changes the report at its position and no other. -/
theorem getElem?_enterSmells (reports : List FileReport) (i j : Nat) (smells : List Smell) :
    (enterSmells reports (i, smells))[j]? =
      if i = j then reports[j]?.map ({ · with smells := smells }) else reports[j]? := by
  unfold enterSmells
  rw [List.getElem?_modify]
  split
  · rfl
  · simp

/-- Entries at distinct positions change the reports at these positions. -/
theorem getElem?_foldl_enterSmells (smells : Nat → List Smell) {positions : List Nat}
    (hpositions : positions.Nodup) (reports : List FileReport) (j : Nat) :
    ((positions.map fun i => (i, smells i)).foldl enterSmells reports)[j]? =
      if j ∈ positions then reports[j]?.map ({ · with smells := smells j })
      else reports[j]? := by
  induction positions generalizing reports with
  | nil => simp
  | cons i positions ih =>
    obtain ⟨hi, hrest⟩ := List.nodup_cons.1 hpositions
    rw [List.map_cons, List.foldl_cons, ih hrest, getElem?_enterSmells]
    by_cases hij : i = j
    · subst hij
      rw [if_neg hi, if_pos rfl, if_pos List.mem_cons_self]
    · have hmem : j ∈ i :: positions ↔ j ∈ positions := by
        rw [List.mem_cons, or_iff_right (Ne.symm hij)]
      simp only [if_neg hij, hmem]

/-! ## Looking for smells -/

theorem readPositions_nodup (reports : List FileReport) : (readPositions reports).Nodup :=
  List.nodup_range.filter _

/-- The positions that are looked at are those of the reports without a fault. -/
theorem mem_readPositions {reports : List FileReport} {j : Nat} {r : FileReport}
    (hr : reports[j]? = some r) : j ∈ readPositions reports ↔ r.isFailed = false := by
  have hj : j < reports.length := (List.getElem?_eq_some_iff.1 hr).1
  rw [readPositions, List.mem_filter, List.mem_range, hr, Option.any_some, Bool.not_eq_true',
    and_iff_right hj]

/-- Smells are looked for in every file that could be read, and end up in its own report. -/
theorem detectSmells_eq_map (detectors : List Detector) (thresholds : Thresholds)
    (liveness : Liveness) {files : List SourceFile} {reports : List FileReport}
    (hfiles : reports.map (·.file) = files) :
    detectSmells detectors thresholds liveness files (reports.map (·.outline)) reports =
      reports.map (·.withSmells detectors thresholds liveness) := by
  subst hfiles
  apply List.ext_getElem?
  intro j
  unfold detectSmells
  simp only
  -- the smells are zipped with the positions that their contexts come from
  rw [List.map_map, ← List.map_prod_left_eq_zip,
    getElem?_foldl_enterSmells _ (readPositions_nodup reports), List.getElem?_map]
  cases hr : reports[j]? with
  | none => simp
  | some r =>
    unfold FileReport.withSmells
    by_cases hfailed : r.isFailed = true
    · rw [if_neg (by rw [mem_readPositions hr, hfailed]; decide)]
      simp [hfailed]
    · rw [if_pos ((mem_readPositions hr).2 (by simpa using hfailed))]
      -- outline and content are taken from the same position
      simp [hfailed, hr]

/-- **Each file is reported on by itself**, but for the calls that keep functions alive. -/
theorem surveyFiles_eq_map (settings : Settings) (detectors : List Detector)
    (files : List SourceFile) :
    surveyFiles settings detectors files =
      files.map fun f =>
        (measureFile settings.thresholds.maxComplexity f).withSmells detectors settings.thresholds
          (settings.deadCodeScope.liveness
            (files.map fun f => (measureFile settings.thresholds.maxComplexity f).outline)) := by
  unfold surveyFiles
  simp only
  rw [detectSmells_eq_map]
  · simp only [List.map_map]
    rfl
  · simp [List.map_map, Function.comp_def]

/-! ## Files on their own -/

theorem files_survey (settings : Settings) (detectors : List Detector) (files : List SourceFile) :
    (survey settings detectors files).files = surveyFiles settings detectors files := rfl

/-- The report of a file where only its own calls keep functions alive. -/
theorem files_survey_of_file_scope {settings : Settings} (h : settings.deadCodeScope = .file)
    (detectors : List Detector) (files : List SourceFile) :
    (survey settings detectors files).files =
      files.map fun f =>
        (measureFile settings.thresholds.maxComplexity f).withSmells detectors settings.thresholds
          .file := by
  rw [files_survey, surveyFiles_eq_map, h]
  rfl

/-- **Files are surveyed independently** where dead code looks for callers in the same file only.
Every file has one report, at its position, and it is that of a survey of this file alone; so the
report does not depend on what other files there are or whether they can be read.  A file that cannot
be read has an empty outline, no metrics of its code and no smells. -/
theorem survey_files_independent (settings : Settings) (h : settings.deadCodeScope = .file)
    (detectors : List Detector) (files : List SourceFile) :
    (survey settings detectors files).files.length = files.length ∧
    (∀ (i : Nat) (f : SourceFile), files[i]? = some f →
      ∃ r, (survey settings detectors files).files[i]? = some r ∧
        (survey settings detectors [f]).files = [r] ∧ r.file = f) ∧
    (∀ (others : List SourceFile) (i : Nat), others[i]? = files[i]? →
      (survey settings detectors others).files[i]? =
        (survey settings detectors files).files[i]?) ∧
    ∀ (i : Nat) (f : SourceFile) (fault : Fault), files[i]? = some f →
      readTree f.content.toList = .error fault →
      ∃ r, (survey settings detectors files).files[i]? = some r ∧ r.fault = some fault ∧
        r.outline = .empty f.path ∧ r.metrics.code = none ∧ r.smells = [] := by
  simp only [files_survey_of_file_scope h, List.length_map, List.getElem?_map]
  refine ⟨trivial, ?_, ?_, ?_⟩
  · intro i f hf
    rw [hf]
    exact ⟨_, rfl, rfl, by simp⟩
  · intro others i hi
    rw [hi]
  · intro i f fault hf hfault
    rw [hf, Option.map_some, measureFile_of_error hfault]
    exact ⟨_, rfl, rfl, rfl, rfl, rfl⟩

/-- A file that is read, and one with a statement of the language's second version. -/
def mixedFiles : List SourceFile :=
  [⟨"a.py", "def f(): g()"⟩, ⟨"b.py", "print 1"⟩]

/-- The broken file is reported as such beside the other one. -/
theorem survey_files_independent_mixed :
    ({} : Settings).deadCodeScope = .file ∧
    (survey {} Detector.builtIn mixedFiles).files.length = 2 ∧
    ∃ r, (survey {} Detector.builtIn mixedFiles).files[1]? = some r ∧
      r.fault = some (.legacy .print .origin) ∧ r.outline = .empty "b.py" ∧
      r.metrics.code = none ∧ r.smells = [] := by
  obtain ⟨hlength, -, -, hfailed⟩ :=
    survey_files_independent {} rfl Detector.builtIn mixedFiles
  exact ⟨rfl, hlength, hfailed 1 ⟨"b.py", "print 1"⟩ _ rfl (by rfl)⟩

end CodeSurvey
