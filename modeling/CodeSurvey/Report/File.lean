/-
# Reports on files

What is known of one file: its outline, its metrics and its smells, or why it could not be read.
-/
import CodeSurvey.Files.Basic
import CodeSurvey.Metrics.File
import CodeSurvey.Outline.Reading
import CodeSurvey.Smell.Detector

namespace CodeSurvey

/-- What is known of one file. -/
structure FileReport where
  file : SourceFile
  /-- Why the file could not be read, if it could not. -/
  fault : Option Fault
  outline : Outline
  metrics : FileMetrics
  smells : List Smell

/-- Whether a file could not be read. -/
def FileReport.isFailed (r : FileReport) : Bool :=
  r.fault.isSome

/-- Reads and measures a file, with no look at smells.  A file that cannot be read has an empty
outline. -/
def measureFile (maxComplexity : Nat) (f : SourceFile) : FileReport :=
  let source := f.content.toList
  match readTree source with
  | .ok tree =>
    let outline := Outline.ofTree f.path source tree
    ⟨f, none, outline, .ofTree maxComplexity f.content tree outline, []⟩
  | .error fault => ⟨f, some fault, .empty f.path, .ofText f.content, []⟩

/-! ## Smells -/

/-- The positions of the files that could be read. -/
def readPositions (reports : List FileReport) : List Nat :=
  (List.range reports.length).filter fun i => reports[i]?.any (!·.isFailed)

/-- Enters smells into the report at a position. -/
def enterSmells (reports : List FileReport) (entry : Nat × List Smell) : List FileReport :=
  reports.modify entry.1 fun r => { r with smells := entry.2 }

/-- Looks for smells in the files that could be read, whose outlines are given apart, and enters them
into the reports. -/
def detectSmells (detectors : List Detector) (thresholds : Thresholds) (liveness : Liveness)
    (files : List SourceFile) (outlines : List Outline) (reports : List FileReport) :
    List FileReport :=
  let positions := readPositions reports
  let contexts : List FileContext := positions.map fun i =>
    ⟨outlines.getD i default, (files.getD i default).content, thresholds, liveness⟩
  (positions.zip (contexts.map (detectAll detectors))).foldl enterSmells reports

end CodeSurvey
