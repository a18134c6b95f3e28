/-
# Reports as text and in a format

The short text form of a report, with or without colours for a terminal, and the formats in which a
report can be written.
-/
import CodeSurvey.Decimal.Notation
import CodeSurvey.Json.Printer
import CodeSurvey.Report.Json

namespace CodeSurvey

/-! ## Styles -/

/-- How a text looks on a terminal. -/
inductive Style where
  | bold
  | dim
  | red
  | green
  | yellow
  | blue
  deriving Repr, DecidableEq

/-- The number of a style in terminal codes. -/
def Style.code : Style → Nat
  | bold => 1
  | dim => 2
  | red => 31
  | green => 32
  | yellow => 33
  | blue => 34

/-- The terminal code with a number. -/
def terminalCode (n : Nat) : String :=
  "\x1b[" ++ toString n ++ "m"

/-- A text with styles, if colours are wanted. -/
def paint (color : Bool) (styles : List Style) (s : String) : String :=
  if color then String.join (styles.map fun t => terminalCode t.code) ++ s ++ terminalCode 0
  else s

/-! ## Columns -/

/-- Blanks that fill a text up to a width. -/
def filling (width : Nat) (s : String) : String :=
  String.ofList (List.replicate (width - s.length) ' ')

/-- A text at the left of a column. -/
def padRight (width : Nat) (s : String) : String := s ++ filling width s

/-- A text at the right of a column. -/
def padLeft (width : Nat) (s : String) : String := filling width s ++ s

/-! ## Parts of the report -/

/-- The line under the title. -/
def titleRule : String :=
  String.ofList (List.replicate 38 '─')

/-- The word for an average complexity. -/
def complexityWord (color : Bool) (x : Float) : String :=
  if x ≤ 5 then paint color [.green] "good"
  else if x ≤ 10 then paint color [.yellow] "moderate"
  else paint color [.red] "high"

/-- The colour of a rank. -/
def Rank.style : Rank → Style
  | a => .green
  | b => .yellow
  | c => .red

/-- The rank of a maintainability score in words. -/
def maintainabilityWord (color : Bool) (score : Float) : String :=
  let rank := Rank.ofScore score
  paint color [rank.style] ("(" ++ rank.letter ++ ") " ++ rank.description)

/-- The numbers of smells of each severity that occurs; those of the lowest are left out. -/
def severityBreakdown (color : Bool) (s : SmellSummary) : String :=
  let part (styles : List Style) (n : Nat) (word : String) : Option String :=
    if n = 0 then none else some (paint color styles (toString n ++ " " ++ word))
  " | ".intercalate <| [
    part [.red, .bold] s.critical "critical",
    part [.red] s.high "high",
    part [.yellow] s.medium "medium",
    part [.blue] s.low "low"].filterMap id

/-- The lines on the size of the repository. -/
def sizeLines (color : Bool) (s : Summary) : List String :=
  let failed :=
    if s.failedFiles = 0 then ""
    else "  " ++ paint color [.red] ("(" ++ toString s.failedFiles ++ " failed to parse)")
  ["Files: " ++ toString s.totalFiles ++ "  Functions: " ++ toString s.totalFunctions ++
    "  Classes: " ++ toString s.totalClasses ++ "  LOC: " ++ toString s.totalLines ++ failed, ""]

/-- The lines on complexity, maintainability and smells. -/
def qualityLines (color : Bool) (s : Summary) : List String :=
  [paint color [.bold] "QUALITY",
    "  Avg complexity:   " ++ padLeft 8 (floatFixedText 2 s.averageComplexity) ++ "  " ++
      complexityWord color s.averageComplexity,
    "  Maintainability:  " ++ padLeft 8 (floatFixedText 2 s.averageMaintainability) ++ "  " ++
      maintainabilityWord color s.averageMaintainability,
    "  Code smells:      " ++ padLeft 8 (toString s.totalSmells) ++ "  " ++
      severityBreakdown color s.smellsBySeverity] ++
  (s.smellsByKind.map fun (label, n) =>
    "    " ++ paint color [.dim] (padRight 22 label) ++ padLeft 6 (toString n)) ++
  [""]

/-- The lines on the most complex files, if there are any. -/
def complexFileLines (color : Bool) (files : List ComplexFile) : List String :=
  if files.isEmpty then []
  else
    [paint color [.bold] "MOST COMPLEX FILES"] ++
    (files.zipIdx.map fun (f, i) =>
      "  " ++ padLeft 2 (toString (i + 1)) ++ ". " ++ padRight 40 (pathLabel f.file) ++
        " avg=" ++ floatFixedText 1 f.average ++ " max=" ++ toString f.max) ++
    [""]

/-- The lines on dependencies, calls and duplicates. -/
def structureLines (color : Bool) (r : Report) : List String :=
  let s := r.summary
  let cycles :=
    if s.hasCircularDependencies then
      paint color [.red] (toString s.circularDependencies ++ " circular")
    else paint color [.green] "no cycles"
  [paint color [.bold] "STRUCTURE",
    "  Dependencies:  " ++ toString r.dependencies.graph.edgeCount ++ " edges, " ++ cycles ++
      ", " ++ toString s.isolatedFiles ++ " isolated files",
    "  Call graph:    " ++ toString r.callAnalysis.totalFunctions ++ " functions, " ++
      toString r.callAnalysis.totalCalls ++ " calls, " ++ toString s.recursiveFunctions ++
      " recursive",
    "  Duplicates:    " ++ toString s.duplicateClusters ++ " signature clusters"]

/-- The text form of a report. -/
def Report.toText (r : Report) (color : Bool) : String :=
  let lines :=
    ["", paint color [.bold] "Archaeologist Analysis", paint color [.dim] titleRule] ++
    sizeLines color r.summary ++
    qualityLines color r.summary ++
    complexFileLines color r.summary.mostComplexFiles ++
    structureLines color r
  String.join (lines.map (· ++ "\n"))

/-! ## Formats -/

/-- A format in which a report can be written. -/
inductive OutputFormat where
  | text
  | json
  deriving Repr, DecidableEq

/-- The word for a format. -/
def OutputFormat.word : OutputFormat → String
  | text => "text"
  | json => "json"

/-- The format that a word stands for, in small or capital letters.  No letter outside ASCII has a
small form that occurs in one of the words. -/
def OutputFormat.ofWord? (word : String) : Option OutputFormat :=
  match word.toLower with
  | "text" | "txt" | "terminal" => some .text
  | "json" => some .json
  | _ => none

/-- The message for a word that stands for no format. -/
def unknownFormatMessage (word : String) : String :=
  "Unknown format '" ++ word ++ "'. Valid formats: text, json"

/-- A report in a format. -/
def Report.render (r : Report) (format : OutputFormat) (color : Bool) : String :=
  match format with
  | .text => r.toText color
  | .json => r.toJson.pretty

end CodeSurvey
