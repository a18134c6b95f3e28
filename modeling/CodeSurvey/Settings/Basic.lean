/-
# Settings

The limits that the rules compare with, where dead code looks for callers, and which files are
loaded.
-/
import CodeSurvey.Decimal.Notation

namespace CodeSurvey

/-- The limits of the metrics and smell rules. -/
structure Thresholds where
  maxComplexity : Nat := 10
  maxFunctionLength : Nat := 50
  maxClassLength : Nat := 300
  /-- Checked, and read by no rule. -/
  duplicateThreshold : Float := 0.8
  maxParameters : Nat := 5
  deriving DecidableEq

/-- Where dead code looks for callers. -/
inductive DeadCodeScope where
  /-- In the same file. -/
  | file
  /-- In all analysed files. -/
  | repository
  deriving Repr, DecidableEq

/-- Which files are loaded. -/
structure LoaderSettings where
  /-- Names of directories that are left out. -/
  excludeDirs : List String := ["__pycache__", ".git", "venv", ".venv", "node_modules"]
  /-- Larger files are left out. -/
  maxFileSizeMb : Nat := 10
  respectGitignore : Bool := true
  deriving Repr, DecidableEq

/-- All settings. -/
structure Settings where
  thresholds : Thresholds := {}
  deadCodeScope : DeadCodeScope := .file
  loader : LoaderSettings := {}
  deriving DecidableEq

/-- The greatest number of 64 bits. -/
def maxWord : Nat := Nat.pow 2 64 - 1

/-- The greatest size of a loaded file in bytes, as far as 64 bits reach. -/
def LoaderSettings.maxFileSizeBytes (s : LoaderSettings) : Nat :=
  min (s.maxFileSizeMb * 1048576) maxWord

/-! ## Validation -/

/-- A setting that is out of its range. -/
structure InvalidSetting where
  field : String
  reason : String
  deriving Repr, DecidableEq

/-- The message for an invalid setting. -/
def InvalidSetting.message (e : InvalidSetting) : String :=
  "invalid value for `" ++ e.field ++ "`: " ++ e.reason

/-- Refuses zero. -/
def requirePositive (field : String) (n : Nat) : Except InvalidSetting Unit :=
  if n = 0 then .error ⟨field, "must be a positive integer"⟩ else .ok ()

/-- Checks the limits, in their order. -/
def Thresholds.validate (t : Thresholds) : Except InvalidSetting Unit := do
  requirePositive "thresholds.max_complexity" t.maxComplexity
  requirePositive "thresholds.max_function_length" t.maxFunctionLength
  requirePositive "thresholds.max_class_length" t.maxClassLength
  requirePositive "thresholds.max_parameters" t.maxParameters
  let x := t.duplicateThreshold
  if 0 ≤ x && x ≤ 1 then pure ()
  else throw ⟨"thresholds.duplicate_threshold", floatPlainText x ++ " is outside [0, 1]"⟩

/-- Checks all settings, in their order. -/
def Settings.validate (s : Settings) : Except InvalidSetting Unit := do
  s.thresholds.validate
  requirePositive "loader.max_file_size_mb" s.loader.maxFileSizeMb

end CodeSurvey
