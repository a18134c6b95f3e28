/-
# Settings as data

Reading settings from the data of a settings file, and the JSON form of settings.  What is missing
keeps its default and unknown keys are passed over.  A record may also be given as the list of its
values.
-/
import CodeSurvey.Json.Basic
import CodeSurvey.Settings.Basic

namespace CodeSurvey

/-- The format of a settings file. -/
inductive SettingsFormat where
  | toml
  | json
  deriving Repr, DecidableEq

/-! ## Reading -/

/-- The values under a key. -/
def valuesAt (members : List (String × Json)) (key : String) : List Json :=
  (members.filter (·.1 = key)).map (·.2)

/-- The value of each field of a record, if it is given.  A known key stands at most once, and a list
of values may be too long in TOML only. -/
def fieldValues? (format : SettingsFormat) (fields : List String) :
    Json → Option (List (Option Json))
  | .obj members => fields.mapM fun key =>
    match valuesAt members key with
    | [] => some none
    | [v] => some (some v)
    | _ => none
  | .arr items => do
    guard (items.length ≤ fields.length ∨ format = .toml)
    return (List.range fields.length).map fun i => items[i]?
  | _ => none

/-- Reads a value, or takes the default if there is none. -/
def readOr {α : Type} (default : α) (read : Json → Option α) : Option Json → Option α
  | none => some default
  | some v => read v

/-- Reads a natural number of at most the given number of bits. -/
def readWord (bits : Nat) (v : Json) : Option Nat :=
  v.nat?.filter (· < Nat.pow 2 bits)

/-- Reads a list of texts. -/
def readTexts (v : Json) : Option (List String) := do
  (← v.items?).mapM Json.str?

/-- Reads the limits. -/
def Thresholds.ofJson? (format : SettingsFormat) (v : Json) : Option Thresholds := do
  let d : Thresholds := {}
  match ← fieldValues? format ["max_complexity", "max_function_length", "max_class_length",
      "duplicate_threshold", "max_parameters"] v with
  | [complexity, functionLength, classLength, duplicates, parameters] =>
    return {
      maxComplexity := ← readOr d.maxComplexity (readWord 32) complexity
      maxFunctionLength := ← readOr d.maxFunctionLength (readWord 32) functionLength
      maxClassLength := ← readOr d.maxClassLength (readWord 32) classLength
      duplicateThreshold := ← readOr d.duplicateThreshold Json.float? duplicates
      maxParameters := ← readOr d.maxParameters (readWord 64) parameters }
  | _ => none

/-- The word for a scope. -/
def DeadCodeScope.word : DeadCodeScope → String
  | file => "file"
  | repository => "repository"

/-- The scope that a word stands for. -/
def DeadCodeScope.ofWord? : String → Option DeadCodeScope
  | "file" => some file
  | "repository" => some repository
  | _ => none

/-- Whether a value beside a word says nothing. -/
def SettingsFormat.isVoid : SettingsFormat → Json → Bool
  | json, .null => true
  | toml, .arr [] => true
  | toml, .obj [] => true
  | _, _ => false

/-- Reads a scope: a word, or a record whose only key is the word and whose value says nothing. -/
def DeadCodeScope.ofJson? (format : SettingsFormat) : Json → Option DeadCodeScope
  | .str word => ofWord? word
  | .obj [(word, v)] => if format.isVoid v then ofWord? word else none
  | _ => none

/-- Reads the settings of dead code. -/
def deadCodeScopeOf? (format : SettingsFormat) (v : Json) : Option DeadCodeScope := do
  match ← fieldValues? format ["scope"] v with
  | [scope] => readOr .file (DeadCodeScope.ofJson? format) scope
  | _ => none

/-- Reads which files are loaded. -/
def LoaderSettings.ofJson? (format : SettingsFormat) (v : Json) : Option LoaderSettings := do
  let d : LoaderSettings := {}
  match ← fieldValues? format ["exclude_dirs", "max_file_size_mb", "respect_gitignore"] v with
  | [excluded, size, ignores] =>
    return {
      excludeDirs := ← readOr d.excludeDirs readTexts excluded
      maxFileSizeMb := ← readOr d.maxFileSizeMb (readWord 64) size
      respectGitignore := ← readOr d.respectGitignore Json.bool? ignores }
  | _ => none

/-- Reads settings. -/
def Settings.ofJson? (format : SettingsFormat) (v : Json) : Option Settings := do
  let d : Settings := {}
  match ← fieldValues? format ["thresholds", "dead_code", "loader"] v with
  | [thresholds, deadCode, loader] =>
    return {
      thresholds := ← readOr d.thresholds (Thresholds.ofJson? format) thresholds
      deadCodeScope := ← readOr d.deadCodeScope (deadCodeScopeOf? format) deadCode
      loader := ← readOr d.loader (LoaderSettings.ofJson? format) loader }
  | _ => none

/-! ## Writing -/

/-- The JSON form of the limits. -/
def Thresholds.toJson (t : Thresholds) : Json :=
  .obj [
    ("max_complexity", .nat t.maxComplexity),
    ("max_function_length", .nat t.maxFunctionLength),
    ("max_class_length", .nat t.maxClassLength),
    ("duplicate_threshold", .num t.duplicateThreshold),
    ("max_parameters", .nat t.maxParameters)]

/-- The JSON form of which files are loaded. -/
def LoaderSettings.toJson (s : LoaderSettings) : Json :=
  .obj [
    ("exclude_dirs", .strs s.excludeDirs),
    ("max_file_size_mb", .nat s.maxFileSizeMb),
    ("respect_gitignore", .bool s.respectGitignore)]

/-- The JSON form of settings. -/
def Settings.toJson (s : Settings) : Json :=
  .obj [
    ("thresholds", s.thresholds.toJson),
    ("dead_code", .obj [("scope", .str s.deadCodeScope.word)]),
    ("loader", s.loader.toJson)]

end CodeSurvey
