/-
# Settings files

Where settings come from: a file that is named, or else the first settings file of the repository,
or else the defaults.
-/
import CodeSurvey.Files.Basic
import CodeSurvey.Files.Tree
import CodeSurvey.Json.Parser
import CodeSurvey.Settings.Json
import CodeSurvey.Toml.Parser

namespace CodeSurvey

/-- The names of settings files, in the order in which they are looked for. -/
def settingsFileNames : List String := ["archaeologist.toml", ".archaeologistrc.json"]

/-- Why there are no settings. -/
inductive SettingsError where
  | notFound (path : String)
  /-- The file holds no text. -/
  | unreadable (path : String)
  | malformed (format : SettingsFormat) (path : String)
  | unsupportedFormat (path : String)
  | invalid (setting : InvalidSetting)
  deriving Repr, DecidableEq

/-- The message for a settings error. -/
def SettingsError.message : SettingsError → String
  | notFound path => "config file not found: " ++ path
  | unreadable path => "failed to read " ++ path
  | malformed .toml path => "invalid TOML in " ++ path
  | malformed .json path => "invalid JSON in " ++ path
  | unsupportedFormat path => "unsupported config format: " ++ path ++ " (use .toml or .json)"
  | invalid setting => setting.message

/-- The format of the settings file with a path. -/
def SettingsFormat.ofPath? (path : String) : Option SettingsFormat :=
  match pathExtension? path with
  | some "toml" => some .toml
  | some "json" => some .json
  | _ => none

/-- The data of a text in a format. -/
def SettingsFormat.parse? : SettingsFormat → String → Option Json
  | toml, s => Toml.parse? s
  | json, s => Json.parseLenient? s

/-- The settings that a text holds; they have to be valid. -/
def Settings.ofText (format : SettingsFormat) (path s : String) : Except SettingsError Settings :=
  match (format.parse? s).bind (Settings.ofJson? format) with
  | none => .error (.malformed format path)
  | some settings =>
    match settings.validate with
    | .ok () => .ok settings
    | .error e => .error (.invalid e)

/-- The settings of a file's content. -/
def Settings.ofContent (path : String) (c : FileContent) : Except SettingsError Settings :=
  match c.text?, SettingsFormat.ofPath? path with
  | none, _ => .error (.unreadable path)
  | some _, none => .error (.unsupportedFormat path)
  | some s, some format => Settings.ofText format path s

/-- What the file with a path holds. -/
def FileTree.read? (t : FileTree) (path : String) : Option FileContent := do
  t.content? (← t.locateFile? path)

/-- A path inside a directory.  No slash is added to a path that ends with one or is empty. -/
def joinPath (directory name : String) : String :=
  if directory = "" || directory.toList.getLast? = some '/' then directory ++ name
  else directory ++ "/" ++ name

/-- The first settings file of a repository, with what it holds. -/
def FileTree.settingsFile? (t : FileTree) (root : String) : Option (String × FileContent) :=
  settingsFileNames.findSome? fun name =>
    (t.read? (joinPath root name)).map (joinPath root name, ·)

/-- The settings for a repository. -/
def loadSettings (t : FileTree) (root : String) (explicit : Option String) :
    Except SettingsError Settings :=
  match explicit with
  | some path =>
    match t.read? path with
    | some c => Settings.ofContent path c
    | none => .error (.notFound path)
  | none =>
    match t.settingsFile? root with
    | some (path, c) => Settings.ofContent path c
    | none => .ok {}

/-! ## The default file -/

/-- The lines of a settings file that holds the defaults. -/
def defaultSettingsLines : List String :=
  let t : Thresholds := {}
  let l : LoaderSettings := {}
  let quoted := l.excludeDirs.map fun d => "\"" ++ d ++ "\""
  ["# archaeologist configuration",
    "",
    "[thresholds]",
    "# Functions with cyclomatic complexity above this are reported",
    "max_complexity = " ++ toString t.maxComplexity,
    "# Line counts above these are long functions / classes",
    "max_function_length = " ++ toString t.maxFunctionLength,
    "max_class_length = " ++ toString t.maxClassLength,
    "# Accepted for compatibility; no rule reads it",
    "duplicate_threshold = " ++ floatPlainText t.duplicateThreshold,
    "# Parameters excluding self/cls",
    "max_parameters = " ++ toString t.maxParameters,
    "",
    "[dead_code]",
    "# \"file\": a function is dead if nothing in its own file calls it",
    "# \"repository\": if nothing in any analyzed file calls it",
    "scope = \"file\"",
    "",
    "[loader]",
    "exclude_dirs = [" ++ ", ".intercalate quoted ++ "]",
    "max_file_size_mb = " ++ toString l.maxFileSizeMb,
    "respect_gitignore = " ++ toString l.respectGitignore]

/-- The text of a settings file that holds the defaults. -/
def defaultSettingsText : String :=
  String.join (defaultSettingsLines.map (· ++ "\n"))

end CodeSurvey
