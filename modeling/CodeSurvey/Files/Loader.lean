/-
# Loading files

Which files of a tree are surveyed: source files below a directory that are not hidden, ignored,
excluded, too large or without text.
-/
import CodeSurvey.Distinct
import CodeSurvey.Files.Basic
import CodeSurvey.Ignore.Rules
import CodeSurvey.Settings.Basic

namespace CodeSurvey

/-- Whether a name is that of a hidden file or directory. -/
def isHidden (name : String) : Bool :=
  name.toList.head? = some '.'

/-- Whether a file or directory is passed over.  A rule that keeps it also keeps it from being
hidden. -/
def isSkipped (rules : List RuleFile) (excluded : List String) (l : Location)
    (isDirectory : Bool) : Bool :=
  let name := l.getLastD ""
  (match verdict? rules l isDirectory with
    | some .ignore => true
    | some .keep => false
    | none => isHidden name) ||
  (isDirectory && excluded.contains name)

/-! ## The walk -/

/-- The name of the entry of a directory that leads to a location below it. -/
def entryToward? (directory l : Location) : Option String :=
  if directory.isPrefixOf l then l[directory.length]? else none

/-- The names of the entries of a directory, each once. -/
def FileTree.entryNames (t : FileTree) (directory : Location) : List String :=
  firstBy id ((t.workingDirectory :: t.directories ++ t.files.map (·.1)).filterMap
    (entryToward? directory))

/-- The number of names on the way to the deepest file. -/
def FileTree.depth (t : FileTree) : Nat :=
  t.files.foldl (fun n f => max n f.1.length) 0

/-- The files that a walk meets below a directory, going down a number of levels.  A directory that is
passed over is not entered. -/
def walk (t : FileTree) (rules : List RuleFile) (excluded : List String) :
    Nat → Location → List (Location × FileContent)
  | 0, _ => []
  | levels + 1, directory =>
    (t.entryNames directory).flatMap fun name =>
      let l := directory ++ [name]
      if isSkipped rules excluded l (t.isDirectory l) then []
      else match t.content? l with
        | some c => [(l, c)]
        | none => walk t rules excluded levels l

/-! ## Source files -/

/-- Whether a file is one to survey: it holds source code and is not too large. -/
def isWanted (settings : LoaderSettings) (path : String) (c : FileContent) : Bool :=
  isSupported path && c.size ≤ settings.maxFileSizeBytes

/-- The source file of a file below a directory, if it is to be surveyed. -/
def sourceFile? (settings : LoaderSettings) (root : Location) :
    Location × FileContent → Option SourceFile
  | (l, c) => do
    let path := "/".intercalate (l.drop root.length)
    guard (isWanted settings path c)
    return ⟨path, ← c.text?⟩

/-- The warning about a file that is not surveyed only because it holds no text. -/
def nonTextWarning? (settings : LoaderSettings) : Location × FileContent → Option String
  | (l, c) =>
    if isWanted settings (locationText l) c && c.text?.isNone then
      some ("Skipping non-UTF-8 file: " ++ locationText l)
    else none

/-- The files below a directory that are not passed over. -/
def filesBelow (t : FileTree) (settings : LoaderSettings) (root : Location) :
    List (Location × FileContent) :=
  walk t (ruleFiles t settings.respectGitignore) settings.excludeDirs t.depth root

/-- The source files below a directory, by path. -/
def sourceFilesBelow (t : FileTree) (settings : LoaderSettings) (root : Location) :
    List SourceFile :=
  ((filesBelow t settings root).filterMap
    (sourceFile? settings root)).mergeSort fun a b => a.path ≤ b.path

/-- Why no files are loaded. -/
inductive LoadError where
  | notDirectory (path : String)
  deriving Repr, DecidableEq

/-- The message for a load error. -/
def LoadError.message : LoadError → String
  | notDirectory path => "Repository path is not a directory: " ++ path

/-- The source files below the directory with a path. -/
def loadFiles (t : FileTree) (settings : LoaderSettings) (path : String) :
    Except LoadError (List SourceFile) :=
  match t.locateDirectory? path with
  | some root => .ok (sourceFilesBelow t settings root)
  | none => .error (.notDirectory path)

/-- The warnings that come with loading the source files below the directory with a path. -/
def loadWarnings (t : FileTree) (settings : LoaderSettings) (path : String) : List String :=
  match t.locateDirectory? path with
  | some root => (filesBelow t settings root).filterMap (nonTextWarning? settings)
  | none => []

end CodeSurvey
