/-
# Carrying out commands

A command reads and writes a tree of files, prints lines, and logs warnings.  What has been printed,
logged and written stays if the command fails later.
-/
import CodeSurvey.Command.Basic
import CodeSurvey.Files.Loader
import CodeSurvey.Settings.File

namespace CodeSurvey

/-- Why a command fails. -/
inductive RunError where
  | settings (e : SettingsError)
  | load (e : LoadError)
  | missingPath (path : String)
  | notDirectory (path : String)
  | unknownFunction (id : String)
  | uncreatable (path : String)
  | unwritable (path : String)
  deriving Repr, DecidableEq

/-- The message for a failed command. -/
def RunError.message : RunError → String
  | settings _ => "Failed to load configuration"
  | load e => e.message
  | missingPath path => "Path does not exist: " ++ path
  | notDirectory path => "Path is not a directory: " ++ path
  | unknownFunction id =>
    "Unknown function '" ++ id ++
      "'. Ids look like `pkg/mod.py::name` or `pkg/mod.py::Class.method`"
  | uncreatable path => "Failed to create " ++ path
  | unwritable path => "Failed to write report to " ++ path

/-- What a command has printed and logged so far, and the files as they are. -/
structure Session where
  stdout : String := ""
  /-- What the command itself prints beside the output proper. -/
  stderr : String := ""
  /-- The warnings, which are shown if the log level lets them through. -/
  log : List String := []
  tree : FileTree
  deriving Repr, DecidableEq

/-- The session in which some more warnings have been logged. -/
def Session.logged (w : Session) (warnings : List String) : Session :=
  { w with log := w.log ++ warnings }

/-- A step of a command: it may fail, and leaves a session either way. -/
abbrev Run := ExceptT RunError (StateM Session)

namespace Run

/-- Prints a line. -/
def printLine (s : String) : Run Unit :=
  modify fun w => { w with stdout := w.stdout ++ s ++ "\n" }

/-- Prints a line beside the output proper. -/
def noteLine (s : String) : Run Unit :=
  modify fun w => { w with stderr := w.stderr ++ s ++ "\n" }

/-- Logs warnings. -/
def warn (warnings : List String) : Run Unit :=
  modify fun w => w.logged warnings

/-- The files as they are. -/
def tree : Run FileTree := do
  return (← get).tree

/-- Goes on with a tree that was written to, or fails if it could not be. -/
def replaceTree (written : Option FileTree) (e : RunError) : Run Unit :=
  match written with
  | some t => modify fun w => { w with tree := t }
  | none => throw e

/-- Writes a report to a file. -/
def write (path s : String) : Run Unit := do
  replaceTree ((← tree).write? path s) (.unwritable path)

/-- Creates a file. -/
def create (l : Location) (s : String) : Run Unit := do
  replaceTree ((← tree).writeAt? l s) (.uncreatable (locationText l))

/-- The settings for a command line. -/
def settings (i : Invocation) : Run Settings := do
  match loadSettings (← tree) i.path i.config with
  | .ok s => return s
  | .error e => throw (.settings e)

/-- The source files of the repository. -/
def sourceFiles (i : Invocation) (s : Settings) : Run (List SourceFile) := do
  let t ← tree
  match loadFiles t s.loader i.path with
  | .ok files =>
    warn (loadWarnings t s.loader i.path)
    return files
  | .error e => throw (.load e)

/-- The mark in front of a message of success. -/
def done : String := "✓ "

/-- Writes a settings file with the defaults, unless there is one. -/
def init (i : Invocation) : Run Unit := do
  let t ← tree
  match t.locate? i.path with
  | none => throw (.missingPath i.path)
  | some root =>
    if !t.isDirectory root then throw (.notDirectory (locationText root))
    let places := settingsFileNames.map fun name => root ++ [name]
    match places.find? t.has with
    | some place => printLine (done ++ "Config already exists at " ++ locationText place)
    | none =>
      let place := root ++ [settingsFileNames.headD ""]
      create place defaultSettingsText
      printLine (done ++ "Created " ++ locationText place)
      printLine "\nNext steps:"
      printLine ("  " ++ settingsFileNames.headD "" ++ " Adjust thresholds")
      printLine "  archaeologist . analyze Run analysis"

/-- The calls between the functions of some files. -/
def callsIn (s : Settings) (files : List SourceFile) : CallGraph :=
  .ofOutlines (files.map fun f => (measureFile s.thresholds.maxComplexity f).outline)

/-- Lists the call chains from a function. -/
def chains (i : Invocation) (function : String) (depth : Nat) : Run Unit := do
  let s ← settings i
  let files ← sourceFiles i s
  let calls := callsIn s files
  if (calls.graph.node? function).isNone then throw (.unknownFunction function)
  let found := calls.chains function depth
  printLine ("\n" ++ toString found.length ++ " call chains from " ++ function ++ " (depth " ++
    toString depth ++ ")\n")
  found.zipIdx.forM fun (chain, n) =>
    printLine ("  " ++ padLeft 2 (toString (n + 1)) ++ ". " ++ " -> ".intercalate chain)

/-- Writes a report to a file, or prints it. -/
def deliver (output : Option String) (text : String) : Run Unit :=
  match output with
  | some path => do
    write path text
    noteLine (done ++ "Report written to: " ++ path)
  | none => printLine text

/-- The warning about a repository without source files. -/
def emptyWarning (path : String) (files : List SourceFile) : List String :=
  if files.isEmpty then ["No Python files found in " ++ path] else []

/-- Surveys the repository and reports. -/
def analyze (i : Invocation) (seconds : Float) (format : OutputFormat) (output : Option String)
    (scope : Option DeadCodeScope) : Run Unit := do
  let loaded ← settings i
  let s := { loaded with deadCodeScope := scope.getD loaded.deadCodeScope }
  let files ← sourceFiles i s
  warn (emptyWarning i.path files)
  let report := survey s Detector.builtIn files
  warn report.summary.warnings
  deliver output ((report.withMetadata i.path seconds).render format false)

end Run

/-- Carries out a command line that took the given time so far. -/
def Invocation.run (i : Invocation) (seconds : Float) : Run Unit :=
  match i.command with
  | some .init => Run.init i
  | some (.chains function depth) => Run.chains i function depth
  | some (.analyze format output scope) => Run.analyze i seconds format output scope
  | none => Run.analyze i seconds .text none none

/-- Carries out a command line on a tree of files. -/
def Invocation.execute (i : Invocation) (seconds : Float) (t : FileTree) :
    Except RunError Unit × Session :=
  (i.run seconds).run.run { tree := t }

end CodeSurvey
