/-
# The command line

Reads the files that a command line is about, carries it out, and prints and writes what comes of
it.
-/
import CodeSurvey.Command.Arguments
import CodeSurvey.Command.Run

namespace CodeSurvey

/-- The location that a path names, seen from a directory. -/
def locationFrom (start : Location) (path : String) : Location :=
  (splitText '/' path).foldl
    (fun l part =>
      if part = "" || part = "." then l
      else if part = ".." then l.dropLast
      else l ++ [part])
    (if path.toList.head? = some '/' then [] else start)

/-- Whether the content of a file may matter to a command. -/
def mayMatter (l : Location) : Bool :=
  let name := l.getLastD ""
  isSupported name || settingsFileNames.contains name || (ruleFilePlace? l).isSome

/-- The content of a file on disk. -/
def readContent (l : Location) : IO FileContent := do
  return .ofBytes (← IO.FS.readBinFile (locationText l))

/-- Adds a file on disk to a tree, if it is there. -/
def addFile (t : FileTree) (l : Location) : IO FileTree := do
  try
    return t.put l (← readContent l)
  catch _ => return t

/-- Adds what is below a directory on disk to a tree.  Only files that may matter are read. -/
partial def addBelow (t : FileTree) (l : Location) : IO FileTree := do
  let mut t := { t with directories := t.directories ++ [l] }
  let here ← IO.currentDir
  for entry in ← (here / locationText l).readDir do
    let inner := l ++ [entry.fileName]
    if ← entry.path.isDir then t ← addBelow t inner
    else if mayMatter inner then t ← addFile t inner
    else t := t.put inner (.text "")
  return t

/-- Adds a file or directory on disk to a tree, if it is there. -/
def addPath (t : FileTree) (l : Location) : IO FileTree := do
  let here ← IO.currentDir
  if ← (here / locationText l).isDir then addBelow t l else addFile t l

/-- Adds the ignore files of the directories around a location. -/
def addRulesAround (t : FileTree) (l : Location) : IO FileTree :=
  (directoriesAround l).foldlM
    (fun t d => do
      let t ← addFile t (d ++ [".ignore"])
      let t ← addFile t (d ++ [".gitignore"])
      addFile t (d ++ [".git", "info", "exclude"])) t

/-- The files that a command line is about. -/
def treeOnDisk (i : Invocation) : IO FileTree := do
  let here ← IO.currentDir
  let start := locationFrom [] here.toString
  let root := locationFrom start i.path
  let t ← addRulesAround ⟨start, [], []⟩ root
  let t ← addPath t root
  let t ← match i.config with
    | some path => addFile t (locationFrom start path)
    | none => pure t
  match i.command with
  | some (.analyze _ (some output) _) =>
    let directory := (locationFrom start output).dropLast
    if ← (here / locationText directory).isDir then
      return { t with directories := t.directories ++ [directory] }
    else return t
  | _ => return t

/-- The text for a failed command: its cause is added where there is one. -/
def failureText (e : RunError) : String :=
  match e with
  | .settings cause => "Error: " ++ e.message ++ "\n\nCaused by:\n    " ++ cause.message
  | _ => "Error: " ++ e.message

/-- Carries out a command line on the files on disk, and answers with its exit code. -/
def runOnDisk (i : Invocation) : IO UInt32 := do
  let started ← IO.monoMsNow
  let t ← treeOnDisk i
  let elapsed := secondsOfMillis ((← IO.monoMsNow) - started)
  let (outcome, session) := i.execute elapsed t
  for (l, c) in t.changes session.tree do
    if let some s := c.text? then IO.FS.writeFile (locationText l) s
  if i.logLevel ≠ "error" then
    for line in session.log do IO.eprintln ("WARN " ++ line)
  IO.print session.stdout
  IO.eprint session.stderr
  match outcome with
  | .ok () => return 0
  | .error e =>
    IO.eprintln (failureText e)
    return 1

end CodeSurvey

/-- Surveys the repository that the arguments name. -/
def main (args : List String) : IO UInt32 := do
  match CodeSurvey.Invocation.ofArguments args with
  | .ok i => CodeSurvey.runOnDisk i
  | .error e =>
    IO.eprintln ("usage: " ++ e.name)
    return e.exitCode.toUInt32
