/-
# Ignore rules

The lines of ignore files say which files and directories are left out.  The last line that matches
decides within a file, and the innermost directory with a matching line decides among files of the
same kind.
-/
import CodeSurvey.Files.Tree
import CodeSurvey.Ignore.Glob

namespace CodeSurvey

/-- What a rule says of a file or directory. -/
inductive Verdict where
  | ignore
  | keep
  deriving Repr, DecidableEq

/-- A line of an ignore file. -/
structure IgnoreRule where
  pattern : List Glob
  verdict : Verdict
  directoriesOnly : Bool

/-! ## Lines -/

/-- Whether a text ends with another one. -/
def endsWith (ending cs : List Char) : Bool :=
  ending.reverse.isPrefixOf cs.reverse

/-- The line without blanks at its end, unless the last is escaped. -/
def trimLine (line : List Char) : List Char :=
  if endsWith ['\\', ' '] line then line else dropBlanksEnd line

/-- The pattern that is meant by what is written: without a slash it may match at any depth, and what
ends with two stars means what is inside a directory. -/
def widenPattern (anchored : Bool) (cs : List Char) : List Char :=
  let deep := ['*', '*', '/']
  let cs :=
    if anchored || cs.contains '/' || cs = ['*', '*'] then cs else deep ++ cs
  if endsWith ['/', '*', '*'] cs then cs ++ ['/', '*'] else cs

/-- A slash at the end means directories only; it is taken off, with a backslash before it. -/
def takeSlash (cs : List Char) : List Char × Bool :=
  if endsWith ['/'] cs then
    let cs := cs.dropLast
    (if endsWith ['\\'] cs then cs.dropLast else cs, true)
  else (cs, false)

/-- The rule of what is left of a line after its mark. -/
def ruleOf? (verdict : Verdict) (anchored : Bool) (cs : List Char) : Option IgnoreRule := do
  let (cs, directoriesOnly) := takeSlash cs
  return ⟨← Glob.parse? (widenPattern anchored cs), verdict, directoriesOnly⟩

/-- The rule of a line with a slash at its start or none. -/
def anchoredRule? (verdict : Verdict) : List Char → Option IgnoreRule
  | '/' :: cs => ruleOf? verdict true cs
  | cs => ruleOf? verdict false cs

/-- The rule of a line.  Comments, blank lines and lines with a malformed pattern have none. -/
def lineRule? (line : List Char) : Option IgnoreRule :=
  match line with
  | '#' :: _ => none
  | _ =>
    match trimLine line with
    | [] => none
    | '\\' :: '!' :: cs => ruleOf? .ignore false ('!' :: cs)
    | '\\' :: '#' :: cs => ruleOf? .ignore false ('#' :: cs)
    | '!' :: cs => anchoredRule? .keep cs
    | cs => anchoredRule? .ignore cs

/-- The lines of an ignore file without the byte order marks at its start. -/
def withoutMarks : List String → List String
  | [] => []
  | line :: lines => String.ofList (line.toList.dropWhile (· = '\ufeff')) :: lines

/-- The rules of an ignore file. -/
def rulesOf (c : FileContent) : List IgnoreRule :=
  (withoutMarks c.lines).filterMap fun line => lineRule? line.toList

/-- What rules say of a path. -/
def ruleVerdict? (rules : List IgnoreRule) (path : List UInt8) (isDirectory : Bool) :
    Option Verdict :=
  (rules.reverse.find? fun r =>
    (isDirectory || !r.directoriesOnly) && Glob.isMatch r.pattern path).map (·.verdict)

/-! ## Files -/

/-- The kinds of ignore files; rules of an earlier kind go before those of a later one. -/
inductive RuleKind where
  | ignore
  | git
  | exclude
  deriving Repr, DecidableEq

/-- The rules of an ignore file and the directory that they are for. -/
structure RuleFile where
  directory : Location
  kind : RuleKind
  rules : List IgnoreRule

/-- The directory and kind of the ignore file at a location. -/
def ruleFilePlace? (l : Location) : Option (Location × RuleKind) :=
  match l.reverse with
  | ".ignore" :: directory => some (directory.reverse, .ignore)
  | ".gitignore" :: directory => some (directory.reverse, .git)
  | "exclude" :: "info" :: ".git" :: directory => some (directory.reverse, .exclude)
  | _ => none

/-- The ignore files of a tree; those of `git` only if they are wanted. -/
def ruleFiles (t : FileTree) (git : Bool) : List RuleFile :=
  t.files.filterMap fun (l, c) => do
    let (directory, kind) ← ruleFilePlace? l
    guard (git || kind = .ignore)
    return ⟨directory, kind, rulesOf c⟩

/-- The directories around a location, from the inside out. -/
def directoriesAround (l : Location) : List Location :=
  (List.range l.length).reverse.map fun n => l.take n

/-- The bytes of the path from a directory to a location inside it. -/
def pathBytes (directory l : Location) : List UInt8 :=
  ("/".intercalate (l.drop directory.length)).toUTF8.toList

/-- What the ignore files of a kind say of a location. -/
def kindVerdict? (files : List RuleFile) (kind : RuleKind) (l : Location) (isDirectory : Bool) :
    Option Verdict :=
  (directoriesAround l).findSome? fun directory => do
    let f ← files.find? fun f => f.directory = directory && f.kind = kind
    ruleVerdict? f.rules (pathBytes directory l) isDirectory

/-- What all ignore files say of a location. -/
def verdict? (files : List RuleFile) (l : Location) (isDirectory : Bool) : Option Verdict :=
  [RuleKind.ignore, .git, .exclude].findSome? fun kind => kindVerdict? files kind l isDirectory

end CodeSurvey
