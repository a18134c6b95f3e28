/-
# File trees

A tree of files and directories with a working directory.  Files are known by their location: the
names on the way from the top of the tree.
-/
import CodeSurvey.Text.Basic

namespace CodeSurvey

/-- What a file holds. -/
inductive FileContent where
  | text (s : String)
  /-- Bytes that are no text. -/
  | binary (bytes : List UInt8)
  deriving Repr, DecidableEq

namespace FileContent

/-- The content with given bytes. -/
def ofBytes (bytes : ByteArray) : FileContent :=
  match String.fromUTF8? bytes with
  | some s => text s
  | none => binary bytes.toList

/-- The number of bytes. -/
def size : FileContent → Nat
  | text s => s.utf8ByteSize
  | binary bytes => bytes.length

/-- The text, if there is one. -/
def text? : FileContent → Option String
  | text s => some s
  | binary _ => none

/-- The lines up to the first that is no text. -/
def lines : FileContent → List String
  | text s => textLines s
  | binary bytes =>
    let pieces := (bytes.splitOn 10).map fun line => String.fromUTF8? line.toByteArray
    textLines ("\n".intercalate ((pieces.takeWhile (·.isSome)).filterMap id))

end FileContent

/-- The names on the way from the top of the tree. -/
abbrev Location := List String

/-- A location as a path. -/
def locationText (l : Location) : String :=
  "/" ++ "/".intercalate l

/-- Files and directories.  The directories around a file or directory are there with it. -/
structure FileTree where
  workingDirectory : Location
  files : List (Location × FileContent)
  directories : List Location
  deriving Repr, DecidableEq

namespace FileTree

/-! ## Looking up -/

/-- What the file at a location holds. -/
def content? (t : FileTree) (l : Location) : Option FileContent :=
  (t.files.find? (·.1 = l)).map (·.2)

/-- Whether a file is at a location. -/
def isFile (t : FileTree) (l : Location) : Bool :=
  t.files.any (·.1 = l)

/-- Whether a directory is at a location. -/
def isDirectory (t : FileTree) (l : Location) : Bool :=
  l.isPrefixOf t.workingDirectory ||
    t.directories.any l.isPrefixOf ||
    t.files.any fun (m, _) => l.isPrefixOf m.dropLast

/-- Whether anything is at a location. -/
def has (t : FileTree) (l : Location) : Bool :=
  t.isFile l || t.isDirectory l

/-- Follows the parts of a path.  Only a directory can be left again. -/
def followFrom (t : FileTree) : List String → Location → Option Location
  | [], l => some l
  | part :: parts, l =>
    if !t.isDirectory l then none
    else if part = "" || part = "." then followFrom t parts l
    else if part = ".." then followFrom t parts l.dropLast
    else if t.has (l ++ [part]) then followFrom t parts (l ++ [part])
    else none

/-- Where the parts of a path start. -/
def startOf (t : FileTree) (path : String) : Location :=
  if path.toList.head? = some '/' then [] else t.workingDirectory

/-- The location of the file or directory with a path. -/
def locate? (t : FileTree) (path : String) : Option Location :=
  if path = "" then none else t.followFrom (splitText '/' path) (t.startOf path)

/-- The location of the file with a path. -/
def locateFile? (t : FileTree) (path : String) : Option Location :=
  (t.locate? path).filter t.isFile

/-- The location of the directory with a path. -/
def locateDirectory? (t : FileTree) (path : String) : Option Location :=
  (t.locate? path).filter t.isDirectory

/-! ## Writing -/

/-- Gives the file at a location a content. -/
def put (t : FileTree) (l : Location) (c : FileContent) : FileTree :=
  if t.isFile l then
    { t with files := t.files.map fun f => if f.1 = l then (l, c) else f }
  else { t with files := t.files ++ [(l, c)] }

/-- Writes a text to the file at a location.  There has to be a directory for it, and no directory in
its place. -/
def writeAt? (t : FileTree) (l : Location) (s : String) : Option FileTree := do
  guard (t.isDirectory l.dropLast && !t.isDirectory l)
  return t.put l (.text s)

/-- Writes a text to the file with a path. -/
def write? (t : FileTree) (path : String) (s : String) : Option FileTree := do
  let parts := splitText '/' path
  let name := parts.getLastD ""
  guard (name ∉ ["", ".", ".."])
  let directory ← t.followFrom parts.dropLast (t.startOf path)
  t.writeAt? (directory ++ [name]) s

/-- The files of a tree that another tree does not have like that. -/
def changes (before after : FileTree) : List (Location × FileContent) :=
  after.files.filter fun (l, c) => before.content? l ≠ some c

end FileTree

end CodeSurvey
