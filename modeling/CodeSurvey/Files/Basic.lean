/-
# Paths and source files

Paths are texts with slashes between their components.  Empty components and single points count
for nothing.  A source file as the survey sees it has a path within its repository and a content.
-/
import CodeSurvey.Text.Basic

namespace CodeSurvey

/-! ## Paths -/

/-- The components of a path, without empty ones and single points. -/
def pathComponents (path : String) : List String :=
  (splitText '/' path).filter fun c => c ≠ "" && c ≠ "."

/-- The last component of a path, if it names a file. -/
def pathFileName? (path : String) : Option String :=
  (pathComponents path).getLast?.filter (· ≠ "..")

/-- The characters after the last point, and those before it. -/
def splitAtLastPoint (cs : List Char) : Option (List Char × List Char) :=
  let after := (cs.reverse.takeWhile (· != '.')).reverse
  if after.length = cs.length then none
  else some (cs.take (cs.length - after.length - 1), after)

/-- The extension of a path: what follows the last point of its file name, unless that point is
the first character. -/
def pathExtension? (path : String) : Option String := do
  let name ← pathFileName? path
  let (stem, extension) ← splitAtLastPoint name.toList
  guard (stem ≠ [])
  return String.ofList extension

/-- The extensions of the source files that are analysed. -/
def supportedExtensions : List String := ["py", "pyi"]

/-- Whether a file is analysed, going by its path. -/
def isSupported (path : String) : Bool :=
  (pathExtension? path).any (· ∈ supportedExtensions)

/-! ## Source files -/

/-- A file to be surveyed. -/
structure SourceFile where
  /-- The path within the repository, its parts set off by `/`. -/
  path : String
  content : String
  deriving Repr, DecidableEq, Inhabited

/-- The number of bytes of a file. -/
def SourceFile.size (f : SourceFile) : Nat :=
  f.content.utf8ByteSize

/-- The number of lines of a file. -/
def SourceFile.lineCount (f : SourceFile) : Nat :=
  (textLines f.content).length

end CodeSurvey
