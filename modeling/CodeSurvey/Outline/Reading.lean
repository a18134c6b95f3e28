/-
# Reading source files

A source text is refused if it breaks the grammar, or if it holds a `print` or `exec` statement of
the language's second version.  What is accepted has a syntax tree and an outline.
-/
import CodeSurvey.Files.Basic
import CodeSurvey.Outline.Extract
import CodeSurvey.Syntax.Cursor
import CodeSurvey.Syntax.Statement

namespace CodeSurvey

/-- Statements that the grammar knows and that are refused all the same. -/
inductive LegacyStatement where
  | print
  | exec
  deriving Repr, DecidableEq

/-- The legacy statement that nodes of a kind are. -/
def LegacyStatement.ofKind? : Kind → Option LegacyStatement
  | .printStatement => some print
  | .execStatement => some exec
  | _ => none

/-- The word that a legacy statement starts with. -/
def LegacyStatement.word : LegacyStatement → String
  | print => "print"
  | exec => "exec"

/-- The legacy statement that a node is, and where it starts. -/
def Tree.legacyHere? (t : Tree) : Option (LegacyStatement × Place) :=
  (LegacyStatement.ofKind? t.kind).map fun statement => (statement, t.start)

/-- The first legacy statement of a tree and where it starts. -/
def Tree.legacy? (root : Tree) : Option (LegacyStatement × Place) :=
  (Cursor.ofRoot root).findSome? legacyHere?

/-- Why a source file is not analysed. -/
inductive Fault where
  /-- The file is no source file of the language. -/
  | unsupported
  /-- The text breaks the grammar. -/
  | syntaxError
  /-- A legacy statement stands at a place. -/
  | legacy (statement : LegacyStatement) (place : Place)
  deriving Repr, DecidableEq

/-- A fault as it is reported: the file, a line and a column counted from one (both zero if there is
no place), and a message. -/
structure FaultReport where
  path : String
  line : Nat
  column : Nat
  message : String
  deriving Repr, DecidableEq

/-- The fault report as one line of text. -/
def FaultReport.text (r : FaultReport) : String :=
  r.path ++ ":" ++ toString r.line ++ ":" ++ toString r.column ++ ": " ++ r.message

/-- The report of a fault in a file. -/
def Fault.report (path : String) : Fault → FaultReport
  | unsupported => ⟨path, 0, 0, "unsupported file type (only Python is analyzed)"⟩
  | syntaxError => ⟨path, 0, 0, "syntax error"⟩
  | legacy statement place =>
    ⟨path, place.row + 1, place.column + 1,
      "missing parentheses in call to '" ++ statement.word ++ "'"⟩

/-- The syntax tree of a source text, or why there is none. -/
def readTree (source : List Char) : Except Fault Tree :=
  match parseFile? source with
  | none => .error .syntaxError
  | some t =>
    match t.legacy? with
    | some (statement, place) => .error (.legacy statement place)
    | none => .ok t

/-- The outline of a source file, or why there is none. -/
def readOutline (path : String) (content : String) : Except Fault Outline := do
  if !isSupported path then throw .unsupported
  let source := content.toList
  return .ofTree path source (← readTree source)

end CodeSurvey
