/-
# Docstrings

The value of a string literal and the layout of a docstring: tabs become spaces, the indentation
that all lines after the first share goes away, and so do blank lines at both ends.
-/
import CodeSurvey.Text.Basic

namespace CodeSurvey

/-! ## Literal values -/

/-- Whether a character is a single or double quote. -/
def isQuote (c : Char) : Bool :=
  c == '\'' || c == '"'

/-- The text between the quotes of a string literal, escapes as written.  Formatted strings and
bytes have none. -/
def literalValue? (raw : List Char) : Option (List Char) :=
  let before := raw.takeWhile (!isQuote ·)
  let opening := if before.length = raw.length then [] else before
  let body := raw.drop opening.length
  if opening.any fun c => c == 'f' || c == 'F' || c == 'b' || c == 'B' then none
  else
    let quotes :=
      if ['"', '"', '"'].isPrefixOf body || ['\'', '\'', '\''].isPrefixOf body then 3 else 1
    if body.length < 2 * quotes then some []
    else some ((body.drop quotes).take (body.length - 2 * quotes))

/-! ## Layout -/

/-- A line with its tabs as spaces up to the next multiple of eight columns.  A carriage return
goes back to the first column. -/
def expandTabsFrom (column : Nat) : List Char → List Char
  | [] => []
  | c :: cs =>
    if c = '\t' then
      let pad := 8 - column % 8
      List.replicate pad ' ' ++ expandTabsFrom (column + pad) cs
    else if c = '\r' then c :: expandTabsFrom 0 cs
    else c :: expandTabsFrom (column + 1) cs

/-- A line with its tabs as spaces. -/
def expandTabs (line : List Char) : List Char :=
  expandTabsFrom 0 line

/-- Whether a line holds blanks only. -/
def isBlankLine (line : List Char) : Bool :=
  line.all isBlank

/-- The number of leading blanks of a line. -/
def indentation (line : List Char) : Nat :=
  (line.takeWhile isBlank).length

/-- The indentation that all lines with content share. -/
def margin (lines : List (List Char)) : Nat :=
  ((lines.filter (!isBlankLine ·)).map indentation).min?.getD 0

/-- Lines without blank lines at either end. -/
def trimBlankLines (lines : List (List Char)) : List (List Char) :=
  (((lines.dropWhile isBlankLine).reverse).dropWhile isBlankLine).reverse

/-- The lines of a docstring in their final layout: the first without leading blanks, the others
without the margin and without trailing blanks. -/
def layoutLines : List (List Char) → List (List Char)
  | [] => []
  | first :: rest =>
    let m := margin rest
    dropBlanks first :: rest.map fun line => dropBlanksEnd (line.drop m)

/-- The final layout of a docstring. -/
def cleanDocstring (doc : List Char) : List Char :=
  let lines := (piecesAt '\n' doc).map expandTabs
  ['\n'].intercalate (trimBlankLines (layoutLines lines))

/-- The docstring that a literal value amounts to; blank ones count as none. -/
def docstringOf (value : List Char) : Option String :=
  match cleanDocstring value with
  | [] => none
  | text => some (String.ofList text)

end CodeSurvey
