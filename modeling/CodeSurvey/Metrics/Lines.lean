/-
# Line counts

Every line of a file is source, comment or blank.  Lines with triple quotes and lines between them
count as comments, so one bit of memory is enough: whether an odd number of triple quotes stands on
the lines before.
-/
import CodeSurvey.Decimal.Notation
import CodeSurvey.Text.Basic

namespace CodeSurvey

/-- What a line counts as. -/
inductive LineClass where
  | source
  | comment
  | blank
  deriving Repr, DecidableEq

/-- The number of times that three of a quote stand in a line, none overlapping. -/
def countTriples (quote : Char) : List Char → Nat
  | a :: b :: c :: cs =>
    if a = quote && b = quote && c = quote then countTriples quote cs + 1
    else countTriples quote (b :: c :: cs)
  | _ => 0

/-- The number of triple quotes of a line. -/
def tripleQuotes (line : List Char) : Nat :=
  countTriples '"' line + countTriples '\'' line

/-- The class of a trimmed line, given whether a string is open before it. -/
def classOfLine (inString : Bool) (line : List Char) : LineClass :=
  if 0 < tripleQuotes line || inString || line.head? = some '#' then .comment
  else if line.isEmpty then .blank
  else .source

/-- The classes of trimmed lines, given whether a string is open before the first. -/
def classesOfLines (inString : Bool) : List (List Char) → List LineClass
  | [] => []
  | line :: lines =>
    classOfLine inString line ::
      classesOfLines (inString != (tripleQuotes line % 2 = 1)) lines

/-- The classes of the lines of a text. -/
def lineClasses (content : List Char) : List LineClass :=
  classesOfLines false ((linesOfChars content).map trimChars)

/-- Counts of lines by class, and the shares of comments and of source in percent. -/
structure LineMetrics where
  loc : Nat
  sloc : Nat
  comments : Nat
  blank : Nat
  commentRatio : Float
  codeRatio : Float

/-- A share in percent, rounded to hundredths; nothing has no share of nothing. -/
def percentage (part whole : Nat) : Float :=
  if whole = 0 then 0 else roundHundredth (part.toFloat / whole.toFloat * 100)

/-- The line counts of a text. -/
def LineMetrics.ofText (content : String) : LineMetrics :=
  let classes := lineClasses content.toList
  let loc := classes.length
  let sloc := classes.count .source
  let comments := classes.count .comment
  { loc := loc
    sloc := sloc
    comments := comments
    blank := classes.count .blank
    commentRatio := percentage comments loc
    codeRatio := percentage sloc loc }

end CodeSurvey
