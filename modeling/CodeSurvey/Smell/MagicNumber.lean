/-
# Magic numbers

A magic number is a run of at least two digits that stands on its own in a line of code.
-/
import CodeSurvey.Smell.Basic
import CodeSurvey.Text.Alphanumeric
import CodeSurvey.Text.Basic

namespace CodeSurvey

/-- Whether a character right before or after digits makes them part of something else. -/
def joinsDigits (c : Char) : Bool :=
  isAlphanumeric c || c == '_' || c == '.'

/-- A maximal run of digits with the characters right before and after it. -/
structure DigitRun where
  before : Option Char
  digits : List Char
  after : Option Char
  deriving Repr, DecidableEq

/-- Whether a run has at least two digits and nothing joined to it. -/
def DigitRun.isNumber (r : DigitRun) : Bool :=
  2 ≤ r.digits.length && !r.before.any joinsDigits && !r.after.any joinsDigits

/-- The maximal runs of digits of a line, from left to right.  The run at hand is carried along
(backwards) with the character before it. -/
def digitRunsFrom (before : Option Char) (run : List Char) : List Char → List DigitRun
  | [] => if run.isEmpty then [] else [⟨before, run.reverse, none⟩]
  | c :: cs =>
    if isDecimalDigit c then digitRunsFrom before (c :: run) cs
    else if run.isEmpty then digitRunsFrom (some c) [] cs
    else ⟨before, run.reverse, some c⟩ :: digitRunsFrom (some c) [] cs

/-- The maximal runs of digits of a line. -/
def digitRuns (line : List Char) : List DigitRun :=
  digitRunsFrom none [] line

/-- Numbers common enough to need no name. -/
def plainNumbers : List (List Char) := [['1', '0'], ['1', '0', '0']]

/-- The magic numbers of a line. -/
def magicNumbersOf (line : List Char) : List (List Char) :=
  ((digitRuns line).filter (·.isNumber)).map (·.digits) |>.filter (!plainNumbers.contains ·)

/-- Whether a quote stands three times in a row in a line. -/
def holdsTriple (quote : Char) : List Char → Bool
  | [] => false
  | c :: cs => [quote, quote, quote].isPrefixOf (c :: cs) || holdsTriple quote cs

/-- Whether a line is looked at: comments and lines with triple quotes are not. -/
def isCodeLine (line : List Char) : Bool :=
  (dropBlanks line).head? != some '#' && !holdsTriple '"' line && !holdsTriple '\'' line

/-- The number of characters of a line that are shown with a number. -/
def contextLength : Nat := 50

/-- The magic numbers of a numbered line as smells. -/
def magicSmellsOf (line : List Char) (number : Nat) : List Smell :=
  if isCodeLine line then
    (magicNumbersOf line).map fun digits =>
      ⟨number, .low, .magicNumber (String.ofList digits)
        (String.ofList ((trimChars line).take contextLength))⟩
  else []

/-- The greatest number of magic numbers reported for a file. -/
def maxMagicNumbers : Nat := 10

/-- The magic numbers of numbered lines as smells, given how many more may be reported.  The lines
after the last of them are not looked at. -/
def magicSmellsAmong (room : Nat) : List (List Char × Nat) → List Smell
  | [] => []
  | (line, number) :: lines =>
    let found := (magicSmellsOf line number).take room
    if found.length = room then found
    else found ++ magicSmellsAmong (room - found.length) lines

/-- The lines that are not looked at would add nothing. -/
theorem magicSmellsAmong_eq_take (room : Nat) (lines : List (List Char × Nat)) :
    magicSmellsAmong room lines =
      (lines.flatMap fun p => magicSmellsOf p.1 p.2).take room := by
  induction lines generalizing room with
  | nil => simp [magicSmellsAmong]
  | cons numbered lines ih =>
    obtain ⟨line, number⟩ := numbered
    rw [magicSmellsAmong, List.flatMap_cons, List.take_append]
    have hlength := List.length_take (i := room) (l := magicSmellsOf line number)
    simp only
    split
    · next hfull =>
      -- the room is used up on this line
      have hnone : room - (magicSmellsOf line number).length = 0 := by omega
      rw [hnone, List.take_zero, List.append_nil]
    · next hroom =>
      rw [ih]
      congr 2
      omega

/-- The magic numbers of a text, the first ones only. -/
def magicSmells (content : String) : List Smell :=
  magicSmellsAmong maxMagicNumbers ((linesOfChars content.toList).zipIdx 1)

end CodeSurvey
