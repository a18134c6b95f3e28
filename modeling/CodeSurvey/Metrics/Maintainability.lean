/-
# The maintainability index

A score from 0 to 100 made of the volume, the complexity, the source lines and the comments of a
file, and its rank.
-/
namespace CodeSurvey

/-- How maintainable a file is. -/
inductive Rank where
  | a
  | b
  | c
  deriving Repr, DecidableEq

/-- The rank of a score. -/
def Rank.ofScore (score : Float) : Rank :=
  if score ≥ 20 then .a else if score ≥ 10 then .b else .c

/-- The letter of a rank. -/
def Rank.letter : Rank → String
  | a => "A"
  | b => "B"
  | c => "C"

/-- The word for a rank. -/
def Rank.description : Rank → String
  | a => "good"
  | b => "moderate"
  | c => "poor"

/-- The number of radians in a degree. -/
def radiansPerDegree : Float :=
  3.141592653589793 / 180

/-- A number brought into an interval. -/
def clampFloat (low high x : Float) : Float :=
  if x < low then low else if x > high then high else x

/-- The maintainability index.  A file without operators or source lines has the full score. -/
def maintainabilityIndex (volume : Float) (complexity sloc : Nat) (commentPercent : Float) :
    Float :=
  if volume ≤ 0 || sloc = 0 then 100
  else
    let comments := (2.46 * (commentPercent * radiansPerDegree)).sqrt.sin
    let raw := 171 - 5.2 * volume.log - 0.23 * complexity.toFloat - 16.2 * sloc.toFloat.log
      + 50 * comments
    clampFloat 0 100 (raw * 100 / 171)

/-- A score with its rank. -/
structure Maintainability where
  score : Float
  rank : Rank

/-- The rank is that of the score. -/
def Maintainability.ofScore (score : Float) : Maintainability :=
  ⟨score, .ofScore score⟩

end CodeSurvey
