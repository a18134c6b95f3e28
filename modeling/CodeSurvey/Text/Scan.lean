/-
# Scanning texts

Small steps over a list of characters, for the readers of data formats.
-/
import CodeSurvey.Text.Basic

namespace CodeSurvey

/-- A step over characters: it gives up, or answers with what is left. -/
abbrev Scan := StateT (List Char) Option

namespace Scan

/-- Repeats a step at most the given number of times. -/
def repeatAtMost {σ α : Type} (step : σ → Scan (σ ⊕ α)) : Nat → σ → Scan α
  | 0, _ => failure
  | n + 1, s => do
    match ← step s with
    | .inl s => repeatAtMost step n s
    | .inr a => pure a

/-- Repeats a step until it answers; every round but the last reads a character. -/
def loop {σ α : Type} (step : σ → Scan (σ ⊕ α)) (s : σ) : Scan α := do
  repeatAtMost step ((← get).length + 1) s

/-- The next character, which stays. -/
def peek : Scan (Option Char) := do
  return (← get).head?

/-- Reads the next character. -/
def next : Scan Char := fun
  | c :: cs => some (c, cs)
  | [] => none

/-- Reads a given character. -/
def char (c : Char) : Scan Unit := do
  guard ((← next) = c)

/-- Reads the given characters. -/
def chars (expected : List Char) : Scan Unit := do
  let cs ← get
  guard (expected.isPrefixOf cs)
  set (cs.drop expected.length)

/-- Whether the given characters come next; they are read if so. -/
def accept (expected : List Char) : Scan Bool := do
  let cs ← get
  if expected.isPrefixOf cs then
    set (cs.drop expected.length)
    pure true
  else pure false

/-- Reads characters while they satisfy a test. -/
def takeWhile (p : Char → Bool) : Scan (List Char) := do
  let cs ← get
  set (cs.dropWhile p)
  return cs.takeWhile p

/-- Reads the given number of characters. -/
def take (n : Nat) : Scan (List Char) := do
  let cs ← get
  let taken := cs.take n
  guard (taken.length = n)
  set (cs.drop n)
  return taken

/-- The answer of a step on a whole text. -/
def runAll {α : Type} (p : Scan α) (cs : List Char) : Option α :=
  match p cs with
  | some (a, []) => some a
  | _ => none

end Scan

/-! ## Numbers -/

/-- The value of a digit in a base up to sixteen. -/
def digitValue? (base : Nat) (c : Char) : Option Nat :=
  let v :=
    if isAsciiDigit c then some (c.toNat - '0'.toNat)
    else if 'a' ≤ c && c ≤ 'f' then some (c.toNat - 'a'.toNat + 10)
    else if 'A' ≤ c && c ≤ 'F' then some (c.toNat - 'A'.toNat + 10)
    else none
  v.filter (· < base)

/-- The value of digits in a base; characters that are no digits count nothing. -/
def digitsValue (base : Nat) (cs : List Char) : Nat :=
  cs.foldl (fun n c => match digitValue? base c with
    | some d => n * base + d
    | none => n) 0

/-- The floating-point number next to `digits * 10 ^ exponent`.  Exponents beyond the range of
floating-point numbers are cut off before anything is computed. -/
def floatOfDecimal (negative : Bool) (digits : Nat) (exponent : Int) : Float :=
  let magnitude :=
    if digits = 0 then 0.0
    else if exponent > 400 then 1.0 / 0.0
    else if exponent < -(400 + (digits.log2 : Int)) then 0.0
    else Float.ofScientific digits (exponent < 0) exponent.natAbs
  if negative then -magnitude else magnitude

end CodeSurvey
