/-
# Reading JSON

A reader of JSON texts.  Integers of 64 bits are kept as integers, other numbers become
floating-point numbers.  A number beyond their range and a string with half a pair of surrogates
have no value: strict reading refuses them, and lenient reading takes `null` in their place.  In
strict reading at most 127 brackets may be open at a time.
-/
import CodeSurvey.Json.Basic
import CodeSurvey.Text.Scan

namespace CodeSurvey

namespace Json

/-- Reads blanks between tokens. -/
def blanks : Scan Unit := do
  let _ ← Scan.takeWhile fun c => c == ' ' || c == '\n' || c == '\t' || c == '\r'

/-! ## Strings -/

/-- Reads four hexadecimal digits. -/
def hexUnit : Scan Nat := do
  let cs ← Scan.take 4
  guard (cs.all fun c => (digitValue? 16 c).isSome)
  return digitsValue 16 cs

/-- Reads the character that an escape with hexadecimal digits stands for, two of them for a
character beyond the first plane. -/
def unicodeEscape : Scan Char := do
  let unit ← hexUnit
  if 0xD800 ≤ unit && unit < 0xDC00 then
    Scan.chars ['\\', 'u']
    let low ← hexUnit
    guard (0xDC00 ≤ low ∧ low < 0xE000)
    return Char.ofNat (0x10000 + (unit - 0xD800) * 0x400 + (low - 0xDC00))
  guard (¬ (0xDC00 ≤ unit ∧ unit < 0xE000))
  return Char.ofNat unit

/-- Reads the character that an escape stands for, after the backslash. -/
def escape : Scan Char := do
  match ← Scan.next with
  | '"' => pure '"'
  | '\\' => pure '\\'
  | '/' => pure '/'
  | 'b' => pure '\x08'
  | 'f' => pure '\x0c'
  | 'n' => pure '\n'
  | 'r' => pure '\r'
  | 't' => pure '\t'
  | 'u' => unicodeEscape
  | _ => failure

/-- Reads one more character of a string, or its last quote. -/
def stringRound (acc : List Char) : Scan (List Char ⊕ String) := do
  let c ← Scan.next
  if c = '"' then pure (.inr (String.ofList acc.reverse))
  else if c = '\\' then pure (.inl ((← escape) :: acc))
  else
    guard (0x20 ≤ c.toNat)
    pure (.inl (c :: acc))

/-- Reads a string from its first quote on. -/
def string : Scan String := do
  Scan.char '"'
  Scan.loop stringRound []

/-- Passes over a string from its first quote on, whatever its escapes stand for. -/
def skipString : Scan Unit := do
  Scan.char '"'
  Scan.loop (fun () => do
    let c ← Scan.next
    if c = '"' then pure (.inr ())
    else if c = '\\' then
      let e ← Scan.next
      guard (['"', '\\', '/', 'b', 'f', 'n', 'r', 't', 'u'].contains e)
      if e = 'u' then let _ ← hexUnit
      pure (.inl ())
    else
      guard (0x20 ≤ c.toNat)
      pure (.inl ())) ()

/-- Reads a string as a value. -/
def stringValue (strict : Bool) : Scan Json := fun cs =>
  match string cs with
  | some (s, rest) => some (.str s, rest)
  | none =>
    if strict then none
    else (skipString cs).map fun (_, rest) => (.null, rest)

/-! ## Numbers -/

/-- Reads the digits before a point: no zero stands before other digits. -/
def wholeDigits : Scan (List Char) := do
  let cs ← Scan.takeWhile isAsciiDigit
  guard (cs ≠ [])
  guard (cs.length = 1 ∨ cs.head? ≠ some '0')
  return cs

/-- Reads the digits after a point, if there is one. -/
def fractionDigits : Scan (List Char) := do
  if ← Scan.accept ['.'] then
    let cs ← Scan.takeWhile isAsciiDigit
    guard (cs ≠ [])
    return cs
  return []

/-- Reads an exponent, if there is one. -/
def exponent? : Scan (Option Int) := do
  let mark ← Scan.peek
  if mark = some 'e' || mark = some 'E' then
    let _ ← Scan.next
    let minus ← Scan.accept ['-']
    if !minus then let _ ← Scan.accept ['+']
    let cs ← Scan.takeWhile isAsciiDigit
    guard (cs ≠ [])
    let n : Int := digitsValue 10 cs
    return some (if minus then -n else n)
  return none

/-- Reads a number. -/
def number (strict : Bool) : Scan Json := do
  let negative ← Scan.accept ['-']
  let whole ← wholeDigits
  let fraction ← fractionDigits
  let exponent ← exponent?
  let digits := digitsValue 10 (whole ++ fraction)
  if fraction = [] && exponent.isNone then
    if negative && 0 < digits && digits ≤ Nat.pow 2 63 then return .int (-digits)
    if !negative && digits < Nat.pow 2 64 then return .int digits
  let x := floatOfDecimal negative digits (exponent.getD 0 - fraction.length)
  if x.isFinite then return .num x
  guard !strict
  return .null

/-! ## Values -/

/-- Reads a comma and one more item, or the closing bracket. -/
def itemsRound {α : Type} (closing : Char) (item : Scan α) (acc : List α) :
    Scan (List α ⊕ List α) := do
  blanks
  if ← Scan.accept [closing] then pure (.inr acc.reverse)
  else
    Scan.char ','
    let next ← item
    pure (.inl (next :: acc))

/-- Reads items with commas up to a closing bracket, after the opening one. -/
def itemsUpTo {α : Type} (closing : Char) (item : Scan α) : Scan (List α) := do
  blanks
  if ← Scan.accept [closing] then return []
  let first ← item
  Scan.loop (itemsRound closing item) [first]

/-- Reads a key, a colon and a value. -/
def memberOf (value : Scan Json) : Scan (String × Json) := do
  blanks
  let key ← string
  blanks
  Scan.char ':'
  return (key, ← value)

/-- Reads a value with blanks before it, inside at most the given number of brackets. -/
def value (strict : Bool) : Nat → Scan Json
  | 0 => failure
  | depth + 1 => do
    blanks
    match ← Scan.peek with
    | some '"' => stringValue strict
    | some '[' =>
      guard (depth ≠ 0)
      Scan.char '['
      return .arr (← itemsUpTo ']' (value strict depth))
    | some '\x7b' =>
      guard (depth ≠ 0)
      Scan.char '\x7b'
      return .obj (← itemsUpTo '\x7d' (memberOf (value strict depth)))
    | some 't' =>
      Scan.chars ['t', 'r', 'u', 'e']
      return .bool true
    | some 'f' =>
      Scan.chars ['f', 'a', 'l', 's', 'e']
      return .bool false
    | some 'n' =>
      Scan.chars ['n', 'u', 'l', 'l']
      return .null
    | _ => number strict

/-- Reads a whole text as one value. -/
def wholeText (strict : Bool) (depth : Nat) : Scan Json := do
  let v ← value strict depth
  blanks
  return v

/-- The value that a JSON text stands for. -/
def parse? (s : String) : Option Json :=
  Scan.runAll (wholeText true 128) s.toList

/-- The value that a JSON text stands for, with `null` for what has no value. -/
def parseLenient? (s : String) : Option Json :=
  Scan.runAll (wholeText false (s.length + 1)) s.toList

end Json

end CodeSurvey
