/-
# JSON texts

Two layouts of a value: on one line, and with members and items on lines of their own.
-/
import CodeSurvey.Decimal.Notation
import CodeSurvey.Json.Basic

namespace CodeSurvey

/-- The hexadecimal digit of a number below sixteen. -/
def hexDigit (n : Nat) : Char :=
  if n < 10 then Char.ofNat ('0'.toNat + n) else Char.ofNat ('a'.toNat + (n - 10))

/-- A character as it stands in a string: quotes, backslashes and control characters are escaped. -/
def escapeChar (c : Char) : List Char :=
  if c = '"' then ['\\', '"']
  else if c = '\\' then ['\\', '\\']
  else if c = '\n' then ['\\', 'n']
  else if c = '\r' then ['\\', 'r']
  else if c = '\t' then ['\\', 't']
  else if c = '\x08' then ['\\', 'b']
  else if c = '\x0c' then ['\\', 'f']
  else if c.toNat < 0x20 then
    ['\\', 'u', '0', '0', hexDigit (c.toNat / 16), hexDigit (c.toNat % 16)]
  else [c]

/-- A text as a string. -/
def quoteText (s : String) : String :=
  String.ofList ('"' :: s.toList.flatMap escapeChar ++ ['"'])

/-- A number; what is not finite has no text and becomes `null`. -/
def numberText (x : Float) : String :=
  (floatDataText? x).getD "null"

namespace Json

mutual
/-- A value on one line. -/
def compact : Json → String
  | null => "null"
  | bool b => if b then "true" else "false"
  | int n => toString n
  | num x => numberText x
  | str s => quoteText s
  | arr items => "[" ++ ",".intercalate (compactItems items) ++ "]"
  | obj members => "\x7b" ++ ",".intercalate (compactMembers members) ++ "\x7d"

/-- The items of an array, each on one line. -/
def compactItems : List Json → List String
  | [] => []
  | v :: vs => compact v :: compactItems vs

/-- The members of an object, each on one line. -/
def compactMembers : List (String × Json) → List String
  | [] => []
  | (k, v) :: ms => (quoteText k ++ ":" ++ compact v) :: compactMembers ms
end

/-- Two spaces for every level. -/
def indentText (level : Nat) : String :=
  String.ofList (List.replicate (2 * level) ' ')

/-- Lines between brackets, or just the brackets. -/
def enclose (level : Nat) (opening closing : String) : List String → String
  | [] => opening ++ closing
  | lines =>
    let inner := lines.map (indentText (level + 1) ++ ·)
    opening ++ "\n" ++ ",\n".intercalate inner ++ "\n" ++ indentText level ++ closing

mutual
/-- A value with its items and members on lines of their own, starting at a level. -/
def prettyAt (level : Nat) : Json → String
  | null => "null"
  | bool b => if b then "true" else "false"
  | int n => toString n
  | num x => numberText x
  | str s => quoteText s
  | arr items => enclose level "[" "]" (prettyItems (level + 1) items)
  | obj members => enclose level "\x7b" "\x7d" (prettyMembers (level + 1) members)

/-- The items of an array at a level. -/
def prettyItems (level : Nat) : List Json → List String
  | [] => []
  | v :: vs => prettyAt level v :: prettyItems level vs

/-- The members of an object at a level. -/
def prettyMembers (level : Nat) : List (String × Json) → List String
  | [] => []
  | (k, v) :: ms => (quoteText k ++ ": " ++ prettyAt level v) :: prettyMembers level ms
end

/-- A value with its items and members on lines of their own. -/
def pretty (v : Json) : String := v.prettyAt 0

end Json

end CodeSurvey
