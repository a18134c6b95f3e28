/-
# Numbers

The extent of a number at the start of a list of characters.  Of the readings as an integer and as a
floating-point number the longer one counts.
-/
import CodeSurvey.Text.Basic

namespace CodeSurvey

/-- The length of a run of digits, where single underscores may follow digits. -/
def digitRun (isDigit : Char → Bool) (afterDigit : Bool) : List Char → Nat
  | [] => 0
  | c :: cs =>
    if isDigit c then digitRun isDigit true cs + 1
    else if c = '_' && afterDigit then digitRun isDigit false cs + 1
    else 0

/-- The length of a run of digits, where single underscores may stand before digits. -/
def digitRunAfter (isDigit : Char → Bool) : List Char → Nat
  | [] => 0
  | '_' :: c :: cs => if isDigit c then digitRunAfter isDigit cs + 2 else 0
  | c :: cs => if isDigit c then digitRunAfter isDigit cs + 1 else 0

/-- Whether a character is a hexadecimal digit. -/
def isHexDigit (c : Char) : Bool :=
  isAsciiDigit c || ('a' ≤ c && c ≤ 'f') || ('A' ≤ c && c ≤ 'F')

/-- The digits of the base that a letter after a leading zero stands for. -/
def baseDigit? : Char → Option (Char → Bool)
  | 'x' | 'X' => some isHexDigit
  | 'o' | 'O' => some fun c => '0' ≤ c && c ≤ '7'
  | 'b' | 'B' => some fun c => c == '0' || c == '1'
  | _ => none

/-- One if a character of the given ones comes first, else zero. -/
def oneOf (choice : List Char) (cs : List Char) : Nat :=
  if cs.head?.any (choice.contains ·) then 1 else 0

/-- The length of an integer with a base letter, zero if there is none. -/
def basedLength : List Char → Nat
  | '0' :: x :: cs =>
    match baseDigit? x with
    | some isDigit =>
      let n := digitRunAfter isDigit cs
      if n = 0 then 0 else 2 + n + oneOf ['L', 'l'] (cs.drop n)
    | none => 0
  | _ => 0

/-- The length of an integer, zero if there is none.  A letter for long or imaginary numbers may
follow decimal digits. -/
def integerLength (cs : List Char) : Nat :=
  let based := basedLength cs
  if based ≠ 0 then based
  else
    let n := digitRun isAsciiDigit false cs
    if n = 0 then 0 else n + oneOf ['L', 'l', 'J', 'j'] (cs.drop n)

/-- The length of an exponent, zero if there is none. -/
def exponentLength (cs : List Char) : Nat :=
  if oneOf ['e', 'E'] cs = 0 then 0
  else
    let sign := oneOf ['+', '-'] (cs.drop 1)
    let n := digitRun isAsciiDigit false (cs.drop (1 + sign))
    if n = 0 then 0 else 1 + sign + n

/-- The length of a floating-point number, zero if there is none: digits with a point or an exponent
or both. -/
def floatLength (cs : List Char) : Nat :=
  let whole := digitRun isAsciiDigit false cs
  let point := oneOf ['.'] (cs.drop whole)
  let fraction := if point = 0 then 0 else digitRun isAsciiDigit false (cs.drop (whole + 1))
  let mantissa := whole + point + fraction
  let exponent := exponentLength (cs.drop mantissa)
  if whole + fraction = 0 || point + exponent = 0 then 0
  else mantissa + exponent + oneOf ['j', 'J'] (cs.drop (mantissa + exponent))

end CodeSurvey
