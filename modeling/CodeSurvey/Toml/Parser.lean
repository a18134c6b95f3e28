/-
# Reading TOML

A reader of TOML 1.0 texts.  Integers have 64 bits, and a date or a time becomes a record whose
only key is `date`.
-/
import CodeSurvey.Text.Scan
import CodeSurvey.Toml.Basic

namespace CodeSurvey

namespace Toml

/-! ## Blanks and comments -/

/-- Whether a character may stand in a comment or a literal string: no control character but the
tab. -/
def isPlain (c : Char) : Bool :=
  c = '\t' || (0x20 ≤ c.toNat && c.toNat ≠ 0x7F)

/-- Reads blanks within a line. -/
def blanks : Scan Unit := do
  let _ ← Scan.takeWhile fun c => c = ' ' || c = '\t'

/-- Whether a line ends here; the end is read if so. -/
def newline : Scan Bool := do
  if ← Scan.accept ['\n'] then return true
  Scan.accept ['\r', '\n']

/-- Reads a comment, if there is one. -/
def comment : Scan Unit := do
  if ← Scan.accept ['#'] then
    let _ ← Scan.takeWhile isPlain

/-- Reads the rest of a line, where only a comment may stand. -/
def lineEnd : Scan Unit := do
  blanks
  comment
  if !(← newline) then guard ((← get) = [])

/-- Reads blanks, comments and line ends. -/
def gap : Scan Unit :=
  Scan.loop (fun () => do
    blanks
    comment
    if ← newline then pure (.inl ()) else pure (.inr ())) ()

/-! ## Strings -/

/-- Reads the character that the given number of hexadecimal digits stand for. -/
def codePoint (digits : Nat) : Scan Char := do
  let cs ← Scan.take digits
  guard (cs.all fun c => (digitValue? 16 c).isSome)
  let n := digitsValue 16 cs
  guard (n.isValidChar)
  return Char.ofNat n

/-- Reads the character that an escape stands for, after the backslash. -/
def escape : Scan Char := do
  match ← Scan.next with
  | 'b' => pure '\x08'
  | 't' => pure '\t'
  | 'n' => pure '\n'
  | 'f' => pure '\x0c'
  | 'r' => pure '\r'
  | '"' => pure '"'
  | '\\' => pure '\\'
  | 'u' => codePoint 4
  | 'U' => codePoint 8
  | _ => failure

/-- Reads a basic string on one line, after its first quote. -/
def basicString : Scan String :=
  Scan.loop (fun (acc : List Char) => do
    let c ← Scan.next
    if c = '"' then pure (.inr (String.ofList acc.reverse))
    else if c = '\\' then pure (.inl ((← escape) :: acc))
    else
      guard (isPlain c)
      pure (.inl (c :: acc))) []

/-- Reads a literal string on one line, after its first quote. -/
def literalString : Scan String := do
  let cs ← Scan.takeWhile fun c => c ≠ '\'' && isPlain c
  Scan.char '\''
  return String.ofList cs

/-- Reads the blanks and line ends after a backslash at the end of a line. -/
def foldedLines : Scan Unit := do
  blanks
  guard (← newline)
  Scan.loop (fun () => do
    blanks
    if ← newline then pure (.inl ()) else pure (.inr ())) ()

/-- Whether a line ends after some blanks. -/
def endsLine : List Char → Bool
  | '\n' :: _ => true
  | '\r' :: '\n' :: _ => true
  | ' ' :: cs => endsLine cs
  | '\t' :: cs => endsLine cs
  | _ => false

/-- Reads a string over several lines, after its three quotes.  The first line end is left out, and
up to two quotes may stand before the closing ones. -/
def longString (quote : Char) (escapes : Bool) : Scan String := do
  let _ ← newline
  Scan.loop (fun (acc : List Char) => do
    let quotes ← Scan.takeWhile (· = quote)
    if 3 ≤ quotes.length then
      guard (quotes.length ≤ 5)
      pure (.inr (String.ofList (acc.reverse ++ quotes.drop 3)))
    else
      let acc := quotes ++ acc
      if ← newline then pure (.inl ('\n' :: acc))
      else
        let c ← Scan.next
        if c = '\\' && escapes then
          if endsLine (← get) then
            foldedLines
            pure (.inl acc)
          else pure (.inl ((← escape) :: acc))
        else
          guard (isPlain c)
          pure (.inl (c :: acc))) []

/-- Reads a string of any kind. -/
def string : Scan String := do
  if ← Scan.accept ['"', '"', '"'] then longString '"' true
  else if ← Scan.accept ['"'] then basicString
  else if ← Scan.accept ['\'', '\'', '\''] then longString '\'' false
  else
    Scan.char '\''
    literalString

/-! ## Numbers -/

/-- Reads digits of a base, where single underscores may stand between digits. -/
def digits (base : Nat) : Scan (List Char) := do
  let isDigit := fun c => (digitValue? base c).isSome
  Scan.loop (fun (acc : List Char) => do
    let cs ← Scan.takeWhile isDigit
    guard (cs ≠ [])
    let acc := acc ++ cs
    if ← Scan.accept ['_'] then pure (.inl acc) else pure (.inr acc)) []

/-- Reads the digits of a decimal integer: a zero stands alone. -/
def wholeDigits : Scan (List Char) := do
  if ← Scan.accept ['0'] then return ['0']
  digits 10

/-- An integer of 64 bits. -/
def integer (negative : Bool) (magnitude : Nat) : Scan Json := do
  let n : Int := if negative then -magnitude else magnitude
  guard (-9223372036854775808 ≤ n ∧ n ≤ 9223372036854775807)
  return .int n

/-- Reads the exponent of a number, if there is one. -/
def exponent? : Scan (Option Int) := do
  let mark ← Scan.peek
  if mark = some 'e' || mark = some 'E' then
    let _ ← Scan.next
    let minus ← Scan.accept ['-']
    if !minus then let _ ← Scan.accept ['+']
    let n : Int := digitsValue 10 (← digits 10)
    return some (if minus then -n else n)
  return none

/-- Reads a decimal number after its sign.  A positive number beyond the range of floating-point
numbers is refused. -/
def decimal (negative : Bool) : Scan Json := do
  let whole ← wholeDigits
  let hasPoint ← Scan.accept ['.']
  let fraction ← if hasPoint then digits 10 else pure []
  let exponent ← exponent?
  let magnitude := digitsValue 10 (whole ++ fraction)
  if hasPoint || exponent.isSome then
    let x := floatOfDecimal negative magnitude (exponent.getD 0 - fraction.length)
    guard (negative || x.isFinite)
    return .num x
  else integer negative magnitude

/-- Reads a number, with or without a sign. -/
def number : Scan Json := do
  if ← Scan.accept ['0', 'x'] then integer false (digitsValue 16 (← digits 16))
  else if ← Scan.accept ['0', 'o'] then integer false (digitsValue 8 (← digits 8))
  else if ← Scan.accept ['0', 'b'] then integer false (digitsValue 2 (← digits 2))
  else
    let negative ← Scan.accept ['-']
    if !negative then let _ ← Scan.accept ['+']
    if ← Scan.accept ['i', 'n', 'f'] then
      return .num (if negative then -(1.0 / 0.0) else 1.0 / 0.0)
    else if ← Scan.accept ['n', 'a', 'n'] then return .num (0.0 / 0.0)
    else decimal negative

/-! ## Dates and times -/

/-- Reads a number of exactly the given number of digits, within bounds. -/
def field (width low high : Nat) : Scan Nat := do
  let cs ← Scan.take width
  guard (cs.all isAsciiDigit)
  let n := digitsValue 10 cs
  guard (low ≤ n ∧ n ≤ high)
  return n

/-- The number of days of a month. -/
def daysOfMonth (year month : Nat) : Nat :=
  if month = 2 then
    if year % 4 = 0 && (year % 100 ≠ 0 || year % 400 = 0) then 29 else 28
  else if [4, 6, 9, 11].contains month then 30
  else 31

/-- Reads a date. -/
def date : Scan Unit := do
  let year ← field 4 0 9999
  Scan.char '-'
  let month ← field 2 1 12
  Scan.char '-'
  let _ ← field 2 1 (daysOfMonth year month)

/-- Reads a time of day. -/
def time : Scan Unit := do
  let _ ← field 2 0 23
  Scan.char ':'
  let _ ← field 2 0 59
  Scan.char ':'
  let _ ← field 2 0 60
  if ← Scan.accept ['.'] then guard ((← Scan.takeWhile isAsciiDigit) ≠ [])

/-- Reads the distance from universal time, if there is one. -/
def zone : Scan Unit := do
  let c ← Scan.peek
  if c = some 'Z' || c = some 'z' then
    let _ ← Scan.next
  else if c = some '+' || c = some '-' then
    let _ ← Scan.next
    let _ ← field 2 0 23
    Scan.char ':'
    let _ ← field 2 0 59

/-- Whether a text starts with the given number of digits and a mark after them. -/
def startsField (width : Nat) (mark : Char) (cs : List Char) : Bool :=
  (cs.take width).length = width && (cs.take width).all isAsciiDigit && cs[width]? = some mark

/-- Reads a date with a time after it, if there is one. -/
def dateTime : Scan Unit := do
  date
  match ← get with
  | c :: cs =>
    if ['T', 't', ' '].contains c && startsField 2 ':' cs then
      set cs
      time
      zone
  | [] => pure ()

/-! ## Keys and values -/

/-- Whether a character may stand in a key without quotes. -/
def isBareKeyChar (c : Char) : Bool :=
  isAsciiLetter c || isAsciiDigit c || c = '_' || c = '-'

/-- Reads one part of a key. -/
def keyPart : Scan String := do
  if ← Scan.accept ['"'] then basicString
  else if ← Scan.accept ['\''] then literalString
  else
    let cs ← Scan.takeWhile isBareKeyChar
    guard (cs ≠ [])
    return String.ofList cs

/-- The number of parts of a key is below this. -/
def maxKeyParts : Nat := 80

/-- Reads a key: the parts before the last, and the last. -/
def key : Scan (List String × String) := do
  let (path, last) ← Scan.loop (fun (acc : List String) => do
    blanks
    let part ← keyPart
    blanks
    if ← Scan.accept ['.'] then pure (.inl (part :: acc))
    else pure (.inr (acc.reverse, part))) []
  guard (path.length + 1 < maxKeyParts)
  return (path, last)

/-- Reads a value that is neither an array nor a table. -/
def scalar : Scan Json := do
  let cs ← get
  match cs with
  | '"' :: _ => return .str (← string)
  | '\'' :: _ => return .str (← string)
  | 't' :: _ =>
    Scan.chars ['t', 'r', 'u', 'e']
    return .bool true
  | 'f' :: _ =>
    Scan.chars ['f', 'a', 'l', 's', 'e']
    return .bool false
  | _ =>
    if startsField 4 '-' cs then
      dateTime
      return .obj [("date", .null)]
    else if startsField 2 ':' cs then
      time
      return .obj [("date", .null)]
    else number

/-- Reads an assignment up to the end of its value. -/
def assignment (value : Scan Json) : Scan Assignment := do
  let (path, last) ← key
  Scan.char '='
  blanks
  return ⟨path, last, ← value⟩

/-- Reads the items of an array, after its bracket. -/
def arrayItems (value : Scan Json) : Scan (List Json) :=
  Scan.loop (fun (acc : List Json) => do
    gap
    if ← Scan.accept [']'] then pure (.inr acc.reverse)
    else
      let v ← value
      gap
      if ← Scan.accept [','] then pure (.inl (v :: acc))
      else
        Scan.char ']'
        pure (.inr (v :: acc).reverse)) []

/-- Reads the assignments of a table on one line, after its brace. -/
def inlineAssignments (value : Scan Json) : Scan (List Assignment) := do
  blanks
  if ← Scan.accept ['\x7d'] then return []
  Scan.loop (fun (acc : List Assignment) => do
    let a ← assignment value
    blanks
    if ← Scan.accept [','] then pure (.inl (a :: acc))
    else
      Scan.char '\x7d'
      pure (.inr (a :: acc).reverse)) []

/-- Reads a value inside at most the given number of brackets. -/
def value : Nat → Scan Json
  | 0 => scalar
  | depth + 1 => do
    if ← Scan.accept ['['] then
      return .arr (← arrayItems (value depth))
    else if ← Scan.accept ['\x7b'] then
      let body ← inlineAssignments (value depth)
      match Members.assignAll body [] with
      | some ms => return .obj (membersToJson ms)
      | none => failure
    else scalar

/-- The greatest number of brackets around a value. -/
def maxNesting : Nat := 79

/-! ## Documents -/

/-- Reads the header of a section. -/
def header : Scan Header := do
  let isArray ← Scan.accept ['[', '[']
  if !isArray then Scan.char '['
  let (path, last) ← key
  Scan.chars (if isArray then [']', ']'] else [']'])
  lineEnd
  return ⟨path, last, isArray⟩

/-- Reads assignments up to the next header or the end. -/
def body : Scan (List Assignment) :=
  Scan.loop (fun (acc : List Assignment) => do
    gap
    match ← Scan.peek with
    | none => pure (.inr acc.reverse)
    | some '[' => pure (.inr acc.reverse)
    | some _ =>
      let a ← assignment (value maxNesting)
      lineEnd
      pure (.inl (a :: acc))) []

/-- Reads a document. -/
def document : Scan Document := do
  let _ ← Scan.accept ['\ufeff']
  let top ← body
  let sections ← Scan.loop (fun (acc : List Section) => do
    match ← Scan.peek with
    | none => pure (.inr acc.reverse)
    | some _ =>
      let h ← header
      pure (.inl (⟨h, ← body⟩ :: acc))) []
  return ⟨top, sections⟩

/-- The data of a TOML text. -/
def parse? (s : String) : Option Json := do
  (← Scan.runAll document s.toList).toJson?

end Toml

end CodeSurvey
