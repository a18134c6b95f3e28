/-
# Reading tokens

A `Reader` stands at a place of a source text and knows the indents of the open blocks.  The gap
before a token may hold blanks, comments and line continuations; what a line end means in it
depends on where the token is looked for (`Lines`).  Blocks are opened and closed by comparing the
indent of the next line with the indents of the open blocks, so no line is ever misindented.
-/
import CodeSurvey.Syntax.Tree
import CodeSurvey.Text.Basic
import CodeSurvey.Text.NameChars

namespace CodeSurvey

/-- The state of reading a source text: what is left of it, the place reached, where the last token
or comment stopped, the indents of the open blocks (innermost first), and the comments and line
continuations met so far (latest first). -/
structure Reader where
  rest : List Char
  place : Place
  last : Place
  indents : List Nat
  extras : List Tree
  deriving Inhabited

/-- The reader at the start of a source text, outside of all blocks. -/
def Reader.ofSource (source : List Char) : Reader :=
  ⟨source, .origin, .origin, [], []⟩

/-- The indent of the innermost open block. -/
def Reader.indent (r : Reader) : Nat :=
  r.indents.headD 0

/-- A step of parsing: it gives up, or answers and moves the reader. -/
abbrev Parse := StateT Reader Option

/-! ## Repetition -/

/-- Repeats a step at most the given number of times. -/
def Parse.repeatAtMost {σ α : Type} (step : σ → Parse (σ ⊕ α)) : Nat → σ → Parse α
  | 0, _ => failure
  | n + 1, s => do
    match ← step s with
    | .inl s => repeatAtMost step n s
    | .inr a => pure a

/-- Repeats a step until it answers.  A step that asks for another round has read a character, so
the number of characters left bounds the rounds. -/
def Parse.loop {σ α : Type} (step : σ → Parse (σ ⊕ α)) (s : σ) : Parse α := do
  Parse.repeatAtMost step ((← get).rest.length + 1) s

/-! ## Moving on -/

/-- Moves over the given number of characters. -/
def Reader.skip : Nat → Reader → Reader
  | 0, r => r
  | n + 1, r =>
    match r.rest with
    | [] => r
    | c :: cs => Reader.skip n { r with rest := cs, place := r.place.advance c }

/-- Takes the next characters as a token. -/
def take (kind : Kind) (n : Nat) : Parse Tree := fun r =>
  let r' := r.skip n
  some (.leaf kind r.place r'.place, { r' with last := r'.place })

/-- Takes the next characters as a comment or a line continuation. -/
def takeExtra (kind : Kind) (n : Nat) : Parse Unit := do
  let extra ← take kind n
  modify fun r => { r with extras := extra :: r.extras }

/-! ## Gaps -/

/-- How line ends are read before a token. -/
inductive Lines where
  /-- The statement may stop before the token, and a line end stops it. -/
  | close
  /-- The statement has to go on, on another line if need be. -/
  | run
  /-- The token stands inside brackets, where line ends are blanks. -/
  | inside
  deriving Repr, DecidableEq

/-- How line ends are read where something has to follow. -/
def Lines.onward : Lines → Lines
  | close => run
  | lines => lines

/-- Blanks between tokens: the blanks of a text and three characters of zero width. -/
def isGap (c : Char) : Bool :=
  isBlank c || c == '\uFEFF' || c == '\u2060' || c == '\u200B'

/-- The number of characters of a line continuation: a backslash and the line end after it. -/
def continuation? : List Char → Option Nat
  | '\\' :: '\n' :: _ => some 2
  | '\\' :: '\r' :: '\n' :: _ => some 3
  | _ => none

/-- Whether nothing but blanks and line continuations stands before the next line end. -/
def atLineEnd : List Char → Bool
  | [] => true
  | '\\' :: [] => true
  | '\\' :: '\n' :: cs => atLineEnd cs
  | '\\' :: '\r' :: '\n' :: cs => atLineEnd cs
  | c :: cs =>
    if c = '\n' then true
    else if c = ' ' || c = '\t' || c = '\r' || c = '\x0c' then atLineEnd cs
    else false

/-- What the coming lines show: whether a line end was met, the indent of the first line with a
token, and the indent of the first comment line before it. -/
structure Outlook where
  lineEnd : Bool
  indent : Nat
  comment : Option Nat
  deriving Repr, DecidableEq

/-- Looks at the coming lines.  A space is one column and a tab eight; form feeds and carriage
returns go back to the first column.  The end of the text counts as a line end at column zero. -/
def outlook (inComment : Bool) (o : Outlook) : List Char → Option Outlook
  | [] => some { o with lineEnd := true, indent := 0 }
  | '\\' :: cs =>
    if inComment then outlook inComment o cs
    else match cs with
      | [] => outlook false o []
      | '\n' :: cs => outlook false o cs
      | '\r' :: '\n' :: cs => outlook false o cs
      | _ => none
  | c :: cs =>
    if inComment then
      if c = '\n' then outlook false { o with indent := 0 } cs else outlook true o cs
    else if c = '\n' then outlook false { o with lineEnd := true, indent := 0 } cs
    else if c = ' ' then outlook false { o with indent := o.indent + 1 } cs
    else if c = '\t' then outlook false { o with indent := o.indent + 8 } cs
    else if c = '\r' || c = '\x0c' then outlook false { o with indent := 0 } cs
    else if c = '#' then
      if o.lineEnd then outlook true { o with comment := o.comment.or (some o.indent) } cs
      else none
    else some o

/-- What the lines after the reader show. -/
def Reader.outlook (r : Reader) : Option Outlook :=
  CodeSurvey.outlook false ⟨false, 0, none⟩ r.rest

/-- The indent after the coming line ends, where comments are not looked through. -/
def fallIndent (found : Bool) (indent : Nat) : List Char → Option Nat
  | [] => some 0
  | '\\' :: '\n' :: cs => fallIndent found indent cs
  | '\\' :: '\r' :: '\n' :: cs => fallIndent found indent cs
  | c :: cs =>
    if c = '\n' then fallIndent true 0 cs
    else if c = ' ' then fallIndent found (indent + 1) cs
    else if c = '\t' then fallIndent found (indent + 8) cs
    else if c = '\r' || c = '\x0c' then fallIndent found 0 cs
    else if found then some indent
    else none

/-- Whether the next line falls back behind the innermost open block. -/
def Reader.fallsBack (r : Reader) : Bool :=
  match fallIndent false 0 r.rest with
  | some indent => indent < r.indent
  | none => false

/-- Reads one comment or line continuation after blanks, if one comes next. -/
def extra? : Parse Bool := do
  modify fun r => r.skip (r.rest.takeWhile isGap).length
  let cs := (← get).rest
  match cs with
  | '#' :: _ => do
    takeExtra .comment (cs.takeWhile (· != '\n')).length
    pure true
  | _ =>
    match continuation? cs with
    | some n => do
      takeExtra .lineContinuation n
      pure true
    | none => pure false

/-- Reads the gap before a token.  A line end that stops the statement is left unread. -/
def gap (lines : Lines) : Parse Unit :=
  Parse.loop (fun _ => do
    let r ← get
    match lines with
    | .close => if atLineEnd r.rest then return .inr ()
    | .run => if r.fallsBack then failure
    | .inside => pure ()
    if ← extra? then pure (.inl ()) else pure (.inr ())) ()

/-- The characters from the next token on; none if a line end stops the statement. -/
def upcoming (lines : Lines) : Parse (List Char) := do
  gap lines
  let cs := (← get).rest
  if lines = .close && atLineEnd cs then pure [] else pure cs

/-! ## Blocks -/

/-- Whether the next line closes the innermost open block: it is indented less, and so is a comment
line before it. -/
def Reader.closesBlock (r : Reader) : Bool :=
  match r.outlook with
  | some o => o.lineEnd && o.indent < r.indent && o.comment.all (· < r.indent)
  | none => false

/-- Goes to the start of the next statement; answers whether the open block is closed instead. -/
def lineStart : Parse Bool :=
  Parse.loop (fun _ => do
    if (← get).closesBlock then pure (.inr true)
    else if ← extra? then pure (.inl ())
    else pure (.inr false)) ()

/-- A mark without extent, where the last token or comment stopped. -/
def emptyMark : Parse Tree := do
  let last := (← get).last
  pure (.leaf .mark last last)

/-- The line end that stops a statement. -/
def lineEnd : Parse Tree := do
  gap .close
  guard (atLineEnd (← get).rest)
  emptyMark

/-! ## Marks -/

/-- The marks of the language, longer ones before their beginnings. -/
def marks : List String :=
  ["**=", "//=", ">>=", "<<=", "...", "**", "//", ">>", "<<", "<=", ">=", "==", "!=", "<>", "->",
  "+=", "-=", "*=", "/=", "%=", "&=", "|=", "^=", "@=", ":=", "+", "-", "*", "/", "%", "@", "&",
  "|", "^", "~", "<", ">", "(", ")", "[", "]", "\x7b", "\x7d", ",", ":", ".", ";", "="]

/-- The longest mark that the characters start with, or the empty text. -/
def markOf (cs : List Char) : String :=
  (marks.find? fun m => m.toList.isPrefixOf cs).getD ""

/-- The mark that comes next, or the empty text. -/
def peekMark (lines : Lines) : Parse String := do
  return markOf (← upcoming lines)

/-- Reads a given mark. -/
def mark (lines : Lines) (m : String) : Parse Tree := do
  guard ((← peekMark lines) = m)
  take .mark m.length

/-- Reads a single character as a mark, whatever longer mark starts there. -/
def charMark (lines : Lines) (c : Char) : Parse Tree := do
  guard ((← upcoming lines).head? = some c)
  take .mark 1

/-! ## Words -/

/-- The words that are never names. -/
def reservedWords : List String :=
  ["False", "None", "True", "and", "as", "assert", "break", "class", "continue", "def", "del",
  "elif", "else", "except", "finally", "for", "from", "global", "if", "import", "in", "is",
  "lambda", "nonlocal", "not", "or", "pass", "raise", "return", "try", "while", "with", "yield"]

/-- The characters of the word that comes first, none if no word does. -/
def wordOf : List Char → List Char
  | c :: cs => if isNameStart c then c :: cs.takeWhile isNameRest else []
  | [] => []

/-- The word that comes next, or the empty text. -/
def peekWord (lines : Lines) : Parse String := do
  return String.ofList (wordOf (← upcoming lines))

/-- Reads a given word as a mark. -/
def keyword (lines : Lines) (w : String) : Parse Tree := do
  guard ((← peekWord lines) = w)
  take .mark w.length

/-- Reads a word that is not reserved. -/
def name (lines : Lines) : Parse Tree := do
  let w ← peekWord lines
  guard (w ≠ "" ∧ w ∉ reservedWords)
  take .identifier w.length

/-! ## Lists -/

/-- Whether a step succeeds here; the reader stays. -/
def succeeds {α : Type} (p : Parse α) : Parse Bool := fun r =>
  some ((p r).isSome, r)

/-- Items with commas between them, the commas included.  After a comma another item is read if one
may start there. -/
def commaList (lines : Lines) (more : Parse Bool) (item : Parse Tree) : Parse (List Tree) := do
  let first ← item
  Parse.loop (fun (acc : List Tree) => do
    if (← peekMark lines) = "," then
      let comma ← mark lines ","
      if ← more then
        let next ← item
        pure (.inl (next :: comma :: acc))
      else pure (.inr (comma :: acc).reverse)
    else pure (.inr acc.reverse)) [first]

/-- Items with commas between them and none after the last. -/
def commaList1 (lines : Lines) (item : Parse Tree) : Parse (List Tree) :=
  commaList lines (pure true) item

end CodeSurvey
