/-
# Quoted strings

A string opens with letters that say how its content is read and one or three quotes, and closes
with the same quotes.  Formatted strings hold replacement fields in braces.
-/
import CodeSurvey.Syntax.Number
import CodeSurvey.Syntax.Rules

namespace CodeSurvey

/-- How a string is quoted: its quote, whether it stands three times, and how the content is read. -/
structure Quotation where
  quote : Char
  triple : Bool
  formatted : Bool
  raw : Bool
  bytes : Bool
  deriving Repr, DecidableEq

/-- The letters that may stand before a quote. -/
def quotationLetters : List Char :=
  ['f', 'F', 't', 'T', 'r', 'R', 'b', 'B', 'u', 'U']

/-- The quotes: single, double, and the backquote. -/
def quoteMarks : List Char :=
  ['\'', '"', Char.ofNat 0x60]

/-- The quotation that the characters open, with the number of characters that open it. -/
def quotation? (cs : List Char) : Option (Quotation × Nat) :=
  let letters := cs.takeWhile quotationLetters.contains
  let has (either : List Char) := letters.any either.contains
  match cs.drop letters.length with
  | q :: rest =>
    if quoteMarks.contains q then
      let triple := q != Char.ofNat 0x60 && [q, q].isPrefixOf rest
      some (⟨q, triple, has ['f', 'F', 't', 'T'], has ['r', 'R'], has ['b', 'B']⟩,
        letters.length + if triple then 3 else 1)
    else none
  | [] => none

/-- The characters that close a quotation. -/
def Quotation.closing (q : Quotation) : List Char :=
  List.replicate (if q.triple then 3 else 1) q.quote

/-- The number of characters of a line end that comes first. -/
def lineEndLength : List Char → Nat
  | '\r' :: '\n' :: _ => 2
  | '\r' :: _ => 1
  | '\n' :: _ => 1
  | _ => 0

/-- The number of characters that a backslash takes along in a raw string: a quote or another
backslash, then a line end. -/
def rawEscapeLength (quote : Char) (cs : List Char) : Nat :=
  let n := oneOf [quote, '\\'] cs
  n + lineEndLength (cs.drop n)

/-- The number of characters that a backslash takes along in a string that is not raw: a quote, a
backslash, a line end, or a character's name in braces. -/
def escapeLength (q : Quotation) : List Char → Nat
  | '\r' :: '\n' :: _ => 2
  | 'N' :: '\x7b' :: c :: cs =>
    let n := ((c :: cs).takeWhile (· != '\x7d')).length
    if !q.bytes && n ≠ 0 && n < (c :: cs).length then n + 3 else 0
  | c :: _ => if ['\'', '"', '\\', '\n'].contains c then 1 else 0
  | [] => 0

/-- What comes next in the content of a string. -/
inductive Piece where
  /-- The closing quotes. -/
  | closing
  /-- A replacement field. -/
  | field
  /-- So many characters; a plain character leaves no room for a line end after it. -/
  | content (n : Nat) (plain : Bool)
  deriving Repr, DecidableEq

/-- Tells what comes next in the content of a string.  A string in single quotes has no line end
after a plain character. -/
def piece? (q : Quotation) (afterPlain : Bool) (cs : List Char) : Option Piece :=
  if q.closing.isPrefixOf cs then some .closing
  else match cs with
    | [] => none
    | '\\' :: cs =>
      if q.raw then some (.content (1 + rawEscapeLength q.quote cs) false)
      else some (.content (1 + escapeLength q cs) false)
    | c :: cs =>
      if q.formatted && (c = '\x7b' || c = '\x7d') then
        if cs.head? = some c then some (.content 2 false)
        else if c = '\x7b' then some .field
        else none
      else if c = '\n' && afterPlain && !q.triple then none
      else some (.content 1 true)

/-- Content between two places, if there is any. -/
def contentBetween (s t : Place) : List Tree :=
  if s.offset < t.offset then [.leaf .stringContent s t] else []

/-- A string from its opening to its closing quotes. -/
def quotedString (g : Rules) : Parse Tree := do
  match quotation? (← get).rest with
  | none => failure
  | some (q, n) =>
    let opening ← take .stringStart n
    Parse.loop (fun ((acc, start, afterPlain) : List Tree × Place × Bool) => do
      let r ← get
      match piece? q afterPlain r.rest with
      | none => failure
      | some .closing =>
        let closing ← take .stringEnd q.closing.length
        pure (.inr (.ofParts .string (closing :: contentBetween start r.place ++ acc).reverse))
      | some .field =>
        let field ← g.interpolation
        pure (.inl (field :: contentBetween start r.place ++ acc, (← get).place, false))
      | some (.content k plain) =>
        let _ ← take .stringContent k
        pure (.inl (acc, start, plain)))
      ([opening], (← get).place, false)

/-- One string, or several in a row as one value. -/
def strings (g : Rules) (lines : Lines) : Parse Tree := do
  let first ← quotedString g
  Parse.loop (fun (acc : List Tree) => do
    if (quotation? (← upcoming lines)).isSome then
      let next ← quotedString g
      pure (.inl (next :: acc))
    else
      match acc with
      | [one] => pure (.inr one)
      | _ => pure (.inr (.ofParts .concatenatedString acc.reverse))) [first]

/-! ## Replacement fields -/

/-- The conversion of a replacement field: an exclamation mark and a letter. -/
def conversion? : Parse (List Tree) := do
  match ← upcoming .inside with
  | '!' :: c :: _ => if 'a' ≤ c && c ≤ 'z' then return [← take .typeConversion 2] else return []
  | _ => return []

/-- The format of a replacement field: text up to the closing brace, which may hold fields. -/
def formatSpecifier? (g : Rules) : Parse (List Tree) := do
  if (← upcoming .inside).head? ≠ some ':' then return []
  let colon ← take .mark 1
  Parse.loop (fun (acc : List Tree) => do
    match (← get).rest with
    | '\x7b' :: _ => pure (.inl ((← g.interpolation) :: acc))
    | '\x7d' :: _ => pure (.inr [.ofParts .formatSpecifier acc.reverse])
    | '\n' :: _ =>
      modify (·.skip 1)
      pure (.inl acc)
    | [] => failure
    | cs =>
      let n := (cs.takeWhile fun c => c != '\x7b' && c != '\x7d' && c != '\n').length
      pure (.inl ((← take .mark n) :: acc))) [colon]

/-- A replacement field over the rule for its expressions. -/
def interpolationOver (g : Rules) (expressions : Parse Tree) : Parse Tree := do
  let opening ← charMark .inside '\x7b'
  let value ← expressions
  let equals ← if (← peekMark .inside) = "=" then pure [← mark .inside "="] else pure []
  let conversion ← conversion?
  let format ← formatSpecifier? g
  let closing ← charMark .inside '\x7d'
  return .ofParts .interpolation
    (opening :: value.withField .expression :: equals ++ conversion ++ format ++ [closing])

end CodeSurvey
