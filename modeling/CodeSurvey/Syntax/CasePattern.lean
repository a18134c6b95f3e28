/-
# Patterns of a case clause

A pattern is a value, a name, an alternative of patterns, a sequence, a mapping or a class with
patterns, possibly captured under a name.
-/
import CodeSurvey.Syntax.Expression

namespace CodeSurvey

/-- Names with points between them. -/
def dottedName (lines : Lines) : Parse Tree := do
  Parse.loop (fun (acc : List Tree) => do
    if (← upcoming lines).head? = some '.' then
      let point ← charMark lines '.'
      let next ← name lines.onward
      pure (.inl (next :: point :: acc))
    else pure (.inr (.ofParts .dottedName acc.reverse))) [← name lines.onward]

/-- A number with a sign, or a complex number as a sum. -/
def numberPattern (lines : Lines) : Parse Tree := do
  let sign ← if (← peekMark lines) = "-" then pure [← mark lines "-"] else pure []
  let _ ← upcoming lines
  let first ← number
  let m ← peekMark lines
  if m = "+" || m = "-" then
    let op ← mark lines m
    let _ ← upcoming lines
    return .ofParts .complexPattern (sign ++ [first, op, ← number])
  match sign with
  | [] => pure first
  | _ => pure (.ofParts .casePattern (sign ++ [first]))

/-- A starred name. -/
def splatPattern (lines : Lines) (stars : String) : Parse Tree := do
  let star ← mark lines stars
  return .ofParts .splatPattern [star, ← name lines]

/-- Patterns in brackets. -/
def enclosedPatterns (lines : Lines) (kind : Kind) (opening closing : String) (item : Parse Tree) :
    Parse Tree := do
  let left ← mark lines opening
  let more : Parse Bool := do return (← peekMark .inside) ≠ closing
  let items ← if ← more then commaList .inside more item else pure []
  return .ofParts kind (left :: items ++ [← mark .inside closing])

/-- A key with the pattern of its value, or the rest of a mapping. -/
def mappingItem (g : Rules) (simple : Lines → Parse Tree) : Parse Tree := do
  if (← peekMark .inside) = "**" then splatPattern .inside "**"
  else
    let key ← simple .inside
    let colon ← mark .inside ":"
    let value ← g.pattern .inside
    return .ofParts .pair [key.withField .key, colon, value.withField .value]

/-- A pattern without alternatives, over the rule for the keys of a mapping. -/
def closedPattern (g : Rules) (keys : Lines → Parse Tree) (lines : Lines) : Parse Tree := do
  let cs ← upcoming lines
  if (quotation? cs).isSome then strings g lines
  else match String.ofList (wordOf cs) with
    | "" =>
      match markOf cs with
      | "(" => enclosedPatterns lines .tuplePattern "(" ")" (g.pattern .inside)
      | "[" => enclosedPatterns lines .listPattern "[" "]" (g.pattern .inside)
      | "\x7b" =>
        enclosedPatterns lines .dictionaryPattern "\x7b" "\x7d" (mappingItem g keys)
      | "*" => splatPattern lines "*"
      | "**" => splatPattern lines "**"
      | _ => numberPattern lines
    | w =>
      match constantKind? w with
      | some k => take k w.length
      | none =>
        let head ← dottedName lines
        if (← peekMark lines) = "(" then
          let inner ← enclosedPatterns lines .classPattern "(" ")" (g.pattern .inside)
          return .ofParts .classPattern (head :: inner.children)
        pure head

/-- Alternatives with bars. -/
def alternatives (g : Rules) (keys : Lines → Parse Tree) (lines : Lines) : Parse Tree := do
  Parse.loop (fun (acc : List Tree) => do
    if (← peekMark lines) = "|" then
      let bar ← mark lines "|"
      let next ← closedPattern g keys lines
      pure (.inl (next :: bar :: acc))
    else
      match acc with
      | [one] => pure (.inr one)
      | _ => pure (.inr (.ofParts .unionPattern acc.reverse))) [← closedPattern g keys lines]

/-- A key of a mapping: a value, or alternatives of values. -/
def keyPattern (g : Rules) (lines : Lines) : Parse Tree :=
  alternatives g (fun _ => failure) lines

/-- A pattern of a case clause, possibly under a keyword or captured under names. -/
def casePattern (g : Rules) (lines : Lines) : Parse Tree := do
  let keywordNext ← succeeds (do
    let _ ← name lines
    mark lines "=")
  let first ←
    if keywordNext then
      let name ← name lines
      let equals ← mark lines "="
      pure (Tree.ofParts .keywordPattern [name, equals, ← alternatives g (keyPattern g) lines])
    else alternatives g (keyPattern g) lines
  Parse.loop (fun (t : Tree) => do
    if (← peekWord lines) = "as" then
      let word ← keyword lines "as"
      let asName ← name lines
      pure (.inl (.ofParts .casePattern [.ofParts .asPattern [t, word, asName]]))
    else pure (.inr t)) (.ofParts .casePattern [first])

end CodeSurvey
