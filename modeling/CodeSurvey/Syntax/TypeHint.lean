/-
# Annotations

An annotation that begins with a name and an opening bracket is a generic type, and what follows a
bar after it is another type.  Any other annotation is an expression as a whole.
-/
import CodeSurvey.Syntax.Expression

namespace CodeSurvey

/-- Types in brackets, the arguments of a generic type or the parameters of a definition. -/
def typeParameter (g : Rules) (lines : Lines) : Parse Tree := do
  let opening ← mark lines "["
  let more : Parse Bool := do return (← peekMark .inside) ≠ "]"
  let types ← commaList .inside more (g.typeHint .inside true)
  return .ofParts .typeParameter (opening :: types ++ [← mark .inside "]"])

/-- Whether a generic type comes next: a name, other than a word with a use of its own, and a
bracket. -/
def genericNext (lines : Lines) : Parse Bool :=
  succeeds (do
    guard ((quotation? (← upcoming lines.onward)).isNone)
    guard ((← peekWord lines.onward) ∉ ["print", "exec", "async", "await", "match"])
    let _ ← name lines.onward
    mark lines "[")

/-- Whether a starred name comes next, and nothing that makes it part of an expression. -/
def splatTypeNext (lines : Lines) : Parse Bool :=
  succeeds (do
    let m ← peekMark lines.onward
    guard (m = "*" ∨ m = "**")
    let _ ← mark lines.onward m
    let _ ← name lines.onward
    let m' ← peekMark lines
    guard (m' ≠ "." ∧ m' ≠ "[" ∧ m' ≠ "("))

/-- The first part of an annotation, and whether it is an expression. -/
def typeHintHead (g : Rules) (lines : Lines) : Parse (Tree × Bool) := do
  if ← genericNext lines then
    let name ← name lines.onward
    return (.ofParts .genericType [name, ← typeParameter g lines], false)
  if ← splatTypeNext lines then
    let stars ← mark lines.onward (← peekMark lines.onward)
    return (.ofParts .splatType [stars, ← name lines.onward], false)
  return (← expression g lines .any, true)

/-- An annotation.  Where bounds are allowed, a colon adds one. -/
def typeHint (g : Rules) (lines : Lines) (bounded : Bool) : Parse Tree := do
  let (head, plain) ← typeHintHead g lines
  Parse.loop (fun ((left, plain) : Tree × Bool) => do
    let m ← peekMark lines
    if !plain && m = "|" then
      let bar ← mark lines "|"
      let right ← g.typeHint lines false
      pure (.inl (.ofParts .typeHint [.ofParts .unionType [left, bar, right]], false))
    else if !plain && m = "." then
      let point ← mark lines "."
      let member ← name lines.onward
      pure (.inl (.ofParts .typeHint [.ofParts .memberType [left, point, member]], false))
    else if bounded && m = ":" then
      let colon ← mark lines ":"
      let bound ← g.typeHint lines true
      pure (.inr (.ofParts .typeHint [.ofParts .constrainedType [left, colon, bound]]))
    else pure (.inr left)) (.ofParts .typeHint [head], plain)

end CodeSurvey
