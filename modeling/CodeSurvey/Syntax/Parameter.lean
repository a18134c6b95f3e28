/-
# Parameters

The parameters of a function in any order: names with or without annotations and defaults, starred
parameters, bare separators, and tuples of targets.
-/
import CodeSurvey.Syntax.Rules
import CodeSurvey.Syntax.Target

namespace CodeSurvey

/-- A default value after an equals sign, if there is one. -/
def defaultValue? (g : Rules) (lines : Lines) : Parse (List Tree) := do
  if (← peekMark lines) = "=" then
    let equals ← mark lines "="
    return [equals, (← g.expression lines .any).withField .value]
  return []

/-- An annotation after a colon, if one is allowed and there. -/
def parameterType? (g : Rules) (lines : Lines) (typed : Bool) : Parse (List Tree) := do
  if typed && (← peekMark lines) = ":" then
    let colon ← mark lines ":"
    return [colon, (← g.typeHint lines true).withField .type]
  return []

/-- A starred parameter, over the rule for its name. -/
def starredParameter (g : Rules) (lines : Lines) (typed : Bool) (kind : Kind) (stars : String)
    (target : Lines → Parse Tree) : Parse Tree := do
  let star ← mark lines stars
  let splat := Tree.ofParts kind [star, ← target lines]
  match ← parameterType? g lines typed with
  | [] => pure splat
  | hint => pure (.ofParts .typedParameter (splat :: hint))

/-- One parameter.  A star right before a comma or the closing character is a separator. -/
def parameter (g : Rules) (lines : Lines) (typed : Bool) (target : Lines → Parse Tree)
    (closing : Char) : Parse Tree := do
  match ← peekMark lines with
  | "*" =>
    let separator ← succeeds (do
      let _ ← mark lines "*"
      let c := (← upcoming lines).head?
      guard (c = some ',' ∨ c = some closing))
    if separator then take .keywordSeparator 1
    else starredParameter g lines typed .listSplatPattern "*" target
  | "**" => starredParameter g lines typed .dictionarySplatPattern "**" target
  | "/" => take .positionalSeparator 1
  | "(" =>
    match (← g.expression lines .bare).toTarget? with
    | some tuple =>
      guard (tuple.kind = .tuplePattern)
      match ← defaultValue? g lines with
      | [] => pure tuple
      | value => pure (.ofParts .defaultParameter (tuple.withField .name :: value))
    | none => failure
  | _ =>
    let name ← name lines
    match ← parameterType? g lines typed with
    | [] =>
      match ← defaultValue? g lines with
      | [] => pure name
      | value => pure (.ofParts .defaultParameter (name.withField .name :: value))
    | hint =>
      match ← defaultValue? g lines with
      | [] => pure (.ofParts .typedParameter (name :: hint))
      | value =>
        pure (.ofParts .typedDefaultParameter (name.withField .name :: hint ++ value))

/-- Parameters with commas, up to a closing character. -/
def parameterList (g : Rules) (lines : Lines) (typed : Bool) (target : Lines → Parse Tree)
    (closing : Char) : Parse (List Tree) := do
  let more : Parse Bool := do return (← upcoming lines).head? ≠ some closing
  commaList lines more (parameter g lines typed target closing)

end CodeSurvey
