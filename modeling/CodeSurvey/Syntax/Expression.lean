/-
# Expressions

Operators are read by how tightly they bind: an operand, then operators that bind at least as
tightly as asked for, each with its own operands.  From loose to tight these are choices,
captures by `as`, `or`, `and`, `not`, chains of comparisons, `|`, `&`, `^`, shifts, sums, products,
signs, and powers; calls, attributes and subscripts bind tightest of all.
-/
import CodeSurvey.Syntax.Parameter
import CodeSurvey.Syntax.Quoted
import CodeSurvey.Syntax.Target

namespace CodeSurvey

/-! ## Lists of expressions -/

/-- One expression, or several with commas as a list. -/
def expressionsOf (lines : Lines) (item : Parse Tree) : Parse Tree := do
  let items ← commaList lines (expressionNext lines) item
  match items with
  | [one] => pure one
  | _ => pure (.ofParts .expressionList items)

/-- A `yield` with what it yields. -/
def yieldExpression (g : Rules) (lines : Lines) : Parse Tree := do
  let word ← keyword lines.onward "yield"
  if (← peekWord lines) = "from" then
    let from' ← keyword lines "from"
    return .ofParts .yieldExpression [word, from', ← g.expression lines .any]
  if ← expressionNext lines then
    return .ofParts .yieldExpression [word, ← expressionsOf lines (g.expression lines .any)]
  return .ofParts .yieldExpression [word]

/-- An element of a tuple, list or set. -/
def element (g : Rules) : Parse Tree := do
  if (← peekWord .inside) = "yield" then yieldExpression g .inside
  else if (← peekMark .inside) = "*" then
    let star ← mark .inside "*"
    return .ofParts .listSplat [star, ← g.expression .inside .any]
  else g.expression .inside .any

/-! ## Targets -/

/-- The attribute after a point. -/
def memberOf (lines : Lines) (object : Tree) : Parse Tree := do
  let point ← charMark lines '.'
  let member ← name lines.onward
  return .ofParts .memberAccess
    [object.withField .object, point, member.withField .member]

/-- Whether an item of a subscript stands before the next colon, comma or bracket. -/
def subscriptPartNext : Parse Bool := do
  return (← upcoming .inside).head?.any fun c => c != ':' && c != ',' && c != ']'

/-- An index, or a slice with colons. -/
def subscriptItem (g : Rules) : Parse Tree := do
  let bound : Parse (List Tree) := do
    if ← subscriptPartNext then pure [← g.expression .inside .any] else pure []
  let colonNext : Parse Bool := do return (← upcoming .inside).head? = some ':'
  let lower ← bound
  if ← colonNext then
    let colon ← charMark .inside ':'
    let upper ← bound
    if ← colonNext then
      let colon' ← charMark .inside ':'
      let step ← bound
      return .ofParts .slice (lower ++ colon :: upper ++ colon' :: step)
    return .ofParts .slice (lower ++ colon :: upper)
  match lower with
  | [index] => pure index
  | _ => failure

/-- A subscript in brackets. -/
def subscriptOf (g : Rules) (lines : Lines) (value : Tree) : Parse Tree := do
  let opening ← mark lines "["
  let more : Parse Bool := do return (← upcoming .inside).head? ≠ some ']'
  let items ← commaList .inside more (do return (← subscriptItem g).withField .subscript)
  let closing ← mark .inside "]"
  return .ofParts .subscript (value.withField .value :: opening :: items ++ [closing])

/-- Attributes and subscripts of a name after a star. -/
def splatTarget (g : Rules) (lines : Lines) : Parse Tree := do
  Parse.loop (fun (t : Tree) => do
    match ← peekMark lines with
    | "." => pure (.inl (← memberOf lines t))
    | "[" => pure (.inl (← subscriptOf g lines t))
    | _ => pure (.inr t)) (← name lines.onward)

/-! ## Comprehensions -/

/-- Whether a clause of a comprehension comes next. -/
def forClauseNext (lines : Lines) : Parse Bool := do
  match ← peekWord lines with
  | "for" => pure true
  | "async" => succeeds (do
      let _ ← keyword lines "async"
      keyword lines "for")
  | _ => pure false

/-- An operand without signs or operators. -/
def bareOperand (g : Rules) (lines : Lines) : Parse Tree :=
  g.expression lines .bare

/-- Targets with commas, over the rule for one operand. -/
def targetsOf (lines : Lines) (operand : Parse Tree) : Parse Tree := do
  let target : Parse Tree := do
    match (← operand).toTarget? with
    | some t => pure t
    | none => failure
  let items ← commaList lines (expressionNext lines) target
  match items with
  | [one] => pure one
  | _ => pure (.ofParts .patternList items)

/-- A `for` of a comprehension. -/
def forInClause (g : Rules) : Parse Tree := do
  let async ←
    if (← peekWord .inside) = "async" then pure [← keyword .inside "async"] else pure []
  let word ← keyword .inside "for"
  let left ← targetsOf .inside (bareOperand g .inside)
  let word' ← keyword .inside "in"
  let values ← commaList .inside (expressionNext .inside) (do
    return (← g.expression .inside .capture).withField .right)
  return .ofParts .forInClause (async ++ word :: left.withField .left :: word' :: values)

/-- The clauses of a comprehension. -/
def comprehensionClauses (g : Rules) : Parse (List Tree) := do
  let first ← forInClause g
  Parse.loop (fun (acc : List Tree) => do
    if (← peekWord .inside) = "if" then
      let word ← keyword .inside "if"
      let condition ← g.expression .inside .capture
      pure (.inl (.ofParts .ifClause [word, condition] :: acc))
    else if ← forClauseNext .inside then
      pure (.inl ((← forInClause g) :: acc))
    else pure (.inr acc.reverse)) [first]

/-! ## Brackets -/

/-- A tuple, an expression in parentheses, or a generator. -/
def parenthesized (g : Rules) (lines : Lines) : Parse Tree := do
  let opening ← mark lines "("
  if (← peekMark .inside) = ")" then
    return .ofParts .tuple [opening, ← mark .inside ")"]
  let first ← element g
  if ← forClauseNext .inside then
    let clauses ← comprehensionClauses g
    return .ofParts .generatorExpression
      (opening :: first.withField .body :: clauses ++ [← mark .inside ")"])
  if (← peekMark .inside) = ")" then
    return .ofParts .parenthesizedExpression [opening, first, ← mark .inside ")"]
  let more : Parse Bool := do return (← peekMark .inside) ≠ ")"
  let comma ← mark .inside ","
  let rest ← if ← more then commaList .inside more (element g) else pure []
  return .ofParts .tuple (opening :: first :: comma :: rest ++ [← mark .inside ")"])

/-- A list or a list comprehension. -/
def bracketed (g : Rules) (lines : Lines) : Parse Tree := do
  let opening ← mark lines "["
  if (← peekMark .inside) = "]" then
    return .ofParts .list [opening, ← mark .inside "]"]
  let more : Parse Bool := do return (← peekMark .inside) ≠ "]"
  let items ← commaList .inside more (element g)
  match items with
  | [one] =>
    if ← forClauseNext .inside then
      let clauses ← comprehensionClauses g
      return .ofParts .listComprehension
        (opening :: one.withField .body :: clauses ++ [← mark .inside "]"])
  | _ => pure ()
  return .ofParts .list (opening :: items ++ [← mark .inside "]"])

/-- A key with its value. -/
def pairOf (g : Rules) (key : Tree) : Parse Tree := do
  let colon ← mark .inside ":"
  let value ← g.expression .inside .any
  return .ofParts .pair [key.withField .key, colon, value.withField .value]

/-- An item of a dictionary. -/
def dictionaryItem (g : Rules) : Parse Tree := do
  if (← peekMark .inside) = "**" then
    let stars ← mark .inside "**"
    return .ofParts .dictionarySplat [stars, ← g.expression .inside .any]
  pairOf g (← g.expression .inside .any)

/-- A dictionary, a set, or a comprehension in braces. -/
def braced (g : Rules) (lines : Lines) : Parse Tree := do
  let opening ← mark lines "\x7b"
  let close : Parse Tree := mark .inside "\x7d"
  let more : Parse Bool := do return (← peekMark .inside) ≠ "\x7d"
  let dictionaryFrom (first : Tree) : Parse Tree := do
    if (← peekMark .inside) = "," then
      let comma ← mark .inside ","
      let rest ← if ← more then commaList .inside more (dictionaryItem g) else pure []
      return .ofParts .dictionary (opening :: first :: comma :: rest ++ [← close])
    return .ofParts .dictionary [opening, first, ← close]
  match ← peekMark .inside with
  | "\x7d" => return .ofParts .dictionary [opening, ← close]
  | "," => return .ofParts .dictionary [opening, ← mark .inside ",", ← close]
  | "**" => dictionaryFrom (← dictionaryItem g)
  | _ =>
    let first ← element g
    if (← peekMark .inside) = ":" then
      let pair ← pairOf g first
      if ← forClauseNext .inside then
        let clauses ← comprehensionClauses g
        return .ofParts .dictionaryComprehension
          (opening :: pair.withField .body :: clauses ++ [← close])
      dictionaryFrom pair
    else if ← forClauseNext .inside then
      let clauses ← comprehensionClauses g
      return .ofParts .setComprehension
        (opening :: first.withField .body :: clauses ++ [← close])
    else if (← peekMark .inside) = "," then
      let comma ← mark .inside ","
      let rest ← if ← more then commaList .inside more (element g) else pure []
      return .ofParts .set (opening :: first :: comma :: rest ++ [← close])
    else return .ofParts .set [opening, first, ← close]

/-! ## Calls -/

/-- An argument of a call. -/
def argument (g : Rules) : Parse Tree := do
  match ← peekMark .inside with
  | "*" => return .ofParts .listSplat [← mark .inside "*", ← g.expression .inside .any]
  | "**" => return .ofParts .dictionarySplat [← mark .inside "**", ← g.expression .inside .any]
  | _ =>
    let keywordNext ← succeeds (do
      let _ ← name .inside
      mark .inside "=")
    if keywordNext then
      let name ← name .inside
      let equals ← mark .inside "="
      let value ← g.expression .inside .any
      return .ofParts .keywordArgument [name.withField .name, equals, value.withField .value]
    g.expression .inside .any

/-- The arguments of a call or the bases of a class. -/
def arguments (g : Rules) (lines : Lines) : Parse Tree := do
  let opening ← mark lines "("
  match ← peekMark .inside with
  | ")" => return .ofParts .argumentList [opening, ← mark .inside ")"]
  | "," => return .ofParts .argumentList [opening, ← mark .inside ",", ← mark .inside ")"]
  | _ =>
    let more : Parse Bool := do return (← peekMark .inside) ≠ ")"
    let items ← commaList .inside more (argument g)
    match items with
    | [one] =>
      if ← forClauseNext .inside then
        let clauses ← comprehensionClauses g
        return .ofParts .generatorExpression
          (opening :: one.withField .body :: clauses ++ [← mark .inside ")"])
    | _ => pure ()
    return .ofParts .argumentList (opening :: items ++ [← mark .inside ")"])

/-! ## Operands -/

/-- A number. -/
def number : Parse Tree := do
  let cs := (← get).rest
  let whole := integerLength cs
  let fraction := floatLength cs
  guard (whole ≠ 0 ∨ fraction ≠ 0)
  if whole < fraction then take .float fraction else take .integer whole

/-- The constant that a reserved word stands for. -/
def constantKind? : String → Option Kind
  | "True" => some .trueLiteral
  | "False" => some .falseLiteral
  | "None" => some .noneLiteral
  | _ => none

/-- A name, a literal, or something in brackets. -/
def atom (g : Rules) (lines : Lines) : Parse Tree := do
  let cs ← upcoming lines.onward
  if (quotation? cs).isSome then strings g lines
  else match String.ofList (wordOf cs) with
    | "" =>
      match markOf cs with
      | "(" => parenthesized g lines.onward
      | "[" => bracketed g lines.onward
      | "\x7b" => braced g lines.onward
      | "..." => take .ellipsis 3
      | "*" =>
        let star ← mark lines.onward "*"
        return .ofParts .listSplat [star, ← splatTarget g lines]
      | _ => number
    | w =>
      match constantKind? w with
      | some k => take k w.length
      | none => name lines.onward

/-- An atom with the calls, attributes and subscripts after it. -/
def primary (g : Rules) (lines : Lines) : Parse Tree := do
  Parse.loop (fun (t : Tree) => do
    match ← upcoming lines with
    | '.' :: _ => pure (.inl (← memberOf lines t))
    | '[' :: _ => pure (.inl (← subscriptOf g lines t))
    | '(' :: _ =>
      let args ← arguments g lines
      pure (.inl (.ofParts .call [t.withField .function, args.withField .arguments]))
    | _ => pure (.inr t)) (← atom g lines)

/-- Whether `await` is followed by something to wait for. -/
def awaitNext (lines : Lines) : Parse Bool :=
  succeeds (do
    let _ ← keyword lines.onward "await"
    let cs ← upcoming lines
    guard (startsExpression cs ∧ String.ofList (wordOf cs) ∉ ["not", "lambda"]))

/-- A function without a name. -/
def lambda (g : Rules) (lines : Lines) (body : Binding) : Parse Tree := do
  let word ← keyword lines.onward "lambda"
  let parameters ←
    if (← upcoming lines.onward).head? = some ':' then pure []
    else
      let items ← parameterList g lines.onward false (splatTarget g) ':'
      pure [(Tree.ofParts .lambdaParameters items).withField .parameters]
  let colon ← charMark lines.onward ':'
  let result ← g.expression lines body
  return .ofParts .lambda (word :: parameters ++ [colon, result.withField .body])

/-- What stands between two infix operators: an operand with its signs, negations included where
they bind tightly enough. -/
def operand (g : Rules) (lines : Lines) (binding : Binding) : Parse Tree := do
  let cs ← upcoming lines.onward
  match String.ofList (wordOf cs) with
  | "not" =>
    guard (binding ≤ .negation)
    let word ← keyword lines.onward "not"
    let argument ← g.expression lines .negation
    return .ofParts .notOperator [word.withField .operator, argument.withField .argument]
  | "lambda" =>
    guard (binding ≤ .negation)
    lambda g lines (if binding = .capture then .capture else .any)
  | "await" =>
    if ← awaitNext lines then
      let word ← keyword lines.onward "await"
      return .ofParts .awaitExpression [word, ← g.expression lines .power]
    else primary g lines
  | "" =>
    match markOf cs with
    | "-" | "+" | "~" =>
      let sign ← take .mark 1
      let argument ← g.expression lines .power
      return .ofParts .unaryOperator [sign.withField .operator, argument.withField .argument]
    | _ => primary g lines
  | _ =>
    let namedNext ← succeeds (do
      guard (binding ≤ Binding.negation ∧ (quotation? cs).isNone)
      let _ ← name lines.onward
      mark lines ":=")
    if namedNext then
      let name ← name lines.onward
      let becomes ← mark lines ":="
      let value ← g.expression lines .disjunction
      return .ofParts .namedExpression [name.withField .name, becomes, value.withField .value]
    else primary g lines

/-! ## Infix operators -/

/-- How tightly an arithmetic operator binds. -/
def arithmetic? : String → Option Binding
  | "|" => some 7
  | "&" => some 8
  | "^" => some 9
  | "<<" | ">>" => some 10
  | "+" | "-" => some 11
  | "*" | "@" | "/" | "%" | "//" => some 12
  | "**" => some Binding.power
  | _ => none

/-- The comparison that comes next, as one mark. -/
def comparison? (lines : Lines) : Parse (Option Tree) := do
  let two (w w' : String) : Parse (Option Tree) := do
    let first ← keyword lines w
    let second ← keyword lines.onward w'
    return some (.leaf .mark first.start second.stop)
  match ← peekWord lines with
  | "in" => return some (← keyword lines "in")
  | "not" => two "not" "in"
  | "is" => two "is" "not" <|> (do return some (← keyword lines "is"))
  | "" =>
    let m ← peekMark lines
    if ["<", "<=", "==", "!=", ">=", ">", "<>"].contains m then return some (← mark lines m)
    else return none
  | _ => return none

/-- A chain of comparisons after its first operand. -/
def comparisonChain (g : Rules) (lines : Lines) (left : Tree) : Parse Tree := do
  Parse.loop (fun (acc : List Tree) => do
    match ← comparison? lines with
    | some op =>
      let right ← g.expression lines (Binding.comparison + 1)
      pure (.inl (right :: op.withField .operators :: acc))
    | none => pure (.inr (.ofParts .comparisonOperator acc.reverse))) [left]

/-- An operator with its right operand, after the left one. -/
def infixOf (g : Rules) (lines : Lines) (kind : Kind) (op : Parse Tree) (right : Binding)
    (left : Tree) : Parse Tree := do
  let op ← op
  let right ← g.expression lines right
  return .ofParts kind
    [left.withField .left, op.withField .operator, right.withField .right]

/-- The operator after a complete operand, if one binds tightly enough. -/
def continued? (g : Rules) (lines : Lines) (binding : Binding) (left : Tree) :
    Parse (Option Tree) := do
  match ← peekWord lines with
  | "if" =>
    if binding ≤ .conditional then
      let word ← keyword lines "if"
      let condition ← g.expression lines.onward .any
      let word' ← keyword lines.onward "else"
      let otherwise ← g.expression lines .conditional
      return some (.ofParts .conditionalExpression [left, word, condition, word', otherwise])
    else return none
  | "as" =>
    if binding ≤ .capture then
      let word ← keyword lines "as"
      let target ← g.expression lines .disjunction
      return some (.ofParts .asPattern [left, word, target.withField .asName])
    else return none
  | "or" =>
    if binding ≤ .disjunction then
      infixOf g lines .booleanOperator (keyword lines "or") .conjunction left
    else return none
  | "and" =>
    if binding ≤ .conjunction then
      infixOf g lines .booleanOperator (keyword lines "and") .negation left
    else return none
  | "in" | "is" | "not" =>
    if binding ≤ .comparison then comparisonChain g lines left else return none
  | _ =>
    let m ← peekMark lines
    match arithmetic? m with
    | some b =>
      if binding ≤ b then
        infixOf g lines .binaryOperator (mark lines m)
          (if b = Binding.power then Binding.power else b + 1) left
      else return none
    | none =>
      if ["<", "<=", "==", "!=", ">=", ">", "<>"].contains m && binding ≤ .comparison then
        comparisonChain g lines left
      else return none

/-- An expression whose operators bind at least as tightly as asked for. -/
def expression (g : Rules) (lines : Lines) (binding : Binding) : Parse Tree := do
  if binding = .bare then primary g lines
  else
    Parse.loop (fun (left : Tree) => do
      match ← continued? g lines binding left with
      | some t => pure (.inl t)
      | none => pure (.inr left)) (← operand g lines binding)

/-- One expression or several with commas. -/
def expressions (g : Rules) (lines : Lines) : Parse Tree :=
  expressionsOf lines (expression g lines .any)

/-- A replacement field of a formatted string. -/
def interpolation (g : Rules) : Parse Tree :=
  interpolationOver g (do
    if (← peekWord .inside) = "yield" then yieldExpression g .inside
    else expressions g .inside)

end CodeSurvey
