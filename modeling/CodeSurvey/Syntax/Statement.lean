/-
# Statements and files

Simple statements stand on a line, several of them with semicolons.  Compound statements have
bodies: simple statements on the same line, an indented block, or nothing at all.

`Rules.upTo` is the grammar up to a nesting depth, and `parseFile?` reads a whole source text with
it.  Every nesting takes at least one character, so the length of the text bounds the depth.
-/
import CodeSurvey.Syntax.TypeHint
import CodeSurvey.Syntax.CasePattern

namespace CodeSurvey

/-! ## Assignments -/

/-- The operators of augmented assignments. -/
def augmentedMarks : List String :=
  ["+=", "-=", "*=", "/=", "@=", "//=", "%=", "**=", ">>=", "<<=", "&=", "^=", "|="]

/-- An assignment to a given target, if one follows it. -/
def assignmentTo? (g : Rules) (target : Option Tree) : Parse (Option Tree) := do
  let m ← peekMark .close
  if m ≠ "=" && m ≠ ":" && !augmentedMarks.contains m then return none
  match target with
  | none => failure
  | some target =>
    let left := target.withField .left
    let op ← mark .close m
    if m = ":" then
      let type ← typeHint g .close true
      if (← peekMark .close) = "=" then
        let equals ← mark .close "="
        let right ← g.rightSide
        return some (.ofParts .assignment
          [left, op, type.withField .type, equals, right.withField .right])
      return some (.ofParts .assignment [left, op, type.withField .type])
    let right ← g.rightSide
    if m = "=" then return some (.ofParts .assignment [left, op, right.withField .right])
    return some (.ofParts .augmentedAssignment
      [left, op.withField .operator, right.withField .right])

/-- The target that a list of expressions with commas stands for. -/
def targetOfItems : List Tree → Option Tree
  | [one] => one.toTarget?
  | items => (Tree.toTargets? items).map (.ofParts .patternList)

/-- Expressions with commas on a line. -/
def expressionItems (g : Rules) : Parse (List Tree) :=
  commaList .close (expressionNext .close) (expression g .close .any)

/-- The right side of an assignment: a value, or another assignment. -/
def rightSide (g : Rules) : Parse Tree := do
  if (← peekWord .run) = "yield" then yieldExpression g .close
  else
    let items ← expressionItems g
    match ← assignmentTo? g (targetOfItems items) with
    | some t => pure t
    | none =>
      match items with
      | [one] => pure one
      | _ => pure (.ofParts .expressionList items)

/-- An expression, several with commas, an assignment, or a `yield`. -/
def expressionStatement (g : Rules) : Parse Tree := do
  if (← peekWord .run) = "yield" then
    return .ofParts .expressionStatement [← yieldExpression g .close]
  let items ← expressionItems g
  match ← assignmentTo? g (targetOfItems items) with
  | some t => return .ofParts .expressionStatement [t]
  | none => return .ofParts .expressionStatement items

/-! ## Imports -/

/-- A name to import, possibly under an alias. -/
def importItem (lines : Lines) : Parse Tree := do
  let name ← dottedName lines
  if (← peekWord lines) = "as" then
    let word ← keyword lines "as"
    let asName ← CodeSurvey.name lines.onward
    return (Tree.ofParts .aliasedImport
      [name.withField .name, word, asName.withField .asName]).withField .name
  return name.withField .name

/-- Names to import with commas. -/
def importItems (lines : Lines) : Parse (List Tree) := do
  let more : Parse Bool := do
    let w ← peekWord lines
    return w ≠ "" && w ∉ reservedWords
  commaList lines more (importItem lines)

/-- Names to import, with or without parentheses. -/
def importNames : Parse (List Tree) := do
  if (← peekMark .run) = "(" then
    let opening ← mark .run "("
    let items ← importItems .inside
    return opening :: items ++ [← mark .inside ")"]
  importItems .close

/-- The points before the name of a relative import. -/
def importDots : Parse Tree := do
  Parse.loop (fun (acc : List Tree) => do
    if (← upcoming .run).head? = some '.' then pure (.inl ((← charMark .run '.') :: acc))
    else pure (.inr (.ofParts .importDots acc.reverse))) [← charMark .run '.']

/-- The module of a `from`. -/
def fromModule : Parse Tree := do
  if (← upcoming .run).head? = some '.' then
    let dots ← importDots
    let w ← peekWord .run
    if w ≠ "" && w ∉ reservedWords then
      return .ofParts .relativeImport [dots, ← dottedName .run]
    return .ofParts .relativeImport [dots]
  dottedName .run

/-- An `import`. -/
def importStatement : Parse Tree := do
  let word ← keyword .run "import"
  return .ofParts .importStatement (word :: (← importItems .close))

/-- A `from` with its `import`. -/
def fromImportStatement : Parse Tree := do
  let word ← keyword .run "from"
  if (← peekWord .run) = "__future__" then
    let future ← keyword .run "__future__"
    let word' ← keyword .run "import"
    return .ofParts .futureImportStatement (word :: future :: word' :: (← importNames))
  let source ← fromModule
  let word' ← keyword .run "import"
  let head := [word, source.withField .moduleName, word']
  if (← peekMark .run) = "*" then
    return .ofParts .fromImportStatement (head ++ [← take .wildcardImport 1])
  return .ofParts .fromImportStatement (head ++ (← importNames))

/-! ## Other simple statements -/

/-- Whether the statement stops here. -/
def statementEnds : Parse Bool := do
  return (← upcoming .close).head?.all (· == ';')

/-- A statement made of one word. -/
def wordStatement (kind : Kind) (w : String) : Parse Tree := do
  return .ofParts kind [← keyword .run w]

/-- A word with names after it. -/
def namesStatement (kind : Kind) (w : String) : Parse Tree := do
  let word ← keyword .run w
  return .ofParts kind (word :: (← commaList1 .close (name .run)))

/-- A word with expressions after it, or nothing. -/
def optionalStatement (g : Rules) (kind : Kind) (w : String) : Parse Tree := do
  let word ← keyword .run w
  if ← expressionNext .close then return .ofParts kind [word, ← expressions g .close]
  return .ofParts kind [word]

/-- A `raise` with what it raises and the cause. -/
def raiseStatement (g : Rules) : Parse Tree := do
  let word ← keyword .run "raise"
  let raised ← if ← expressionNext .close then pure [← expressions g .close] else pure []
  if (← peekWord .close) = "from" then
    let word' ← keyword .close "from"
    let cause ← expression g .close .any
    return .ofParts .raiseStatement (word :: raised ++ [word', cause.withField .cause])
  return .ofParts .raiseStatement (word :: raised)

/-- A `print` without parentheses, possibly to a given file. -/
def printStatement (g : Rules) : Parse Tree := do
  let word ← keyword .run "print"
  let argument : Parse Tree := do return (← expression g .close .any).withField .argument
  if (← peekMark .close) = ">>" then
    let arrows ← mark .close ">>"
    let chevron := Tree.ofParts .chevron [arrows, ← expression g .close .any]
    let rest ←
      if (← peekMark .close) = "," then
        let comma ← mark .close ","
        if ← expressionNext .close then
          pure (comma :: (← commaList .close (expressionNext .close) argument))
        else pure [comma]
      else pure []
    return .ofParts .printStatement (word :: chevron :: rest)
  return .ofParts .printStatement
    (word :: (← commaList .close (expressionNext .close) argument))

/-- An `exec` without parentheses. -/
def execStatement (g : Rules) : Parse Tree := do
  let word ← keyword .run "exec"
  let code ←
    if (quotation? (← upcoming .close)).isSome then quotedString g else name .close
  let code := code.withField .code
  if (← peekWord .close) = "in" then
    let word' ← keyword .close "in"
    let spaces ← commaList1 .close (expression g .close .any)
    return .ofParts .execStatement (word :: code :: word' :: spaces)
  return .ofParts .execStatement [word, code]

/-- A statement that gives a type another name. -/
def typeAliasStatement (g : Rules) : Parse Tree := do
  let word ← keyword .run "type"
  let left ← typeHint g .close false
  let equals ← mark .close "="
  let right ← typeHint g .close false
  return .ofParts .typeAliasStatement [word, left.withField .left, equals, right.withField .right]

/-- A step that has to reach the end of the statement. -/
def wholeStatement (p : Parse Tree) : Parse Tree := do
  let t ← p
  guard (← statementEnds)
  return t

/-- Whether a string or a name follows the word that comes next. -/
def codeNext (w : String) : Parse Bool :=
  succeeds (do
    let _ ← keyword .run w
    let cs ← upcoming .close
    if (quotation? cs).isSome then pure ()
    else let _ ← name .close)

/-- One simple statement.  The words `print`, `exec` and `type` are names where the statement can
be read so; only then is `print` followed by other operands a statement of its own. -/
def simpleStatement (g : Rules) : Parse Tree := do
  match ← peekWord .run with
  | "import" => importStatement
  | "from" => fromImportStatement
  | "assert" => do
    let word ← keyword .run "assert"
    return .ofParts .assertStatement
      (word :: (← commaList1 .close (expression g .close .any)))
  | "return" => optionalStatement g .returnStatement "return"
  | "del" => do
    let word ← keyword .run "del"
    return .ofParts .deleteStatement [word, ← expressions g .close]
  | "raise" => raiseStatement g
  | "pass" => wordStatement .passStatement "pass"
  | "break" => wordStatement .breakStatement "break"
  | "continue" => wordStatement .continueStatement "continue"
  | "global" => namesStatement .globalStatement "global"
  | "nonlocal" => namesStatement .nonlocalStatement "nonlocal"
  | "print" => do
    let arrowsNext ← succeeds (do
      let _ ← keyword .run "print"
      mark .close ">>")
    if arrowsNext then printStatement g
    else wholeStatement (expressionStatement g) <|> printStatement g
  | "exec" => do
    if ← codeNext "exec" then execStatement g else expressionStatement g
  | "type" => wholeStatement (typeAliasStatement g) <|> expressionStatement g
  | _ => expressionStatement g

/-- Simple statements on a line, with the semicolons and the line end. -/
def simpleStatements (g : Rules) : Parse (List Tree) := do
  Parse.loop (fun (acc : List Tree) => do
    if (← peekMark .close) = ";" then
      let semicolon ← mark .close ";"
      if (← upcoming .close).isEmpty then
        pure (.inr ((← lineEnd) :: semicolon :: acc).reverse)
      else
        let next ← simpleStatement g
        pure (.inl (next :: semicolon :: acc))
    else pure (.inr ((← lineEnd) :: acc).reverse)) [← simpleStatement g]

/-! ## Bodies -/

/-- The statements of an indented block up to the line that closes it. -/
def indentedBlock (indent : Nat) (item : Parse (List Tree)) : Parse Tree := do
  modify fun r => { r with indents := indent :: r.indents }
  Parse.loop (fun (acc : List Tree) => do
    if ← lineStart then
      modify fun r => { r with indents := r.indents.tail }
      pure (.inr (.ofParts .block ((← emptyMark) :: acc).reverse))
    else
      let statements ← item
      pure (.inl (statements.reverse ++ acc))) []

/-- A body at a line end: an indented block if the next line is indented more, else nothing. -/
def blockAfterLine (item : Parse (List Tree)) : Parse Tree := do
  let r ← get
  match r.outlook with
  | some o =>
    if o.lineEnd && r.indent < o.indent then indentedBlock o.indent item
    else return .ofParts .block [← emptyMark]
  | none => failure

/-- The body of a compound statement over the rule for statements. -/
def suiteOver (g : Rules) (statement : Parse (List Tree)) : Parse Tree := do
  if (← upcoming .close).isEmpty then blockAfterLine statement
  else return .ofParts .block (← simpleStatements g)

/-- A colon and the body after it. -/
def colonSuite (g : Rules) (field : Field) : Parse (List Tree) := do
  let colon ← mark .run ":"
  return [colon, (← g.suite).withField field]

/-! ## Compound statements -/

/-- The word that starts the next line, none if the open block is closed there. -/
def clauseWord : Parse String := do
  if ← lineStart then return "" else peekWord .run

/-- The `else` of a compound statement, if there is one. -/
def elseClause? (g : Rules) : Parse (List Tree) := do
  if (← clauseWord) = "else" then
    let word ← keyword .run "else"
    let clause := Tree.ofParts .elseClause (word :: (← colonSuite g .body))
    return [clause.withField .alternative]
  return []

/-- An `if` with its alternatives. -/
def ifStatement (g : Rules) : Parse Tree := do
  let word ← keyword .run "if"
  let condition ← expression g .run .any
  let body ← colonSuite g .consequence
  let clauses ← Parse.loop (fun (acc : List Tree) => do
    if (← clauseWord) = "elif" then
      let word ← keyword .run "elif"
      let condition ← expression g .run .any
      let body ← colonSuite g .consequence
      let clause := Tree.ofParts .elifClause (word :: condition.withField .condition :: body)
      pure (.inl (clause.withField .alternative :: acc))
    else pure (.inr acc.reverse)) []
  return .ofParts .ifStatement
    (word :: condition.withField .condition :: body ++ clauses ++ (← elseClause? g))

/-- A `for` loop. -/
def forStatement (g : Rules) (async : List Tree) : Parse Tree := do
  let word ← keyword .run "for"
  let left ← targetsOf .run (primary g .run)
  let word' ← keyword .run "in"
  let right ← expressions g .run
  let body ← colonSuite g .body
  return .ofParts .forStatement
    (async ++ word :: left.withField .left :: word' :: right.withField .right :: body ++
      (← elseClause? g))

/-- A `while` loop. -/
def whileStatement (g : Rules) : Parse Tree := do
  let word ← keyword .run "while"
  let condition ← expression g .run .any
  let body ← colonSuite g .body
  return .ofParts .whileStatement
    (word :: condition.withField .condition :: body ++ (← elseClause? g))

/-- A `try` with its handlers. -/
def tryStatement (g : Rules) : Parse Tree := do
  let word ← keyword .run "try"
  let body ← colonSuite g .body
  let handlers ← Parse.loop (fun (acc : List Tree) => do
    if (← clauseWord) = "except" then
      let word ← keyword .run "except"
      let star ← if (← peekMark .run) = "*" then pure [← mark .run "*"] else pure []
      let caught ←
        if (← peekMark .run) = ":" then pure []
        else commaList1 .run (expression g .run .any)
      let body ← colonSuite g .body
      pure (.inl (.ofParts .exceptClause (word :: star ++ caught ++ body) :: acc))
    else pure (.inr acc.reverse)) []
  let otherwise ← elseClause? g
  let finally' ←
    if (← clauseWord) = "finally" then
      let word ← keyword .run "finally"
      pure [Tree.ofParts .finallyClause (word :: (← colonSuite g .body))]
    else pure []
  return .ofParts .tryStatement (word :: body ++ handlers ++ otherwise ++ finally')

/-- A `with` and its contexts. -/
def withStatement (g : Rules) (async : List Tree) : Parse Tree := do
  let word ← keyword .run "with"
  let items ← commaList .run (expressionNext .run) (expression g .run .any)
  let body ← colonSuite g .body
  return .ofParts .withStatement (async ++ word :: .ofParts .withClause items :: body)

/-- The types that a definition is generic over, if any. -/
def typeParameters? (g : Rules) : Parse (List Tree) := do
  if (← peekMark .run) = "[" then return [(← typeParameter g .run).withField .typeParameters]
  return []

/-- The definition of a function. -/
def functionDefinition (g : Rules) (async : List Tree) : Parse Tree := do
  let word ← keyword .run "def"
  let name ← name .run
  let types ← typeParameters? g
  let opening ← mark .run "("
  let items ←
    if (← peekMark .inside) = ")" then pure []
    else parameterList g .inside true (splatTarget g) ')'
  let parameters := Tree.ofParts .parameters (opening :: items ++ [← mark .inside ")"])
  let result ←
    if (← peekMark .run) = "->" then
      let arrow ← mark .run "->"
      pure [arrow, (← typeHint g .run false).withField .returnType]
    else pure []
  let body ← colonSuite g .body
  return .ofParts .functionDefinition
    (async ++ word :: name.withField .name :: types ++
      parameters.withField .parameters :: result ++ body)

/-- The definition of a class. -/
def classDefinition (g : Rules) : Parse Tree := do
  let word ← keyword .run "class"
  let name ← name .run
  let types ← typeParameters? g
  let bases ←
    if (← peekMark .run) = "(" then
      let bases ← arguments g .run
      guard (bases.kind = .argumentList)
      pure [bases.withField .superclasses]
    else pure []
  let body ← colonSuite g .body
  return .ofParts .classDefinition (word :: name.withField .name :: types ++ bases ++ body)

/-- A definition that may be decorated. -/
def definition (g : Rules) : Parse Tree := do
  match ← peekWord .run with
  | "class" => classDefinition g
  | "def" => functionDefinition g []
  | "async" => functionDefinition g [← keyword .run "async"]
  | _ => failure

/-- A definition with its decorators. -/
def decoratedDefinition (g : Rules) : Parse Tree := do
  Parse.loop (fun (acc : List Tree) => do
    if (← peekMark .run) = "@" then
      let at' ← mark .run "@"
      let value ← expression g .close .any
      pure (.inl (.ofParts .decorator [at', value, ← lineEnd] :: acc))
    else
      guard (!acc.isEmpty)
      let definition ← definition g
      pure (.inr (.ofParts .decoratedDefinition
        (definition.withField .definition :: acc).reverse))) []

/-- A clause of a `match`. -/
def caseClause (g : Rules) : Parse (List Tree) := do
  let word ← keyword .run "case"
  let patternNext : Parse Bool := do
    let cs ← upcoming .run
    return cs.head? ≠ some ':' && wordOf cs ≠ ['i', 'f']
  let patterns ← commaList .run patternNext (casePattern g .run)
  let guard' ←
    if (← peekWord .run) = "if" then
      let word ← keyword .run "if"
      let clause := Tree.ofParts .ifClause [word, ← expression g .run .any]
      pure [clause.withField .guard]
    else pure []
  let body ← colonSuite g .consequence
  return [.ofParts .caseClause (word :: patterns ++ guard' ++ body)]

/-- A `match` with its clauses. -/
def matchStatement (g : Rules) : Parse Tree := do
  let word ← keyword .run "match"
  let subjects ← commaList .run (expressionNext .run) (do
    return (← expression g .run .any).withField .subject)
  let colon ← mark .run ":"
  guard (← upcoming .close).isEmpty
  let body ← blockAfterLine (caseClause g)
  return .ofParts .matchStatement (word :: subjects ++ [colon, body.withField .body])

/-- The statement that an `async` belongs to. -/
def asyncStatement (g : Rules) : Parse Tree := do
  let async ← keyword .run "async"
  match ← peekWord .run with
  | "def" => functionDefinition g [async]
  | "for" => forStatement g [async]
  | "with" => withStatement g [async]
  | _ => failure

/-- A compound statement, or the simple statements of a line. -/
def statement (g : Rules) : Parse (List Tree) := do
  let single (p : Parse Tree) : Parse (List Tree) := do return [← p]
  if (← peekMark .run) = "@" then single (decoratedDefinition g)
  else match ← peekWord .run with
    | "if" => single (ifStatement g)
    | "for" => single (forStatement g [])
    | "while" => single (whileStatement g)
    | "try" => single (tryStatement g)
    | "with" => single (withStatement g [])
    | "def" => single (functionDefinition g [])
    | "class" => single (classDefinition g)
    | "async" => single (asyncStatement g) <|> simpleStatements g
    | "match" => single (matchStatement g) <|> simpleStatements g
    | _ => simpleStatements g

/-- The body of a compound statement. -/
def suite (g : Rules) : Parse Tree :=
  suiteOver g (statement g)

/-! ## Files -/

/-- The grammar up to a nesting depth. -/
def Rules.upTo : Nat → Rules
  | 0 => .none
  | n + 1 =>
    let g := Rules.upTo n
    { expression := CodeSurvey.expression g
      rightSide := CodeSurvey.rightSide g
      typeHint := CodeSurvey.typeHint g
      interpolation := CodeSurvey.interpolation g
      pattern := CodeSurvey.casePattern g
      suite := CodeSurvey.suite g }

/-- All statements of a file. -/
def fileStatements (g : Rules) : Parse (List Tree) :=
  Parse.loop (fun (acc : List Tree) => do
    let _ ← lineStart
    if (← get).rest.isEmpty then pure (.inr acc.reverse)
    else pure (.inl ((← statement g).reverse ++ acc))) []

/-- The syntax tree of a source text, with its comments; none if the text breaks the grammar. -/
def parseFile? (source : List Char) : Option Tree := do
  let g := Rules.upTo (source.length + 1)
  let (statements, r) ← (fileStatements g).run (.ofSource source)
  let file := Tree.node .file none .origin r.place statements
  return r.extras.foldl (fun t extra => Tree.weave extra t) file

end CodeSurvey
