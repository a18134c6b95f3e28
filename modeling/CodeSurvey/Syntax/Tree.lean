/-
# Concrete syntax trees

A tree keeps every token of a source text with its extent: names, literals and statements are named
nodes, keywords and punctuation are marks.  Comments and line continuations may stand between any
two tokens; `Tree.weave` puts one of them into the innermost node around it.
-/
namespace CodeSurvey

/-! ## Places -/

/-- A place in a source text: the characters before it, the line feeds before it, and the bytes
(in UTF-8) between the last line feed and it. -/
structure Place where
  offset : Nat
  row : Nat
  column : Nat
  deriving Repr, DecidableEq, Inhabited

/-- The place before the first character. -/
def Place.origin : Place := ⟨0, 0, 0⟩

/-- The place after one more character. -/
def Place.advance (p : Place) (c : Char) : Place :=
  if c = '\n' then ⟨p.offset + 1, p.row + 1, 0⟩
  else ⟨p.offset + 1, p.row, p.column + c.utf8Size⟩

/-! ## Kinds and fields -/

/-- What a node of a tree is. -/
inductive Kind where
  /- the file and its blocks -/
  | file | block | comment | lineContinuation | mark
  /- simple statements -/
  | expressionStatement | assignment | augmentedAssignment | importStatement | fromImportStatement
  | futureImportStatement | aliasedImport | relativeImport | importDots | wildcardImport
  | dottedName | printStatement | chevron | execStatement | assertStatement | returnStatement
  | deleteStatement | raiseStatement | passStatement | breakStatement | continueStatement
  | globalStatement | nonlocalStatement | typeAliasStatement
  /- compound statements -/
  | ifStatement | elifClause | elseClause | forStatement | whileStatement | tryStatement
  | exceptClause | finallyClause | withStatement | withClause | matchStatement | caseClause
  | functionDefinition | classDefinition | decoratedDefinition | decorator
  /- parameters and targets -/
  | parameters | lambdaParameters | defaultParameter | typedParameter | typedDefaultParameter
  | listSplatPattern | dictionarySplatPattern | keywordSeparator | positionalSeparator
  | tuplePattern | listPattern | patternList
  /- patterns of a case clause -/
  | casePattern | unionPattern | dictionaryPattern | keywordPattern | splatPattern | classPattern
  | complexPattern
  /- expressions -/
  | expressionList | asPattern | namedExpression | conditionalExpression | lambda
  | booleanOperator | notOperator | comparisonOperator | binaryOperator | unaryOperator
  | awaitExpression | yieldExpression | memberAccess | subscript | slice | call | argumentList
  | keywordArgument | listSplat | dictionarySplat | parenthesizedExpression | tuple | list | set
  | dictionary | pair | listComprehension | setComprehension | dictionaryComprehension
  | generatorExpression | forInClause | ifClause
  /- literals -/
  | identifier | integer | float | trueLiteral | falseLiteral | noneLiteral | ellipsis | string
  | concatenatedString | stringStart | stringContent | stringEnd | interpolation
  | typeConversion | formatSpecifier
  /- annotations -/
  | typeHint | genericType | typeParameter | unionType | constrainedType | memberType | splatType
  deriving Repr, DecidableEq, Inhabited

/-- Marks are the nodes without a name: keywords, punctuation and line ends. -/
def Kind.isNamed (k : Kind) : Bool :=
  k != .mark

/-- The part that a node plays in the node above it. -/
inductive Field where
  | name | typeParameters | parameters | returnType | body | superclasses | definition
  | moduleName | asName | left | operator | right | argument | operators | function | arguments
  | object | member | value | subscript | key | condition | consequence | alternative | type
  | subject | guard | cause | code | expression
  deriving Repr, DecidableEq, Inhabited

/-! ## Trees -/

/-- A node with its kind, its part in the node above, its extent and the nodes below it. -/
inductive Tree where
  | node (kind : Kind) (field : Option Field) (start stop : Place) (children : List Tree)
  deriving Repr, Inhabited

namespace Tree

/-- What the node is. -/
def kind : Tree → Kind
  | node k _ _ _ _ => k

/-- The part that the node plays above. -/
def field : Tree → Option Field
  | node _ f _ _ _ => f

/-- Where the node starts. -/
def start : Tree → Place
  | node _ _ s _ _ => s

/-- Where the node stops. -/
def stop : Tree → Place
  | node _ _ _ t _ => t

/-- The nodes directly below, in source order. -/
def children : Tree → List Tree
  | node _ _ _ _ cs => cs

/-- The same node in another part. -/
def withField (f : Field) : Tree → Tree
  | node k _ s t cs => node k (some f) s t cs

/-- The node over a list of nodes: it reaches from the first to the last of them. -/
def ofParts (k : Kind) (cs : List Tree) : Tree :=
  node k none ((cs.head?.map start).getD .origin) ((cs.getLast?.map stop).getD .origin) cs

/-- A node without nodes below. -/
def leaf (k : Kind) (s t : Place) : Tree :=
  node k none s t []

/-- The named nodes directly below. -/
def named (t : Tree) : List Tree :=
  t.children.filter (·.kind.isNamed)

/-- The first node directly below in a given part. -/
def part? (t : Tree) (f : Field) : Option Tree :=
  t.children.find? (·.field = some f)

/-- All nodes directly below in a given part. -/
def parts (t : Tree) (f : Field) : List Tree :=
  t.children.filter (·.field = some f)

/-- The source text of a node. -/
def text (source : List Char) (t : Tree) : List Char :=
  (source.drop t.start.offset).take (t.stop.offset - t.start.offset)

/-! ## Walking a tree -/

mutual
/-- All nodes of a tree, each before the nodes below it, in source order. -/
def preorder : Tree → List Tree
  | node k f s t cs => node k f s t cs :: preorderAll cs

/-- All nodes of several trees in source order. -/
def preorderAll : List Tree → List Tree
  | [] => []
  | c :: cs => preorder c ++ preorderAll cs
end

/-- The nodes of several trees are those of each of them. -/
theorem preorderAll_eq_flatMap (cs : List Tree) : preorderAll cs = cs.flatMap preorder := by
  induction cs with
  | nil => rfl
  | cons c cs ih => rw [preorderAll, ih, List.flatMap_cons]

/-- A node stands before the nodes below it. -/
theorem preorder_node (k : Kind) (f : Option Field) (s t : Place) (cs : List Tree) :
    preorder (node k f s t cs) = node k f s t cs :: cs.flatMap preorder := by
  rw [preorder, preorderAll_eq_flatMap]

theorem preorderAll_singleton (t : Tree) : preorderAll [t] = t.preorder :=
  List.append_nil _

theorem preorderAll_append (cs ds : List Tree) :
    preorderAll (cs ++ ds) = preorderAll cs ++ preorderAll ds := by
  simp only [preorderAll_eq_flatMap, List.flatMap_append]

/-- The next node comes before the nodes below it, and these before the nodes that follow. -/
theorem preorderAll_cons_eq (t : Tree) (rest : List Tree) :
    preorderAll (t :: rest) = t :: preorderAll (t.children ++ rest) := by
  cases t with
  | node k f s e cs =>
    rw [preorderAll, preorder, preorderAll_append, List.cons_append]
    rfl

/-- The order of trees does not matter for what nodes they have. -/
theorem preorderAll_reverse_perm (cs : List Tree) :
    (preorderAll cs.reverse).Perm (preorderAll cs) := by
  rw [preorderAll_eq_flatMap, preorderAll_eq_flatMap]
  exact cs.reverse_perm.flatMap_right preorder

/-- The nodes below a node are as many in the other order. -/
theorem length_preorderAll_reverse_le (t : Tree) :
    (preorderAll t.children.reverse).length ≤ (preorderAll t.children).length :=
  Nat.le_of_eq (preorderAll_reverse_perm t.children).length_eq

/-! ## Comments and continuations -/

mutual
/-- Puts a comment or a line continuation into a tree. -/
def weave (extra : Tree) : Tree → Tree
  | node k f s t cs => node k f s t (weaveAmong extra cs)

/-- Puts an extra among sibling nodes: into the one whose extent holds it, else between two. -/
def weaveAmong (extra : Tree) : List Tree → List Tree
  | [] => [extra]
  | c :: cs =>
    if c.start.offset < extra.start.offset && extra.stop.offset ≤ c.stop.offset then
      weave extra c :: cs
    else if extra.stop.offset ≤ c.start.offset then extra :: c :: cs
    else c :: weaveAmong extra cs
end

end Tree

end CodeSurvey
