/-
# Expressions are flat

No definition and no import stands inside an expression, an annotation, a parameter list or a
pattern, and every operation in them holds its operands.  Every rule for them gives flat trees if the
rules that it uses for what is nested in it do (`Rules.GivesFlat`); the rules for expressions give
trees that may be operands of a comparison.  Each rule has one specification, and a proof goes through
the rule with the specifications of the rules that it calls; what is left each time is that the nodes
that the rule builds are of free kinds, or operations with their operands, and over flat parts.
-/
import CodeSurvey.Proofs.Syntax.Reading

namespace CodeSurvey

open Std.Do

set_option mvcgen.warning false

attribute [local simp] or_imp forall_and Tree.IsOperand

attribute [local spec] flat_loop flat_orElse

/-- A loop over operands gives an operand if each of its rounds does. -/
theorem operand_loop {α σ : Type} [HoldsTrees α] [HoldsTrees σ] {step : σ → Parse (σ ⊕ α)}
    (h : ∀ s, (∀ t ∈ HoldsTrees.trees s, t.IsOperand) → (step s).Gives Tree.IsOperand) {s : σ}
    (hs : ∀ t ∈ HoldsTrees.trees s, t.IsOperand) : (Parse.loop step s).Gives Tree.IsOperand :=
  gives_loop h hs

/-- Flat trees are read into a state, and an operand is made of it. -/
theorem operand_loop_of_flat {σ : Type} [HoldsTrees σ] {step : σ → Parse (σ ⊕ Tree)}
    (h : ∀ s, (∀ t ∈ HoldsTrees.trees s, t.IsFlat) → ⦃fun r => ⌜r.IsTidy⌝⦄ step s
      ⦃⇓? a r => ⌜(a.elim (fun s => ∀ t ∈ HoldsTrees.trees s, t.IsFlat) fun a =>
        ∀ t ∈ HoldsTrees.trees a, t.IsOperand) ∧ r.IsTidy⌝⦄)
    {s : σ} (hs : ∀ t ∈ HoldsTrees.trees s, t.IsFlat) : (Parse.loop step s).Gives Tree.IsOperand :=
  gives_loop_of_invariant (fun s => ∀ t ∈ HoldsTrees.trees s, t.IsFlat) h hs

/-! ## Targets -/

namespace Tree

/-- What becomes a target has a kind of which nothing is asked. -/
theorem isFree_of_targetKind? {k k' : Kind} (h : targetKind? k = some k') : k'.isFree = true := by
  cases k <;> simp [targetKind?] at h <;> subst h <;> rfl

mutual
/-- A target is flat if the expression was. -/
theorem isFlat_of_toTarget? {t t' : Tree} (ht : t.IsFlat) (h : t.toTarget? = some t') :
    t'.IsFlat := by
  cases t with
  | node k f s e cs =>
    rw [isFlat_node] at ht
    rw [toTarget?] at h
    split at h
    · cases h
      exact isFlat_node.2 ht
    · split at h
      · split at h
        · cases h
          exact (isFlat_node_of_isFree rfl).2 ht.2
        · cases h
      · obtain ⟨cs', hcs, rfl⟩ := Option.map_eq_some_iff.1 h
        exact (isFlat_node_of_isFree (isFree_of_targetKind? ‹_›)).2
          (isFlat_of_toTargets? ht.2 hcs)
      · cases h

/-- Targets are flat if the expressions were. -/
theorem isFlat_of_toTargets? {cs cs' : List Tree} (hcs : ∀ c ∈ cs, c.IsFlat)
    (h : toTargets? cs = some cs') : ∀ c ∈ cs', c.IsFlat := by
  cases cs with
  | nil =>
    cases h
    simp
  | cons c cs =>
    rw [List.forall_mem_cons] at hcs
    rw [toTargets?] at h
    split at h
    · obtain ⟨c', hc, h⟩ := Option.bind_eq_some_iff.1 h
      obtain ⟨cs'', hcs', h⟩ := Option.bind_eq_some_iff.1 h
      cases h
      exact List.forall_mem_cons.2 ⟨isFlat_of_toTarget? hcs.1 hc, isFlat_of_toTargets? hcs.2 hcs'⟩
    · obtain ⟨c', hc, h⟩ := Option.bind_eq_some_iff.1 h
      obtain ⟨cs'', hcs', h⟩ := Option.bind_eq_some_iff.1 h
      cases hc
      cases h
      exact List.forall_mem_cons.2 ⟨hcs.1, isFlat_of_toTargets? hcs.2 hcs'⟩
end

end Tree

/-! ## The rules below -/

/-- Rules that give flat trees for what is nested in an expression. -/
class Rules.GivesFlat (g : Rules) : Prop where
  expression : ∀ lines binding, (g.expression lines binding).Gives Tree.IsOperand
  rightSide : g.rightSide.Gives Tree.IsFlat
  typeHint : ∀ lines bounded, (g.typeHint lines bounded).Gives Tree.IsFlat
  interpolation : g.interpolation.Gives Tree.IsFlat
  pattern : ∀ lines, (g.pattern lines).Gives Tree.IsFlat

section Rules

variable {g : Rules} [g.GivesFlat]

/-- Expressions one level down are flat. -/
@[spec] theorem flat_rulesExpression (lines : Lines) (binding : Binding) :
    (g.expression lines binding).Gives Tree.IsFlat :=
  (Rules.GivesFlat.expression lines binding).imp fun _ h => h.1

/-- So is the right side of an assignment one level down. -/
@[spec] theorem flat_rulesRightSide : g.rightSide.Gives Tree.IsFlat :=
  Rules.GivesFlat.rightSide

/-- So is an annotation. -/
@[spec] theorem flat_rulesTypeHint (lines : Lines) (bounded : Bool) :
    (g.typeHint lines bounded).Gives Tree.IsFlat :=
  Rules.GivesFlat.typeHint lines bounded

/-- So is what stands between the braces of a string. -/
@[spec] theorem flat_rulesInterpolation : g.interpolation.Gives Tree.IsFlat :=
  Rules.GivesFlat.interpolation

/-- So is a pattern of a case. -/
@[spec] theorem flat_rulesPattern (lines : Lines) : (g.pattern lines).Gives Tree.IsFlat :=
  Rules.GivesFlat.pattern lines

/-! ## Parameters -/

/-- The default of a parameter is an expression, if there is one. -/
@[spec] theorem flat_defaultValue? (lines : Lines) : (defaultValue? g lines).Gives Tree.IsFlat := by
  unfold defaultValue?
  mvcgen with simp_all

/-- The annotation of a parameter is a type hint, if one is allowed and there. -/
@[spec] theorem flat_parameterType? (lines : Lines) (typed : Bool) :
    (parameterType? g lines typed).Gives Tree.IsFlat := by
  unfold parameterType?
  mvcgen with simp_all

/-- A parameter after one or two stars is as flat as what may stand there. -/
@[spec] theorem flat_starredParameter (lines : Lines) (typed : Bool) {kind : Kind}
    (hkind : kind.isFree = true) (stars : String) {target : Lines → Parse Tree}
    (htarget : ∀ lines, (target lines).Gives Tree.IsFlat) :
    (starredParameter g lines typed kind stars target).Gives Tree.IsFlat := by
  unfold starredParameter
  mvcgen [htarget] with simp_all +decide +zetaDelta

/-- A parameter is flat, and so is a separator in its place. -/
@[spec] theorem flat_parameter (lines : Lines) (typed : Bool) {target : Lines → Parse Tree}
    (htarget : ∀ lines, (target lines).Gives Tree.IsFlat) (closing : Char) :
    (parameter g lines typed target closing).Gives Tree.IsFlat := by
  unfold parameter
  mvcgen [htarget] with simp_all +decide
  all_goals grind [Tree.isFlat_of_toTarget?]

/-- A list of parameters has flat items up to the closing mark. -/
@[spec] theorem flat_parameterList (lines : Lines) (typed : Bool) {target : Lines → Parse Tree}
    (htarget : ∀ lines, (target lines).Gives Tree.IsFlat) (closing : Char) :
    (parameterList g lines typed target closing).Gives Tree.IsFlat := by
  unfold parameterList
  mvcgen [htarget]

/-! ## Strings -/

/-- A string is an operand: what it holds is content, escapes and interpolations. -/
@[spec] theorem operand_quotedString : (quotedString g).Gives Tree.IsOperand := by
  unfold quotedString
  mvcgen [operand_loop_of_flat, -flat_loop] with simp_all +decide [contentBetween]

/-- Strings that stand next to each other are one operand. -/
@[spec] theorem operand_strings (lines : Lines) : (strings g lines).Gives Tree.IsOperand := by
  unfold strings
  mvcgen [operand_loop, -flat_loop] with simp_all +decide

/-- The conversion after an exclamation mark is one token. -/
@[spec] theorem flat_conversion? : conversion?.Gives Tree.IsFlat := by
  unfold conversion?
  mvcgen with simp_all +decide

/-- A format may hold interpolations, which are flat. -/
@[spec] theorem flat_formatSpecifier? : (formatSpecifier? g).Gives Tree.IsFlat := by
  unfold formatSpecifier?
  mvcgen with simp_all +decide +zetaDelta

/-- An interpolation is flat if the expressions in it are. -/
@[spec] theorem flat_interpolationOver {expressions : Parse Tree}
    (h : expressions.Gives Tree.IsFlat) : (interpolationOver g expressions).Gives Tree.IsFlat := by
  unfold interpolationOver
  mvcgen [h] with simp_all +decide

/-! ## Lists of expressions -/

/-- Looking for the next expression gives no tree. -/
@[spec] theorem flat_expressionNext (lines : Lines) :
    (expressionNext lines).Gives Tree.IsFlat := by
  unfold expressionNext
  mvcgen

/-- Several items become one node, and a single one stays as it is. -/
@[spec] theorem flat_expressionsOf (lines : Lines) {item : Parse Tree}
    (h : item.Gives Tree.IsFlat) : (expressionsOf lines item).Gives Tree.IsFlat := by
  unfold expressionsOf
  mvcgen [h] with simp_all +decide

/-- What is yielded is flat. -/
@[spec] theorem flat_yieldExpression (lines : Lines) :
    (yieldExpression g lines).Gives Tree.IsFlat := by
  unfold yieldExpression
  mvcgen with simp_all +decide

/-- An element of a display is an expression, a splat or what is yielded. -/
@[spec] theorem flat_element : (element g).Gives Tree.IsFlat := by
  unfold element
  mvcgen with simp_all +decide

/-- A member of an object is an operand. -/
@[spec] theorem operand_memberOf (lines : Lines) {object : Tree} (h : object.IsFlat) :
    (memberOf lines object).Gives Tree.IsOperand := by
  unfold memberOf
  mvcgen with simp_all +decide

@[spec] theorem flat_subscriptPartNext : subscriptPartNext.Gives Tree.IsFlat := by
  unfold subscriptPartNext
  mvcgen

/-- A subscript is an index, or a slice with colons and up to three bounds. -/
@[spec] theorem flat_subscriptItem : (subscriptItem g).Gives Tree.IsFlat := by
  unfold subscriptItem
  mvcgen with simp_all +decide

/-- A subscript of a value is an operand. -/
@[spec] theorem operand_subscriptOf (lines : Lines) {value : Tree} (h : value.IsFlat) :
    (subscriptOf g lines value).Gives Tree.IsOperand := by
  unfold subscriptOf
  mvcgen with simp_all +decide

/-- A target after a star is a name with attributes and subscripts. -/
@[spec] theorem flat_splatTarget (lines : Lines) : (splatTarget g lines).Gives Tree.IsFlat := by
  unfold splatTarget
  mvcgen with simp_all +decide

/-! ## Comprehensions and brackets -/

@[spec] theorem flat_forClauseNext (lines : Lines) : (forClauseNext lines).Gives Tree.IsFlat := by
  unfold forClauseNext
  mvcgen with simp_all

/-- An operand without operators is an expression of one level down. -/
@[spec] theorem flat_bareOperand (lines : Lines) : (bareOperand g lines).Gives Tree.IsFlat := by
  unfold bareOperand
  mvcgen

/-- Targets are flat if their operands are. -/
@[spec] theorem flat_targetsOf (lines : Lines) {operand : Parse Tree}
    (h : operand.Gives Tree.IsFlat) : (targetsOf lines operand).Gives Tree.IsFlat := by
  unfold targetsOf
  mvcgen [h] with simp_all +decide
  exact Tree.isFlat_of_toTarget? (And.left ‹_›) ‹_›

/-- The targets and the iterable of a comprehension are flat. -/
@[spec] theorem flat_forInClause : (forInClause g).Gives Tree.IsFlat := by
  unfold forInClause
  mvcgen with simp_all +decide

/-- All clauses of a comprehension are flat. -/
@[spec] theorem flat_comprehensionClauses : (comprehensionClauses g).Gives Tree.IsFlat := by
  unfold comprehensionClauses
  mvcgen with simp_all +decide

/-- Whatever parentheses enclose, together with them it is an operand. -/
@[spec] theorem operand_parenthesized (lines : Lines) :
    (parenthesized g lines).Gives Tree.IsOperand := by
  unfold parenthesized
  mvcgen with simp_all +decide

/-- A list or a comprehension in brackets is an operand. -/
@[spec] theorem operand_bracketed (lines : Lines) : (bracketed g lines).Gives Tree.IsOperand := by
  unfold bracketed
  mvcgen with simp_all +decide

/-- A key with its value is flat. -/
@[spec] theorem flat_pairOf {key : Tree} (h : key.IsFlat) : (pairOf g key).Gives Tree.IsFlat := by
  unfold pairOf
  mvcgen with simp_all +decide

/-- An item of a dictionary is a pair or a splat. -/
@[spec] theorem flat_dictionaryItem : (dictionaryItem g).Gives Tree.IsFlat := by
  unfold dictionaryItem
  mvcgen with simp_all +decide

/-- A set, a dictionary or a comprehension in braces is an operand. -/
@[spec] theorem operand_braced (lines : Lines) : (braced g lines).Gives Tree.IsOperand := by
  unfold braced
  mvcgen with simp_all +decide

/-- An argument is an expression, a splat, or an expression with a name in front of it. -/
@[spec] theorem flat_argument : (argument g).Gives Tree.IsFlat := by
  unfold argument
  mvcgen with simp_all +decide

/-- The arguments of a call are a list in parentheses or a comprehension. -/
@[spec] theorem flat_arguments (lines : Lines) : (arguments g lines).Gives Tree.IsFlat := by
  unfold arguments
  mvcgen with simp_all +decide

/-! ## Operands and operators -/

/-- A number is an operand. -/
@[spec] theorem operand_number : number.Gives Tree.IsOperand := by
  unfold number
  mvcgen [token_take, -flat_take] with simp_all +decide [Tree.IsToken]

/-- The words for constants are operands of which nothing is asked. -/
theorem isFree_of_constantKind? {w : String} {k : Kind} (h : constantKind? w = some k) :
    k.isFree = true ∧ k.isOperand = true := by
  unfold constantKind? at h
  split at h <;> cases h <;> decide

/-- An atom is an operand: a name, a constant, a number, a string or something in brackets. -/
@[spec] theorem operand_atom (lines : Lines) : (atom g lines).Gives Tree.IsOperand := by
  unfold atom
  mvcgen [token_take, -flat_take, token_name, -flat_name] with simp_all +decide [Tree.IsToken]
  all_goals
    have hkind := isFree_of_constantKind? ‹_›
    simp_all

/-- Members, subscripts and calls make operands of operands. -/
@[spec] theorem operand_primary (lines : Lines) : (primary g lines).Gives Tree.IsOperand := by
  unfold primary
  mvcgen [operand_loop, -flat_loop] with simp_all +decide

@[spec] theorem flat_awaitNext (lines : Lines) : (awaitNext lines).Gives Tree.IsFlat := by
  unfold awaitNext
  mvcgen with simp_all

/-- A lambda is an operand. -/
@[spec] theorem operand_lambda (lines : Lines) (body : Binding) :
    (lambda g lines body).Gives Tree.IsOperand := by
  unfold lambda
  mvcgen with simp_all +decide

/-- What may stand beside an operator is an operand, prefixes included. -/
@[spec] theorem operand_operand (lines : Lines) (binding : Binding) :
    (operand g lines binding).Gives Tree.IsOperand := by
  unfold operand
  mvcgen with simp_all +decide [Tree.isFlat_ofParts]

/-- An operator of a comparison is a token, also if it is made of two words. -/
@[spec] theorem token_comparison? (lines : Lines) :
    (comparison? lines).Gives (Tree.IsToken .mark) := by
  unfold comparison?
  mvcgen [gives_orElse, -flat_orElse, token_keyword, -flat_keyword, token_mark, -flat_mark] with
    simp_all +decide [Tree.IsToken]

/-- Comparisons one after another alternate operands and operators. -/
@[spec] theorem operand_comparisonChain (lines : Lines) {left : Tree} (h : left.IsOperand) :
    (comparisonChain g lines left).Gives Tree.IsOperand := by
  unfold comparisonChain
  -- the last operand comes first, and operands and operators take turns
  apply gives_loop_of_invariant fun acc =>
    (∀ t ∈ acc, t.IsFlat) ∧ IsChain (acc.map Tree.role)
  · intro acc hacc
    mvcgen [Rules.GivesFlat.expression, -flat_rulesExpression] with
      simp_all +decide [Tree.isFlat_ofParts, Tree.IsToken]
    · exact isChain_cons (by simp_all) (by simp_all) (by simp_all) hacc.2
    · exact isOperation_comparison (List.map_reverse ▸ hacc.2.reverse)
  · exact ⟨by simpa using h.1, isChain_singleton h.2.1 h.2.2⟩

/-- An operation between two operands is an operand itself. -/
@[spec] theorem operand_infixOf (lines : Lines) {kind : Kind} (hkind : kind.isBinary = true)
    {op : Parse Tree} (hop : op.Gives Tree.IsFlat) (right : Binding) {left : Tree}
    (hleft : left.IsFlat) : (infixOf g lines kind op right left).Gives Tree.IsOperand := by
  have hfacts : kind.isOutlined = false ∧ kind.isOperand = true := by
    simp only [Kind.isBinary, Bool.or_eq_true, decide_eq_true_eq] at hkind
    rcases hkind with (rfl | rfl) | rfl <;> exact ⟨rfl, rfl⟩
  unfold infixOf
  mvcgen [hop] with simp_all +decide [Tree.isFlat_ofParts]

/-- An operand stays one if an operator and a second operand follow. -/
@[spec] theorem operand_continued? (lines : Lines) (binding : Binding) {left : Tree}
    (h : left.IsOperand) : (continued? g lines binding left).Gives Tree.IsOperand := by
  unfold continued?
  mvcgen with simp_all +decide

/-- An expression is an operand. -/
theorem operand_expression (lines : Lines) (binding : Binding) :
    (expression g lines binding).Gives Tree.IsOperand := by
  unfold expression
  mvcgen [operand_loop, -flat_loop] with simp_all +decide

/-- An expression holds no definition and no import. -/
@[spec] theorem flat_expression (lines : Lines) (binding : Binding) :
    (expression g lines binding).Gives Tree.IsFlat :=
  (operand_expression lines binding).imp fun _ h => h.1

/-- Nor do several of them with commas between. -/
@[spec] theorem flat_expressions (lines : Lines) : (expressions g lines).Gives Tree.IsFlat := by
  unfold expressions
  mvcgen

/-- What stands between the braces of a string is made of expressions. -/
@[spec] theorem flat_interpolation : (interpolation g).Gives Tree.IsFlat := by
  unfold interpolation
  mvcgen with simp_all +decide

/-! ## Annotations and patterns -/

/-- The parameters of a generic type are type hints in brackets. -/
@[spec] theorem flat_typeParameter (lines : Lines) :
    (typeParameter g lines).Gives Tree.IsFlat := by
  unfold typeParameter
  mvcgen with simp_all +decide

@[spec] theorem flat_genericNext (lines : Lines) : (genericNext lines).Gives Tree.IsFlat := by
  unfold genericNext
  mvcgen with simp_all

@[spec] theorem flat_splatTypeNext (lines : Lines) : (splatTypeNext lines).Gives Tree.IsFlat := by
  unfold splatTypeNext
  mvcgen with simp_all

/-- A type hint begins with a splat, a generic type or an expression. -/
@[spec] theorem flat_typeHintHead (lines : Lines) : (typeHintHead g lines).Gives Tree.IsFlat := by
  unfold typeHintHead
  mvcgen with simp_all +decide

/-- A type hint is flat. -/
@[spec] theorem flat_typeHint (lines : Lines) (bounded : Bool) :
    (typeHint g lines bounded).Gives Tree.IsFlat := by
  unfold typeHint
  mvcgen with simp_all +decide

/-- A name with points is a list of tokens. -/
@[spec] theorem flat_dottedName (lines : Lines) : (dottedName lines).Gives Tree.IsFlat := by
  unfold dottedName
  mvcgen with simp_all +decide

/-- A number as a pattern may have a sign and an imaginary part. -/
@[spec] theorem flat_numberPattern (lines : Lines) : (numberPattern lines).Gives Tree.IsFlat := by
  unfold numberPattern
  mvcgen with simp_all +decide

/-- A pattern after stars is flat: only a name follows. -/
@[spec] theorem flat_splatPattern (lines : Lines) (stars : String) :
    (splatPattern lines stars).Gives Tree.IsFlat := by
  unfold splatPattern
  mvcgen with simp_all +decide

/-- Patterns between brackets are flat if each of them is. -/
@[spec] theorem flat_enclosedPatterns (lines : Lines) {kind : Kind}
    (hkind : kind.isFree = true) (opening closing : String) {item : Parse Tree}
    (hitem : item.Gives Tree.IsFlat) :
    (enclosedPatterns lines kind opening closing item).Gives Tree.IsFlat := by
  unfold enclosedPatterns
  mvcgen [hitem] with simp_all +decide

/-- An item of a mapping is a splat, or a key and a pattern. -/
@[spec] theorem flat_mappingItem {simple : Lines → Parse Tree}
    (h : ∀ lines, (simple lines).Gives Tree.IsFlat) : (mappingItem g simple).Gives Tree.IsFlat := by
  unfold mappingItem
  mvcgen [h] with simp_all +decide

/-- A pattern without bars at its top is flat. -/
@[spec] theorem flat_closedPattern {keys : Lines → Parse Tree}
    (h : ∀ lines, (keys lines).Gives Tree.IsFlat) (lines : Lines) :
    (closedPattern g keys lines).Gives Tree.IsFlat := by
  unfold closedPattern
  mvcgen [h] with simp_all +decide
  · have hkind := isFree_of_constantKind? ‹_›
    simp_all
  · exact Tree.IsFlat.children (And.left ‹_›)

/-- Patterns with bars between them are flat if each of them is. -/
@[spec] theorem flat_alternatives {keys : Lines → Parse Tree}
    (h : ∀ lines, (keys lines).Gives Tree.IsFlat) (lines : Lines) :
    (alternatives g keys lines).Gives Tree.IsFlat := by
  unfold alternatives
  mvcgen [h] with simp_all +decide

@[spec] theorem flat_keyPattern (lines : Lines) : (keyPattern g lines).Gives Tree.IsFlat := by
  unfold keyPattern
  mvcgen

/-- A pattern of a case is flat. -/
@[spec] theorem flat_casePattern (lines : Lines) : (casePattern g lines).Gives Tree.IsFlat := by
  unfold casePattern
  mvcgen with simp_all +decide

end Rules

end CodeSurvey
