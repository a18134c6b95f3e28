/-
# Source files are grammatical

Simple statements other than imports are flat.  Every rule for statements gives grammatical trees
if the rule for the bodies in it does (`Rules.IsSound`), so the grammar of every nesting depth does,
and the tree of an accepted source text is grammatical (`grammatical_of_parseFile?`).
-/
import CodeSurvey.Proofs.Syntax.Expressions
import CodeSurvey.Proofs.Syntax.Grammar

namespace CodeSurvey

open Std.Do

set_option mvcgen.warning false

attribute [local simp] or_imp forall_and

/-! ## Simple statements -/

section Simple

attribute [local spec] flat_loop flat_orElse

variable {g : Rules} [g.GivesFlat]

/-- An assignment to a flat target is flat, annotated, augmented or neither. -/
@[spec] theorem flat_assignmentTo? {target : Option Tree} (h : ∀ t ∈ target.toList, t.IsFlat) :
    (assignmentTo? g target).Gives Tree.IsFlat := by
  unfold assignmentTo?
  mvcgen with simp_all +decide +zetaDelta [Tree.isFlat_ofParts]

/-- The target that expressions before an equals sign make is flat. -/
theorem isFlat_of_targetOfItems {items : List Tree} (hitems : ∀ t ∈ items, t.IsFlat) {t : Tree}
    (h : targetOfItems items = some t) : t.IsFlat := by
  unfold targetOfItems at h
  split at h
  · exact Tree.isFlat_of_toTarget? (hitems _ (by simp)) h
  · obtain ⟨ts, hts, rfl⟩ := Option.map_eq_some_iff.1 h
    exact (Tree.isFlat_ofParts_of_isFree rfl).2 (Tree.isFlat_of_toTargets? hitems hts)

/-- The items of an expression statement are flat. -/
@[spec] theorem flat_expressionItems : (expressionItems g).Gives Tree.IsFlat := by
  unfold expressionItems
  mvcgen

/-- The right side of an assignment may be another assignment. -/
@[spec] theorem flat_rightSide : (rightSide g).Gives Tree.IsFlat := by
  unfold rightSide
  mvcgen with simp_all +decide
  exact fun _ => isFlat_of_targetOfItems (And.left ‹_›)

/-- A statement that starts with an expression is flat. -/
@[spec] theorem flat_expressionStatement : (expressionStatement g).Gives Tree.IsFlat := by
  unfold expressionStatement
  mvcgen with simp_all +decide
  exact fun _ => isFlat_of_targetOfItems (And.left ‹_›)

/-- An imported name with its alias is flat. -/
@[spec] theorem flat_importItem (lines : Lines) : (importItem lines).Gives Tree.IsFlat := by
  unfold importItem
  mvcgen with simp_all +decide

@[spec] theorem flat_importItems (lines : Lines) : (importItems lines).Gives Tree.IsFlat := by
  unfold importItems
  mvcgen

/-- The names that are imported are flat, in parentheses or not. -/
@[spec] theorem flat_importNames : importNames.Gives Tree.IsFlat := by
  unfold importNames
  mvcgen with simp_all

/-- The points of a relative import are tokens. -/
@[spec] theorem flat_importDots : importDots.Gives Tree.IsFlat := by
  unfold importDots
  mvcgen with simp_all +decide

/-- The module that is imported from is flat, named by points or not. -/
@[spec] theorem flat_fromModule : fromModule.Gives Tree.IsFlat := by
  unfold fromModule
  mvcgen with simp_all +decide

@[spec] theorem flat_statementEnds : statementEnds.Gives Tree.IsFlat := by
  unfold statementEnds
  mvcgen

/-- A statement of one word is flat. -/
@[spec] theorem flat_wordStatement {kind : Kind} (hkind : kind.isFree = true) (w : String) :
    (wordStatement kind w).Gives Tree.IsFlat := by
  unfold wordStatement
  mvcgen with simp_all

/-- So is one that lists names. -/
@[spec] theorem flat_namesStatement {kind : Kind} (hkind : kind.isFree = true) (w : String) :
    (namesStatement kind w).Gives Tree.IsFlat := by
  unfold namesStatement
  mvcgen with simp_all

/-- So is one with expressions that may be left out. -/
@[spec] theorem flat_optionalStatement {kind : Kind} (hkind : kind.isFree = true)
    (w : String) : (optionalStatement g kind w).Gives Tree.IsFlat := by
  unfold optionalStatement
  mvcgen with simp_all

/-- Raising an exception, with or without a cause, is flat. -/
@[spec] theorem flat_raiseStatement : (raiseStatement g).Gives Tree.IsFlat := by
  unfold raiseStatement
  mvcgen with simp_all +decide

/-- The old print statement is flat, also where it names a file. -/
@[spec] theorem flat_printStatement : (printStatement g).Gives Tree.IsFlat := by
  unfold printStatement
  mvcgen with simp_all +decide +zetaDelta

/-- The old exec statement is flat. -/
@[spec] theorem flat_execStatement : (execStatement g).Gives Tree.IsFlat := by
  unfold execStatement
  mvcgen with simp_all +decide +zetaDelta [Tree.IsOperand]

/-- An alias of a type is flat. -/
@[spec] theorem flat_typeAliasStatement : (typeAliasStatement g).Gives Tree.IsFlat := by
  unfold typeAliasStatement
  mvcgen with simp_all +decide

/-- A statement that has to reach the end of its line is as flat as before. -/
@[spec] theorem flat_wholeStatement {p : Parse Tree} (h : p.Gives Tree.IsFlat) :
    (wholeStatement p).Gives Tree.IsFlat := by
  unfold wholeStatement
  mvcgen [h] with simp_all

@[spec] theorem flat_codeNext (w : String) : (codeNext w).Gives Tree.IsFlat := by
  unfold codeNext
  mvcgen with simp_all

/-! ## Imports -/

/-- An import is grammatical if its parts are flat. -/
theorem grammatical_import {k : Kind} (hk : k.isImport = true) {cs : List Tree}
    (h : ∀ c ∈ cs, c.IsFlat) : (Tree.ofParts k cs).Grammatical :=
  Tree.grammatical_ofParts.2
    ⟨Kind.allows_of_isImport hk h, fun c hc => Tree.grammatical_of_isFlat (h c hc)⟩

/-- Imports of modules are grammatical. -/
@[spec] theorem grammatical_importStatement : importStatement.Gives Tree.Grammatical := by
  unfold importStatement
  mvcgen with simp_all +decide [grammatical_import]

/-- Imports from modules are grammatical, and those of future features too. -/
@[spec] theorem grammatical_fromImportStatement : fromImportStatement.Gives Tree.Grammatical := by
  unfold fromImportStatement
  mvcgen with simp_all +decide +zetaDelta [grammatical_import]

/-- A simple statement is an import or flat. -/
@[spec] theorem grammatical_simpleStatement : (simpleStatement g).Gives Tree.Grammatical := by
  unfold simpleStatement
  mvcgen with simp_all +decide

end Simple

/-! ## Bodies -/

/-- A choice between two grammatical statements is grammatical. -/
theorem grammatical_orElse {α : Type} [HoldsTrees α] {p q : Parse α}
    (hp : p.Gives Tree.Grammatical) (hq : q.Gives Tree.Grammatical) :
    (p <|> q).Gives Tree.Grammatical :=
  gives_orElse hp hq

/-- A loop over grammatical trees gives grammatical trees if each of its rounds does. -/
theorem grammatical_loop {α σ : Type} [HoldsTrees α] [HoldsTrees σ] {step : σ → Parse (σ ⊕ α)}
    (h : ∀ s, (∀ t ∈ HoldsTrees.trees s, t.Grammatical) → (step s).Gives Tree.Grammatical) {s : σ}
    (hs : ∀ t ∈ HoldsTrees.trees s, t.Grammatical) :
    (Parse.loop step s).Gives Tree.Grammatical :=
  gives_loop h hs

/-- A grammatical block. -/
def Tree.IsSoundBlock (t : Tree) : Prop :=
  t.kind = .block ∧ t.Grammatical

/-- Rules that give flat trees for what is nested in expressions, and grammatical blocks for
bodies. -/
class Rules.IsSound (g : Rules) : Prop extends g.GivesFlat where
  suite : g.suite.Gives Tree.IsSoundBlock

/-- A grammatical definition of a function or a class. -/
def Tree.IsSoundDefinition (t : Tree) : Prop :=
  t.kind.isNamedDefinition = true ∧ t.Grammatical

/-- The definition of a function needs a name. -/
theorem Tree.isSoundDefinition_function {cs : List Tree} :
    (ofParts .functionDefinition cs).IsSoundDefinition ↔
      (∃ c ∈ cs, c.field = some .name) ∧ ∀ c ∈ cs, c.Grammatical := by
  constructor
  · rintro ⟨-, h⟩
    obtain ⟨hallows, hcs⟩ := grammatical_ofParts.1 h
    exact ⟨hallows.named rfl, hcs⟩
  · rintro ⟨hname, hcs⟩
    exact ⟨rfl, grammatical_ofParts.2 ⟨Kind.allows_of_isNamedDefinition rfl hname nofun, hcs⟩⟩

/-- The definition of a class needs a name and exactly one body. -/
theorem Tree.isSoundDefinition_class {cs : List Tree} :
    (ofParts .classDefinition cs).IsSoundDefinition ↔
      (∃ c ∈ cs, c.field = some .name) ∧ HasOneBody cs ∧ ∀ c ∈ cs, c.Grammatical := by
  constructor
  · rintro ⟨-, h⟩
    obtain ⟨hallows, hcs⟩ := grammatical_ofParts.1 h
    exact ⟨hallows.named rfl, hallows.body rfl, hcs⟩
  · rintro ⟨hname, hbody, hcs⟩
    exact ⟨rfl, grammatical_ofParts.2
      ⟨Kind.allows_of_isNamedDefinition rfl hname fun _ => hbody, hcs⟩⟩

section Compound

attribute [local spec] grammatical_loop grammatical_orElse

variable {g : Rules} [g.IsSound]

/-- The body of a compound statement one level down is a block. -/
@[spec] theorem soundBlock_rulesSuite : g.suite.Gives Tree.IsSoundBlock :=
  Rules.IsSound.suite

/-- Simple statements on one line are grammatical. -/
@[spec] theorem grammatical_simpleStatements : (simpleStatements g).Gives Tree.Grammatical := by
  unfold simpleStatements
  mvcgen with simp_all +decide

/-- The indentation that is remembered does not matter for the extras. -/
@[simp] theorem Reader.isTidy_withIndents {r : Reader} {indents : List Nat} :
    Reader.IsTidy { r with indents := indents } ↔ r.IsTidy :=
  Iff.rfl

/-- Statements are read into a list, and the list is made a block. -/
theorem soundBlock_loop {step : List Tree → Parse (List Tree ⊕ Tree)}
    (h : ∀ s, (∀ t ∈ s, t.Grammatical) → ⦃fun r => ⌜r.IsTidy⌝⦄ step s
      ⦃⇓? a r => ⌜(a.elim (fun s => ∀ t ∈ s, t.Grammatical) fun a =>
        ∀ t ∈ HoldsTrees.trees a, t.IsSoundBlock) ∧ r.IsTidy⌝⦄)
    {s : List Tree} (hs : ∀ t ∈ s, t.Grammatical) :
    (Parse.loop step s).Gives Tree.IsSoundBlock :=
  gives_loop_of_invariant (fun s => ∀ t ∈ s, t.Grammatical) h hs

/-- Statements with the same indentation make a block. -/
@[spec] theorem soundBlock_indentedBlock (indent : Nat) {item : Parse (List Tree)}
    (h : item.Gives Tree.Grammatical) : (indentedBlock indent item).Gives Tree.IsSoundBlock := by
  unfold indentedBlock
  mvcgen [h, soundBlock_loop, -grammatical_loop] with
    simp_all +decide +zetaDelta [Tree.IsSoundBlock]

/-- After the end of a line, a block is indented or empty. -/
@[spec] theorem soundBlock_blockAfterLine {item : Parse (List Tree)}
    (h : item.Gives Tree.Grammatical) : (blockAfterLine item).Gives Tree.IsSoundBlock := by
  unfold blockAfterLine
  mvcgen [h] with simp_all +decide [Tree.IsSoundBlock]

/-- A body is a block, whether it stands on the same line or below. -/
@[spec] theorem soundBlock_suiteOver {statement : Parse (List Tree)}
    (h : statement.Gives Tree.Grammatical) : (suiteOver g statement).Gives Tree.IsSoundBlock := by
  unfold suiteOver
  mvcgen [h] with simp_all +decide [Tree.IsSoundBlock]

/-- A colon and a body are grammatical. -/
@[spec] theorem grammatical_colonSuite (field : Field) :
    (colonSuite g field).Gives Tree.Grammatical := by
  unfold colonSuite
  mvcgen with simp_all +decide [Tree.IsSoundBlock]

/-! ## Compound statements -/

@[spec] theorem flat_clauseWord : clauseWord.Gives Tree.IsFlat := by
  unfold clauseWord
  mvcgen with simp_all

/-- What stands after `else` is a body. -/
@[spec] theorem grammatical_elseClause? : (elseClause? g).Gives Tree.Grammatical := by
  unfold elseClause?
  mvcgen with simp_all +decide +zetaDelta

/-- A condition with its further branches is grammatical. -/
@[spec] theorem grammatical_ifStatement : (ifStatement g).Gives Tree.Grammatical := by
  unfold ifStatement
  mvcgen with simp_all +decide +zetaDelta

/-- A loop over items is grammatical, asynchronous or not. -/
@[spec] theorem grammatical_forStatement {async : List Tree} (h : ∀ t ∈ async, t.IsFlat) :
    (forStatement g async).Gives Tree.Grammatical := by
  unfold forStatement
  mvcgen with simp_all +decide +contextual [Tree.IsOperand]

/-- A loop with a condition is grammatical. -/
@[spec] theorem grammatical_whileStatement : (whileStatement g).Gives Tree.Grammatical := by
  unfold whileStatement
  mvcgen with simp_all +decide

/-- A statement that handles exceptions is grammatical with all of its clauses. -/
@[spec] theorem grammatical_tryStatement : (tryStatement g).Gives Tree.Grammatical := by
  unfold tryStatement
  mvcgen with simp_all +decide +contextual

/-- A statement with a context is grammatical, asynchronous or not. -/
@[spec] theorem grammatical_withStatement {async : List Tree} (h : ∀ t ∈ async, t.IsFlat) :
    (withStatement g async).Gives Tree.Grammatical := by
  unfold withStatement
  mvcgen with simp_all +decide +contextual

@[spec] theorem flat_typeParameters? : (typeParameters? g).Gives Tree.IsFlat := by
  unfold typeParameters?
  mvcgen with simp_all

/-! ## Definitions -/

/-- The definition of a function always has a name. -/
@[spec] theorem soundDefinition_functionDefinition {async : List Tree}
    (h : ∀ t ∈ async, t.IsFlat) :
    (functionDefinition g async).Gives Tree.IsSoundDefinition := by
  unfold functionDefinition
  mvcgen with
    simp_all +decide +contextual [Tree.isSoundDefinition_function, or_and_right, exists_or]

/-- A node that may stand before the body of a class: it is flat and no body. -/
def Tree.IsHead (t : Tree) : Prop :=
  t.IsFlat ∧ t.field ≠ some .body

/-- The type parameters of a class are no body. -/
theorem head_typeParameters? : (typeParameters? g).Gives Tree.IsHead := by
  unfold typeParameters?
  mvcgen with simp_all [Tree.IsHead]

/-- A colon is followed by exactly one body. -/
theorem hasOneBody_colonSuite :
    ⦃fun r => ⌜r.IsTidy⌝⦄ colonSuite g .body
    ⦃⇓? parts r => ⌜(HasOneBody parts ∧ ∀ t ∈ parts, t.Grammatical) ∧ r.IsTidy⌝⦄ := by
  unfold colonSuite
  mvcgen [token_mark, -flat_mark] with simp_all [Tree.IsToken, Tree.IsSoundBlock, HasOneBody]

-- the parts before the body of a class must be known to be no bodies, not only to be flat
/-- The definition of a class has a name and one body. -/
@[spec] theorem soundDefinition_classDefinition :
    (classDefinition g).Gives Tree.IsSoundDefinition := by
  unfold classDefinition
  mvcgen [token_keyword, -flat_keyword, head_typeParameters?, -flat_typeParameters?,
    hasOneBody_colonSuite, -grammatical_colonSuite] with
    simp_all +decide +contextual [Tree.isSoundDefinition_class, Tree.IsToken, Tree.IsHead,
      hasOneBody_cons, hasOneBody_append, or_and_right, exists_or]

/-- What decorators may stand before is the definition of a function or a class. -/
@[spec] theorem soundDefinition_definition : (definition g).Gives Tree.IsSoundDefinition := by
  unfold definition
  mvcgen with simp_all

/-- A definition after decorators. -/
theorem grammatical_decorated {decorators : List Tree} {d : Tree} (hd : d.IsSoundDefinition)
    (hflat : ∀ c ∈ decorators, c.IsFlat)
    (hpart : ∀ c ∈ decorators, c.field ≠ some .definition) :
    (Tree.ofParts .decoratedDefinition
      (decorators ++ [d.withField .definition])).Grammatical := by
  have hnone : decorators.filter Tree.isDefinitionPart = [] := by
    rw [List.filter_eq_nil_iff]
    intro c hc
    simpa using hpart c hc
  refine Tree.grammatical_ofParts.2
    ⟨⟨nofun, nofun, fun _ => ⟨?_, ?_⟩, nofun, isOperation_of_other rfl _⟩, ?_⟩
  · refine ⟨d.withField .definition, ?_, ?_⟩
    · rw [List.filter_append, hnone]
      simp
    · rw [Tree.kind_withField]
      exact hd.1
  · intro c hc hother
    rcases List.mem_append.1 hc with hc | hc
    · exact hflat c hc
    · simp_all
  · intro c hc
    rcases List.mem_append.1 hc with hc | hc
    · exact Tree.grammatical_of_isFlat (hflat c hc)
    · rw [List.mem_singleton.1 hc, Tree.grammatical_withField]
      exact hd.2

/-- Decorators and a definition are grammatical together. -/
@[spec] theorem grammatical_decoratedDefinition :
    (decoratedDefinition g).Gives Tree.Grammatical := by
  unfold decoratedDefinition
  -- the decorators read so far are flat, and none of them is the definition
  apply gives_loop_of_invariant fun acc =>
    ∀ c ∈ acc, c.IsFlat ∧ c.field ≠ some .definition
  · intro acc hacc
    mvcgen with simp_all +decide [grammatical_decorated]
  · nofun

/-! ## Statements -/

/-- A case with a pattern, a guard and a body is grammatical. -/
@[spec] theorem grammatical_caseClause : (caseClause g).Gives Tree.Grammatical := by
  unfold caseClause
  mvcgen with simp_all +decide +zetaDelta +contextual

/-- A statement that matches patterns is grammatical with all of its cases. -/
@[spec] theorem grammatical_matchStatement : (matchStatement g).Gives Tree.Grammatical := by
  unfold matchStatement
  mvcgen with simp_all +decide +contextual [Tree.IsSoundBlock]

/-- An asynchronous statement is the definition of a function, a loop or a context. -/
@[spec] theorem grammatical_asyncStatement : (asyncStatement g).Gives Tree.Grammatical := by
  unfold asyncStatement
  mvcgen with simp_all [Tree.IsSoundDefinition]

/-- Every statement is grammatical. -/
@[spec] theorem grammatical_statement : (statement g).Gives Tree.Grammatical := by
  unfold statement
  mvcgen with simp_all [Tree.IsSoundDefinition]

/-- So every body is a block of grammatical statements. -/
theorem soundBlock_suite : (suite g).Gives Tree.IsSoundBlock := by
  unfold suite
  mvcgen

/-- All statements of a file are grammatical. -/
theorem grammatical_fileStatements : (fileStatements g).Gives Tree.Grammatical := by
  unfold fileStatements
  mvcgen with simp_all

end Compound

/-! ## Source files -/

/-- Without any nesting, every rule gives up. -/
theorem Rules.isSound_none : Rules.none.IsSound where
  expression _ _ := gives_failure
  rightSide := gives_failure
  typeHint _ _ := gives_failure
  interpolation := gives_failure
  pattern _ := gives_failure
  suite := gives_failure

/-- The grammar of every nesting depth is sound. -/
instance Rules.isSound_upTo (n : Nat) : (Rules.upTo n).IsSound := by
  induction n with
  | zero => exact isSound_none
  | succ n ih =>
    exact {
      expression := operand_expression
      rightSide := flat_rightSide
      typeHint := flat_typeHint
      interpolation := flat_interpolation
      pattern := flat_casePattern
      suite := soundBlock_suite }

/-- The tree of an accepted source text is a grammatical file. -/
theorem grammatical_of_parseFile? {source : List Char} {t : Tree} (h : parseFile? source = some t) :
    t.kind = .file ∧ t.Grammatical := by
  obtain ⟨⟨statements, r⟩, hread, h⟩ := Option.bind_eq_some_iff.1 h
  cases h
  obtain ⟨hstatements, htidy⟩ := gives_iff.1
    (grammatical_fileStatements (g := Rules.upTo (source.length + 1))) (.ofSource source) nofun
    statements r hread
  refine ⟨Tree.kind_weaveAll _ _, Tree.Grammatical.weaveAll ?_ htidy⟩
  exact .node (Kind.allows_of_isFree rfl _) hstatements

end CodeSurvey
