/-
# Operations and their operands

An operation with two operands, or with one, names its operator and its operands by the parts that
they play.  In a comparison operands and operators take turns, and only the operators play a part
(`IsChain`).  What an operation asks of the nodes below it (`IsOperation`) is said of their kinds and
parts alone, and comments and line continuations, which may stand anywhere between them, are left
out.
-/
import CodeSurvey.Syntax.Tree
import Mathlib.Tactic.Common

namespace CodeSurvey

/-! ## Kinds of operations -/

namespace Kind

/-- The kinds of nodes that may stand between any two tokens. -/
def isExtra (k : Kind) : Bool :=
  k = .comment || k = .lineContinuation

/-- The kinds of operations with two operands and an operator between them. -/
def isBinary (k : Kind) : Bool :=
  k = .binaryOperator || k = .booleanOperator || k = .augmentedAssignment

/-- The kinds of operations with an operator and one operand. -/
def isUnary (k : Kind) : Bool :=
  k = .unaryOperator || k = .notOperator

/-- The kinds of operations. -/
def isOperation (k : Kind) : Bool :=
  k.isBinary || k.isUnary || k = .comparisonOperator

/-- The kinds that an operand of a comparison may have. -/
def isOperand (k : Kind) : Bool :=
  k.isNamed && !k.isExtra

end Kind

namespace Tree

@[simp] theorem kind_ofParts (k : Kind) (cs : List Tree) : (ofParts k cs).kind = k := rfl

@[simp] theorem field_ofParts (k : Kind) (cs : List Tree) : (ofParts k cs).field = none := rfl

@[simp] theorem kind_leaf (k : Kind) (s t : Place) : (leaf k s t).kind = k := rfl

@[simp] theorem field_leaf (k : Kind) (s t : Place) : (leaf k s t).field = none := rfl

@[simp] theorem kind_withField (f : Field) (t : Tree) : (t.withField f).kind = t.kind := by
  cases t
  rfl

@[simp] theorem field_withField (f : Field) (t : Tree) : (t.withField f).field = some f := by
  cases t
  rfl

end Tree

/-! ## Chains of comparisons -/

/-- What a node is, and the part that it plays in the node above it. -/
abbrev Role := Kind × Option Field

/-- The role of a node. -/
def Tree.role (t : Tree) : Role :=
  (t.kind, t.field)

/-- The roles of some nodes, comments and line continuations left out. -/
def rolesAmong (cs : List Tree) : List Role :=
  (cs.map Tree.role).filter fun r => !r.1.isExtra

/-- Operands with the operator of a comparison between every two of them. -/
inductive IsChain : List Role → Prop where
  | operand {k : Kind} (isOperand : k.isOperand = true) : IsChain [(k, none)]
  | compare {k : Kind} (isOperand : k.isOperand = true) {roles : List Role}
    (chain : IsChain roles) : IsChain ((k, none) :: (.mark, some .operators) :: roles)

namespace IsChain

variable {roles : List Role}

/-- A chain goes on with an operator and an operand. -/
theorem concat (h : IsChain roles) {k : Kind} (hk : k.isOperand = true) :
    IsChain (roles ++ [(.mark, some .operators), (k, none)]) := by
  induction h with
  | operand hfirst => exact .compare hfirst (.operand hk)
  | compare hfirst _ ih => exact .compare hfirst ih

/-- A chain is one from its other end too. -/
theorem reverse (h : IsChain roles) : IsChain roles.reverse := by
  induction h with
  | operand hk => exact .operand hk
  | compare hk _ ih =>
    rw [List.reverse_cons, List.reverse_cons, List.append_assoc]
    exact ih.concat hk

/-- No comment is a link of a chain. -/
theorem isExtra_eq_false (h : IsChain roles) : ∀ r ∈ roles, r.1.isExtra = false := by
  induction h with
  | operand hk => simp_all [Kind.isOperand]
  | compare hk _ ih =>
    rw [Kind.isOperand, Bool.and_eq_true, Bool.not_eq_true'] at hk
    exact List.forall_mem_cons.2 ⟨hk.2, List.forall_mem_cons.2 ⟨rfl, ih⟩⟩

/-- There is one operand more than there are operators. -/
theorem countP_isNamed (h : IsChain roles) :
    roles.countP (·.1.isNamed) = roles.countP (·.2 = some .operators) + 1 := by
  induction h with
  | operand hk => simp_all [Kind.isOperand]
  | compare hk _ ih => simp_all [Kind.isOperand, Kind.isNamed]

end IsChain

section Chain

variable {t : Tree} (hkind : t.kind.isOperand = true) (hfield : t.field = none)

include hkind hfield

/-- An operand alone is a chain. -/
theorem isChain_singleton : IsChain ([t].map Tree.role) := by
  rw [List.map_singleton, Tree.role, hfield]
  exact .operand hkind

/-- A chain also goes on at its front. -/
theorem isChain_cons {operator : Tree} (hoperator : operator.kind = .mark) {cs : List Tree}
    (h : IsChain (cs.map Tree.role)) :
    IsChain ((t :: operator.withField .operators :: cs).map Tree.role) := by
  rw [List.map_cons, List.map_cons, Tree.role, Tree.role, Tree.kind_withField,
    Tree.field_withField, hfield, hoperator]
  exact .compare hkind h

end Chain

/-! ## Operations -/

/-- The nodes below an operation are its operator and its operands. -/
structure IsOperation (k : Kind) (cs : List Tree) : Prop where
  binary : k.isBinary = true → cs.filterMap Tree.field = [.left, .operator, .right]
  unary : k.isUnary = true → cs.filterMap Tree.field = [.operator, .argument]
  comparison : k = .comparisonOperator → IsChain (rolesAmong cs)
  extras : k = .comparisonOperator → ∀ c ∈ cs, c.kind.isExtra = true → c.field = none

section Operation

variable {k : Kind}

/-- Nothing is asked of other nodes. -/
@[simp] theorem isOperation_of_other (h : k.isOperation = false) (cs : List Tree) :
    IsOperation k cs := by
  simp only [Kind.isOperation, Bool.or_eq_false_iff, decide_eq_false_iff_not] at h
  constructor <;> simp [h]

/-- Two operands with an operator between them are all that a binary operation holds. -/
@[simp] theorem isOperation_binary (hk : k.isBinary = true) (left operator right : Tree) :
    IsOperation k
      [left.withField .left, operator.withField .operator, right.withField .right] := by
  simp only [Kind.isBinary, Bool.or_eq_true, decide_eq_true_eq] at hk
  rcases hk with (rfl | rfl) | rfl <;> constructor <;> simp +decide

/-- An operator and its operand are all that a unary operation holds. -/
@[simp] theorem isOperation_unary (hk : k.isUnary = true) (operator argument : Tree) :
    IsOperation k [operator.withField .operator, argument.withField .argument] := by
  simp only [Kind.isUnary, Bool.or_eq_true, decide_eq_true_eq] at hk
  rcases hk with rfl | rfl <;> constructor <;> simp +decide

/-- A chain is what a comparison may hold. -/
theorem isOperation_comparison {cs : List Tree} (h : IsChain (cs.map Tree.role)) :
    IsOperation .comparisonOperator cs := by
  have hextra := h.isExtra_eq_false
  have hroles : rolesAmong cs = cs.map Tree.role :=
    List.filter_eq_self.2 fun r hr => by rw [hextra r hr, Bool.not_false]
  refine ⟨nofun, nofun, fun _ => hroles ▸ h, fun _ c hc hkind => ?_⟩
  cases hkind.symm.trans (hextra c.role (List.mem_map_of_mem hc))

end Operation

end CodeSurvey
