/-
# What steps of parsing answer

A step of parsing answers with trees or with other values.  `Parse.Gives P p` says that every tree
in an answer of `p` has the property `P`.  Choices give what both sides give (`gives_orElse`), and a
loop gives what its rounds give (`gives_loop`).  Tokens give flat trees: trees without definitions
and imports, in which every operation holds its operands.
-/
import CodeSurvey.Outline.Extract
import CodeSurvey.Proofs.Syntax.Operations
import CodeSurvey.Syntax.Statement
import Mathlib

namespace CodeSurvey

open Std.Do

set_option mvcgen.warning false

/-! ## Flat trees -/

/-- The kinds of nodes that import something. -/
def Kind.isImport (k : Kind) : Bool :=
  k = .importStatement || k = .fromImportStatement || k = .futureImportStatement

/-- The kinds of nodes that define or import something. -/
def Kind.isOutlined (k : Kind) : Bool :=
  k.isDefinition || k.isImport

/-- The kinds that an outline lists are definitions and imports. -/
theorem Kind.isOutlined_iff {k : Kind} : k.isOutlined = true ↔
    k.isNamedDefinition = true ∨ k = .decoratedDefinition ∨ k.isImport = true := by
  have hdefinition : k.isDefinition = true ↔
      k.isNamedDefinition = true ∨ k = .decoratedDefinition := by
    unfold isDefinition
    split <;> simp_all [isNamedDefinition]
  rw [isOutlined, Bool.or_eq_true, hdefinition, or_assoc]

/-- The kinds of nodes of which nothing is asked. -/
def Kind.isFree (k : Kind) : Bool :=
  !k.isOutlined && !k.isOperation

/-- Nothing is asked of the other kinds, unless they are operations. -/
theorem Kind.isFree_iff {k : Kind} :
    k.isFree = true ↔ k.isOutlined = false ∧ k.isOperation = false := by
  simp [isFree]

/-- A tree without definitions and imports, in which every operation holds its operands. -/
def Tree.IsFlat (t : Tree) : Prop :=
  ∀ n ∈ t.preorder, n.kind.isOutlined = false ∧ IsOperation n.kind n.children

namespace Tree

/-- A node is flat if its kind is not outlined, its operands are in place, and its children are
flat. -/
theorem isFlat_node {k : Kind} {f : Option Field} {s t : Place} {cs : List Tree} :
    (node k f s t cs).IsFlat ↔
      (k.isOutlined = false ∧ IsOperation k cs) ∧ ∀ c ∈ cs, c.IsFlat := by
  simp only [IsFlat, preorder_node, List.forall_mem_cons, List.forall_mem_flatMap]
  rfl

/-- What stands in a flat tree is flat. -/
theorem IsFlat.children {t : Tree} (h : t.IsFlat) : ∀ c ∈ t.children, c.IsFlat := by
  cases t
  exact (isFlat_node.1 h).2

/-- Where the parts of a node stand does not matter for its being flat. -/
theorem isFlat_ofParts {k : Kind} {cs : List Tree} :
    (ofParts k cs).IsFlat ↔ (k.isOutlined = false ∧ IsOperation k cs) ∧ ∀ c ∈ cs, c.IsFlat :=
  isFlat_node

/-- For a kind of which nothing is asked, only the children matter. -/
theorem isFlat_node_of_isFree {k : Kind} (hk : k.isFree = true) {f : Option Field} {s t : Place}
    {cs : List Tree} : (node k f s t cs).IsFlat ↔ ∀ c ∈ cs, c.IsFlat := by
  rw [Kind.isFree_iff] at hk
  rw [isFlat_node, and_iff_right ⟨hk.1, isOperation_of_other hk.2 cs⟩]

/-- The same for a node that is put together from its parts. -/
@[simp] theorem isFlat_ofParts_of_isFree {k : Kind} (hk : k.isFree = true) {cs : List Tree} :
    (ofParts k cs).IsFlat ↔ ∀ c ∈ cs, c.IsFlat :=
  isFlat_node_of_isFree hk

@[simp] theorem isFlat_leaf {k : Kind} (hk : k.isFree = true) (s t : Place) :
    (leaf k s t).IsFlat :=
  (isFlat_node_of_isFree hk).2 nofun

@[simp] theorem isFlat_withField {f : Field} {t : Tree} : (t.withField f).IsFlat ↔ t.IsFlat := by
  cases t
  simp only [withField, isFlat_node]

end Tree

/-- A token of a kind: a flat tree that plays no part. -/
def Tree.IsToken (k : Kind) (t : Tree) : Prop :=
  t.IsFlat ∧ t.kind = k ∧ t.field = none

/-- A flat tree that may be an operand of a comparison. -/
def Tree.IsOperand (t : Tree) : Prop :=
  t.IsFlat ∧ t.kind.isOperand = true ∧ t.field = none

/-- A comment or line continuation that is flat and plays no part. -/
structure Tree.IsExtra (t : Tree) : Prop where
  flat : t.IsFlat
  kind : t.kind.isExtra = true
  field : t.field = none

/-- A reader that has met nothing but comments and line continuations between tokens. -/
def Reader.IsTidy (r : Reader) : Prop :=
  ∀ e ∈ r.extras, e.IsExtra

/-! ## Trees of answers -/

/-- A type whose values hold trees. -/
class HoldsTrees (α : Type) where
  trees : α → List Tree

open HoldsTrees (trees)

instance : HoldsTrees Tree := ⟨fun t => [t]⟩
instance : HoldsTrees (List Tree) := ⟨fun ts => ts⟩
instance : HoldsTrees (Option Tree) := ⟨fun t => t.toList⟩
instance : HoldsTrees Unit := ⟨fun _ => []⟩
instance : HoldsTrees Bool := ⟨fun _ => []⟩
instance : HoldsTrees String := ⟨fun _ => []⟩
instance : HoldsTrees (List Char) := ⟨fun _ => []⟩
instance : HoldsTrees Place := ⟨fun _ => []⟩

instance {α β : Type} [HoldsTrees α] [HoldsTrees β] : HoldsTrees (α × β) :=
  ⟨fun a => trees a.1 ++ trees a.2⟩

instance {α β : Type} [HoldsTrees α] [HoldsTrees β] : HoldsTrees (α ⊕ β) :=
  ⟨Sum.elim trees trees⟩

section Trees

variable {α β : Type} [HoldsTrees α] [HoldsTrees β]

@[simp] theorem trees_tree (t : Tree) : trees t = [t] := rfl
@[simp] theorem trees_list (ts : List Tree) : trees ts = ts := rfl
@[simp] theorem trees_option (t : Option Tree) : trees t = t.toList := rfl
@[simp] theorem trees_unit (u : Unit) : trees u = [] := rfl
@[simp] theorem trees_bool (b : Bool) : trees b = [] := rfl
@[simp] theorem trees_string (s : String) : trees s = [] := rfl
@[simp] theorem trees_chars (cs : List Char) : trees cs = [] := rfl
@[simp] theorem trees_place (p : Place) : trees p = [] := rfl
@[simp] theorem trees_pair (a : α × β) : trees a = trees a.1 ++ trees a.2 := rfl
@[simp] theorem trees_inl (a : α) : trees (Sum.inl a : α ⊕ β) = trees a := rfl
@[simp] theorem trees_inr (b : β) : trees (Sum.inr b : α ⊕ β) = trees b := rfl

end Trees

/-- Every tree in an answer of a step has a property, and the reader stays tidy. -/
abbrev Parse.Gives {α : Type} [HoldsTrees α] (P : Tree → Prop) (p : Parse α) : Prop :=
  ⦃fun r => ⌜r.IsTidy⌝⦄ p ⦃⇓? a r => ⌜(∀ t ∈ trees a, P t) ∧ r.IsTidy⌝⦄

/-- The weakest precondition of a step at a reader, by what the step answers there. -/
theorem wp_parse {α : Type} (p : Parse α)
    (Q : PostCond α (.arg Reader (.except PUnit .pure))) (r : Reader) :
    wp⟦p⟧ Q r = match p r with
      | some x => Q.1 x.1 x.2
      | none => Q.2.1 PUnit.unit := by
  change wp⟦p r⟧ (fun x => Q.1 x.1 x.2, Q.2) = _
  cases p r with
  | none => rfl
  | some x => rfl

/-- What a step gives, said of its runs. -/
theorem gives_iff {α : Type} [HoldsTrees α] {P : Tree → Prop} {p : Parse α} :
    p.Gives P ↔ ∀ r, r.IsTidy → ∀ a r', p r = some (a, r') →
      (∀ t ∈ trees a, P t) ∧ r'.IsTidy := by
  constructor
  · intro h r hr a r' hp
    have hwp := h r hr
    rw [wp_parse, hp] at hwp
    exact hwp
  · intro h r hr
    rw [wp_parse]
    cases hp : p r with
    | none => trivial
    | some x => exact h r hr x.1 x.2 hp

/-- A step gives whatever follows from what it gives. -/
theorem Parse.Gives.imp {α : Type} [HoldsTrees α] {P Q : Tree → Prop} {p : Parse α}
    (h : p.Gives P) (himp : ∀ t, P t → Q t) : p.Gives Q := by
  rw [gives_iff] at h ⊢
  intro r hr a r' hp
  obtain ⟨htrees, htidy⟩ := h r hr a r' hp
  exact ⟨fun t ht => himp t (htrees t ht), htidy⟩

/-- A step that gives up has no answer. -/
@[spec] theorem failure_spec {α : Type} {Q : PostCond α (.arg Reader (.except PUnit .pure))} :
    ⦃fun _ => Q.2.1 PUnit.unit⦄ (failure : Parse α) ⦃Q⦄ := by
  intro r h
  rw [wp_parse]
  exact h

/-- A guard that lets the reading go on has found its condition true. -/
@[spec] theorem guard_spec (c : Prop) [Decidable c] :
    ⦃fun r => ⌜r.IsTidy⌝⦄ (guard c : Parse Unit) ⦃⇓? _ r => ⌜c ∧ r.IsTidy⌝⦄ := by
  unfold guard
  mvcgen

/-- Looking ahead leaves the reader where it is. -/
@[spec] theorem succeeds_spec {α : Type} (p : Parse α) :
    ⦃fun r => ⌜r.IsTidy⌝⦄ succeeds p ⦃⇓? _ r => ⌜r.IsTidy⌝⦄ := by
  intro r hr
  rw [wp_parse]
  exact hr

/-! ## Choices and repetition -/

section Combinators

variable {α σ : Type} [HoldsTrees α] {P : Tree → Prop}

theorem gives_failure : (failure : Parse α).Gives P := by
  mvcgen

/-- A choice gives what both steps give. -/
theorem gives_orElse {p q : Parse α} (hp : p.Gives P) (hq : q.Gives P) : (p <|> q).Gives P := by
  rw [gives_iff] at hp hq ⊢
  intro r hr a r' h
  change (p r).orElse (fun _ => q r) = some (a, r') at h
  cases hpr : p r with
  | none =>
    rw [hpr] at h
    exact hq r hr a r' h
  | some x =>
    rw [hpr] at h
    exact hp r hr a r' (hpr.trans h)

/-- A round that keeps an invariant or answers, repeated, answers as its rounds do. -/
theorem gives_repeatAtMost {I : σ → Prop} {step : σ → Parse (σ ⊕ α)}
    (h : ∀ s, I s → ⦃fun r => ⌜r.IsTidy⌝⦄ step s
      ⦃⇓? a r => ⌜(a.elim I fun a => ∀ t ∈ trees a, P t) ∧ r.IsTidy⌝⦄)
    (n : Nat) {s : σ} (hs : I s) : (Parse.repeatAtMost step n s).Gives P := by
  induction n generalizing s with
  | zero => exact gives_failure
  | succ n ih =>
    unfold Parse.repeatAtMost
    mvcgen [h, ih]
    all_goals simp_all

/-- A loop whose rounds keep an invariant gives what its last round gives. -/
theorem gives_loop_of_invariant (I : σ → Prop) {step : σ → Parse (σ ⊕ α)}
    (h : ∀ s, I s → ⦃fun r => ⌜r.IsTidy⌝⦄ step s
      ⦃⇓? a r => ⌜(a.elim I fun a => ∀ t ∈ trees a, P t) ∧ r.IsTidy⌝⦄)
    {s : σ} (hs : I s) : (Parse.loop step s).Gives P := by
  have hrounds := fun n => gives_repeatAtMost h n hs
  unfold Parse.loop
  mvcgen [hrounds]

/-- A loop gives what its rounds give. -/
theorem gives_loop [HoldsTrees σ] {step : σ → Parse (σ ⊕ α)}
    (h : ∀ s, (∀ t ∈ trees s, P t) → (step s).Gives P) {s : σ} (hs : ∀ t ∈ trees s, P t) :
    (Parse.loop step s).Gives P := by
  apply gives_loop_of_invariant (fun s => ∀ t ∈ trees s, P t) _ hs
  intro s hs
  have hstep := h s hs
  mvcgen [hstep]
  rename_i a _
  cases a <;> simp_all

end Combinators

/-! ## Tokens -/

/-- Skipping characters leaves the extras that were met. -/
theorem Reader.extras_skip (n : Nat) (r : Reader) : (r.skip n).extras = r.extras := by
  induction n generalizing r with
  | zero => rfl
  | succ n ih =>
    rw [Reader.skip]
    split
    · rfl
    · exact ih _

/-- So a reader stays tidy. -/
@[simp] theorem Reader.isTidy_skip {n : Nat} {r : Reader} : (r.skip n).IsTidy ↔ r.IsTidy := by
  rw [IsTidy, IsTidy, extras_skip]

section Tokens

attribute [local simp] or_imp forall_and Tree.IsToken

/-- The choice between flat steps.  It is not among the specifications of every module, because
statements choose between steps that are not flat. -/
theorem flat_orElse {α : Type} [HoldsTrees α] {p q : Parse α} (hp : p.Gives Tree.IsFlat)
    (hq : q.Gives Tree.IsFlat) : (p <|> q).Gives Tree.IsFlat :=
  gives_orElse hp hq

/-- A loop over flat trees gives flat trees if each of its rounds does. -/
theorem flat_loop {α σ : Type} [HoldsTrees α] [HoldsTrees σ] {step : σ → Parse (σ ⊕ α)}
    (h : ∀ s, (∀ t ∈ trees s, t.IsFlat) → (step s).Gives Tree.IsFlat) {s : σ}
    (hs : ∀ t ∈ trees s, t.IsFlat) : (Parse.loop step s).Gives Tree.IsFlat :=
  gives_loop h hs

attribute [local spec] flat_loop

/-- Taking characters gives a token of the kind that is asked for. -/
theorem token_take {kind : Kind} (hkind : kind.isFree = true) (n : Nat) :
    (take kind n).Gives (Tree.IsToken kind) := by
  rw [gives_iff]
  intro r hr a r' h
  cases h
  refine ⟨?_, Reader.isTidy_skip.2 hr⟩
  simpa using Tree.isFlat_leaf hkind _ _

@[spec] theorem flat_take {kind : Kind} (hkind : kind.isFree = true) (n : Nat) :
    (take kind n).Gives Tree.IsFlat :=
  (token_take hkind n).imp fun _ h => h.1

/-- An extra is put aside, and nothing is given. -/
@[spec] theorem flat_takeExtra {kind : Kind} (hkind : kind.isFree = true)
    (hextra : kind.isExtra = true) (n : Nat) : (takeExtra kind n).Gives Tree.IsFlat := by
  rw [gives_iff]
  intro r hr a r' h
  cases h
  refine ⟨by simp, ?_⟩
  intro e he
  rcases List.mem_cons.1 he with rfl | he
  · exact ⟨Tree.isFlat_leaf hkind _ _, hextra, rfl⟩
  · exact Reader.isTidy_skip.2 hr e he

/-- Reading a comment or a joined line gives no tree. -/
@[spec] theorem flat_extra? : extra?.Gives Tree.IsFlat := by
  unfold extra?
  mvcgen with simp_all +decide +zetaDelta

/-- Passing over a gap gives no tree. -/
@[spec] theorem flat_gap (lines : Lines) : (gap lines).Gives Tree.IsFlat := by
  unfold gap
  mvcgen with simp_all

@[spec] theorem flat_upcoming (lines : Lines) : (upcoming lines).Gives Tree.IsFlat := by
  unfold upcoming
  mvcgen

/-- Going to the start of a line gives no tree. -/
@[spec] theorem flat_lineStart : lineStart.Gives Tree.IsFlat := by
  unfold lineStart
  mvcgen with simp_all

/-- A mark without extent is flat. -/
@[spec] theorem flat_emptyMark : emptyMark.Gives Tree.IsFlat := by
  unfold emptyMark
  mvcgen with simp_all +decide

/-- So is the end of a line, which has none. -/
@[spec] theorem flat_lineEnd : lineEnd.Gives Tree.IsFlat := by
  unfold lineEnd
  mvcgen with simp_all

@[spec] theorem flat_peekMark (lines : Lines) : (peekMark lines).Gives Tree.IsFlat := by
  unfold peekMark
  mvcgen

/-- A mark is a token. -/
theorem token_mark (lines : Lines) (m : String) :
    (mark lines m).Gives (Tree.IsToken .mark) := by
  unfold mark
  mvcgen [token_take, -flat_take] with simp_all +decide

@[spec] theorem flat_mark (lines : Lines) (m : String) : (mark lines m).Gives Tree.IsFlat :=
  (token_mark lines m).imp fun _ h => h.1

@[spec] theorem flat_charMark (lines : Lines) (c : Char) :
    (charMark lines c).Gives Tree.IsFlat := by
  unfold charMark
  mvcgen with simp_all +decide

@[spec] theorem flat_peekWord (lines : Lines) : (peekWord lines).Gives Tree.IsFlat := by
  unfold peekWord
  mvcgen

/-- A keyword is a token. -/
theorem token_keyword (lines : Lines) (w : String) :
    (keyword lines w).Gives (Tree.IsToken .mark) := by
  unfold keyword
  mvcgen [token_take, -flat_take] with simp_all +decide

@[spec] theorem flat_keyword (lines : Lines) (w : String) :
    (keyword lines w).Gives Tree.IsFlat :=
  (token_keyword lines w).imp fun _ h => h.1

/-- A name is a token. -/
theorem token_name (lines : Lines) : (name lines).Gives (Tree.IsToken .identifier) := by
  unfold name
  mvcgen [token_take, -flat_take] with simp_all +decide

@[spec] theorem flat_name (lines : Lines) : (name lines).Gives Tree.IsFlat :=
  (token_name lines).imp fun _ h => h.1

/-- A list with commas is flat if its items are. -/
@[spec] theorem flat_commaList (lines : Lines) {more : Parse Bool} (hmore : more.Gives Tree.IsFlat)
    {item : Parse Tree} (hitem : item.Gives Tree.IsFlat) :
    (commaList lines more item).Gives Tree.IsFlat := by
  unfold commaList
  mvcgen [hmore, hitem] with simp_all

/-- So is one with at least one item. -/
@[spec] theorem flat_commaList1 (lines : Lines) {item : Parse Tree}
    (hitem : item.Gives Tree.IsFlat) : (commaList1 lines item).Gives Tree.IsFlat := by
  unfold commaList1
  mvcgen [hitem] with simp_all

end Tokens

end CodeSurvey
