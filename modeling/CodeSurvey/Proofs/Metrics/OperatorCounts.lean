/-
# Counting operators and operands

A search tallies the operators and operands of the nodes that it looks at; in the end it has tallied
those of all nodes, in whatever order they came (`counts_search`).  An operation with two operands adds
one operator and two operands, one with a single operand adds one of each, and a comparison adds its
operators and all named nodes below it.  Since operands and operators take turns in a comparison,
these are one operand more than there are operators, and besides them the comments and line
continuations that stand directly in it (`length_named_comparison`).
-/
import CodeSurvey.Metrics.Halstead
import CodeSurvey.Proofs.Outline.Walk

namespace CodeSurvey

/-! ## Tallies -/

/-- A tally counts some texts: it lists each of them once, and has their number. -/
structure Tally.Counts (c : Tally) (texts : List (List Char)) : Prop where
  nodup : c.distinct.Nodup
  mem_iff : ∀ text, text ∈ c.distinct ↔ text ∈ texts
  total : c.total = texts.length

namespace Tally.Counts

variable {c : Tally} {texts texts' : List (List Char)}

/-- Nothing has been counted at first. -/
theorem empty : Counts {} [] :=
  ⟨List.nodup_nil, fun _ => Iff.rfl, rfl⟩

/-- One more text is counted. -/
theorem add (h : c.Counts texts) (text : List Char) : (c.add text).Counts (texts ++ [text]) := by
  refine ⟨h.nodup.insert, fun other => ?_, ?_⟩
  · rw [Tally.add, List.mem_insert_iff, h.mem_iff, List.mem_append, List.mem_singleton, or_comm]
  · rw [Tally.add, h.total, List.length_append, List.length_singleton]

/-- A tally goes on over a list of texts. -/
theorem foldl_add (h : c.Counts texts) (more : List (List Char)) :
    (more.foldl Tally.add c).Counts (texts ++ more) := by
  induction more generalizing c texts with
  | nil => rwa [List.append_nil]
  | cons text more ih =>
    rw [List.foldl_cons, List.append_cons]
    exact ih (h.add text)

/-- The order of the texts does not matter. -/
theorem perm (h : c.Counts texts) (hperm : texts.Perm texts') : c.Counts texts' :=
  ⟨h.nodup, fun text => (h.mem_iff text).trans hperm.mem_iff, h.total.trans hperm.length_eq⟩

/-- The different texts are as many as the set of all has members. -/
theorem length_distinct (h : c.Counts texts) : c.distinct.length = texts.toFinset.card := by
  rw [← List.toFinset_card_of_nodup h.nodup]
  congr 1
  ext text
  rw [List.mem_toFinset, List.mem_toFinset, h.mem_iff]

end Tally.Counts

namespace Tree

/-- The texts of all operators of a tree, in source order. -/
def operators (source : List Char) (t : Tree) : List (List Char) :=
  t.preorder.flatMap (ownOperators source)

/-- The texts of all operands of a tree, in source order. -/
def operands (source : List Char) (t : Tree) : List (List Char) :=
  t.preorder.flatMap (ownOperands source)

/-- What a search has tallied are the operators and operands of some nodes; these and the nodes of the
trees still to look at are the nodes of the tree. -/
def IsTalliedBut (root : Tree) (source : List Char) (pending : List Tree) (met : OperationTally) :
    Prop :=
  ∃ seen : List Tree, (seen ++ preorderAll pending).Perm root.preorder ∧
    met.operators.Counts (seen.flatMap (ownOperators source)) ∧
    met.operands.Counts (seen.flatMap (ownOperands source))

/-- A turn of a search tallies the node that it looks at, and those below it are still to come. -/
theorem IsTalliedBut.step {source : List Char} {root t : Tree} {rest : List Tree}
    {met : OperationTally} (h : root.IsTalliedBut source (t :: rest) met) :
    root.IsTalliedBut source ((operationSearch source).next t ++ rest)
      ((operationSearch source).note met t) := by
  obtain ⟨seen, hseen, hoperators, hoperands⟩ := h
  refine ⟨seen ++ [t], ?_, ?_, ?_⟩
  · have hbelow := (preorderAll_reverse_perm t.children).append_right (preorderAll rest)
    rw [preorderAll_cons_eq, preorderAll_append] at hseen
    rw [preorderAll_append, List.append_assoc, List.singleton_append]
    exact ((hbelow.cons t).append_left seen).trans hseen
  · rw [List.flatMap_append, List.flatMap_singleton]
    exact hoperators.foldl_add _
  · rw [List.flatMap_append, List.flatMap_singleton]
    exact hoperands.foldl_add _

/-- A search tallies the operators and operands of all nodes. -/
theorem counts_search (source : List Char) (root : Tree) :
    ((operationSearch source).search [root] {}).operators.Counts (root.operators source) ∧
    ((operationSearch source).search [root] {}).operands.Counts (root.operands source) := by
  have hstart : root.IsTalliedBut source [root] {} := by
    refine ⟨[], ?_, .empty, .empty⟩
    rw [preorderAll_singleton, List.nil_append]
  obtain ⟨seen, hseen, hoperators, hoperands⟩ :=
    TreeSearch.search_induction (motive := root.IsTalliedBut source) (fun _ _ _ h => h.step)
      [root] {} hstart
  rw [preorderAll, List.append_nil] at hseen
  exact ⟨hoperators.perm (hseen.flatMap_right _), hoperands.perm (hseen.flatMap_right _)⟩

end Tree

/-- The counts of a tree are the numbers of its operators and operands, and of the different ones. -/
theorem HalsteadCounts.ofTree_eq (source : List Char) (root : Tree) :
    HalsteadCounts.ofTree source root =
      { distinctOperators := (root.operators source).toFinset.card
        distinctOperands := (root.operands source).toFinset.card
        operators := (root.operators source).length
        operands := (root.operands source).length } := by
  obtain ⟨hoperators, hoperands⟩ := Tree.counts_search source root
  unfold HalsteadCounts.ofTree
  simp only [hoperators.length_distinct, hoperands.length_distinct, hoperators.total,
    hoperands.total]

/-! ## Single nodes -/

/-- Comments are named nodes. -/
theorem Kind.isNamed_of_isExtra {k : Kind} (h : k.isExtra = true) : k.isNamed = true := by
  rw [isExtra, Bool.or_eq_true, decide_eq_true_eq, decide_eq_true_eq] at h
  rcases h with rfl | rfl <;> rfl

/-- No kind of operation is of two sorts. -/
theorem Kind.isUnary_of_isBinary {k : Kind} (h : k.isBinary = true) :
    k.isUnary = false ∧ k ≠ .comparisonOperator := by
  simp only [isBinary, Bool.or_eq_true, decide_eq_true_eq] at h
  rcases h with (rfl | rfl) | rfl <;> decide

/-- No comparison has one operand only. -/
theorem Kind.ne_comparison_of_isUnary {k : Kind} (h : k.isUnary = true) :
    k ≠ .comparisonOperator := by
  rintro rfl
  cases h

namespace Tree

/-- The comments and line continuations directly below a node. -/
def extras (t : Tree) : List Tree :=
  t.children.filter (·.kind.isExtra)

variable {t : Tree} (source : List Char)

/-- A part that is in its place is counted once. -/
theorem length_part?_eq_one {fs : List Field} (h : t.children.filterMap field = fs) {f : Field}
    (hf : f ∈ fs) : (t.part? f).toList.length = 1 := by
  rw [← h] at hf
  obtain ⟨c, hc, hfield⟩ := List.mem_filterMap.1 hf
  have hsome : (t.part? f).isSome = true := List.find?_isSome.2 ⟨c, hc, decide_eq_true hfield⟩
  obtain ⟨d, hd⟩ := Option.isSome_iff_exists.1 hsome
  rw [hd]
  rfl

/-- Roles are counted over the nodes that are no extras. -/
theorem countP_rolesAmong (p : Role → Bool) (cs : List Tree) :
    (rolesAmong cs).countP p = cs.countP fun c => p c.role && !c.kind.isExtra := by
  rw [rolesAmong, List.countP_filter, List.countP_map]
  rfl

/-- The named nodes below a comparison: one more than its operators, and what stands between them. -/
theorem length_named_comparison (h : IsOperation .comparisonOperator t.children) :
    t.named.length = (t.parts .operators).length + 1 + t.extras.length := by
  have hoperators : (t.parts .operators).length =
      (rolesAmong t.children).countP (·.2 = some .operators) := by
    rw [parts, ← List.countP_eq_length_filter, countP_rolesAmong]
    apply List.countP_congr
    intro c hc
    cases hkind : c.kind.isExtra with
    | true => simp [role, h.extras rfl c hc hkind]
    | false => rw [Bool.not_false, Bool.and_true, role]
  have hextras : (t.children.filter (·.kind.isExtra)).countP (·.kind.isNamed) = t.extras.length := by
    rw [extras, List.countP_eq_length]
    intro c hc
    exact Kind.isNamed_of_isExtra (List.mem_filter.1 hc).2
  rw [hoperators, ← (h.comparison rfl).countP_isNamed, countP_rolesAmong, named,
    ← List.countP_eq_length_filter, List.countP_eq_countP_filter_add _ _ (·.kind.isExtra), hextras,
    List.countP_filter, Nat.add_comm]
  rfl

/-- An operation with two operands adds one operator and both operands. -/
theorem length_own_of_isBinary (h : IsOperation t.kind t.children)
    (hk : t.kind.isBinary = true) :
    (t.ownOperators source).length = 1 ∧ (t.ownOperands source).length = 2 := by
  have hparts := h.binary hk
  have hoperator := length_part?_eq_one hparts (f := .operator) (by decide)
  have hleft := length_part?_eq_one hparts (f := .left) (by decide)
  have hright := length_part?_eq_one hparts (f := .right) (by decide)
  simp only [Kind.isBinary, Bool.or_eq_true, decide_eq_true_eq] at hk
  rcases hk with (hk | hk) | hk <;>
    simp only [ownOperators, ownOperands, hk, List.length_map, List.length_append, hoperator, hleft,
      hright, and_self]

/-- An operation with a single operand adds one operator, which need not be looked for if it is
`not`, and the operand. -/
theorem length_own_of_isUnary (h : IsOperation t.kind t.children) (hk : t.kind.isUnary = true) :
    (t.ownOperators source).length = 1 ∧ (t.ownOperands source).length = 1 := by
  have hparts := h.unary hk
  have hoperator := length_part?_eq_one hparts (f := .operator) (by decide)
  have hargument := length_part?_eq_one hparts (f := .argument) (by decide)
  simp only [Kind.isUnary, Bool.or_eq_true, decide_eq_true_eq] at hk
  rcases hk with hk | hk <;>
    simp only [ownOperators, ownOperands, hk, List.length_map, List.length_singleton, hoperator,
      hargument, and_self]

/-- Nodes that are no operations add nothing. -/
theorem own_of_other (hk : t.kind.isOperation = false) :
    t.ownOperators source = [] ∧ t.ownOperands source = [] := by
  unfold ownOperators ownOperands
  constructor <;> split <;> simp_all +decide

/-- What a node counts for, by its kind. -/
theorem length_own (h : IsOperation t.kind t.children) :
    (t.ownOperators source).length =
      (if t.kind.isBinary then 1 else 0) + (if t.kind.isUnary then 1 else 0) +
        (if t.kind = .comparisonOperator then (t.parts .operators).length else 0) ∧
    (t.ownOperands source).length =
      (if t.kind.isBinary then 2 else 0) + (if t.kind.isUnary then 1 else 0) +
        (if t.kind = .comparisonOperator then (t.parts .operators).length + 1 + t.extras.length
        else 0) := by
  cases hbinary : t.kind.isBinary with
  | true =>
    obtain ⟨hunary, hcomparison⟩ := Kind.isUnary_of_isBinary hbinary
    obtain ⟨hoperators, hoperands⟩ := length_own_of_isBinary source h hbinary
    simp [hoperators, hoperands, hunary, hcomparison]
  | false =>
    cases hunary : t.kind.isUnary with
    | true =>
      have hcomparison := Kind.ne_comparison_of_isUnary hunary
      obtain ⟨hoperators, hoperands⟩ := length_own_of_isUnary source h hunary
      simp [hoperators, hoperands, hcomparison]
    | false =>
      by_cases hcomparison : t.kind = .comparisonOperator
      · have hnamed := length_named_comparison (hcomparison ▸ h)
        simp [ownOperators, ownOperands, hcomparison, hnamed]
      · obtain ⟨hoperators, hoperands⟩ := own_of_other (t := t) source
          (by simp [Kind.isOperation, hbinary, hunary, hcomparison])
        simp [hoperators, hoperands, hcomparison]

/-! ## Whole trees -/

/-- The nodes of a tree whose kinds are among some. -/
def nodesOf (p : Kind → Bool) (t : Tree) : List Tree :=
  t.preorder.filter fun n => p n.kind

/-- The comparisons of a tree. -/
def comparisons (t : Tree) : List Tree :=
  t.nodesOf fun k => k = .comparisonOperator

/-- The number of operators that the operations of a tree have. -/
def operatorsByArity (t : Tree) : Nat :=
  (t.nodesOf Kind.isBinary).length + (t.nodesOf Kind.isUnary).length +
    (t.comparisons.map fun n => (n.parts .operators).length).sum

/-- The number of operands that the operations of a tree have: a comparison has one more than it has
operators. -/
def operandsByArity (t : Tree) : Nat :=
  2 * (t.nodesOf Kind.isBinary).length + (t.nodesOf Kind.isUnary).length +
    (t.comparisons.map fun n => (n.parts .operators).length + 1).sum

/-- What the nodes of some kinds count for. -/
theorem sum_map_ite_kind (p : Kind → Bool) (f : Tree → Nat) (t : Tree) :
    (t.preorder.map fun x => if p x.kind then f x else 0).sum = ((t.nodesOf p).map f).sum := by
  rw [List.sum_map_ite, nodesOf]
  simp

/-- A sum over all nodes of what the sorts of operations count for. -/
theorem sum_map_sorts (m n : Nat) (f : Tree → Nat) (t : Tree) :
    (t.preorder.map fun x => (if x.kind.isBinary then m else 0) +
        (if x.kind.isUnary then n else 0) +
        if x.kind = .comparisonOperator then f x else 0).sum =
      m * (t.nodesOf Kind.isBinary).length + n * (t.nodesOf Kind.isUnary).length +
        (t.comparisons.map f).sum := by
  have hcomparisons := sum_map_ite_kind (fun k => k = .comparisonOperator) f t
  simp only [decide_eq_true_eq] at hcomparisons
  rw [List.sum_map_add, List.sum_map_add, hcomparisons, sum_map_ite_kind Kind.isBinary (fun _ => m),
    sum_map_ite_kind Kind.isUnary (fun _ => n), List.map_const', List.map_const',
    List.sum_replicate, List.sum_replicate, smul_eq_mul, smul_eq_mul, Nat.mul_comm,
    Nat.mul_comm _ n]
  rfl

section Operations

variable (h : ∀ n ∈ t.preorder, IsOperation n.kind n.children)

include h

/-- The operators counted are those of the operations. -/
theorem length_operators : (t.operators source).length = t.operatorsByArity := by
  rw [operators, List.length_flatMap, List.map_congr_left fun n hn => (length_own source (h n hn)).1,
    sum_map_sorts, Nat.one_mul, Nat.one_mul, operatorsByArity]

/-- The operands counted are those of the operations, and what stands directly in comparisons. -/
theorem length_operands :
    (t.operands source).length =
      t.operandsByArity + (t.comparisons.map fun n => n.extras.length).sum := by
  rw [operands, List.length_flatMap, List.map_congr_left fun n hn => (length_own source (h n hn)).2,
    sum_map_sorts, List.sum_map_add, Nat.one_mul, ← Nat.add_assoc, operandsByArity]

end Operations

end Tree

/-- **Every operation counts by its arity, and a comment in a comparison counts as an operand.**  In
the tree of an accepted source text every operation holds its operator and operands.  In every tree
like this the operators counted are those that the operations have.  The operands counted are those
that they have, and besides them the comments and line continuations that stand directly in a
comparison; so they are the operands of the operations if and only if there are none of these. -/
theorem operations_counted_by_arity (source : List Char) (root : Tree) :
    (readTree source = .ok root → ∀ n ∈ root.preorder, IsOperation n.kind n.children) ∧
    ((∀ n ∈ root.preorder, IsOperation n.kind n.children) →
      (HalsteadCounts.ofTree source root).operators = root.operatorsByArity ∧
      (HalsteadCounts.ofTree source root).operands =
        root.operandsByArity + (root.comparisons.map fun n => n.extras.length).sum ∧
      ((HalsteadCounts.ofTree source root).operands = root.operandsByArity ↔
        ∀ n ∈ root.comparisons, n.extras = [])) := by
  refine ⟨fun hread => (grammatical_of_readTree hread).2.isOperation, fun h => ?_⟩
  have hoperands : (HalsteadCounts.ofTree source root).operands =
      root.operandsByArity + (root.comparisons.map fun n => n.extras.length).sum := by
    rw [HalsteadCounts.ofTree_eq]
    exact Tree.length_operands source h
  refine ⟨?_, hoperands, ?_⟩
  · rw [HalsteadCounts.ofTree_eq]
    exact Tree.length_operators source h
  · rw [hoperands, Nat.add_eq_left, List.sum_eq_zero_iff, List.forall_mem_map]
    simp only [List.length_eq_zero_iff]

/-- Operations of every sort, with a comment in a product. -/
def mixedSource : List Char :=
  "t += (a * # c\n b)\nok = not d and a < b <= c\ny = -a\n".toList

/-- Operations of every sort are counted by their arity, and the comment in the product is not
counted. -/
theorem operations_counted_by_arity_mixed : ∃ root, readTree mixedSource = .ok root ∧
    (HalsteadCounts.ofTree mixedSource root).operators = 7 ∧
    (HalsteadCounts.ofTree mixedSource root).operands = root.operandsByArity ∧
    root.operandsByArity = 11 := by
  have hfigures : (readTree mixedSource).toOption.map (fun root =>
      (root.operatorsByArity, root.operandsByArity,
        root.comparisons.all fun n => n.extras.isEmpty)) = some (7, 11, true) := by
    decide +kernel
  obtain ⟨root, hread, hfigures⟩ := exists_readTree hfigures
  obtain ⟨hoperators, hfigures⟩ := Prod.mk.inj hfigures
  obtain ⟨hoperands, hextras⟩ := Prod.mk.inj hfigures
  obtain ⟨hholds, hcounts⟩ := operations_counted_by_arity mixedSource root
  have hcounts := hcounts (hholds hread)
  refine ⟨root, hread, hcounts.1.trans hoperators, hcounts.2.2.2 ?_, hoperands⟩
  simpa using hextras

/-- A comparison with a comment in it. -/
def commentedSource : List Char :=
  "x = (a < # c\n b)\n".toList

/-- Two operands are counted as three. -/
theorem comment_counts_as_operand : ∃ root, readTree commentedSource = .ok root ∧
    root.operandsByArity = 2 ∧ (HalsteadCounts.ofTree commentedSource root).operands = 3 := by
  have hfigures : (readTree commentedSource).toOption.map (fun root =>
      (root.operandsByArity, (HalsteadCounts.ofTree commentedSource root).operands)) =
        some (2, 3) := by
    decide +kernel
  obtain ⟨root, hread, hfigures⟩ := exists_readTree hfigures
  exact ⟨root, hread, Prod.mk.inj hfigures⟩

end CodeSurvey
