/-
# Every decision point has one owner

The complexity of a function counts the decision points of its tree, those of nested definitions
left out.  The trees of nested functions overlap, yet every decision point is counted at most once:
by the nearest definition above it, if that is a function (`countP_isOwned`).  So the complexities
of the functions of a file add up to no more than the decision points of the file and the number of
its functions, in whatever order they are added.
-/
import CodeSurvey.Proofs.Outline.Walk
import CodeSurvey.Proofs.Syntax.Lineage

namespace CodeSurvey

/-! ## Owners -/

/-- The kind of the nearest definition among the nodes above a node. -/
def ownerAmong (above : List Tree) : Option Kind :=
  (above.find? (·.kind.isDefinition)).map Tree.kind

/-- The owner is the innermost definition around. -/
theorem ownerAmong_node (k : Kind) (f : Option Field) (s t : Place) (cs above : List Tree) :
    ownerAmong (.node k f s t cs :: above) =
      if k.isDefinition then some k else ownerAmong above := by
  rw [ownerAmong, List.find?_cons]
  cases hk : k.isDefinition with
  | true => simp [Tree.kind, hk]
  | false => simp [Tree.kind, hk, ownerAmong]

/-- Whether a node is a decision point and the nearest definition above it a function. -/
def Lineage.isOwned (l : Lineage) : Bool :=
  l.node.kind.isDecision && ownerAmong l.above = some .functionDefinition

/-! ## Counting -/

namespace Tree

mutual
/-- The decision points of a tree, nested definitions left out. -/
def ownDecisions : Tree → Nat
  | node k _ _ _ cs =>
    if k.isDefinition then 0
    else (if k.isDecision then 1 else 0) + ownDecisionsAmong cs

/-- The decision points of several trees, nested definitions left out. -/
def ownDecisionsAmong : List Tree → Nat
  | [] => 0
  | c :: cs => ownDecisions c + ownDecisionsAmong cs
end

/-- The decision points that trees own are added up. -/
theorem ownDecisionsAmong_eq_sum (cs : List Tree) :
    ownDecisionsAmong cs = (cs.map ownDecisions).sum := by
  induction cs with
  | nil => rfl
  | cons c cs ih => rw [ownDecisionsAmong, ih, List.map_cons, List.sum_cons]

/-- A turn of the search counts the next node, and leaves those below it to be counted unless it is a
definition. -/
theorem ownDecisions_step (t : Tree) (rest : List Tree) (n : Nat) :
    ownDecisionSearch.note n t + ownDecisionsAmong (ownDecisionSearch.next t ++ rest) =
      n + ownDecisionsAmong (t :: rest) := by
  cases t with
  | node k f s e cs =>
    rw [ownDecisionsAmong_eq_sum, List.map_append, List.sum_append, ownDecisionsAmong,
      ownDecisionsAmong_eq_sum rest, ownDecisions]
    cases hk : k.isDefinition with
    | true => simp [ownDecisionSearch, kind, hk]
    | false =>
      cases hd : k.isDecision <;>
        simp [ownDecisionSearch, countDecision, kind, children, hk, hd, List.sum_reverse,
          ownDecisionsAmong_eq_sum cs, Nat.add_assoc]

/-- The complexity of a definition is one more than its own decision points. -/
theorem cyclomatic_eq (t : Tree) : t.cyclomatic = 1 + ownDecisionsAmong t.children := by
  have hstart : ownDecisionsAmong t.children.reverse = ownDecisionsAmong t.children := by
    rw [ownDecisionsAmong_eq_sum, ownDecisionsAmong_eq_sum, List.map_reverse, List.sum_reverse]
  rw [← hstart]
  refine TreeSearch.search_induction (s := ownDecisionSearch) (motive := fun pending n =>
    n + ownDecisionsAmong pending = 1 + ownDecisionsAmong t.children.reverse)
    (fun next rest n h => ?_) t.children.reverse 1 rfl
  rw [ownDecisions_step]
  exact h

/-- A turn of the search counts the next node, and leaves those below it to be counted. -/
theorem decisions_step (t : Tree) (rest : List Tree) (n : Nat) :
    decisionSearch.note n t +
        (preorderAll (decisionSearch.next t ++ rest)).countP (·.kind.isDecision) =
      n + (preorderAll (t :: rest)).countP (·.kind.isDecision) := by
  -- the nodes below come in another order, but are as many
  have hbelow := (preorderAll_reverse_perm t.children).countP_eq (·.kind.isDecision)
  show countDecision n t +
    (preorderAll (t.children.reverse ++ rest)).countP (·.kind.isDecision) = _
  rw [preorderAll_cons_eq, preorderAll_append, preorderAll_append, List.countP_cons,
    List.countP_append, List.countP_append, hbelow, countDecision]
  split
  · omega
  · omega

/-- The decision points of a tree are those among its nodes. -/
theorem decisionPoints_eq (t : Tree) :
    t.decisionPoints = t.preorder.countP (·.kind.isDecision) := by
  have hstart : 0 + (preorderAll [t]).countP (·.kind.isDecision) =
      t.preorder.countP (·.kind.isDecision) := by
    rw [preorderAll_singleton, Nat.zero_add]
  refine TreeSearch.search_induction (s := decisionSearch) (motive := fun pending n =>
    n + (preorderAll pending).countP (·.kind.isDecision) =
      t.preorder.countP (·.kind.isDecision)) (fun next rest n h => ?_) [t] 0 hstart
  rw [decisions_step]
  exact h

/-- The decision points that the functions of a tree count. -/
def functionDecisions (t : Tree) : Nat :=
  ((t.preorder.filter fun n => n.kind = .functionDefinition).map fun n => n.cyclomatic - 1).sum

/-- A function adds its own decision points to those of the functions inside it. -/
theorem functionDecisions_node (k : Kind) (f : Option Field) (s t : Place) (cs : List Tree) :
    (node k f s t cs).functionDecisions =
      (if k = .functionDefinition then ownDecisionsAmong cs else 0) +
        (cs.map functionDecisions).sum := by
  have hbelow : (((cs.flatMap preorder).filter fun n => n.kind = .functionDefinition).map
      fun n => n.cyclomatic - 1).sum = (cs.map functionDecisions).sum := by
    rw [List.filter_flatMap, List.map_flatMap, List.flatMap_def, List.sum_flatten, List.map_map]
    rfl
  rw [functionDecisions, preorder_node, List.filter_cons]
  by_cases hk : k = .functionDefinition
  · rw [if_pos (by exact decide_eq_true hk), if_pos hk, List.map_cons, List.sum_cons, hbelow,
      cyclomatic_eq, Nat.add_sub_cancel_left]
    rfl
  · rw [if_neg (by exact fun h => hk (of_decide_eq_true h)), if_neg hk, hbelow, Nat.zero_add]

/-- The owned decision points of a tree are those that the functions in it count, and those that a
function around it counts. -/
theorem countP_isOwned (above : List Tree) (t : Tree) :
    (t.lineagesUnder above).countP Lineage.isOwned =
      t.functionDecisions +
        if ownerAmong above = some .functionDefinition then t.ownDecisions else 0 := by
  induction t using inductionBelow generalizing above with
  | node k f s t cs ih =>
    have hbelow : (cs.map fun c =>
        (c.lineagesUnder (node k f s t cs :: above)).countP Lineage.isOwned).sum =
        (cs.map functionDecisions).sum +
          if ownerAmong (node k f s t cs :: above) = some .functionDefinition then
            ownDecisionsAmong cs
          else 0 := by
      rw [List.map_congr_left fun c hc => ih c hc _]
      by_cases howner : ownerAmong (node k f s t cs :: above) = some .functionDefinition
      · simp only [if_pos howner, List.sum_map_add, ownDecisionsAmong_eq_sum]
      · simp only [if_neg howner, Nat.add_zero]
    rw [lineagesUnder_node, List.countP_cons, List.countP_flatMap, Function.comp_def, hbelow,
      functionDecisions_node,
      ownDecisions, ownerAmong_node]
    cases hk : k.isDefinition with
    | true =>
      -- a definition is no decision point, and owns what stands below it
      have hdecision : k.isDecision = false := by
        cases k <;> first | rfl | cases hk
      simp [Lineage.isOwned, kind, hdecision]
      omega
    | false =>
      have hother : k ≠ .functionDefinition := by
        rintro rfl
        cases hk
      by_cases howner : ownerAmong above = some .functionDefinition
      · simp [Lineage.isOwned, kind, hother, howner]
        omega
      · simp [Lineage.isOwned, hother, howner]

/-- The functions of a tree count no decision point twice. -/
theorem functionDecisions_eq_countP (t : Tree) :
    t.functionDecisions = t.lineages.countP Lineage.isOwned := by
  rw [lineages, countP_isOwned]
  rfl

/-- The functions of a tree count at most all of its decision points. -/
theorem functionDecisions_le_decisionPoints (t : Tree) :
    t.functionDecisions ≤ t.decisionPoints := by
  rw [functionDecisions_eq_countP, decisionPoints_eq, ← map_node_lineagesUnder [] t,
    List.countP_map]
  apply List.countP_mono_left
  intro l _ howned
  exact (Bool.and_eq_true_iff.1 howned).1

end Tree

/-! ## Files -/

/-- The complexities of a file are those of the definitions of functions in its tree. -/
theorem complexities_ofTree {source : List Char} {root : Tree} (hfile : root.kind = .file)
    (h : root.Grammatical) (path : String) :
    (Outline.ofTree path source root).functions.map (·.complexity) =
      (root.preorder.filter fun n => n.kind = .functionDefinition).map Tree.cyclomatic := by
  have hfunctions := @forall₂_functions source root hfile h path
  refine (map_eq_map_of_forall₂ hfunctions ?_).symm
  rintro n f ⟨scope, decorators, hf⟩
  obtain ⟨-, -, -, hcomplexity⟩ := functionOf?_eq_some hf
  exact hcomplexity.symm

/-- Every function adds one to its own decision points. -/
theorem sum_map_cyclomatic (ts : List Tree) :
    (ts.map Tree.cyclomatic).sum = (ts.map fun t => t.cyclomatic - 1).sum + ts.length := by
  induction ts with
  | nil => rfl
  | cons t ts ih =>
    simp only [List.map_cons, List.sum_cons, ih, List.length_cons, Tree.cyclomatic_eq]
    omega

/-- The complexities of the functions of a file are bounded by its decision points. -/
theorem sum_complexities_le {source : List Char} {root : Tree}
    (h : readTree source = .ok root) (path : String) :
    ((Outline.ofTree path source root).functions.map (·.complexity)).sum ≤
      root.decisionPoints + (Outline.ofTree path source root).functions.length := by
  obtain ⟨hfile, hroot⟩ := grammatical_of_readTree h
  have hlength := (@forall₂_functions source root hfile hroot path).length_eq
  have hle := root.functionDecisions_le_decisionPoints
  rw [Tree.functionDecisions] at hle
  rw [complexities_ofTree hfile hroot, sum_map_cyclomatic, hlength]
  omega

/-- **Every decision point is counted by at most one function.**  The functions of a tree count the
decision points whose nearest definition is a function, each once.  So the complexities of the
functions of an accepted source text add up to no more than its decision points and the number of
its functions, and adding them up one after the other passes the bound of a word only if this figure
does. -/
theorem decision_points_owned_once :
    (∀ t : Tree,
      ((t.preorder.filter fun n => n.kind = .functionDefinition).map
          fun n => n.cyclomatic - 1).sum =
        t.lineages.countP Lineage.isOwned) ∧
    ∀ (source : List Char) (root : Tree) (path : String), readTree source = .ok root →
      ((Outline.ofTree path source root).functions.map (·.complexity)).sum ≤
        root.decisionPoints + (Outline.ofTree path source root).functions.length ∧
      ∀ first, first <+: (Outline.ofTree path source root).functions →
        UInt32.size ≤ (first.map (·.complexity)).sum →
        UInt32.size ≤ root.decisionPoints + (Outline.ofTree path source root).functions.length := by
  refine ⟨Tree.functionDecisions_eq_countP, fun source root path h => ?_⟩
  have hle := sum_complexities_le h path
  refine ⟨hle, fun first hfirst hsize => ?_⟩
  calc UInt32.size
    _ ≤ (first.map (·.complexity)).sum := hsize
    _ ≤ ((Outline.ofTree path source root).functions.map (·.complexity)).sum :=
      (hfirst.map _).sublist.sum_le_sum fun _ _ => Nat.zero_le _
    _ ≤ _ := hle

/-- A function with a branch, in it a class with a method that loops, and a loop outside. -/
def branchingSource : List Char :=
  ("def f(x):\n if x and 1: pass\n class A:\n  y = 1 if 2 else 3\n" ++
    "  def g(s):\n   while s: pass\nwhile 1: pass\n").toList

/-- Of five decision points, three are owned by functions. -/
theorem decision_points_owned_once_branching : ∃ root, readTree branchingSource = .ok root ∧
    root.decisionPoints = 5 ∧ root.lineages.countP Lineage.isOwned = 3 ∧
    (Outline.ofTree "a.py" branchingSource root).functions.map (·.complexity) = [3, 2] ∧
    ((Outline.ofTree "a.py" branchingSource root).functions.map (·.complexity)).sum ≤
      root.decisionPoints + (Outline.ofTree "a.py" branchingSource root).functions.length := by
  have hfigures : (readTree branchingSource).toOption.map (fun root =>
      (root.decisionPoints, root.lineages.countP Lineage.isOwned,
        (Outline.ofTree "a.py" branchingSource root).functions.map (·.complexity))) =
      some (5, 3, [3, 2]) := by
    decide +kernel
  obtain ⟨root, hread, hfigures⟩ := exists_readTree hfigures
  obtain ⟨hpoints, hfigures⟩ := Prod.mk.inj hfigures
  obtain ⟨howned, hcomplexities⟩ := Prod.mk.inj hfigures
  exact ⟨root, hread, hpoints, howned, hcomplexities,
    (decision_points_owned_once.2 branchingSource root "a.py" hread).1⟩

end CodeSurvey
