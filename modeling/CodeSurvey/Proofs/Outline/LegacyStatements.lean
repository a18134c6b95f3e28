/-
# The first legacy statement

A cursor that goes through a tree comes to every node once, in source order, and then stops
(`Cursor.map_node_moved?`).  So a search with it gives the first answer in source order
(`Cursor.findSome?_eq`).  For legacy statements this is the first `print` or `exec` statement at any
depth, and a source text is accepted if its tree has none.
-/
import CodeSurvey.Outline.Reading

namespace CodeSurvey

/-! ## Going through a tree -/

namespace Cursor

/-- The cursor after a number of moves, if it gets so far. -/
def moved? : Nat → Cursor → Option Cursor
  | 0, c => some c
  | moves + 1, c => c.advance?.bind (moved? moves)

/-- A cursor comes to the nodes ahead one after the other, and to no others. -/
theorem map_node_moved? (moves : Nat) (c : Cursor) :
    (c.moved? moves).map (·.node) = c.ahead[moves]? := by
  induction moves generalizing c with
  | zero =>
    rw [ahead_eq_cons, List.getElem?_cons_zero]
    rfl
  | succ moves ih =>
    rw [ahead_eq_cons, List.getElem?_cons_succ, moved?]
    cases c.advance? with
    | none => rfl
    | some d => exact ih d

/-- A search gives the first answer of a node ahead. -/
theorem findSome?_eq {α : Type} (f : Tree → Option α) (c : Cursor) :
    c.findSome? f = c.ahead.findSome? f := by
  fun_induction findSome? f c with
  | case1 c a ha => rw [ahead_eq_cons, List.findSome?_cons, ha]
  | case2 c hnode hend =>
    rw [ahead_eq_cons, List.findSome?_cons, hnode, hend]
    rfl
  | case3 c hnode d hd ih =>
    rw [ahead_eq_cons, List.findSome?_cons, hnode, hd]
    exact ih

/-- At the root all nodes lie ahead. -/
theorem ahead_ofRoot (root : Tree) : (ofRoot root).ahead = root.preorder := by
  rw [ofRoot, ahead_eq_preorderAll]
  simp [Tree.preorderAll]

end Cursor

/-! ## Legacy statements -/

/-- A `print` or `exec` statement. -/
def Tree.IsLegacy (t : Tree) : Prop :=
  t.kind = .printStatement ∨ t.kind = .execStatement

instance (t : Tree) : Decidable t.IsLegacy :=
  inferInstanceAs (Decidable (_ ∨ _))

/-- What is reported about a legacy statement. -/
def Tree.legacyReport (path : String) (t : Tree) : FaultReport :=
  { path := path
    line := t.start.row + 1
    column := t.start.column + 1
    message :=
      if t.kind = .printStatement then "missing parentheses in call to 'print'"
      else "missing parentheses in call to 'exec'" }

/-- The fault of a legacy statement that was found. -/
def foundFault (found : LegacyStatement × Place) : Fault := .legacy found.1 found.2

/-- A node is reported if it is a legacy statement. -/
theorem map_report_legacyHere? (path : String) (t : Tree) :
    t.legacyHere?.map (fun found => (foundFault found).report path) =
      if t.IsLegacy then some (t.legacyReport path) else none := by
  unfold Tree.legacyHere? Tree.legacyReport LegacyStatement.ofKind?
  split
  · next hk =>
    have hlegacy : t.IsLegacy := Or.inl hk
    rw [if_pos hlegacy, if_pos hk]
    rfl
  · next hk =>
    have hlegacy : t.IsLegacy := Or.inr hk
    rw [if_pos hlegacy, hk, if_neg (by decide)]
    rfl
  · next hprint hexec =>
    have hother : ¬ t.IsLegacy := not_or.2 ⟨hprint, hexec⟩
    rw [if_neg hother]
    rfl

/-- The first legacy statement in source order is reported. -/
theorem map_report_legacy? (path : String) (root : Tree) :
    root.legacy?.map (fun found => (foundFault found).report path) =
      (root.preorder.find? (fun n => n.IsLegacy)).map (Tree.legacyReport path) := by
  rw [Tree.legacy?, Cursor.findSome?_eq, Cursor.ahead_ofRoot]
  induction root.preorder with
  | nil => rfl
  | cons n nodes ih =>
    have hn := map_report_legacyHere? path n
    rw [List.findSome?_cons, List.find?_cons]
    by_cases hlegacy : n.IsLegacy
    · rw [if_pos hlegacy] at hn
      obtain ⟨found, hfound, hreport⟩ := Option.map_eq_some_iff.1 hn
      rw [hfound, decide_eq_true hlegacy]
      exact congrArg some hreport
    · rw [if_neg hlegacy, Option.map_eq_none_iff] at hn
      rw [hn, decide_eq_false hlegacy]
      exact ih

/-- Nothing is reported if and only if there is no legacy statement. -/
theorem legacy?_eq_none_iff {root : Tree} :
    root.legacy? = none ↔ ∀ n ∈ root.preorder, ¬ n.IsLegacy := by
  have hreport := map_report_legacy? "" root
  rw [← Option.map_eq_none_iff, hreport, Option.map_eq_none_iff, List.find?_eq_none]
  simp

/-! ## Reading a source text -/

/-- A source text is refused for the legacy statement that is found in its tree, and accepted if
there is none. -/
theorem readTree_of_parseFile? {source : List Char} {root : Tree}
    (h : parseFile? source = some root) :
    readTree source = root.legacy?.elim (.ok root) (fun found => .error (foundFault found)) := by
  unfold readTree
  rw [h]
  dsimp only
  cases root.legacy? with
  | none => rfl
  | some found => rfl

/-- **The first legacy statement of a tree is found, and a text without one is accepted.**  A cursor
comes to the nodes of a tree in source order, each once, and stops after the last.  So a search finds
nothing only if no node at any depth is a legacy statement, and otherwise it gives line, column and
message for the first one. -/
theorem legacy?_finds_first (root : Tree) :
    (∀ moves, ((Cursor.ofRoot root).moved? moves).map (·.node) = root.preorder[moves]?) ∧
    (root.legacy? = none ↔ ∀ n ∈ root.preorder, ¬ n.IsLegacy) ∧
    (∀ path, root.legacy?.map (fun found => (foundFault found).report path) =
      (root.preorder.find? (fun n => n.IsLegacy)).map (Tree.legacyReport path)) ∧
    ∀ source, parseFile? source = some root →
      (readTree source = .ok root ↔ ∀ n ∈ root.preorder, ¬ n.IsLegacy) ∧
      ∀ found, root.legacy? = some found → readTree source = .error (foundFault found) := by
  refine ⟨fun moves => ?_, legacy?_eq_none_iff, fun path => map_report_legacy? path root,
    fun source hsource => ⟨?_, fun found hfound => ?_⟩⟩
  · rw [Cursor.map_node_moved?, Cursor.ahead_ofRoot]
  · rw [readTree_of_parseFile? hsource, ← legacy?_eq_none_iff]
    cases root.legacy? with
    | none => simp
    | some found => simp
  · rw [readTree_of_parseFile? hsource, hfound]
    rfl

/-- Two legacy statements, the first of them further down and after a character of two bytes. -/
def legacySource : List Char :=
  "def f():\n  if a: pass\n  é = 1; exec b\nprint c\n".toList

/-- The statement that comes first is reported, at its byte column. -/
theorem legacy?_finds_first_inner : ∃ root, parseFile? legacySource = some root ∧
    (root.preorder.filter (fun n => n.IsLegacy)).map (·.kind) =
      [.execStatement, .printStatement] ∧
    ∃ fault, readTree legacySource = .error fault ∧
      fault.report "a.py" = ⟨"a.py", 3, 11, "missing parentheses in call to 'exec'"⟩ := by
  have hcomputed : (parseFile? legacySource).map (fun root =>
      ((root.preorder.filter (fun n => n.IsLegacy)).map (·.kind),
        (root.preorder.find? (fun n => n.IsLegacy)).map (Tree.legacyReport "a.py"))) =
      some ([.execStatement, .printStatement],
        some ⟨"a.py", 3, 11, "missing parentheses in call to 'exec'"⟩) := by
    decide +kernel
  obtain ⟨root, hparse, hcomputed⟩ := Option.map_eq_some_iff.1 hcomputed
  obtain ⟨hkinds, hfirst⟩ := Prod.mk.inj hcomputed
  obtain ⟨-, -, hreport, hread⟩ := legacy?_finds_first root
  obtain ⟨found, hfound, hshown⟩ := Option.map_eq_some_iff.1 ((hreport "a.py").trans hfirst)
  exact ⟨root, hparse, hkinds, _, (hread legacySource hparse).2 found hfound, hshown⟩

end CodeSurvey
