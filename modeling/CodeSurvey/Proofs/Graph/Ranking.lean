/-
# Rankings

A ranking lists the items of positive count by falling count, items of one count in their own order,
and stops after a number of them.  The order leaves no choice, because sorting is stable
(`pairwise_mergeSort_count`).  What a graph ranks are its nodes (`isRanking_topBy`), and a ranking
of items is one of whatever stands for them (`IsRanking.map`).
-/
import CodeSurvey.Graph.Digraph
import Mathlib.Data.List.Basic

namespace CodeSurvey

/-- The first items of positive count, with their counts, by falling count and in their own order
where the counts are equal. -/
def IsRanking {α : Type} (items : List α) (count : α → Nat) (limit : Nat)
    (top : List (α × Nat)) : Prop :=
  ∃ ranked : List α, ranked.Perm (items.filter (0 < count ·)) ∧
    ranked.Pairwise (fun a b => count b < count a ∨ count b = count a ∧ [a, b].Sublist items) ∧
    top = (ranked.take limit).map fun a => (a, count a)

section Ranking

variable {α : Type} {count : α → Nat}

/-- Sorting by falling count keeps the order of items of one count. -/
theorem pairwise_mergeSort_count (xs : List α) :
    (xs.mergeSort fun a b => count b ≤ count a).Pairwise
      fun a b => count b < count a ∨ count b = count a ∧ [a, b].Sublist xs := by
  have htrans : ∀ a b c : α, decide (count b ≤ count a) = true →
      decide (count c ≤ count b) = true → decide (count c ≤ count a) = true := by
    simp only [decide_eq_true_eq]
    omega
  have htotal : ∀ a b : α, (decide (count b ≤ count a) || decide (count a ≤ count b)) = true := by
    simp only [Bool.or_eq_true, decide_eq_true_eq]
    omega
  induction xs with
  | nil => simp
  | cons x xs ih =>
    obtain ⟨front, back, hsorted, hrest, hfront⟩ := List.mergeSort_cons htrans htotal x xs
    have hfalling := List.pairwise_mergeSort htrans htotal (x :: xs)
    rw [hsorted, List.pairwise_append, List.pairwise_cons] at hfalling
    have ih := ih.imp fun {a b} h => h.imp_right fun h => And.imp_right (·.cons x) h
    rw [hrest, List.pairwise_append] at ih
    obtain ⟨hf, hb, hcross⟩ := ih
    rw [hsorted, List.pairwise_append, List.pairwise_cons]
    -- the first item comes before the items of its count, which stand after it
    refine ⟨hf, ⟨?_, hb⟩, ?_⟩
    · intro b hback
      have hle : count b ≤ count x := by simpa using hfalling.2.1.1 b hback
      have hmem : b ∈ xs := by
        rw [← List.mem_mergeSort, hrest]
        exact List.mem_append_right front hback
      rcases Nat.lt_or_eq_of_le hle with hlt | heq
      · exact .inl hlt
      · exact .inr ⟨heq, (List.singleton_sublist.2 hmem).cons_cons x⟩
    · intro a ha b hmem
      rcases List.mem_cons.1 hmem with rfl | hmem
      · have hlt : count b < count a := by simpa using hfront a ha
        exact .inl hlt
      · exact hcross a ha b hmem

/-- What stands for the items of a ranking is ranked alike. -/
theorem IsRanking.map {β : Type} {items : List α} {limit : Nat} {top : List (α × Nat)}
    (h : IsRanking items count limit top) {f : α → β} {count' : β → Nat}
    (hcount : ∀ a ∈ items, count' (f a) = count a) :
    IsRanking (items.map f) count' limit (top.map fun p => (f p.1, p.2)) := by
  obtain ⟨ranked, hperm, hpairwise, rfl⟩ := h
  have hmem : ∀ a ∈ ranked, a ∈ items := fun a ha =>
    List.mem_of_mem_filter (hperm.mem_iff.1 ha)
  refine ⟨ranked.map f, ?_, ?_, ?_⟩
  · have hpositive : items.filter (fun a => 0 < count' (f a)) = items.filter (0 < count ·) :=
      List.filter_congr fun a ha => by rw [hcount a ha]
    rw [List.filter_map]
    exact (hperm.trans (.of_eq hpositive.symm)).map f
  · rw [List.pairwise_map]
    refine hpairwise.imp_of_mem ?_
    intro a b ha hb hab
    rw [hcount a (hmem a ha), hcount b (hmem b hb)]
    exact hab.imp_right (And.imp_right (·.map f))
  · rw [← List.map_take, List.map_map, List.map_map]
    refine List.map_congr_left fun a ha => ?_
    simp [hcount a (hmem a (List.mem_of_mem_take ha))]

end Ranking

/-- A graph ranks its nodes. -/
theorem Digraph.isRanking_topBy (g : Digraph) (degree : Nat → Nat) (limit : Nat) :
    IsRanking g.nodes degree limit (g.topBy degree limit) := by
  have hsort : ((g.nodes.map fun v => (v, degree v)).filter (0 < ·.2)).mergeSort
      (fun a b => b.2 ≤ a.2) =
      ((g.nodes.filter (0 < degree ·)).mergeSort fun a b => degree b ≤ degree a).map
        fun v => (v, degree v) := by
    rw [List.filter_map, List.map_mergeSort]
    · rfl
    · exact fun _ _ _ _ => rfl
  refine ⟨(g.nodes.filter (0 < degree ·)).mergeSort fun a b => degree b ≤ degree a,
    List.mergeSort_perm _ _, (pairwise_mergeSort_count _).imp ?_, ?_⟩
  · exact fun h => h.imp_right (And.imp_right (·.trans List.filter_sublist))
  · rw [Digraph.topBy, hsort, ← List.map_take]

end CodeSurvey
