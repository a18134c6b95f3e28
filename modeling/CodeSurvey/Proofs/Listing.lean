/-
# Lists in order

A list in the strict order of some keys is known by its items (`eq_of_pairwise_key_lt`).  The items
of a list at their first occurrences are in the order of their places in the list (`ListsFirst`),
which is what leaving out repeated items gives (`listsFirst_firstBy`).
-/
import CodeSurvey.Distinct
import Mathlib.Data.List.Nodup
import Mathlib.Data.List.Sort

namespace CodeSurvey

section Ordered

variable {α β : Type} [Preorder β] {key : α → β} {items items' : List α}
  (h : items.Pairwise fun a b => key a < key b)

include h

/-- A list in the strict order of some keys has no item twice. -/
theorem nodup_of_pairwise_key_lt : items.Nodup := by
  refine h.imp fun hlt heq => ?_
  rw [heq] at hlt
  exact lt_irrefl _ hlt

/-- Lists in the strict order of some keys are equal if they have the same items. -/
theorem eq_of_pairwise_key_lt (h' : items'.Pairwise fun a b => key a < key b)
    (hmem : ∀ a, a ∈ items ↔ a ∈ items') : items = items' := by
  have hirrefl : Std.Irrefl fun a b : α => key a < key b := ⟨fun a => lt_irrefl (key a)⟩
  have hantisymm : Std.Antisymm fun a b : α => key a < key b :=
    ⟨fun a b hlt hgt => absurd hlt (lt_asymm hgt)⟩
  exact h.eq_of_mem_iff h' hmem

end Ordered

/-- In a list without repetition earlier items have lower places. -/
theorem pairwise_idxOf_lt {α : Type} [BEq α] [LawfulBEq α] {items : List α} (h : items.Nodup) :
    items.Pairwise fun a b => items.idxOf a < items.idxOf b := by
  rw [List.pairwise_iff_getElem]
  intro i j hi hj hij
  rw [h.idxOf_getElem i hi, h.idxOf_getElem j hj]
  exact hij

/-! ## First occurrences -/

section First

variable {α : Type} [DecidableEq α] {items firsts : List α}

/-- A list holds the items of another one, in the order of their first occurrences. -/
structure ListsFirst (items firsts : List α) : Prop where
  mem_iff : ∀ a, a ∈ firsts ↔ a ∈ items
  inOrder : firsts.Pairwise fun a b => items.idxOf a < items.idxOf b

theorem ListsFirst.nodup (h : ListsFirst items firsts) : firsts.Nodup :=
  nodup_of_pairwise_key_lt h.inOrder

theorem pairwise_idxOf_firstBy (items : List α) :
    (firstBy id items).Pairwise fun a b => items.idxOf a < items.idxOf b := by
  induction items with
  | nil => exact .nil
  | cons a as ih =>
    rw [firstBy, List.pairwise_cons]
    have hother : ∀ b ∈ (firstBy id as).filter (id · ≠ id a), b ≠ a := by
      intro b hb
      exact of_decide_eq_true (List.mem_filter.1 hb).2
    constructor
    · intro b hb
      rw [List.idxOf_cons_self, List.idxOf_cons_ne _ (Ne.symm (hother b hb))]
      omega
    · refine (ih.sublist List.filter_sublist).imp_of_mem fun {b c} hb hc hlt => ?_
      rw [List.idxOf_cons_ne _ (Ne.symm (hother b hb)), List.idxOf_cons_ne _ (Ne.symm (hother c hc))]
      omega

/-- The items of a list without repeated ones are its first occurrences. -/
theorem listsFirst_firstBy (items : List α) : ListsFirst items (firstBy id items) :=
  ⟨fun _ => mem_firstBy_id, pairwise_idxOf_firstBy items⟩

end First

end CodeSurvey
