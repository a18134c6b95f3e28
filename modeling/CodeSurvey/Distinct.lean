/-
# Items by key

The first item of each key in a list, the others left out, and the items of each key put together.
-/
namespace CodeSurvey

/-! ## First items -/

/-- The first item of each key, in order. -/
def firstBy {α β : Type} [DecidableEq β] (key : α → β) : List α → List α
  | [] => []
  | a :: as => a :: (firstBy key as).filter (key · ≠ key a)

/-- An item of the shortened list is an item of the list. -/
theorem mem_of_mem_firstBy {α β : Type} [DecidableEq β] {key : α → β} {a : α} {as : List α}
    (h : a ∈ firstBy key as) : a ∈ as := by
  induction as with
  | nil => exact h
  | cons b bs ih =>
    rcases List.mem_cons.1 h with rfl | h
    · exact List.mem_cons_self
    · exact List.mem_cons_of_mem _ (ih (List.mem_filter.1 h).1)

/-- One more item at the end counts only if its key is new. -/
theorem firstBy_concat {α β : Type} [DecidableEq β] (key : α → β) (as : List α) (a : α) :
    firstBy key (as ++ [a]) =
      if key a ∈ as.map key then firstBy key as else firstBy key as ++ [a] := by
  induction as with
  | nil => simp [firstBy]
  | cons b bs ih =>
    rw [List.cons_append, firstBy, ih, firstBy, List.map_cons]
    by_cases hb : key a = key b
    · rw [if_pos (List.mem_cons.2 (Or.inl hb))]
      split <;> simp [hb]
    · by_cases hbs : key a ∈ bs.map key
      · rw [if_pos hbs, if_pos (List.mem_cons_of_mem _ hbs)]
      · rw [if_neg hbs, if_neg (by simp only [List.mem_cons, not_or]; exact ⟨hb, hbs⟩)]
        simp [hb]

/-- More items at the end count only where their keys are new. -/
theorem firstBy_append {α β : Type} [DecidableEq β] (key : α → β) (as bs : List α) :
    firstBy key (as ++ bs) =
      firstBy key as ++ (firstBy key bs).filter fun b => key b ∉ as.map key := by
  induction as with
  | nil =>
    rw [List.nil_append, firstBy, List.nil_append, List.filter_eq_self.2]
    simp
  | cons a as ih =>
    rw [List.cons_append, firstBy, ih, firstBy, List.filter_append, List.filter_filter,
      List.cons_append]
    congr 2
    apply List.filter_congr
    intro b _
    simp

/-- Looking for a key finds the same item. -/
theorem find?_firstBy {α β : Type} [DecidableEq β] (key : α → β) (as : List α) (k : β) :
    (firstBy key as).find? (key · = k) = as.find? (key · = k) := by
  induction as with
  | nil => rfl
  | cons b bs ih =>
    rw [firstBy, List.find?_cons, List.find?_cons]
    by_cases hb : key b = k
    · simp [hb]
    · -- the items left out after `b` have another key
      have hkept (a : α) : (key a ≠ key b ∧ key a = k) ↔ key a = k :=
        and_iff_right_of_imp (fun ha hab => hb (hab.symm.trans ha))
      simp [hb, List.find?_filter, hkept, ← ih]

/-- Leaving out repeated keys and leaving out keys can be done in any order. -/
theorem firstBy_filter {α β : Type} [DecidableEq β] (key : α → β) (p : β → Bool) (as : List α) :
    firstBy key (as.filter fun a => p (key a)) = (firstBy key as).filter fun a => p (key a) := by
  induction as with
  | nil => rfl
  | cons a as ih =>
    rw [firstBy, List.filter_cons, List.filter_cons]
    by_cases ha : p (key a) = true
    · rw [if_pos ha, if_pos ha, firstBy, ih, List.filter_filter, List.filter_filter]
      simp only [Bool.and_comm]
    · rw [if_neg ha, if_neg ha, ih, List.filter_filter]
      -- an item that stays has another key than `a`
      apply List.filter_congr
      intro b _
      by_cases hb : key b = key a
      · simp [hb, ha]
      · simp [hb]

/-- No key is lost. -/
theorem mem_map_firstBy {α β : Type} [DecidableEq β] {key : α → β} {as : List α} {k : β} :
    k ∈ (firstBy key as).map key ↔ k ∈ as.map key := by
  have hfind (l : List α) : k ∈ l.map key ↔ (l.find? (key · = k)).isSome = true := by
    simp [List.find?_isSome]
  rw [hfind, hfind, find?_firstBy]

/-- If items are their own keys, none is lost. -/
theorem mem_firstBy_id {α : Type} [DecidableEq α] {as : List α} {a : α} :
    a ∈ firstBy id as ↔ a ∈ as := by
  have hmem := @mem_map_firstBy α α _ id as a
  rwa [List.map_id, List.map_id] at hmem

/-- No key is left twice. -/
theorem map_firstBy_nodup {α β : Type} [DecidableEq β] (key : α → β) (as : List α) :
    ((firstBy key as).map key).Nodup := by
  induction as with
  | nil => exact List.nodup_nil
  | cons a as ih =>
    rw [firstBy, List.map_cons, List.nodup_cons]
    constructor
    · intro hmem
      obtain ⟨b, hb, hkey⟩ := List.mem_map.1 hmem
      exact of_decide_eq_true (List.mem_filter.1 hb).2 hkey
    · exact ih.sublist (List.filter_sublist.map key)

/-! ## Groups -/

/-- Items put together by key, the keys in the order of their first items. -/
abbrev Groups (κ α : Type) := List (κ × List α)

/-- The items of a key among items with keys, in order. -/
def itemsWith {κ α : Type} [DecidableEq κ] (items : List (κ × α)) (key : κ) : List α :=
  (items.filter (·.1 = key)).map (·.2)

namespace Groups

variable {κ α : Type} [DecidableEq κ]

/-- Puts an item at the end of the group of its key; a new key gets a group at the end. -/
def add (key : κ) (a : α) : Groups κ α → Groups κ α
  | [] => [(key, [a])]
  | (k, as) :: groups =>
    if k = key then (k, as ++ [a]) :: groups else (k, as) :: add key a groups

/-- Groups with some more items, put one after the other. -/
def addAll (items : List (κ × α)) (groups : Groups κ α) : Groups κ α :=
  items.foldl (fun groups x => groups.add x.1 x.2) groups

/-- The group of a key; a key that is not known has no items. -/
def find (groups : Groups κ α) (key : κ) : List α :=
  (groups.lookup key).getD []

/-- One more item changes the group of its key only. -/
theorem find_add (key : κ) (a : α) (groups : Groups κ α) (k : κ) :
    (groups.add key a).find k = if k = key then groups.find k ++ [a] else groups.find k := by
  induction groups with
  | nil =>
    by_cases hk : k = key
    · simp [add, find, hk]
    · simp [add, find, hk, List.lookup_cons, beq_false_of_ne hk]
  | cons group groups ih =>
    obtain ⟨k', as⟩ := group
    unfold find at ih ⊢
    rw [add, List.lookup_cons]
    by_cases hkey : k' = key
    · rw [if_pos hkey, List.lookup_cons]
      by_cases hk : k = k'
      · simp [hk, hkey]
      · simp [beq_false_of_ne hk, hkey ▸ hk]
    · rw [if_neg hkey, List.lookup_cons]
      by_cases hk : k = k'
      · simp [hk, hkey]
      · simp only [beq_false_of_ne hk, ih]

/-- The group of a key holds the items of this key, in order. -/
theorem find_addAll (items : List (κ × α)) (groups : Groups κ α) (key : κ) :
    (addAll items groups).find key = groups.find key ++ itemsWith items key := by
  induction items generalizing groups with
  | nil => simp [addAll, itemsWith]
  | cons x items ih =>
    have hstep : addAll (x :: items) groups = addAll items (groups.add x.1 x.2) := rfl
    rw [hstep, ih, find_add, itemsWith, itemsWith]
    by_cases hx : key = x.1
    · simp [hx]
    · simp [hx, Ne.symm hx]

end Groups

end CodeSurvey
