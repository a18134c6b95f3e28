/-
# Functions that share their signature

Functions are put one after the other into the group of their signature.  After each of them the
groups are those of the signatures met so far, in the order of their first functions, and each group
holds its functions in order (`addAll_eq`).  A function is known by its place among all functions, since
two functions may look the same in a cluster.  In these terms the clusters divide the functions that
share their signature with another one (`findDuplicates_divides_functions`).
-/
import CodeSurvey.Proofs.Listing
import CodeSurvey.Smell.Duplicates
import Mathlib.Data.Finset.Card
import Mathlib.Data.List.FinRange
import Mathlib.Data.List.Induction

namespace CodeSurvey

/-! ## Groups -/

section Groups

variable {κ α : Type} [DecidableEq κ] {k : κ} {a : α} {f : κ → List α} {keys : List κ}

/-- The groups of given keys. -/
def groupsOf (f : κ → List α) (keys : List κ) : Groups κ α :=
  keys.map fun k => (k, f k)

/-- An item with a new key gets a group at the end. -/
theorem add_groupsOf_of_not_mem (h : k ∉ keys) :
    Groups.add k a (groupsOf f keys) = groupsOf f keys ++ [(k, [a])] := by
  induction keys with
  | nil => rfl
  | cons k' rest ih =>
    rw [List.mem_cons, not_or] at h
    rw [groupsOf, List.map_cons, Groups.add, if_neg (Ne.symm h.1), ← groupsOf, ih h.2,
      List.cons_append]

/-- One more item changes the group of its key only. -/
theorem add_groupsOf_of_mem (hnodup : keys.Nodup) (h : k ∈ keys) :
    Groups.add k a (groupsOf f keys) =
      groupsOf (fun k' => if k' = k then f k' ++ [a] else f k') keys := by
  induction keys with
  | nil => cases h
  | cons k' rest ih =>
    rw [List.nodup_cons] at hnodup
    rw [groupsOf, List.map_cons, Groups.add, groupsOf, List.map_cons]
    by_cases hk : k' = k
    · -- the key does not come again
      have hrest : rest.map (fun k => (k, f k)) =
          rest.map fun k' => (k', if k' = k then f k' ++ [a] else f k') := by
        apply List.map_congr_left
        intro t ht
        rw [if_neg]
        rintro rfl
        exact hnodup.1 (hk ▸ ht)
      rw [if_pos hk, if_pos hk, hrest]
    · rw [if_neg hk, if_neg hk, ← groupsOf, ih hnodup.2 (List.mem_of_ne_of_mem (Ne.symm hk) h),
        groupsOf]

theorem addAll_concat (items : List (κ × α)) (x : κ × α) (groups : Groups κ α) :
    Groups.addAll (items ++ [x]) groups = (Groups.addAll items groups).add x.1 x.2 := by
  rw [Groups.addAll, List.foldl_append]
  rfl

theorem itemsWith_concat (items : List (κ × α)) (x : κ × α) (k : κ) :
    itemsWith (items ++ [x]) k =
      if k = x.1 then itemsWith items k ++ [x.2] else itemsWith items k := by
  unfold itemsWith
  by_cases hk : k = x.1
  · simp [hk]
  · simp [hk, Ne.symm hk]

/-- The groups are those of all keys, by their first items, and hold all items in order. -/
theorem addAll_eq (items : List (κ × α)) :
    Groups.addAll items [] = groupsOf (itemsWith items) (firstBy id (items.map (·.1))) := by
  induction items using List.reverseRecOn with
  | nil => rfl
  | append_singleton items x ih =>
    have hgroups : itemsWith (items ++ [x]) =
        fun k => if k = x.1 then itemsWith items k ++ [x.2] else itemsWith items k :=
      funext (itemsWith_concat items x)
    rw [addAll_concat, ih, List.map_append, List.map_singleton, firstBy_concat, List.map_id, id,
      hgroups]
    by_cases hx : x.1 ∈ items.map (·.1)
    · have hnodup := (listsFirst_firstBy (items.map (·.1))).nodup
      rw [if_pos hx, add_groupsOf_of_mem hnodup (mem_firstBy_id.2 hx)]
    · -- the item opens a group of its own after the others
      have hnew : ∀ k ∈ firstBy id (items.map (·.1)), k ≠ x.1 := by
        rintro k hk rfl
        exact hx (mem_firstBy_id.1 hk)
      have hnone : itemsWith items x.1 = [] := by
        rw [itemsWith, List.map_eq_nil_iff, List.filter_eq_nil_iff]
        intro y hy heq
        exact hx (List.mem_map.2 ⟨y, hy, of_decide_eq_true heq⟩)
      rw [if_neg hx, add_groupsOf_of_not_mem (mt mem_firstBy_id.1 hx), groupsOf, groupsOf,
        List.map_append, List.map_singleton, if_pos rfl, hnone]
      congr 1
      apply List.map_congr_left
      intro k hk
      rw [if_neg (hnew k hk)]

end Groups

/-! ## Places -/

section Places

variable {α β : Type} [DecidableEq β] (key : α → β) (items : List α)

/-- The places of the items with a key, in order. -/
def placesOf (k : β) : List (Fin items.length) :=
  (List.finRange items.length).filter fun i => key items[i] = k

variable {key items} {k : β}

theorem mem_placesOf {i : Fin items.length} : i ∈ placesOf key items k ↔ key items[i] = k := by
  simp [placesOf]

theorem pairwise_placesOf : (placesOf key items k).Pairwise (· < ·) :=
  (List.pairwise_lt_finRange _).sublist List.filter_sublist

theorem nodup_placesOf : (placesOf key items k).Nodup :=
  pairwise_placesOf.imp ne_of_lt

theorem map_filter_eq_map_placesOf {γ : Type} (f : α → γ) :
    (items.filter (key · = k)).map f = (placesOf key items k).map fun i => f items[i] := by
  conv_lhs => rw [← List.map_getElem_finRange items]
  rw [List.filter_map, List.map_map]
  rfl

/-- Several items have a key if and only if it stands at two places. -/
theorem one_lt_length_placesOf :
    1 < (placesOf key items k).length ↔
      ∃ i j : Fin items.length, i ≠ j ∧ key items[i] = k ∧ key items[j] = k := by
  rw [← List.toFinset_card_of_nodup nodup_placesOf, Finset.one_lt_card]
  simp only [List.mem_toFinset, mem_placesOf]
  grind

/-- The first place of a key is where the key is found. -/
theorem val_of_mem_head?_placesOf {i : Fin items.length}
    (h : i ∈ (placesOf key items k).head?) : (i : Nat) = (items.map key).idxOf k := by
  obtain ⟨rest, hplaces⟩ := List.head?_eq_some_iff.1 h
  have hi : key items[i] = k := by
    rw [← mem_placesOf, hplaces]
    exact List.mem_cons_self
  have hk : k ∈ items.map key :=
    List.mem_map.2 ⟨items[i], List.getElem_mem _, hi⟩
  have hlt : (items.map key).idxOf k < items.length := by
    rw [← List.length_map key]
    exact List.idxOf_lt_length_of_mem hk
  apply le_antisymm
  · -- the first place is not after the place that is found
    have hmem : ⟨(items.map key).idxOf k, hlt⟩ ∈ i :: rest := by
      rw [← hplaces, mem_placesOf]
      have hfound := List.getElem?_idxOf hk
      rw [List.getElem?_map, List.getElem?_eq_getElem hlt] at hfound
      exact Option.some.inj hfound
    have hordered : (i :: rest).Pairwise (· < ·) := by
      rw [← hplaces]
      exact pairwise_placesOf
    rcases List.mem_cons.1 hmem with heq | hmem
    · exact le_of_eq (congrArg Fin.val heq.symm)
    · exact le_of_lt (List.rel_of_pairwise_cons hordered hmem)
  · -- the key is not found after a place where it stands
    by_contra hafter
    have hnot := List.not_of_lt_findIdx (not_le.1 hafter)
    rw [List.getElem_map] at hnot
    exact beq_eq_false_iff_ne.1 hnot hi

/-- Keys by their first occurrences have their first places in order. -/
theorem pairwise_head?_placesOf {ks : List β} (h : ks.Sublist (firstBy id (items.map key))) :
    (ks.map (placesOf key items)).Pairwise fun is js =>
      ∀ i ∈ is.head?, ∀ j ∈ js.head?, i < j := by
  rw [List.pairwise_map]
  refine ((pairwise_idxOf_firstBy _).sublist h).imp fun {k k'} hlt i hi j hj => ?_
  rw [Fin.lt_def, val_of_mem_head?_placesOf hi, val_of_mem_head?_placesOf hj]
  exact hlt

/-- Different keys have different places. -/
theorem nodup_flatten_placesOf {ks : List β} (h : ks.Nodup) :
    (ks.map (placesOf key items)).flatten.Nodup := by
  rw [List.nodup_flatten, List.pairwise_map]
  refine ⟨?_, h.imp fun {k k'} hne i hi hi' => ?_⟩
  · intro is his
    obtain ⟨k, -, rfl⟩ := List.mem_map.1 his
    exact nodup_placesOf
  · exact hne ((mem_placesOf.1 hi).symm.trans (mem_placesOf.1 hi'))

end Places

/-! ## Functions -/

/-- All functions with their files, in file and definition order. -/
def functionsIn (outlines : List Outline) : List (String × FunctionEntry) :=
  outlines.flatMap fun o => o.functions.map (o.path, ·)

/-- The signature of a function: its name and the number of its positional parameters. -/
def signatureOf (d : String × FunctionEntry) : Signature :=
  (d.2.name, d.2.positionalCount)

/-- A function as a cluster shows it. -/
def occurrenceOf (d : String × FunctionEntry) : Occurrence :=
  ⟨d.1, d.2.className, d.2.name, d.2.lineStart⟩

theorem signedOccurrences_eq (outlines : List Outline) :
    signedOccurrences outlines =
      (functionsIn outlines).map fun d => (signatureOf d, occurrenceOf d) := by
  simp only [signedOccurrences, functionsIn, List.map_flatMap, List.map_map]
  rfl

/-- The signatures with several functions, in the order of their first functions. -/
def sharedSignatures (ds : List (String × FunctionEntry)) : List Signature :=
  (firstBy id (ds.map signatureOf)).filter fun s => 1 < (placesOf signatureOf ds s).length

theorem sublist_sharedSignatures (ds : List (String × FunctionEntry)) :
    (sharedSignatures ds).Sublist (firstBy id (ds.map signatureOf)) :=
  List.filter_sublist

theorem nodup_sharedSignatures (ds : List (String × FunctionEntry)) :
    (sharedSignatures ds).Nodup :=
  (listsFirst_firstBy _).nodup.sublist (sublist_sharedSignatures ds)

theorem mem_sharedSignatures {ds : List (String × FunctionEntry)} {s : Signature} :
    s ∈ sharedSignatures ds ↔
      ∃ i j : Fin ds.length, i ≠ j ∧ signatureOf ds[i] = s ∧ signatureOf ds[j] = s := by
  rw [sharedSignatures, List.mem_filter, decide_eq_true_eq, one_lt_length_placesOf,
    and_iff_right_of_imp]
  rintro ⟨i, -, -, hi, -⟩
  exact mem_firstBy_id.2 (List.mem_map.2 ⟨ds[i], List.getElem_mem _, hi⟩)

/-- The cluster of a signature. -/
def clusterOf (ds : List (String × FunctionEntry)) (s : Signature) : DuplicateCluster :=
  ⟨s.1, s.2, (placesOf signatureOf ds s).length,
    (placesOf signatureOf ds s).map fun i => occurrenceOf ds[i]⟩

/-- Each signature with several functions has a cluster. -/
theorem findDuplicates_eq (outlines : List Outline) :
    findDuplicates outlines =
      (sharedSignatures (functionsIn outlines)).map (clusterOf (functionsIn outlines)) := by
  have hsignatures : (signedOccurrences outlines).map (·.1) =
      (functionsIn outlines).map signatureOf := by
    rw [signedOccurrences_eq, List.map_map]
    rfl
  have hoccurrences (s : Signature) : itemsWith (signedOccurrences outlines) s =
      (placesOf signatureOf (functionsIn outlines) s).map
        fun i => occurrenceOf (functionsIn outlines)[i] := by
    rw [← map_filter_eq_map_placesOf, itemsWith, signedOccurrences_eq, List.filter_map,
      List.map_map]
    rfl
  rw [findDuplicates, addAll_eq, hsignatures, groupsOf,
    List.filter_map, List.map_map, sharedSignatures]
  simp only [Function.comp_def, hoccurrences, List.length_map]
  rfl

/-! ## Clusters -/

/-- Clusters divide functions, given the places of the functions of each cluster. -/
structure DividesFunctions (ds : List (String × FunctionEntry))
    (places : List (List (Fin ds.length))) (clusters : List DuplicateCluster) : Prop where
  /-- A cluster shows the functions at its places, which all have its signature. -/
  shown : List.Forall₂ (fun is c =>
    (∀ i ∈ is, ds[i].2.name = c.signature ∧ ds[i].2.positionalCount = c.parameterCount) ∧
      c.occurrences = (is.map fun i => occurrenceOf ds[i]) ∧ c.count = is.length) places clusters
  /-- A function is in a cluster if and only if another function has its signature. -/
  mem_iff : ∀ i, (∃ is ∈ places, i ∈ is) ↔ ∃ j, j ≠ i ∧ signatureOf ds[j] = signatureOf ds[i]
  /-- Two functions are in the same cluster if and only if they have the same signature. -/
  together_iff : ∀ i j, i ≠ j →
    ((∃ is ∈ places, i ∈ is ∧ j ∈ is) ↔ signatureOf ds[i] = signatureOf ds[j])
  /-- No function is in two clusters, or twice in one. -/
  once : places.flatten.Nodup
  several : ∀ c ∈ clusters, 2 ≤ c.count
  /-- The functions of a cluster come in file and definition order. -/
  inOrder : ∀ is ∈ places, is.Pairwise (· < ·)
  /-- The clusters come in the order of their first functions. -/
  byFirst : places.Pairwise fun is js => ∀ i ∈ is.head?, ∀ j ∈ js.head?, i < j
  distinct : (clusters.map fun c => (c.signature, c.parameterCount)).Nodup

theorem exists_mem_places_iff {ds : List (String × FunctionEntry)} {i : Fin ds.length}
    {p : List (Fin ds.length) → Prop} :
    (∃ is ∈ (sharedSignatures ds).map (placesOf signatureOf ds), i ∈ is ∧ p is) ↔
      (∃ j, j ≠ i ∧ signatureOf ds[j] = signatureOf ds[i]) ∧
        p (placesOf signatureOf ds (signatureOf ds[i])) := by
  constructor
  · rintro ⟨is, his, hi, hp⟩
    obtain ⟨s, hs, rfl⟩ := List.mem_map.1 his
    obtain rfl := mem_placesOf.1 hi
    obtain ⟨j, j', hne, hj, hj'⟩ := mem_sharedSignatures.1 hs
    refine ⟨?_, hp⟩
    by_cases h : j = i
    · exact ⟨j', fun h' => hne (h.trans h'.symm), hj'⟩
    · exact ⟨j, h, hj⟩
  · rintro ⟨⟨j, hne, hj⟩, hp⟩
    have hshared := mem_sharedSignatures.2 ⟨j, i, hne, hj, rfl⟩
    exact ⟨_, List.mem_map_of_mem hshared, mem_placesOf.2 rfl, hp⟩

/-- **The clusters divide the functions that share their signature with another one.**  They come
by their first functions, and the functions of each in file and definition order. -/
theorem findDuplicates_divides_functions (outlines : List Outline) :
    ∃ places, DividesFunctions (functionsIn outlines) places (findDuplicates outlines) := by
  rw [findDuplicates_eq]
  generalize functionsIn outlines = ds
  refine ⟨(sharedSignatures ds).map (placesOf signatureOf ds), ?_, ?_, ?_, ?_, ?_, ?_, ?_, ?_⟩
  · rw [List.forall₂_map_left_iff, List.forall₂_map_right_iff, List.forall₂_same]
    intro s _
    exact ⟨fun i hi => Prod.mk.inj (mem_placesOf.1 hi), rfl, rfl⟩
  · intro i
    have hmem := exists_mem_places_iff (i := i) (p := fun _ => True)
    simpa only [and_true] using hmem
  · intro i j hij
    rw [exists_mem_places_iff, mem_placesOf]
    constructor
    · rintro ⟨-, hj⟩
      exact hj.symm
    · intro h
      exact ⟨⟨j, hij.symm, h.symm⟩, h.symm⟩
  · exact nodup_flatten_placesOf (nodup_sharedSignatures ds)
  · intro c hc
    obtain ⟨s, hs, rfl⟩ := List.mem_map.1 hc
    exact one_lt_length_placesOf.2 (mem_sharedSignatures.1 hs)
  · intro is his
    obtain ⟨s, -, rfl⟩ := List.mem_map.1 his
    exact pairwise_placesOf
  · exact pairwise_head?_placesOf (sublist_sharedSignatures ds)
  · rw [List.map_map]
    exact (nodup_sharedSignatures ds).map Function.injective_id

end CodeSurvey
