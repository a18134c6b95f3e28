/-
# Paths that lead back

The searches for circuits look for paths that lead back to the node they began with.
`returnsFrom` lists all of them, in the order of a depth-first search and without a limit; it is what
the searches are compared with.  The statements say which paths are listed
(`mem_returnsFrom_iff`), that none is listed twice (`returnsFrom_nodup`), that a longer bound adds
nothing once it exceeds the number of nodes (`returnsFrom_congr_fuel`), and that the search along
all paths gives this list, cut at the limit (`boundedFrom_eq`).
-/
import CodeSurvey.Graph.Circuits
import Mathlib.Data.List.Chain
import Mathlib.Data.List.Nodup
import Mathlib.Data.List.Perm.Subperm

namespace CodeSurvey

/-! ## Lists with a limit -/

/-- Adds items to a list as long as it is shorter than a limit. -/
def appendUpTo {α : Type} (limit : Nat) (found more : List α) : List α :=
  found ++ more.take (limit - found.length)

section AppendUpTo

variable {α β : Type} {limit : Nat}

@[simp] theorem appendUpTo_nil (found : List α) : appendUpTo limit found [] = found := by
  rw [appendUpTo, List.take_nil, List.append_nil]

theorem nil_appendUpTo (more : List α) : appendUpTo limit [] more = more.take limit := by
  rw [appendUpTo, List.nil_append, List.length_nil, Nat.sub_zero]

/-- A list that has reached the limit stays as it is. -/
theorem appendUpTo_of_le {found : List α} (h : limit ≤ found.length) (more : List α) :
    appendUpTo limit found more = found := by
  rw [appendUpTo, Nat.sub_eq_zero_of_le h, List.take_zero, List.append_nil]

/-- One item is added to a list below the limit. -/
theorem appendUpTo_singleton {found : List α} (h : ¬ limit ≤ found.length) (a : α) :
    appendUpTo limit found [a] = found ++ [a] := by
  rw [appendUpTo, List.take_of_length_le]
  rw [List.length_singleton]
  omega

/-- Items may be added in two goes. -/
theorem appendUpTo_append (found a b : List α) :
    appendUpTo limit found (a ++ b) = appendUpTo limit (appendUpTo limit found a) b := by
  have hrest : limit - found.length - a.length =
      limit - (found.length + min (limit - found.length) a.length) := by omega
  rw [appendUpTo, appendUpTo, appendUpTo, List.take_append, List.length_append, List.length_take,
    hrest, List.append_assoc]

/-- A loop whose every turn adds items up to the limit adds the items of all turns up to the
limit. -/
theorem foldl_appendUpTo {step : List α → β → List α} {items : β → List α} {bs : List β}
    (h : ∀ b ∈ bs, ∀ found, step found b = appendUpTo limit found (items b)) (found : List α) :
    bs.foldl step found = appendUpTo limit found (bs.flatMap items) := by
  induction bs generalizing found with
  | nil => rw [List.foldl_nil, List.flatMap_nil, appendUpTo_nil]
  | cons b bs ih =>
    rw [List.foldl_cons, List.flatMap_cons, appendUpTo_append,
      ih (fun b' hb' => h b' (List.mem_cons_of_mem b hb')), h b List.mem_cons_self]

/-- Items that are left out add nothing. -/
theorem flatMap_filter (p : β → Bool) (items : β → List α) (bs : List β) :
    (bs.filter p).flatMap items = bs.flatMap (fun b => if p b then items b else []) := by
  induction bs with
  | nil => rfl
  | cons b bs ih =>
    rw [List.filter_cons, List.flatMap_cons, ← ih]
    split <;> rfl

end AppendUpTo

namespace Digraph

/-! ## All paths back -/

/-- All paths that begin with `path`, whose last node is `v`, visit no node twice and lead back to
`start`.  They go on by fewer than `fuel` nodes. -/
def returnsFrom (next : Nat → List Nat) (start : Nat) : Nat → List Nat → Nat → List (List Nat)
  | 0, _, _ => []
  | fuel + 1, path, v =>
    (next v).flatMap fun w =>
      if w = start then [path]
      else if w ∈ path then []
      else returnsFrom next start fuel (path ++ [w]) w

/-- The paths back that go on along an edge to `w`. -/
def returnsAlong (next : Nat → List Nat) (start fuel : Nat) (path : List Nat) (w : Nat) :
    List (List Nat) :=
  if w = start then [path] else if w ∈ path then [] else returnsFrom next start fuel (path ++ [w]) w

theorem returnsFrom_succ (next : Nat → List Nat) (start fuel : Nat) (path : List Nat) (v : Nat) :
    returnsFrom next start (fuel + 1) path v =
      (next v).flatMap (returnsAlong next start fuel path) := rfl

/-- The successors that are not below a node. -/
def successorsAbove (g : Digraph) (start v : Nat) : List Nat :=
  (g.successors v).filter (start ≤ ·)

section Returns

variable {next : Nat → List Nat} {start : Nat}

/-- The listed paths are those that go on without a node twice and lead back. -/
theorem mem_returnsFrom_iff {fuel : Nat} {path c : List Nat} {v : Nat} :
    c ∈ returnsFrom next start fuel path v ↔
      ∃ more, c = path ++ more ∧ more.length < fuel ∧
        List.IsChain (fun a b => b ∈ next a) (v :: (more ++ [start])) ∧
        start ∉ more ∧ more.Nodup ∧ ∀ w ∈ more, w ∉ path := by
  induction fuel generalizing path v with
  | zero => simp [returnsFrom]
  | succ fuel ih =>
    rw [returnsFrom, List.mem_flatMap]
    constructor
    · rintro ⟨w, hw, hc⟩
      split at hc
      · rename_i hstart
        rw [List.mem_singleton] at hc
        subst hstart
        refine ⟨[], by rw [hc, List.append_nil], Nat.succ_pos fuel, ?_, by simp, List.nodup_nil,
          by simp⟩
        exact List.isChain_pair.2 hw
      · rename_i hstart
        split at hc
        · exact absurd hc List.not_mem_nil
        · rename_i hpath
          obtain ⟨more, rfl, hlength, hchain, hmore, hnodup, hdisjoint⟩ := ih.1 hc
          refine ⟨w :: more, by simp, Nat.succ_lt_succ hlength, ?_, ?_, ?_, ?_⟩
          · exact List.isChain_cons_cons.2 ⟨hw, hchain⟩
          · exact List.not_mem_cons_of_ne_of_not_mem (fun h => hstart h.symm) hmore
          · refine List.nodup_cons.2 ⟨fun hmem => ?_, hnodup⟩
            exact hdisjoint w hmem (by simp)
          · intro x hx
            rcases List.mem_cons.1 hx with rfl | hx
            · exact hpath
            · exact fun hmem => hdisjoint x hx (List.mem_append_left _ hmem)
    · rintro ⟨more, rfl, hlength, hchain, hmore, hnodup, hdisjoint⟩
      -- the edge to follow leads to the first node of `more`, or back to `start` at once
      cases more with
      | nil =>
        refine ⟨start, List.isChain_pair.1 hchain, ?_⟩
        rw [if_pos rfl, List.append_nil]
        exact List.mem_singleton_self path
      | cons w more =>
        obtain ⟨hw, hchain⟩ := List.isChain_cons_cons.1 hchain
        rw [List.mem_cons, not_or] at hmore
        rw [List.nodup_cons] at hnodup
        refine ⟨w, hw, ?_⟩
        rw [if_neg (fun h => hmore.1 h.symm), if_neg (hdisjoint w List.mem_cons_self), ih]
        refine ⟨more, by simp, Nat.lt_of_succ_lt_succ hlength, hchain, hmore.2, hnodup.2, ?_⟩
        intro x hx hmem
        rcases List.mem_append.1 hmem with hmem | hmem
        · exact hdisjoint x (List.mem_cons_of_mem _ hx) hmem
        · rw [List.mem_singleton] at hmem
          exact hnodup.1 (hmem ▸ hx)

/-- No path is listed twice. -/
theorem returnsFrom_nodup (hnext : ∀ v, (next v).Nodup) (fuel : Nat) (path : List Nat) (v : Nat) :
    (returnsFrom next start fuel path v).Nodup := by
  induction fuel generalizing path v with
  | zero => exact List.nodup_nil
  | succ fuel ih =>
    rw [returnsFrom, List.nodup_flatMap]
    constructor
    · intro w _
      split
      · exact List.nodup_singleton path
      · split
        · exact List.nodup_nil
        · exact ih _ _
    · -- the node after `path` tells the edge that a path was found along
      have hafter : ∀ w back, back ∈ (if w = start then [path] else if w ∈ path then [] else
          returnsFrom next start fuel (path ++ [w]) w) →
          back[path.length]? = if w = start then none else some w := by
        intro w back hc
        split at hc
        · rename_i hstart
          rw [List.mem_singleton] at hc
          rw [if_pos hstart, hc, List.getElem?_eq_none le_rfl]
        · rename_i hstart
          split at hc
          · exact absurd hc List.not_mem_nil
          · obtain ⟨more, rfl, -⟩ := mem_returnsFrom_iff.1 hc
            rw [if_neg hstart]
            simp
      refine (hnext v).imp ?_
      intro w w' hne c hc hc'
      have h := (hafter w c hc).symm.trans (hafter w' c hc')
      split at h <;> split at h <;> simp_all

/-- The bound does not matter once it exceeds the number of nodes that are not on the path. -/
theorem returnsFrom_congr_fuel {nodes : List Nat} (hnext : ∀ v w, w ∈ next v → w ∈ nodes)
    {fuel fuel' : Nat} {path : List Nat} (v : Nat) (hnodup : path.Nodup) (hpath : path ⊆ nodes)
    (hfuel : nodes.length < fuel + path.length) (hfuel' : nodes.length < fuel' + path.length) :
    returnsFrom next start fuel path v = returnsFrom next start fuel' path v := by
  -- the path grows with every step, but never past the number of nodes
  induction fuel generalizing fuel' path v with
  | zero =>
    have := (hnodup.subperm hpath).length_le
    omega
  | succ fuel ih =>
    cases fuel' with
    | zero =>
      have := (hnodup.subperm hpath).length_le
      omega
    | succ fuel' =>
      rw [returnsFrom, returnsFrom]
      refine List.flatMap_congr (fun w hw => ?_)
      by_cases hmem : w ∈ path
      · rw [if_pos hmem, if_pos hmem]
      · rw [if_neg hmem, if_neg hmem]
        have hlength : (path ++ [w]).length = path.length + 1 := by simp
        have hpath' : path ++ [w] ⊆ nodes := by
          refine List.append_subset.2 ⟨hpath, fun x hx => ?_⟩
          rw [List.mem_singleton.1 hx]
          exact hnext v w hw
        rw [ih w (List.concat_eq_append ▸ hnodup.concat hmem) hpath' (by omega)
          (by omega : nodes.length < fuel' + (path ++ [w]).length)]

end Returns

/-! ## The search along all paths -/

/-- The search along all paths adds the paths back, up to the limit. -/
theorem boundedFrom_eq (g : Digraph) (maxLength limit start fuel : Nat) (path : List Nat) (v : Nat)
    (found : List (List Nat)) :
    boundedFrom g maxLength limit start fuel path v found =
      appendUpTo limit found (returnsFrom (g.successorsAbove start) start
        (min fuel (maxLength - path.length + 1)) path v) := by
  induction fuel generalizing path v found with
  | zero => rw [Nat.zero_min, boundedFrom, returnsFrom, appendUpTo_nil]
  | succ fuel ih =>
    have hfuel : min (fuel + 1) (maxLength - path.length + 1) =
        min fuel (maxLength - path.length) + 1 := by omega
    rw [hfuel, boundedFrom, returnsFrom, successorsAbove, flatMap_filter]
    refine foldl_appendUpTo (fun w _ found => ?_) found
    -- the tests of the search, in its order, against those of the list
    by_cases hlimit : limit ≤ found.length
    · rw [if_pos hlimit, appendUpTo_of_le hlimit]
    rw [if_neg hlimit]
    by_cases hstart : w = start
    · rw [if_pos hstart, if_pos (decide_eq_true hstart.ge), if_pos hstart,
        appendUpTo_singleton hlimit]
    rw [if_neg hstart]
    by_cases hbelow : start ≤ w
    · rw [if_pos (decide_eq_true hbelow), if_neg hstart]
      by_cases hpath : w ∈ path
      · rw [if_pos hpath, if_neg (by simp [hpath]), appendUpTo_nil]
      rw [if_neg hpath]
      by_cases hlength : path.length < maxLength
      · have hlt : start < w := by omega
        rw [if_pos (by simp [hlt, hpath, hlength]), ih]
        congr 2
        simp only [List.length_append, List.length_singleton]
        omega
      · rw [if_neg (by simp [hlength])]
        have hzero : min fuel (maxLength - path.length) = 0 := by omega
        rw [hzero, returnsFrom, appendUpTo_nil]
    · have hlt : ¬ start < w := fun h => hbelow h.le
      rw [if_neg (by simp [hlt]), if_neg (by simpa using hbelow), appendUpTo_nil]

end Digraph

end CodeSurvey
