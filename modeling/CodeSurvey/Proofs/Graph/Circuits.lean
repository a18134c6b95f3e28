/-
# The circuits that the searches list

An elementary circuit is a closed path without a node twice.  `allCircuits` lists every circuit once,
written from its lowest node.  Both searches give this list, cut at their limit: the search with
blocked nodes because what it leaves out leads to no circuit (`circuits_eq_take`), and the search
along all paths because it leaves out nothing (`circuitsUpTo_eq_take`).  So the two agree, and what
they list are the circuits of the graph, each up to rotation.
-/
import CodeSurvey.Proofs.Graph.BlockedSearch
import CodeSurvey.Proofs.Graph.Components
import Mathlib.Data.List.Cycle
import Mathlib.Data.Set.Card

namespace CodeSurvey

namespace Digraph

/-! ## Circuits by their lowest node -/

/-- All circuits of at most `length` nodes whose lowest node is `start`. -/
def circuitsAt (g : Digraph) (length start : Nat) : List (List Nat) :=
  returnsFrom (g.successorsAbove start) start length [start] start

/-- All circuits, in the order of their lowest nodes. -/
def allCircuits (g : Digraph) : List (List Nat) :=
  g.nodes.flatMap (g.circuitsAt g.nodeCount)

/-- The search along all paths lists the circuits that are not too long, up to its limit. -/
theorem circuitsUpTo_eq_take (g : Digraph) (maxLength limit : Nat) :
    g.circuitsUpTo maxLength limit =
      (g.nodes.flatMap (g.circuitsAt (min g.nodeCount (maxLength - 1 + 1)))).take limit := by
  rw [← nil_appendUpTo]
  unfold circuitsUpTo
  refine foldl_appendUpTo (fun start _ found => ?_) []
  exact boundedFrom_eq g maxLength limit start g.nodeCount [start] start found

/-- Different nodes are no more than the graph has. -/
theorem length_le_of_nodup {n : Nat} {nodes : List Nat} (hnodup : nodes.Nodup)
    (hlt : ∀ v ∈ nodes, v < n) : nodes.length ≤ n := by
  have hsubset : nodes ⊆ List.range n := fun v hv => List.mem_range.2 (hlt v hv)
  have hle := (hnodup.subperm hsubset).length_le
  rw [List.length_range] at hle
  exact hle

/-! ## The search in one component -/

section Component

variable {g : Digraph} {component : List Nat} {start : Nat}

/-- A path back shows that its first node reaches the last. -/
theorem reachesWithin_of_mem_returnsFrom {fuel v : Nat} {path c : List Nat}
    (hc : c ∈ returnsFrom (g.successorsAbove start) start fuel path v) :
    g.ReachesWithin (start ≤ ·) v start := by
  obtain ⟨more, -, -, hchain, -⟩ := mem_returnsFrom_iff.1 hc
  refine List.relationReflTransGen_of_exists_isChain_cons (more ++ [start])
    (hchain.imp (fun a b hb => ?_)) (by simp)
  exact List.mem_filter.1 hb

/-- A node that is reached in the part of the graph that is not below `start` is not below it. -/
theorem le_of_reachesWithin {v : Nat} (h : g.ReachesWithin (start ≤ ·) start v) : start ≤ v := by
  cases h with
  | refl => exact le_rfl
  | tail _ hedge => exact of_decide_eq_true hedge.2

/-- Nodes outside of the component of `start` lead to no path back. -/
theorem returnsFrom_successorsIn
    (hmem : ∀ v, v ∈ component ↔ g.ReachesWithin (start ≤ ·) start v ∧
      g.ReachesWithin (start ≤ ·) v start)
    (fuel : Nat) (path : List Nat) {v : Nat} (hv : g.ReachesWithin (start ≤ ·) start v) :
    returnsFrom (g.successorsAbove start) start fuel path v =
      returnsFrom (g.successorsIn component) start fuel path v := by
  induction fuel generalizing path v with
  | zero => rfl
  | succ fuel ih =>
    rw [returnsFrom_succ, returnsFrom_succ, successorsAbove, successorsIn, flatMap_filter,
      flatMap_filter]
    refine List.flatMap_congr (fun w hw => ?_)
    by_cases hbelow : start ≤ w
    · have hreach : g.ReachesWithin (start ≤ ·) start w := hv.tail ⟨hw, decide_eq_true hbelow⟩
      rw [if_pos (decide_eq_true hbelow)]
      by_cases hin : w ∈ component
      · rw [if_pos (List.contains_iff_mem.2 hin), returnsAlong, returnsAlong, ih _ hreach]
      · -- a path back from `w` would put it in the component
        rw [if_neg (fun h => hin (List.contains_iff_mem.1 h)), returnsAlong, if_neg, ite_eq_left_iff]
        · intro _
          refine List.eq_nil_iff_forall_not_mem.2 (fun c hc => hin ((hmem w).2 ⟨hreach, ?_⟩))
          exact reachesWithin_of_mem_returnsFrom hc
        · rintro rfl
          exact hin ((hmem w).2 ⟨.refl, .refl⟩)
    · -- the component holds no node below `start`
      rw [if_neg (by simpa using hbelow), if_neg]
      intro hin
      exact hbelow (le_of_reachesWithin ((hmem w).1 (List.contains_iff_mem.1 hin)).1)

/-- The circuits with lowest node `start` are the paths back in its component. -/
theorem circuitsAt_eq_returnsFrom (hg : g.Consistent) (hstart : start < g.nodeCount)
    (hnodup : component.Nodup)
    (hmem : ∀ v, v ∈ component ↔ g.ReachesWithin (start ≤ ·) start v ∧
      g.ReachesWithin (start ≤ ·) v start) :
    g.circuitsAt g.nodeCount start =
      returnsFrom (g.successorsIn component) start component.length [start] start := by
  have hself : start ∈ component := (hmem start).2 ⟨.refl, .refl⟩
  have hlength : component.length ≤ g.nodeCount := by
    refine length_le_of_nodup hnodup (fun v hv => ?_)
    cases ((hmem v).1 hv).1 with
    | refl => exact hstart
    | tail _ hedge => exact hg.successor_lt hedge.1
  rw [circuitsAt, returnsFrom_successorsIn hmem g.nodeCount [start] .refl]
  refine returnsFrom_congr_fuel (fun v w hw => (mem_successorsIn.1 hw).2) start
    (List.nodup_singleton start) (List.cons_subset.2 ⟨hself, List.nil_subset component⟩) ?_ ?_
  · rw [List.length_singleton]
    omega
  · rw [List.length_singleton]
    omega

/-- After the blocks of a component are forgotten a search in it can begin. -/
theorem disciplined_clear (g : Digraph) (component : List Nat) (start : Nat) (s : Search) :
    g.Disciplined component start [] (s.clear component) where
  path_blocked := fun u hu => absurd hu List.not_mem_nil
  waits := by
    intro u hu hblocked
    have hout : u ∉ component := by simpa using (List.mem_filter.1 hblocked).2
    exact absurd hu hout
  waiting_sound := by
    intro x u hxu hx
    have hout : x ∉ component := by simpa using (List.mem_filter.1 hxu).2
    exact absurd hx hout

end Component

/-! ## The search with blocked nodes -/

section Search

variable {g : Digraph} {limit : Nat}

/-- A component of one node without an edge to itself has no circuit. -/
theorem returnsFrom_eq_nil_of_no_loop (hg : g.Consistent) {component : List Nat} {start : Nat}
    (hself : start ∈ component) (hone : component.length = 1) (hloop : ¬ g.Edge start start)
    (fuel : Nat) (path : List Nat) :
    returnsFrom (g.successorsIn component) start fuel path start = [] := by
  cases fuel with
  | zero => rfl
  | succ fuel =>
    obtain ⟨a, rfl⟩ := List.length_eq_one_iff.1 hone
    rw [returnsFrom_succ, List.flatMap_eq_nil_iff]
    intro w hw
    obtain ⟨hedge, hw⟩ := mem_successorsIn.1 hw
    rw [List.mem_singleton] at hself hw
    rw [hw, ← hself] at hedge
    exact absurd (hg.mem_successors.1 hedge) hloop

/-- The search from one node adds the circuits with this lowest node, up to the limit. -/
theorem found_addCircuitsAt (hg : g.Consistent) {start : Nat} (hstart : start < g.nodeCount)
    (s : Search) :
    (addCircuitsAt g limit s start).found =
      appendUpTo limit s.found (g.circuitsAt g.nodeCount start) := by
  obtain ⟨component, hfind, hnodup, hmem⟩ := componentAbove?_spec hg hstart
  have hself : start ∈ component := (hmem start).2 ⟨.refl, .refl⟩
  rw [circuitsAt_eq_returnsFrom hg hstart hnodup hmem, addCircuitsAt, hfind]
  by_cases hlimit : limit ≤ s.found.length
  · rw [if_pos hlimit, appendUpTo_of_le hlimit]
  rw [if_neg hlimit]
  -- the search is skipped only where there is nothing to find
  by_cases hsmall : component.length = 1 ∧ ¬ g.Edge start start
  · have hskip : (component.length = 1 && !g.hasEdge start start) = true := by
      simp [hsmall.1, Bool.eq_false_iff, hg.hasEdge_iff, hsmall.2]
    simp only [hskip, if_true]
    rw [returnsFrom_eq_nil_of_no_loop hg hself hsmall.1 hsmall.2, appendUpTo_nil]
  · have hskip : ¬ (component.length = 1 && !g.hasEdge start start) = true := by
      simpa [Bool.eq_false_iff, hg.hasEdge_iff] using hsmall
    simp only [hskip]
    have hdisciplined := disciplined_clear g component start s
    have hnew : start ∉ (s.clear component).blocked := by
      simp [Search.clear, hself]
    have hvisits : g.Visits component start limit [] start _ _ _ :=
      circuitFrom_spec hdisciplined (Nat.not_le.1 hlimit) hself hnew List.nodup_nil
        (List.nil_subset component) le_rfl
    exact hvisits.found

/-- The searches from several nodes add the circuits with these lowest nodes, up to the limit. -/
theorem found_foldl_addCircuitsAt (hg : g.Consistent) {starts : List Nat}
    (hstarts : ∀ start ∈ starts, start < g.nodeCount) (s : Search) :
    (starts.foldl (addCircuitsAt g limit) s).found =
      appendUpTo limit s.found (starts.flatMap (g.circuitsAt g.nodeCount)) := by
  induction starts generalizing s with
  | nil => rw [List.foldl_nil, List.flatMap_nil, appendUpTo_nil]
  | cons start starts ih =>
    rw [List.foldl_cons, List.flatMap_cons, appendUpTo_append,
      ih (fun a ha => hstarts a (List.mem_cons_of_mem start ha)),
      found_addCircuitsAt hg (hstarts start List.mem_cons_self)]

/-- The search with blocked nodes lists the circuits, up to its limit. -/
theorem circuits_eq_take (hg : g.Consistent) (limit : Nat) :
    g.circuits limit = g.allCircuits.take limit := by
  rw [← nil_appendUpTo]
  exact found_foldl_addCircuitsAt hg (fun start hstart => List.mem_range.1 hstart) {}

end Search

/-! ## Elementary circuits -/

/-- A closed path without a node twice, written from one of its nodes. -/
def IsElementary (g : Digraph) : List Nat → Prop
  | [] => False
  | v :: rest => (v :: rest).Nodup ∧ (v :: (rest ++ [v])).IsChain g.Edge

/-- A circuit is written from its lowest node. -/
def LowestFirst (c : List Nat) : Prop :=
  ∀ v ∈ c.head?, ∀ u ∈ c, v ≤ u

/-- The elementary circuits, where rotated paths are the same circuit. -/
def elementaryCircuits (g : Digraph) : Set (Cycle Nat) :=
  {z | ∃ c, g.IsElementary c ∧ (c : Cycle Nat) = z}

/-- A chain whose links ask for something of their targets. -/
theorem isChain_and_iff {α : Type} {r : α → α → Prop} {p : α → Prop} {v : α} {l : List α} :
    (v :: l).IsChain (fun a b => r a b ∧ p b) ↔ (v :: l).IsChain r ∧ ∀ u ∈ l, p u := by
  induction l generalizing v with
  | nil => simp
  | cons w l ih =>
    rw [List.isChain_cons_cons, List.isChain_cons_cons, ih, List.forall_mem_cons]
    tauto

section Elementary

variable {g : Digraph}

theorem isElementary_iff {c : List Nat} :
    g.IsElementary c ↔ c ≠ [] ∧ (c : Cycle Nat).Nodup ∧ (c : Cycle Nat).Chain g.Edge := by
  cases c with
  | nil => exact ⟨fun h => h.elim, fun h => h.1 rfl⟩
  | cons v rest =>
    rw [Cycle.nodup_coe_iff, Cycle.chain_coe_cons, IsElementary]
    exact (and_iff_right (List.cons_ne_nil v rest)).symm

/-- A rotated circuit is a circuit. -/
theorem IsElementary.of_isRotated {c c' : List Nat} (h : g.IsElementary c) (hr : c ~r c') :
    g.IsElementary c' := by
  rw [isElementary_iff] at h ⊢
  rw [← Cycle.coe_eq_coe.2 hr]
  refine ⟨fun hnil => h.1 ?_, h.2⟩
  rw [hnil] at hr
  exact List.isRotated_nil_iff.1 hr

/-- The nodes of a circuit are nodes of the graph. -/
theorem IsElementary.lt {c : List Nat} (hg : g.Consistent) (h : g.IsElementary c) {u : Nat}
    (hu : u ∈ c) : u < g.nodeCount := by
  cases c with
  | nil => exact h.elim
  | cons v rest =>
    -- every node of a circuit is the target of one of its edges
    have hchain := isChain_and_iff.1 (h.2.imp (fun a b hab => ⟨hab, (hg.edge_lt a b hab).2⟩))
    refine hchain.2 u ?_
    rw [List.mem_append, List.mem_singleton]
    exact (List.mem_cons.1 hu).symm

/-- The listed circuits are those that begin with their lowest node and are not too long. -/
theorem mem_circuitsAt (hg : g.Consistent) {length start : Nat} {c : List Nat} :
    c ∈ g.circuitsAt length start ↔
      g.IsElementary c ∧ c.head? = some start ∧ LowestFirst c ∧ c.length ≤ length := by
  -- a link is an edge to a node that is not below `start`
  have hlinks (l : List Nat) : (start :: l).IsChain (fun a b => b ∈ g.successorsAbove start a) ↔
      (start :: l).IsChain g.Edge ∧ ∀ u ∈ l, start ≤ u := by
    rw [← isChain_and_iff]
    refine List.IsChain.iff (fun a b => ?_)
    rw [successorsAbove, List.mem_filter, hg.mem_successors, decide_eq_true_eq]
  rw [circuitsAt, mem_returnsFrom_iff]
  constructor
  · rintro ⟨more, rfl, hlength, hchain, hstart, hnodup, -⟩
    obtain ⟨hedges, habove⟩ := (hlinks _).1 hchain
    refine ⟨⟨List.nodup_cons.2 ⟨hstart, hnodup⟩, hedges⟩, rfl, ?_, hlength⟩
    rintro v ⟨⟩ u hu
    rcases List.mem_cons.1 hu with rfl | hu
    · exact le_rfl
    · exact habove u (List.mem_append_left _ hu)
  · rintro ⟨helementary, hhead, hlowest, hlength⟩
    obtain ⟨more, rfl⟩ := List.head?_eq_some_iff.1 hhead
    obtain ⟨hnodup, hedges⟩ := helementary
    obtain ⟨hstart, hmore⟩ := List.nodup_cons.1 hnodup
    refine ⟨more, rfl, hlength, (hlinks _).2 ⟨hedges, fun u hu => ?_⟩, hstart, hmore, ?_⟩
    · rcases List.mem_append.1 hu with hu | hu
      · exact hlowest start rfl u (List.mem_cons_of_mem start hu)
      · exact (List.mem_singleton.1 hu).ge
    · intro w hw hmem
      rw [List.mem_singleton.1 hmem] at hw
      exact hstart hw

/-- A circuit has no more nodes than the graph. -/
theorem IsElementary.length_le {c : List Nat} (hg : g.Consistent) (h : g.IsElementary c) :
    c.length ≤ g.nodeCount :=
  length_le_of_nodup (Cycle.nodup_coe_iff.1 (isElementary_iff.1 h).2.1) (fun _ hv => h.lt hg hv)

/-- The searches from all nodes find the circuits that begin with their lowest node and are not too
long. -/
theorem mem_flatMap_circuitsAt (hg : g.Consistent) {maxLength : Nat} {c : List Nat} :
    c ∈ g.nodes.flatMap (g.circuitsAt (min g.nodeCount maxLength)) ↔
      g.IsElementary c ∧ LowestFirst c ∧ c.length ≤ maxLength := by
  rw [List.mem_flatMap]
  constructor
  · rintro ⟨start, -, hc⟩
    obtain ⟨helementary, -, hlowest, hlength⟩ := (mem_circuitsAt hg).1 hc
    exact ⟨helementary, hlowest, hlength.trans (min_le_right _ _)⟩
  · rintro ⟨helementary, hlowest, hlength⟩
    obtain ⟨start, rest, rfl⟩ := List.exists_cons_of_ne_nil (isElementary_iff.1 helementary).1
    refine ⟨start, List.mem_range.2 (helementary.lt hg List.mem_cons_self), ?_⟩
    refine (mem_circuitsAt hg).2 ⟨helementary, rfl, hlowest, ?_⟩
    exact le_min (helementary.length_le hg) hlength

/-- All circuits that begin with their lowest node are listed. -/
theorem mem_allCircuits (hg : g.Consistent) {c : List Nat} :
    c ∈ g.allCircuits ↔ g.IsElementary c ∧ LowestFirst c := by
  rw [allCircuits, ← min_self g.nodeCount, mem_flatMap_circuitsAt hg]
  exact ⟨fun h => ⟨h.1, h.2.1⟩, fun h => ⟨h.1, h.2, h.1.length_le hg⟩⟩

/-- The searches from all nodes find no circuit twice. -/
theorem flatMap_circuitsAt_nodup (hg : g.Consistent) (length : Nat) :
    (g.nodes.flatMap (g.circuitsAt length)).Nodup := by
  rw [List.nodup_flatMap]
  constructor
  · exact fun start _ => returnsFrom_nodup (fun v => (hg.successors_nodup v).filter _) _ _ _
  · refine List.nodup_range.imp (fun hne c hc hc' => hne ?_)
    obtain ⟨-, hhead, -⟩ := (mem_circuitsAt hg).1 hc
    obtain ⟨-, hhead', -⟩ := (mem_circuitsAt hg).1 hc'
    exact Option.some.inj (hhead.symm.trans hhead')

end Elementary

/-! ## Rotations -/

/-- A circuit has one rotation that begins with its lowest node. -/
theorem eq_of_isRotated_of_lowestFirst {p q : List Nat} (hr : p ~r q) (hnodup : p.Nodup)
    (hp : LowestFirst p) (hq : LowestFirst q) : p = q := by
  obtain ⟨n, hn, rfl⟩ := List.isRotated_iff_mod.1 hr
  rcases hn.eq_or_lt with rfl | hn
  · exact p.rotate_length.symm
  · -- the node at `n` and the first node are both the lowest
    have hpos : 0 < p.length := Nat.zero_lt_of_lt hn
    have hhead : p[0] ∈ p.head? := by
      rw [List.head?_eq_getElem?, List.getElem?_eq_getElem hpos]
      rfl
    have hhead' : p[n] ∈ (p.rotate n).head? := by
      rw [List.head?_rotate hn, List.getElem?_eq_getElem hn]
      rfl
    have hle : p[0] ≤ p[n] := hp p[0] hhead p[n] (List.getElem_mem hn)
    have hge : p[n] ≤ p[0] := hq p[n] hhead' p[0] (List.mem_rotate.2 (List.getElem_mem hpos))
    have hzero : 0 = n := (hnodup.getElem_inj_iff).1 (le_antisymm hle hge)
    rw [← hzero, List.rotate_zero]

/-- Circuits from their lowest nodes are told apart also if rotations are not. -/
theorem IsElementary.ofList_inj {g : Digraph} {c c' : List Nat} (h : g.IsElementary c)
    (hlowest : LowestFirst c) (hlowest' : LowestFirst c') (heq : (c : Cycle Nat) = c') : c = c' :=
  eq_of_isRotated_of_lowestFirst (Cycle.coe_eq_coe.1 heq)
    (Cycle.nodup_coe_iff.1 (isElementary_iff.1 h).2.1) hlowest hlowest'

/-- A circuit can be written from its lowest node. -/
theorem exists_isRotated_lowestFirst {c : List Nat} (hne : c ≠ []) :
    ∃ c', c ~r c' ∧ LowestFirst c' := by
  have hex : ∃ m, m ∈ c := List.exists_mem_of_ne_nil c hne
  obtain ⟨front, back, hsplit⟩ := List.append_of_mem (Nat.find_spec hex)
  have hr : c ~r (Nat.find hex :: back ++ front) := by
    nth_rewrite 1 [hsplit]
    exact List.isRotated_append
  refine ⟨_, hr, ?_⟩
  rintro v ⟨⟩ u hu
  exact Nat.find_min' hex (hr.mem_iff.2 hu)

/-! ## What the searches list -/

section Main

variable {g : Digraph}

/-- The circuits that are found stay different if rotations are not told apart. -/
theorem map_ofList_nodup (hg : g.Consistent) (maxLength : Nat) :
    ((g.nodes.flatMap (g.circuitsAt (min g.nodeCount maxLength))).map Cycle.ofList).Nodup := by
  refine (flatMap_circuitsAt_nodup hg _).map_on (fun c hc c' hc' heq => ?_)
  obtain ⟨helementary, hlowest, -⟩ := (mem_flatMap_circuitsAt hg).1 hc
  obtain ⟨-, hlowest', -⟩ := (mem_flatMap_circuitsAt hg).1 hc'
  exact helementary.ofList_inj hlowest hlowest' heq

theorem allCircuits_map_nodup (hg : g.Consistent) :
    (g.allCircuits.map Cycle.ofList).Nodup := by
  rw [allCircuits, ← min_self g.nodeCount]
  exact map_ofList_nodup hg g.nodeCount

/-- Every elementary circuit can be written from its lowest node. -/
theorem mem_elementaryCircuits_iff {z : Cycle Nat} :
    z ∈ g.elementaryCircuits ↔
      ∃ c, (g.IsElementary c ∧ LowestFirst c) ∧ (c : Cycle Nat) = z := by
  constructor
  · rintro ⟨c, helementary, rfl⟩
    obtain ⟨c', hr, hlowest⟩ := exists_isRotated_lowestFirst (isElementary_iff.1 helementary).1
    exact ⟨c', ⟨helementary.of_isRotated hr, hlowest⟩, (Cycle.coe_eq_coe.2 hr).symm⟩
  · rintro ⟨c, hc, rfl⟩
    exact ⟨c, hc.1, rfl⟩

/-- Every elementary circuit has a rotation that is listed. -/
theorem mem_elementaryCircuits (hg : g.Consistent) {z : Cycle Nat} :
    z ∈ g.elementaryCircuits ↔ z ∈ g.allCircuits.map Cycle.ofList := by
  rw [mem_elementaryCircuits_iff, List.mem_map]
  simp only [mem_allCircuits hg]

/-- A set is as large as a list of its members without repetition is long. -/
theorem finite_and_ncard_of_nodup {α : Type} [DecidableEq α] {items : List α} {s : Set α}
    (hnodup : items.Nodup) (hmem : ∀ a, a ∈ s ↔ a ∈ items) :
    s.Finite ∧ s.ncard = items.length := by
  have heq : s = (items.toFinset : Set α) := by
    ext a
    rw [hmem, Finset.mem_coe, List.mem_toFinset]
  rw [heq]
  refine ⟨Finset.finite_toSet _, ?_⟩
  rw [Set.ncard_coe_finset, List.toFinset_card_of_nodup hnodup]

/-- There are as many elementary circuits as are listed. -/
theorem ncard_elementaryCircuits (hg : g.Consistent) :
    g.elementaryCircuits.Finite ∧ g.elementaryCircuits.ncard = g.allCircuits.length := by
  rw [← List.length_map (f := Cycle.ofList)]
  exact finite_and_ncard_of_nodup (allCircuits_map_nodup hg)
    (fun z => mem_elementaryCircuits hg)

/-- **The search with blocked nodes lists the elementary circuits up to its limit, each once and from
its lowest node.** -/
theorem circuits_list_elementary (h : g.Built) (limit : Nat) :
    g.elementaryCircuits.Finite ∧
    (g.circuits limit).length = min limit g.elementaryCircuits.ncard ∧
    ((g.circuits limit).map Cycle.ofList).Nodup ∧
    (∀ c ∈ g.circuits limit, g.IsElementary c ∧ LowestFirst c) ∧
    (g.elementaryCircuits.ncard ≤ limit → ∀ z ∈ g.elementaryCircuits,
      ((g.circuits limit).map Cycle.ofList).count z = 1) := by
  have hg := h.consistent
  obtain ⟨hfinite, hcard⟩ := ncard_elementaryCircuits hg
  have hnodup := allCircuits_map_nodup hg
  rw [circuits_eq_take hg, hcard]
  refine ⟨hfinite, List.length_take, ?_, fun c hc => ?_, fun hlimit z hz => ?_⟩
  · exact hnodup.sublist ((List.take_sublist limit _).map _)
  · exact (mem_allCircuits hg).1 (List.mem_of_mem_take hc)
  · rw [List.take_of_length_le hlimit]
    exact List.count_eq_one_of_mem hnodup ((mem_elementaryCircuits hg).1 hz)

/-- The three circuits of `knot` are found, the second of them also as it is written from another
node. -/
theorem circuits_list_elementary_knot :
    knot.circuits 10 = [[0, 1], [0, 2, 3], [3]] ∧ knot.elementaryCircuits.ncard = 3 ∧
    ((knot.circuits 10).map Cycle.ofList).count (Cycle.ofList [2, 3, 0]) = 1 := by
  obtain ⟨-, hlength, -, -, honce⟩ := circuits_list_elementary built_knot 10
  have hcircuits : knot.circuits 10 = [[0, 1], [0, 2, 3], [3]] := by decide
  have hcard : knot.elementaryCircuits.ncard = 3 := by
    rw [hcircuits] at hlength
    simp only [List.length_cons, List.length_nil] at hlength
    omega
  have helementary : knot.IsElementary [2, 3, 0] := by
    unfold IsElementary Edge
    decide
  exact ⟨hcircuits, hcard, honce (by omega) _ ⟨_, helementary, rfl⟩⟩

/-- **The two searches give the same circuits in the same order, if the length of a circuit is not
bounded below the number of nodes.** -/
theorem circuits_eq_circuitsUpTo (h : g.Built) (limit : Nat) {maxLength : Nat}
    (hlength : g.nodeCount ≤ maxLength) : g.circuits limit = g.circuitsUpTo maxLength limit := by
  have hmin : min g.nodeCount (maxLength - 1 + 1) = g.nodeCount := by omega
  rw [circuits_eq_take h.consistent, circuitsUpTo_eq_take, hmin, allCircuits]

/-- Both searches of `knot` stop after the same two circuits. -/
theorem circuits_eq_circuitsUpTo_knot :
    knot.nodeCount ≤ 5 ∧ knot.circuits 2 = knot.circuitsUpTo 5 2 ∧
    knot.circuits 2 = [[0, 1], [0, 2, 3]] :=
  ⟨by decide, circuits_eq_circuitsUpTo built_knot 2 (by decide),
    by decide⟩

end Main

end Digraph

end CodeSurvey
