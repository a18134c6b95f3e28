/-
# The call chains that are listed

A call chain is maximal if it cannot go on: it has as many calls as it may have, or all calls of
its last function lead back to it (`IsMaximalChain`).  The search for chains goes on until it
cannot, and never runs out of steps before, because a chain holds no function twice
(`mem_maximalFrom_iff`).  It follows the calls of every function in their order
(`pairwise_maximalFrom`).  So it gives the maximal chains in depth-first order, cut at its limit.
-/
import CodeSurvey.Proofs.Graph.CallChains
import CodeSurvey.Proofs.Graph.CallRelation
import CodeSurvey.Proofs.Graph.Circuits
import CodeSurvey.Proofs.Graph.Representation
import CodeSurvey.Proofs.Graph.SearchOrder

namespace CodeSurvey

namespace CallGraph

/-- A chain of at most `depth` calls from `start` without a node twice. -/
structure IsCallChain (g : Digraph) (start depth : Nat) (chain : List Nat) : Prop where
  head_eq : chain.head? = some start
  nodup : chain.Nodup
  calls : chain.IsChain g.Edge
  length_le : chain.length ≤ depth + 1

/-- A chain that cannot go on: it has `depth` calls, or all calls of its last node lead back to
it. -/
structure IsMaximalChain (g : Digraph) (start depth : Nat) (chain : List Nat) : Prop extends
    IsCallChain g start depth chain where
  ends : chain.length = depth + 1 ∨ ∀ v ∈ chain.getLast?, ∀ w, g.Edge v w → w ∈ chain

/-- All maximal chains, in depth-first order. -/
structure ListsMaximalChains (g : Digraph) (start depth : Nat) (chains : List (List Nat)) :
    Prop where
  mem_iff : ∀ chain, chain ∈ chains ↔ IsMaximalChain g start depth chain
  ordered : chains.Pairwise g.Precedes

/-! ## One more call -/

section Calls

variable {g : Digraph} (hg : g.Consistent) {start depth : Nat}

/-- A maximal chain is no proper beginning of another chain. -/
theorem IsMaximalChain.eq_of_prefix {p q : List Nat} (hp : IsMaximalChain g start depth p)
    (hq : IsCallChain g start depth q) (hbegins : p <+: q) : p = q := by
  obtain ⟨more, rfl⟩ := hbegins
  cases more with
  | nil => exact (List.append_nil p).symm
  | cons w more =>
    exfalso
    obtain ⟨v, hlast⟩ : ∃ v, p.getLast? = some v := by
      cases hnone : p.getLast? with
      | none =>
        rw [List.getLast?_eq_none_iff.1 hnone] at hp
        exact absurd hp.head_eq (by simp)
      | some v => exact ⟨v, rfl⟩
    -- the chain would go on from its last node to `w`, which is not on it
    have hnew : w ∉ p := by
      have hdisjoint := (List.nodup_append.1 hq.nodup).2.2
      exact fun hw => hdisjoint w hw w List.mem_cons_self rfl
    have hedge : g.Edge v w := (List.isChain_append.1 hq.calls).2.2 v hlast w rfl
    rcases hp.ends with hfull | hends
    · have hle := hq.length_le
      rw [List.length_append, List.length_cons] at hle
      omega
    · exact hnew (hends v hlast w hedge)

include hg

theorem mem_nextCalls {chain : List Nat} {v w : Nat} :
    w ∈ nextCalls g depth chain v ↔ chain.length ≤ depth ∧ g.Edge v w ∧ w ∉ chain := by
  unfold nextCalls
  split
  · rename_i hdepth
    refine ⟨fun hw => absurd hw List.not_mem_nil, fun hw => ?_⟩
    omega
  · rename_i hdepth
    rw [List.mem_filter, hg.mem_successors, Bool.not_eq_true', ← Bool.not_eq_true,
      List.contains_iff_mem]
    exact ⟨fun hw => ⟨Nat.le_of_not_lt hdepth, hw⟩, fun hw => hw.2⟩

/-- A chain may go on along a call. -/
theorem IsCallChain.concat {above : List Nat} {v w : Nat}
    (h : IsCallChain g start depth (above ++ [v]))
    (hw : w ∈ nextCalls g depth (above ++ [v]) v) :
    IsCallChain g start depth (above ++ [v] ++ [w]) := by
  obtain ⟨hdepth, hedge, hnew⟩ := (mem_nextCalls hg).1 hw
  refine ⟨?_, ?_, ?_, ?_⟩
  · rw [List.head?_append, h.head_eq]
    rfl
  · exact List.concat_eq_append ▸ h.nodup.concat hnew
  · refine h.calls.append (List.isChain_singleton w) ?_
    rintro x hx y ⟨⟩
    rw [List.getLast?_concat] at hx
    cases hx
    exact hedge
  · rw [List.length_append, List.length_singleton]
    omega

/-- A chain without a next call is maximal. -/
theorem IsCallChain.isMaximalChain {above : List Nat} {v : Nat}
    (h : IsCallChain g start depth (above ++ [v]))
    (hend : nextCalls g depth (above ++ [v]) v = []) :
    IsMaximalChain g start depth (above ++ [v]) := by
  refine ⟨h, ?_⟩
  by_cases hdepth : (above ++ [v]).length ≤ depth
  · right
    intro x hx w hedge
    rw [List.getLast?_concat] at hx
    cases hx
    by_contra hnew
    have hnext := (mem_nextCalls hg).2 ⟨hdepth, hedge, hnew⟩
    rw [hend] at hnext
    exact List.not_mem_nil hnext
  · left
    have hle := h.length_le
    omega

/-- A maximal chain has no next call. -/
theorem IsMaximalChain.nextCalls_eq {above : List Nat} {v : Nat}
    (h : IsMaximalChain g start depth (above ++ [v])) :
    nextCalls g depth (above ++ [v]) v = [] := by
  refine List.eq_nil_iff_forall_not_mem.2 (fun w hw => ?_)
  have hsame := h.eq_of_prefix (h.toIsCallChain.concat hg hw) (List.prefix_append _ _)
  exact List.cons_ne_nil w [] (List.append_right_eq_self.1 hsame.symm)

/-- The nodes of a chain are nodes of the graph. -/
theorem IsCallChain.lt {chain : List Nat} (h : IsCallChain g start depth chain)
    (hstart : start < g.nodeCount) {v : Nat} (hv : v ∈ chain) : v < g.nodeCount := by
  obtain ⟨rest, rfl⟩ := List.head?_eq_some_iff.1 h.head_eq
  have hchain := h.calls.imp fun a b hab => And.intro hab (hg.edge_lt a b hab).2
  rcases List.mem_cons.1 hv with rfl | hv
  · exact hstart
  · exact (Digraph.isChain_and_iff.1 hchain).2 v hv

/-! ## What the search lists -/

/-- The listed chains are the maximal ones that begin as the search did.  The chain can go on only
as long as there are nodes that are not on it. -/
theorem mem_maximalFrom_iff (hstart : start < g.nodeCount) {fuel : Nat} {above c : List Nat}
    {v : Nat} (h : IsCallChain g start depth (above ++ [v]))
    (hfuel : g.nodeCount < fuel + (above ++ [v]).length) :
    c ∈ maximalFrom g depth fuel (above ++ [v]) v ↔
      above ++ [v] <+: c ∧ IsMaximalChain g start depth c := by
  induction fuel generalizing above v with
  | zero =>
    have hle := Digraph.length_le_of_nodup h.nodup (fun u hu => h.lt hg hstart hu)
    omega
  | succ fuel ih =>
    rw [maximalFrom]
    by_cases hend : nextCalls g depth (above ++ [v]) v = []
    · have hmaximal := h.isMaximalChain hg hend
      rw [if_pos (List.isEmpty_iff.2 hend), List.mem_singleton]
      constructor
      · rintro rfl
        exact ⟨List.prefix_rfl, hmaximal⟩
      · rintro ⟨hbegins, hc⟩
        exact (hmaximal.eq_of_prefix hc.toIsCallChain hbegins).symm
    · rw [if_neg (fun hempty => hend (List.isEmpty_iff.1 hempty)), List.mem_flatMap]
      have hlength (w : Nat) : g.nodeCount < fuel + (above ++ [v] ++ [w]).length := by
        simp only [List.length_append, List.length_singleton] at hfuel ⊢
        omega
      constructor
      · rintro ⟨w, hw, hc⟩
        obtain ⟨hbegins, hmaximal⟩ := (ih (h.concat hg hw) (hlength w)).1 hc
        exact ⟨(List.prefix_append _ _).trans hbegins, hmaximal⟩
      · rintro ⟨⟨more, rfl⟩, hmaximal⟩
        -- the chain is not yet maximal, so `c` goes on, and with a next call
        cases more with
        | nil =>
          rw [List.append_nil] at hmaximal
          exact absurd (hmaximal.nextCalls_eq hg) hend
        | cons w more =>
          have hdisjoint := (List.nodup_append.1 hmaximal.nodup).2.2
          have hedge : g.Edge v w :=
            (List.isChain_append.1 hmaximal.calls).2.2 v List.getLast?_concat w rfl
          have hle := hmaximal.length_le
          have hw : w ∈ nextCalls g depth (above ++ [v]) v := by
            refine (mem_nextCalls hg).2 ⟨?_, hedge, fun hmem => ?_⟩
            · rw [List.length_append, List.length_cons] at hle
              omega
            · exact hdisjoint w hmem w List.mem_cons_self rfl
          refine ⟨w, hw, (ih (h.concat hg hw) (hlength w)).2 ⟨?_, hmaximal⟩⟩
          exact ⟨more, by rw [List.append_assoc (above ++ [v])]; rfl⟩

/-- The chains are listed in depth-first order. -/
theorem pairwise_maximalFrom (fuel : Nat) (above : List Nat) (v : Nat) :
    (maximalFrom g depth fuel (above ++ [v]) v).Pairwise g.Precedes := by
  induction fuel generalizing above v with
  | zero => exact List.Pairwise.nil
  | succ fuel ih =>
    rw [maximalFrom]
    split
    · exact List.pairwise_singleton _ _
    · refine Digraph.pairwise_precedes_flatMap id above (hg.successors_nodup v) ?_
        (fun w _ => ih (above ++ [v]) w) (fun w _ c hc => ?_)
      · unfold nextCalls
        split
        · exact List.nil_sublist _
        · exact List.filter_sublist
      · obtain ⟨more, rfl, -⟩ := exists_of_mem_maximalFrom hc
        rw [id, List.append_assoc above]
        exact List.prefix_append _ _

/-- The search lists all maximal chains, and there is no other list of them in depth-first order. -/
theorem listsMaximalChains_iff (hstart : start < g.nodeCount) {chains : List (List Nat)} :
    ListsMaximalChains g start depth chains ↔
      chains = maximalFrom g depth g.nodeCount [start] start := by
  have hchain : IsCallChain g start depth ([] ++ [start]) :=
    ⟨rfl, List.nodup_singleton start, List.isChain_singleton start, Nat.le_add_left 1 depth⟩
  have hlists : ListsMaximalChains g start depth
      (maximalFrom g depth g.nodeCount ([] ++ [start]) start) := by
    refine ⟨fun c => ?_, pairwise_maximalFrom hg g.nodeCount [] start⟩
    rw [mem_maximalFrom_iff hg hstart hchain (Nat.lt_succ_self g.nodeCount)]
    refine ⟨fun hc => hc.2, fun hc => ⟨?_, hc⟩⟩
    obtain ⟨rest, rfl⟩ := List.head?_eq_some_iff.1 hc.head_eq
    exact List.prefix_append [start] rest
  constructor
  · intro h
    exact eq_of_pairwise_key_lt h.ordered hlists.ordered
      fun c => (h.mem_iff c).trans (hlists.mem_iff c).symm
  · rintro rfl
    exact hlists

/-- There is a maximal chain. -/
theorem maximalFrom_ne_nil (hstart : start < g.nodeCount) {fuel : Nat} {above : List Nat} {v : Nat}
    (h : IsCallChain g start depth (above ++ [v]))
    (hfuel : g.nodeCount < fuel + (above ++ [v]).length) :
    maximalFrom g depth fuel (above ++ [v]) v ≠ [] := by
  induction fuel generalizing above v with
  | zero =>
    have hle := Digraph.length_le_of_nodup h.nodup (fun u hu => h.lt hg hstart hu)
    omega
  | succ fuel ih =>
    rw [maximalFrom]
    split
    · exact List.cons_ne_nil _ _
    · rename_i hgoes
      obtain ⟨w, hw⟩ := List.exists_mem_of_ne_nil _ (fun hnil => hgoes (List.isEmpty_iff.2 hnil))
      intro hnil
      refine ih (h.concat hg hw) ?_ (List.flatMap_eq_nil_iff.1 hnil w hw)
      simp only [List.length_append, List.length_singleton] at hfuel ⊢
      omega

end Calls

end CallGraph

/-! ## Chains of ids -/

namespace Digraph

/-- Lists of nodes are known by their keys. -/
theorem Consistent.map_key_inj {g : Digraph} (h : g.Consistent) {p q : List Nat}
    (hp : ∀ v ∈ p, v < g.nodeCount) (hq : ∀ v ∈ q, v < g.nodeCount)
    (hkeys : p.map g.key = q.map g.key) : p = q := by
  have hback {l : List Nat} (hl : ∀ v ∈ l, v < g.nodeCount) :
      (l.map g.key).map g.nodeOf = l := by
    rw [List.map_map]
    exact (List.map_congr_left fun v hv => h.nodeOf_key (hl v hv)).trans l.map_id
  rw [← hback hp, hkeys, hback hq]

end Digraph

namespace CallGraph

/-- Chains are listed by the ids of the maximal chains of nodes. -/
theorem chains_eq_take {c : CallGraph} {start : String} {v : Nat}
    (hv : c.graph.node? start = some v) (depth : Nat) :
    c.chains start depth =
      ((maximalFrom c.graph depth c.graph.nodeCount [v] v).take maxChains).map
        (·.map c.graph.key) := by
  rw [chains, hv, ← nil_appendUpTo, ← chainsFrom_eq]

/-- **The call chains from a function are the maximal ones in depth-first order, ten of them at
most.**  The list of all maximal chains is the only one in this order, and if it is short enough
nothing is cut off.  No chain is listed twice or begins another one, and there is at least one. -/
theorem chains_list_maximal (outlines : List Outline) {start : String}
    (hstart : start ∈ (ofOutlines outlines).definitions.map (·.id)) (depth : Nat) :
    (∃ v all, (ofOutlines outlines).graph.node? start = some v ∧
      (∀ chains, ListsMaximalChains (ofOutlines outlines).graph v depth chains ↔ chains = all) ∧
      (ofOutlines outlines).chains start depth =
        (all.take 10).map (·.map (ofOutlines outlines).graph.key) ∧
      (all.length ≤ 10 →
        (ofOutlines outlines).chains start depth =
          all.map (·.map (ofOutlines outlines).graph.key))) ∧
    (ofOutlines outlines).chains start depth ≠ [] ∧
    ((ofOutlines outlines).chains start depth).Nodup ∧
    ∀ p ∈ (ofOutlines outlines).chains start depth,
      ∀ q ∈ (ofOutlines outlines).chains start depth, p <+: q → p = q := by
  have hg := consistent_ofOutlines outlines
  rw [← (graph_ofOutlines outlines).2.1] at hstart
  obtain ⟨v, hv, hlt, -⟩ := hg.exists_node? hstart
  have hlists : ListsMaximalChains (ofOutlines outlines).graph v depth _ :=
    (listsMaximalChains_iff hg hlt).2 rfl
  have hlimit : maxChains = 10 := rfl
  have hnodes {p : List Nat} (hp : IsCallChain (ofOutlines outlines).graph v depth p) :
      ∀ u ∈ p, u < (ofOutlines outlines).graph.nodeCount := fun u hu => hp.lt hg hlt hu
  rw [chains_eq_take hv, hlimit]
  refine ⟨⟨v, _, hv, fun chains => listsMaximalChains_iff hg hlt, rfl, fun hle => ?_⟩, ?_, ?_, ?_⟩
  · rw [List.take_of_length_le hle]
  · -- the start alone is a chain, so some maximal chain begins with it
    have hchain : IsCallChain (ofOutlines outlines).graph v depth ([] ++ [v]) :=
      ⟨rfl, List.nodup_singleton v, List.isChain_singleton v, Nat.le_add_left 1 depth⟩
    have hsome := maximalFrom_ne_nil hg hlt hchain (Nat.lt_succ_self _)
    simpa using hsome
  · have hnodup := nodup_of_pairwise_key_lt hlists.ordered
    refine (hnodup.sublist (List.take_sublist 10 _)).map_on fun p hp q hq hkeys => ?_
    have hp' := (hlists.mem_iff p).1 (List.mem_of_mem_take hp)
    have hq' := (hlists.mem_iff q).1 (List.mem_of_mem_take hq)
    exact hg.map_key_inj (hnodes hp'.toIsCallChain) (hnodes hq'.toIsCallChain) hkeys
  · intro ids hids ids' hids' hbegins
    obtain ⟨p, hp, rfl⟩ := List.mem_map.1 hids
    obtain ⟨q, hq, rfl⟩ := List.mem_map.1 hids'
    have hp' := (hlists.mem_iff p).1 (List.mem_of_mem_take hp)
    have hq' := (hlists.mem_iff q).1 (List.mem_of_mem_take hq)
    -- keys tell nodes apart, so the chains of nodes begin alike as well
    obtain ⟨beginning, hbeginning, hkeys⟩ := List.prefix_map_iff.1 hbegins
    have hsame : p = beginning := by
      refine hg.map_key_inj (hnodes hp'.toIsCallChain) (fun u hu => ?_) hkeys
      exact hnodes hq'.toIsCallChain u (hbeginning.subset hu)
    rw [hp'.eq_of_prefix hq'.toIsCallChain (hsame ▸ hbeginning)]

/-- Functions that call each other, the last of which calls none. -/
def mutualOutlines : List Outline :=
  [callingFile "m" [("a", ["b", "c"]), ("b", ["c", "a"]), ("c", ["a", "d"]), ("d", [])]]

/-- Two chains lead to the function that calls none, and both are listed. -/
theorem chains_list_maximal_mutual :
    "m::a" ∈ (ofOutlines mutualOutlines).definitions.map (·.id) ∧
    (ofOutlines mutualOutlines).chains "m::a" 5 = [["m::a", "m::b", "m::c", "m::d"],
      ["m::a", "m::c", "m::d"]] ∧
    ∃ all, (∀ chains, ListsMaximalChains (ofOutlines mutualOutlines).graph 0 5 chains ↔
        chains = all) ∧
      (ofOutlines mutualOutlines).chains "m::a" 5 =
        all.map (·.map (ofOutlines mutualOutlines).graph.key) := by
  have hstart : "m::a" ∈ (ofOutlines mutualOutlines).definitions.map (·.id) := by decide
  have hchains : (ofOutlines mutualOutlines).chains "m::a" 5 =
      [["m::a", "m::b", "m::c", "m::d"], ["m::a", "m::c", "m::d"]] := by decide
  have hfirst : (ofOutlines mutualOutlines).graph.node? "m::a" = some 0 := by decide
  obtain ⟨⟨v, all, hv, hall, htake, hshort⟩, -⟩ := chains_list_maximal mutualOutlines hstart 5
  rw [hfirst] at hv
  cases hv
  have hlength := congrArg List.length htake
  rw [hchains, List.length_map, List.length_take, List.length_cons, List.length_cons,
    List.length_nil] at hlength
  exact ⟨hstart, hchains, all, hall, hshort (by omega)⟩

end CallGraph

end CodeSurvey
