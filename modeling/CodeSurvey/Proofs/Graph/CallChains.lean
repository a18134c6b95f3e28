/-
# Call chains

Call chains are searched depth first, and the search stops after a number of them.  `maximalFrom`
lists the same chains without a limit, and the search gives this list, cut at its limit
(`chainsFrom_eq`).  So whatever is true of all chains is true of the listed ones: each leads along
calls (`exists_of_mem_chains`).
-/
import CodeSurvey.Graph.CallGraph
import CodeSurvey.Proofs.Graph.Construction
import CodeSurvey.Proofs.Graph.ReturnPaths

namespace CodeSurvey

namespace CallGraph

/-- The nodes that a chain may go on to from its last node `v`. -/
def nextCalls (g : Digraph) (depth : Nat) (chain : List Nat) (v : Nat) : List Nat :=
  if depth < chain.length then [] else (g.successors v).filter (!chain.contains ·)

/-- All chains that begin with `chain`, whose last node is `v`, and that cannot go on.  They go on by
fewer than `fuel` nodes. -/
def maximalFrom (g : Digraph) (depth : Nat) : Nat → List Nat → Nat → List (List Nat)
  | 0, _, _ => []
  | fuel + 1, chain, v =>
    if (nextCalls g depth chain v).isEmpty then [chain]
    else (nextCalls g depth chain v).flatMap fun w => maximalFrom g depth fuel (chain ++ [w]) w

/-- The search adds the chains that cannot go on, up to its limit. -/
theorem chainsFrom_eq (g : Digraph) (depth fuel : Nat) (chain : List Nat) (v : Nat)
    (found : List (List Nat)) :
    chainsFrom g depth fuel chain v found =
      appendUpTo maxChains found (maximalFrom g depth fuel chain v) := by
  induction fuel generalizing chain v found with
  | zero => rw [chainsFrom, maximalFrom, appendUpTo_nil]
  | succ fuel ih =>
    have hnext : (if depth < chain.length then [] else
        (g.successors v).filter (!chain.contains ·)) = nextCalls g depth chain v := rfl
    simp only [chainsFrom, hnext]
    rw [maximalFrom]
    by_cases hlimit : maxChains ≤ found.length
    · rw [if_pos hlimit, appendUpTo_of_le hlimit]
    rw [if_neg hlimit]
    by_cases hend : (nextCalls g depth chain v).isEmpty = true
    · rw [if_pos hend, if_pos hend, appendUpTo_singleton hlimit]
    · rw [if_neg hend, if_neg hend]
      exact foldl_appendUpTo (fun w _ found => ih (chain ++ [w]) w found) found

section Chains

variable {g : Digraph} {depth : Nat}

theorem mem_successors_of_mem_nextCalls {chain : List Nat} {v w : Nat}
    (hw : w ∈ nextCalls g depth chain v) : w ∈ g.successors v := by
  unfold nextCalls at hw
  split at hw
  · exact absurd hw List.not_mem_nil
  · exact List.mem_of_mem_filter hw

/-- A chain goes on along calls. -/
theorem exists_of_mem_maximalFrom {fuel : Nat} {chain c : List Nat} {v : Nat}
    (hc : c ∈ maximalFrom g depth fuel chain v) :
    ∃ more, c = chain ++ more ∧ (v :: more).IsChain fun a b => b ∈ g.successors a := by
  induction fuel generalizing chain v with
  | zero => exact absurd hc List.not_mem_nil
  | succ fuel ih =>
    rw [maximalFrom] at hc
    split at hc
    · exact ⟨[], by rw [List.mem_singleton.1 hc, List.append_nil], List.isChain_singleton v⟩
    · obtain ⟨w, hw, hc⟩ := List.mem_flatMap.1 hc
      obtain ⟨more, rfl, hchain⟩ := ih hc
      refine ⟨w :: more, by simp, List.isChain_cons_cons.2 ⟨?_, hchain⟩⟩
      exact mem_successors_of_mem_nextCalls hw

end Chains

/-- A listed chain leads along calls from the function that it was asked for. -/
theorem exists_of_mem_chains {c : CallGraph} (hg : c.graph.Consistent) {start : String}
    {depth : Nat} {ids : List String} (hids : ids ∈ c.chains start depth) :
    ∃ v more, c.graph.node? start = some v ∧ ids = (v :: more).map c.graph.key ∧
      (v :: more).IsChain c.graph.Edge := by
  unfold chains at hids
  split at hids
  · exact absurd hids List.not_mem_nil
  · next v hv =>
    obtain ⟨chain, hchain, rfl⟩ := List.mem_map.1 hids
    rw [chainsFrom_eq, nil_appendUpTo] at hchain
    obtain ⟨more, rfl, hlinks⟩ := exists_of_mem_maximalFrom (List.mem_of_mem_take hchain)
    exact ⟨v, more, hv, rfl, hlinks.imp fun a b hab => hg.mem_successors.1 hab⟩

end CallGraph

end CodeSurvey
