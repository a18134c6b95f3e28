/-
# The calls of the search with blocked nodes

The search calls itself for the edges that it follows, and releasing a node calls itself for the
nodes that wait.  `Enters` and `Unblocks` are the calls that the search of a whole graph makes.
Every call finds blocks and path in order (`Enters.sound`).  A node that is released leaves entries
behind in the list of waits.  But when the search comes to it again, what these entries wait for is
blocked already, so none of it is released before the search leaves the node (`Unblocks.releases`).
Both kinds of calls are nested only so deep, and deeper nesting would change nothing
(`Enters.result_deeper`, `Search.unblockFrom_add`).
-/
import CodeSurvey.Proofs.Graph.Circuits

namespace CodeSurvey

namespace Digraph

/-! ## Calls -/

/-- A call of the search. -/
structure Call where
  component : List Nat
  start : Nat
  /-- The number of calls, with this one, that may be nested. -/
  levels : Nat
  /-- The nodes on the path. -/
  above : List Nat
  /-- The node that the search comes to. -/
  node : Nat
  state : Search
  deriving Repr, DecidableEq

namespace Call

/-- The path with the node of the call. -/
def path (c : Call) : List Nat := c.above ++ [c.node]

/-- What a call gives. -/
def result (g : Digraph) (limit : Nat) (c : Call) : Bool × Search :=
  circuitFrom g c.component c.start limit c.levels c.above c.node c.state

/-- The call for an edge to `w` in a state. -/
def along (c : Call) (w : Nat) (s : Search) : Call :=
  { c with levels := c.levels - 1, above := c.path, node := w, state := s }

/-- What a call has found, and the state, after it followed some edges. -/
def after (g : Digraph) (limit : Nat) (c : Call) (ws : List Nat) : Bool × Search :=
  ws.foldl (followEdge c.start limit c.path fun w s => (c.along w s).result g limit)
    (false, c.state.block c.node)

theorem after_concat (g : Digraph) (limit : Nat) (c : Call) (ws : List Nat) (w : Nat) :
    c.after g limit (ws ++ [w]) =
      followEdge c.start limit c.path (fun w s => (c.along w s).result g limit)
        (c.after g limit ws) w :=
  List.foldl_concat _ _ _ _

/-- What a call has found, and the state, before the search leaves the node. -/
def atEnd (g : Digraph) (limit : Nat) (c : Call) : Bool × Search :=
  c.after g limit (g.successorsIn c.component c.node)

theorem result_eq_settle {g : Digraph} {limit : Nat} {c : Call} (h : 0 < c.levels) :
    c.result g limit = g.settle c.component c.node (c.atEnd g limit) := by
  obtain ⟨component, start, levels, above, node, state⟩ := c
  cases levels with
  | zero => exact absurd h (Nat.lt_irrefl 0)
  | succ levels => rfl

end Call

/-- The calls of the search of a whole graph.  The first one from a node is made if the limit leaves
room and the node may be on a circuit, and one along an edge if the limit leaves room and the edge
leads to a node that is not blocked. -/
inductive Enters (g : Digraph) (limit : Nat) : Call → Prop where
  | first {earlier later component : List Nat} {start : Nat} {s : Search}
      (hnodes : g.nodes = earlier ++ start :: later)
      (hstate : earlier.foldl (addCircuitsAt g limit) {} = s) (hroom : s.found.length < limit)
      (hcomponent : g.componentAbove? start = some component)
      (hloop : component.length ≠ 1 ∨ g.hasEdge start start = true) :
      Enters g limit ⟨component, start, component.length, [], start, s.clear component⟩
  | next {c : Call} {front back : List Nat} {w : Nat} {s : Search} (hcall : Enters g limit c)
      (hedges : g.successorsIn c.component c.node = front ++ w :: back)
      (hstate : (c.after g limit front).2 = s) (hroom : s.found.length < limit)
      (hstart : w ≠ c.start) (hfree : w ∉ s.blocked) :
      Enters g limit (c.along w s)

/-- The releases that the search makes when it leaves the node of a call that found something.  Each
has a number of levels, a state and the node that is released.  The first is that of the node itself,
and others follow for nodes that wait and are blocked. -/
inductive Unblocks (g : Digraph) (limit : Nat) (c : Call) : Nat → Search → Nat → Prop where
  | leave {s : Search} (hcall : g.Enters limit c) (hfound : c.atEnd g limit = (true, s)) :
      Unblocks g limit c s.blocked.length s c.node
  | waiter {levels u w : Nat} {s t : Search} {front back : List Nat}
      (hcall : Unblocks g limit c (levels + 1) s u)
      (hwaiters : s.waitersOf u = front ++ w :: back)
      (hstate : front.foldl (Search.releaseWaiter levels) (s.release u) = t)
      (hblocked : w ∈ t.blocked) : Unblocks g limit c levels t w

/-! ## What every call finds -/

/-- What is true of a call. -/
structure Call.Sound (g : Digraph) (limit : Nat) (c : Call) : Prop where
  disciplined : g.Disciplined c.component c.start c.above c.state
  room : c.state.found.length < limit
  mem : c.node ∈ c.component
  fresh : c.node ∉ c.state.blocked
  nodup : c.above.Nodup
  subset : c.above ⊆ c.component
  levels_add : c.levels + c.above.length = c.component.length

namespace Call.Sound

variable {g : Digraph} {limit : Nat} {c : Call}

/-- The path with the node of the call is a path in the component. -/
theorem path_nodup_subset (h : c.Sound g limit) : c.path.Nodup ∧ c.path ⊆ c.component :=
  h.disciplined.path_concat h.mem h.fresh h.nodup h.subset

/-- A path in a component is no longer than the component, so calls are not nested too deep. -/
theorem levels_pos (h : c.Sound g limit) : 0 < c.levels := by
  obtain ⟨hnodup, hsubset⟩ := h.path_nodup_subset
  have hle := (hnodup.subperm hsubset).length_le
  have hlevels := h.levels_add
  rw [Call.path, List.length_append, List.length_singleton] at hle
  omega

/-- The call for an edge is sound if the discipline was kept up to it. -/
theorem along (h : c.Sound g limit) {w : Nat} {t : Search} (hw : w ∈ c.component)
    (ht : g.Disciplined c.component c.start c.path t) (hroom : t.found.length < limit)
    (hwt : w ∉ t.blocked) : (c.along w t).Sound g limit := by
  obtain ⟨hnodup, hsubset⟩ := h.path_nodup_subset
  refine ⟨ht, hroom, hw, hwt, hnodup, hsubset, ?_⟩
  have hpos := h.levels_pos
  have hlevels := h.levels_add
  show c.levels - 1 + (c.above ++ [c.node]).length = c.component.length
  rw [List.length_append, List.length_singleton]
  omega

theorem visits (h : c.Sound g limit) :
    g.Visits c.component c.start limit c.above c.node
      (returnsFrom (g.successorsIn c.component) c.start c.levels c.path c.node) c.state
      (c.result g limit) :=
  circuitFrom_spec h.disciplined h.room h.mem h.fresh h.nodup h.subset h.levels_add.ge

/-- Following edges keeps the discipline. -/
theorem explored_after (h : c.Sound g limit) {ws : List Nat} (hws : ∀ w ∈ ws, w ∈ c.component) :
    g.Explored c.component c.start c.path (c.state.block c.node) (c.after g limit ws).2 := by
  have hroom : false = false → (c.state.block c.node).found.length < limit := fun _ => h.room
  exact (foldl_followEdge (h.disciplined.block c.node) hws hroom
    fun w hw t ht hroom hwt => (h.along hw ht hroom hwt).visits).2.1

theorem explored_atEnd (h : c.Sound g limit) :
    g.Explored c.component c.start c.path (c.state.block c.node) (c.atEnd g limit).2 :=
  h.explored_after fun _ hw => (mem_successorsIn.1 hw).2

end Call.Sound

/-- **Every call of the search finds blocks and path in order.** -/
theorem Enters.sound {g : Digraph} (hg : g.Consistent) {limit : Nat} {c : Call}
    (h : g.Enters limit c) : c.Sound g limit := by
  induction h with
  | @first earlier later component start s hnodes hstate hroom hcomponent hloop =>
    have hstart : start < g.nodeCount := by
      have hmem : start ∈ g.nodes := by simp [hnodes]
      exact List.mem_range.1 hmem
    obtain ⟨component', hfind, -, hmem⟩ := componentAbove?_spec hg hstart
    obtain rfl := Option.some.inj (hfind.symm.trans hcomponent)
    have hself : start ∈ component' := (hmem start).2 ⟨.refl, .refl⟩
    exact ⟨disciplined_clear g component' start s, hroom, hself, by simp [Search.clear, hself],
      List.nodup_nil, List.nil_subset component', rfl⟩
  | @next c front back w s hcall hedges hstate hroom hstart hfree ih =>
    have hin : ∀ u ∈ front ++ w :: back, u ∈ c.component := by
      rw [← hedges]
      exact fun u hu => (mem_successorsIn.1 hu).2
    have hexplored := ih.explored_after fun u hu => hin u (List.mem_append_left _ hu)
    rw [hstate] at hexplored
    exact ih.along (hin w (by simp)) hexplored.disciplined hroom hfree

/-! ## What is released -/

/-- The nodes that are spared when the search leaves the node of a call: those that were blocked when
it was made, and those outside of its component. -/
def Call.Spares (c : Call) (u : Nat) : Prop := u ∈ c.state.blocked ∨ u ∉ c.component

/-- What is true of a release when the search leaves the node of a call.  There are levels enough for
all nodes that are still blocked, and what is spared waits only for what is spared. -/
structure Call.Releases (c : Call) (levels : Nat) (s : Search) (u : Nat) : Prop where
  blocked : u ∈ s.blocked
  length_le : s.blocked.length ≤ levels
  waitsWithin : s.WaitsWithin c.Spares
  not_spared : ¬ c.Spares u

section Release

variable {g : Digraph} {limit levels u : Nat} {c : Call} {s : Search}

theorem Unblocks.enters (h : g.Unblocks limit c levels s u) : g.Enters limit c := by
  induction h with
  | leave hcall hfound => exact hcall
  | waiter hcall hwaiters hstate hblocked ih => exact ih

/-- **What is released was blocked since the call was made.** -/
theorem Unblocks.releases (hg : g.Consistent) (h : g.Unblocks limit c levels s u) :
    c.Releases levels s u := by
  induction h with
  | leave hcall hfound =>
    have hsound := hcall.sound hg
    have hexplored := hsound.explored_atEnd
    rw [hfound] at hexplored
    refine ⟨hexplored.disciplined.path_blocked _ (by simp [Call.path]), le_rfl,
      Explored.waitsWithin hsound.disciplined hexplored, ?_⟩
    rintro (hblocked | hout)
    · exact hsound.fresh hblocked
    · exact hout hsound.mem
  | @waiter levels u w s t front back hcall hwaiters hstate hblocked ih =>
    -- what waits for a node that is not spared is not spared
    have hout : ∀ x ∈ front ++ w :: back, ¬ c.Spares x := by
      rw [← hwaiters]
      exact fun x hx => ih.waitsWithin.not_of_mem_waitersOf ih.not_spared hx
    have hrelease : Search.Keeps c.Spares s (s.release u) := Search.release_keeps ih.not_spared
    have hkeeps : Search.Keeps c.Spares (s.release u) t := by
      rw [← hstate]
      exact Search.foldl_releaseWaiter_keeps (hrelease.waitsWithin ih.waitsWithin)
        fun x hx => hout x (List.mem_append_left _ hx)
    have hlt := Search.length_release_lt ih.blocked
    have hlength := ih.length_le
    have hreleased : Search.Released (s.release u) t := by
      rw [← hstate]
      exact Search.foldl_releaseWaiter_released (by omega) front
    have hle := hreleased.length_le
    exact ⟨hblocked, by omega, (hrelease.trans hkeeps).waitsWithin ih.waitsWithin,
      hout w (by simp)⟩

/-- The nodes on the path above are spared. -/
theorem Unblocks.not_mem_above (hg : g.Consistent) (h : g.Unblocks limit c levels s u) :
    u ∉ c.above := by
  have hsound := h.enters.sound hg
  exact fun hmem => (h.releases hg).not_spared (Or.inl (hsound.disciplined.path_blocked u hmem))

end Release

/-! ## Deeper nesting -/

/-- Two loops agree if their turns agree on what the loop can come to. -/
theorem foldl_eq_of_keeps {α β : Type} {p : β → Prop} {f f' : β → α → β} {items : List α} {b : β}
    (hb : p b) (h : ∀ b, p b → ∀ a ∈ items, f' b a = f b a ∧ p (f b a)) :
    items.foldl f' b = items.foldl f b := by
  induction items generalizing b with
  | nil => rfl
  | cons a items ih =>
    obtain ⟨hsame, hkept⟩ := h b hb a List.mem_cons_self
    rw [List.foldl_cons, List.foldl_cons, hsame]
    exact ih hkept fun b hb a ha => h b hb a (List.mem_cons_of_mem _ ha)

/-- There are no more levels of releases than blocked nodes. -/
theorem Search.unblockFrom_add {s : Search} {v fuel : Nat} (hfuel : s.blocked.length ≤ fuel)
    (hv : v ∈ s.blocked) (more : Nat) : unblockFrom (fuel + more) s v = unblockFrom fuel s v := by
  induction fuel generalizing s v with
  | zero =>
    have := List.length_pos_of_mem hv
    omega
  | succ fuel ih =>
    have hlt := length_release_lt hv
    have hle : (s.release v).blocked.length ≤ fuel := by omega
    rw [Nat.add_right_comm, unblockFrom_succ, unblockFrom_succ]
    refine foldl_eq_of_keeps (p := fun s => s.blocked.length ≤ fuel) hle fun s hs w _ => ⟨?_, ?_⟩
    · by_cases hw : w ∈ s.blocked
      · rw [releaseWaiter_of_mem hw, releaseWaiter_of_mem hw, ih hs hw]
      · rw [releaseWaiter_of_not_mem hw, releaseWaiter_of_not_mem hw]
    · exact (foldl_releaseWaiter_released hs [w]).length_le.trans hs

/-- The same call with more levels. -/
def Call.deeper (c : Call) (more : Nat) : Call := { c with levels := c.levels + more }

/-- The calls along its edges have more levels as well. -/
theorem Call.deeper_along {c : Call} (h : 0 < c.levels) (more w : Nat) (s : Search) :
    (c.deeper more).along w s = (c.along w s).deeper more := by
  have hlevels : c.levels + more - 1 = c.levels - 1 + more := by omega
  simp only [Call.deeper, Call.along, Call.path, hlevels]

/-- Going on along an edge is the same with two ways of visiting a node that agree where the search
visits it. -/
theorem followEdge_congr {start limit w : Nat} {path : List Nat} {r : Bool × Search}
    {visit visit' : Nat → Search → Bool × Search}
    (h : r.2.found.length < limit → w ≠ start → w ∉ r.2.blocked → visit w r.2 = visit' w r.2) :
    followEdge start limit path visit r w = followEdge start limit path visit' r w := by
  obtain ⟨found, s⟩ := r
  unfold followEdge
  dsimp only at h ⊢
  by_cases hlimit : limit ≤ s.found.length
  · rw [if_pos hlimit, if_pos hlimit]
  by_cases hstart : w = start
  · rw [if_pos hstart, if_pos hstart]
  by_cases hblocked : w ∈ s.blocked
  · rw [if_pos (List.contains_iff_mem.2 hblocked), if_pos (List.contains_iff_mem.2 hblocked)]
  · rw [h (Nat.not_le.1 hlimit) hstart hblocked]

section Deeper

variable {g : Digraph} {limit : Nat} {c : Call}

/-- Following the edges of a call depends on no other calls than those that the search makes. -/
theorem Enters.foldl_eq_after (hc : g.Enters limit c) {visit : Nat → Search → Bool × Search}
    (h : ∀ w s, g.Enters limit (c.along w s) → visit w s = (c.along w s).result g limit)
    {front back : List Nat} (hedges : g.successorsIn c.component c.node = front ++ back) :
    front.foldl (followEdge c.start limit c.path visit) (false, c.state.block c.node) =
      c.after g limit front := by
  induction front using List.reverseRecOn generalizing back with
  | nil => rfl
  | append_singleton front w ih =>
    rw [List.append_assoc, List.singleton_append] at hedges
    rw [List.foldl_concat, ih hedges, Call.after_concat]
    exact followEdge_congr fun hroom hstart hfree =>
      h w _ (hc.next hedges rfl hroom hstart hfree)

/-- There are no more levels of calls than nodes in the component. -/
theorem Enters.result_deeper (hg : g.Consistent) (hc : g.Enters limit c) (more : Nat) :
    (c.deeper more).result g limit = c.result g limit := by
  induction hlevels : c.levels generalizing c with
  | zero =>
    have hpos := (hc.sound hg).levels_pos
    omega
  | succ levels ih =>
    have hpos := (hc.sound hg).levels_pos
    have hpos' : 0 < (c.deeper more).levels := Nat.lt_of_lt_of_le hpos (Nat.le_add_right _ more)
    have hsame : (c.deeper more).atEnd g limit = c.atEnd g limit := by
      refine hc.foldl_eq_after (fun w s hw => ?_) (List.append_nil _).symm
      rw [Call.deeper_along hpos]
      refine ih hw ?_
      show c.levels - 1 = levels
      omega
    rw [Call.result_eq_settle hpos', Call.result_eq_settle hpos, hsame]
    rfl

end Deeper

/-! ## The discipline of a whole search -/

/-- **The search of a graph keeps its blocks in order.**  Whenever it comes to a node, the nodes on
the path are blocked and different from each other and from the node; a blocked node of the component
that is not on the path waits for all its successors there, which are blocked too; and the path is
shorter than the component.  The path stays blocked while the edges of the node are followed, and
when the search leaves the node, nothing on the path above is released.  No call and no release is
ever short of levels. -/
theorem calls_keep_blocks {g : Digraph} (hg : g.Built) (limit : Nat) :
    (∀ c, g.Enters limit c →
      c.above.Nodup ∧ c.node ∉ c.above ∧ (∀ u ∈ c.above, u ∈ c.state.blocked) ∧
      (∀ u ∈ c.component, u ∈ c.state.blocked → u ∉ c.above →
        ∀ x ∈ g.successors u, x ∈ c.component →
          x ∈ c.state.blocked ∧ u ∈ c.state.waitersOf x) ∧
      (∀ front, front <+: g.successorsIn c.component c.node →
        ∀ u ∈ c.above ++ [c.node], u ∈ (c.after g limit front).2.blocked) ∧
      c.above.length < c.component.length ∧ 0 < c.levels ∧
      ∀ more, (c.deeper more).result g limit = c.result g limit) ∧
    ∀ c levels s u, g.Unblocks limit c levels s u →
      u ∉ c.above ∧ 0 < levels ∧
      ∀ more, Search.unblockFrom (levels + more) s u = Search.unblockFrom levels s u := by
  have hconsistent := hg.consistent
  constructor
  · intro c hc
    have h := hc.sound hconsistent
    have hpos := h.levels_pos
    have hlevels := h.levels_add
    refine ⟨h.nodup, fun hmem => h.fresh (h.disciplined.path_blocked _ hmem),
      h.disciplined.path_blocked, ?_, ?_, by omega, hpos, hc.result_deeper hconsistent⟩
    · intro u hu hblocked hpath x hx hxc
      obtain ⟨-, hxblocked, hwaiting⟩ :=
        h.disciplined.waits u hu hblocked hpath x (mem_successorsIn.2 ⟨hx, hxc⟩)
      exact ⟨hxblocked, Search.mem_waitersOf.2 hwaiting⟩
    · intro front hfront
      have hin : ∀ w ∈ front, w ∈ c.component :=
        fun w hw => (mem_successorsIn.1 (hfront.subset hw)).2
      exact (h.explored_after hin).disciplined.path_blocked
  · intro c levels s u hu
    have h := hu.releases hconsistent
    have hpos := List.length_pos_of_mem h.blocked
    have hlength := h.length_le
    exact ⟨hu.not_mem_above hconsistent, by omega, Search.unblockFrom_add hlength h.blocked⟩

/-- A graph in which a node that is released leaves an entry behind: the second node waits for the
fourth and the fifth, and the fourth is released before the fifth. -/
def relay : Digraph :=
  [(0, 2), (2, 3), (2, 1), (3, 0), (3, 1), (1, 3), (1, 4), (4, 2)].foldl
    (fun g e => g.addEdge e.1 e.2)
    (["a", "b", "c", "d", "e"].foldl (fun g key => g.addNode key key) Digraph.empty)

theorem built_relay : relay.Built :=
  (Built.empty.foldl_addNode _).foldl_addEdge (by decide)

/-- The call for the third node of `relay`. -/
def relayOuter : Call := ⟨[0, 2, 3, 1, 4], 0, 4, [0], 2, { blocked := [0] }⟩

/-- A call below it, for the fourth node.  The second one is on the path again, and still among those
that wait for the fifth. -/
def relayInner : Call :=
  ⟨[0, 2, 3, 1, 4], 0, 2, [0, 2, 1], 3, ⟨[1, 4, 2, 0], [(2, 4), (4, 1)], [[0, 2, 3]]⟩⟩

theorem enters_relayOuter : relay.Enters 10 relayOuter := by
  have hfirst : relay.Enters 10 ⟨[0, 2, 3, 1, 4], 0, 5, [], 0, {}⟩ :=
    .first (show relay.nodes = [] ++ 0 :: [1, 2, 3, 4] by decide) rfl (by decide)
      (by decide) (Or.inl (by decide))
  exact hfirst.next (show _ = [] ++ 2 :: [] by decide) rfl (by decide) (by decide)
    (by decide)

theorem enters_relayInner : relay.Enters 10 relayInner := by
  have hmiddle : relay.Enters 10
      ⟨[0, 2, 3, 1, 4], 0, 3, [0, 2], 1, ⟨[4, 2, 0], [(2, 4), (4, 1)], [[0, 2, 3]]⟩⟩ :=
    enters_relayOuter.next (show _ = [3] ++ 1 :: [] by decide) (by decide)
      (by decide) (by decide) (by decide)
  exact hmiddle.next (show _ = [] ++ 3 :: [4] by decide) (by decide) (by decide)
    (by decide) (by decide)

/-- The fifth node is blocked and waits for the third, and is released when the search leaves that.
Until then the second node stays blocked on the path, though it is said to wait for the fifth. -/
theorem calls_keep_blocks_relay :
    relay.Enters 10 relayInner ∧ 1 ∈ relayInner.above ∧ 1 ∈ relayInner.state.waitersOf 4 ∧
    4 ∈ relayInner.state.blocked ∧ 4 ∈ relayInner.state.waitersOf 2 ∧
    1 ∈ (relayInner.after relay 10 [0, 1]).2.blocked ∧
    ∃ levels s, relay.Unblocks 10 relayOuter levels s 4 ∧ 4 ∉ relayOuter.above ∧ 0 < levels := by
  obtain ⟨hcalls, hreleases⟩ := calls_keep_blocks built_relay 10
  obtain ⟨-, -, -, hwaits, hpath, -, -, -⟩ := hcalls relayInner enters_relayInner
  have hfound : relayOuter.atEnd relay 10 =
      (true, ⟨[4, 2, 0], [(2, 4), (4, 1)], [[0, 2, 3], [0, 2, 1, 3]]⟩) := by decide
  have hleave : relay.Unblocks 10 relayOuter 3
      ⟨[4, 2, 0], [(2, 4), (4, 1)], [[0, 2, 3], [0, 2, 1, 3]]⟩ 2 :=
    .leave enters_relayOuter hfound
  have hwaiter : relay.Unblocks 10 relayOuter 2
      ⟨[4, 0], [(4, 1)], [[0, 2, 3], [0, 2, 1, 3]]⟩ 4 :=
    hleave.waiter (show _ = [] ++ 4 :: [] by decide) (by decide) (by decide)
  refine ⟨enters_relayInner, by decide, by decide, by decide, ?_, ?_, 2, _, hwaiter, ?_⟩
  · exact (hwaits 4 (by decide) (by decide) (by decide) 2 (by decide) (by decide)).2
  · exact hpath [0, 1] (by decide) 1 (by decide)
  · exact ⟨(hreleases _ _ _ _ hwaiter).1, (hreleases _ _ _ _ hwaiter).2.1⟩

end Digraph

end CodeSurvey
