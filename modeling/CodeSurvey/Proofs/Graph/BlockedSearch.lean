/-
# The search with blocked nodes

A search leaves out the nodes that are blocked.  It loses nothing by that: a blocked node of the
component that is not on the path waits for all its successors, which are blocked too, so no path
from it leads back past the path (`Disciplined`).  A node on the path is never released before the
search leaves it, because the nodes that wait for what lies below it were blocked before it was
(`Explored`).  So the search finds what a search along all paths in the component finds
(`circuitFrom_spec`).
-/
import CodeSurvey.Proofs.Graph.ReturnPaths

namespace CodeSurvey

namespace Digraph

/-! ## Releasing nodes -/

namespace Search

section Release

variable {s s' s'' : Search} {v u : Nat}

theorem mem_waitersOf : u ∈ s.waitersOf v ↔ (v, u) ∈ s.waiting := by
  unfold waitersOf
  simp

theorem mem_blocked_release : u ∈ (s.release v).blocked ↔ u ∈ s.blocked ∧ u ≠ v := by
  unfold release
  simp

/-- A node that is released has nothing waiting for it. -/
theorem mem_waiting_release {p : Nat × Nat} :
    p ∈ (s.release v).waiting ↔ p ∈ s.waiting ∧ p.1 ≠ v := by
  unfold release
  simp

/-- Some nodes were released, and with them all that waited for them. -/
structure Released (s s' : Search) : Prop where
  blocked : ∀ u ∈ s'.blocked, u ∈ s.blocked
  length_le : s'.blocked.length ≤ s.blocked.length
  waiting : ∀ p ∈ s'.waiting, p ∈ s.waiting
  waiting_blocked : ∀ x u, (x, u) ∈ s'.waiting → x ∈ s.blocked → x ∈ s'.blocked
  waiting_kept : ∀ x u, (x, u) ∈ s.waiting → u ∈ s'.blocked → (x, u) ∈ s'.waiting

theorem Released.refl (s : Search) : Released s s :=
  ⟨fun _ h => h, le_rfl, fun _ h => h, fun _ _ _ h => h, fun _ _ h _ => h⟩

/-- Releasing goes on. -/
theorem Released.trans (h : Released s s') (h' : Released s' s'') : Released s s'' where
  blocked u hu := h.blocked u (h'.blocked u hu)
  length_le := h'.length_le.trans h.length_le
  waiting p hp := h.waiting p (h'.waiting p hp)
  waiting_blocked x u hxu hx :=
    h'.waiting_blocked x u hxu (h.waiting_blocked x u (h'.waiting _ hxu) hx)
  waiting_kept x u hxu hu :=
    h'.waiting_kept x u (h.waiting_kept x u hxu (h'.blocked u hu)) hu

/-- Releasing a node makes the list of blocked nodes shorter. -/
theorem length_release_lt (hv : v ∈ s.blocked) :
    (s.release v).blocked.length < s.blocked.length := by
  unfold release
  exact List.length_filter_lt_length_iff_exists.2 ⟨v, hv, by simp⟩

/-- What releasing a node does to one that waits for it. -/
def releaseWaiter (fuel : Nat) (s : Search) (w : Nat) : Search :=
  if s.blocked.contains w then unblockFrom fuel s w else s

theorem unblockFrom_succ (fuel : Nat) (s : Search) (v : Nat) :
    unblockFrom (fuel + 1) s v = (s.waitersOf v).foldl (releaseWaiter fuel) (s.release v) := rfl

theorem releaseWaiter_of_mem {fuel : Nat} (h : u ∈ s.blocked) :
    releaseWaiter fuel s u = unblockFrom fuel s u :=
  if_pos (List.contains_iff_mem.2 h)

theorem releaseWaiter_of_not_mem {fuel : Nat} (h : u ∉ s.blocked) : releaseWaiter fuel s u = s :=
  if_neg (fun hc => h (List.contains_iff_mem.1 hc))

/-- If each turn of a loop releases its node, the loop releases all of its nodes. -/
theorem foldl_released {step : Search → Nat → Search} {bound : Nat}
    (hstep : ∀ s w, s.blocked.length ≤ bound →
      Released s (step s w) ∧ w ∉ (step s w).blocked)
    (ws : List Nat) (hs : s.blocked.length ≤ bound) :
    Released s (ws.foldl step s) ∧ ∀ w ∈ ws, w ∉ (ws.foldl step s).blocked := by
  induction ws generalizing s with
  | nil => exact ⟨Released.refl s, fun w hw => absurd hw List.not_mem_nil⟩
  | cons w ws ih =>
    rw [List.foldl_cons]
    obtain ⟨hfirst, hw⟩ := hstep s w hs
    obtain ⟨hrest, hws⟩ := ih (hfirst.length_le.trans hs)
    refine ⟨hfirst.trans hrest, fun w' hw' => ?_⟩
    rcases List.mem_cons.1 hw' with rfl | hw'
    · exact fun hmem => hw (hrest.blocked _ hmem)
    · exact hws w' hw'

/-- A node that waits is not blocked afterwards, if it is released with all that wait for it. -/
theorem releaseWaiter_released {fuel : Nat}
    (h : u ∈ s.blocked → Released s (unblockFrom fuel s u) ∧ u ∉ (unblockFrom fuel s u).blocked) :
    Released s (releaseWaiter fuel s u) ∧ u ∉ (releaseWaiter fuel s u).blocked := by
  by_cases hu : u ∈ s.blocked
  · rw [releaseWaiter_of_mem hu]
    exact h hu
  · rw [releaseWaiter_of_not_mem hu]
    exact ⟨Released.refl s, hu⟩

/-- Releasing a node releases all that wait for it, directly or through others. -/
theorem unblockFrom_released {fuel : Nat} (hfuel : s.blocked.length ≤ fuel) (hv : v ∈ s.blocked) :
    Released s (unblockFrom fuel s v) ∧ v ∉ (unblockFrom fuel s v).blocked := by
  induction fuel generalizing s v with
  | zero =>
    have := List.length_pos_of_mem hv
    omega
  | succ fuel ih =>
    -- every release makes the list of blocked nodes shorter, so the bound is never reached
    have hlt := length_release_lt hv
    have hle : (s.release v).blocked.length ≤ fuel := by omega
    obtain ⟨hrest, hnot⟩ :=
      foldl_released (fun s w hs => releaseWaiter_released (ih hs)) (s.waitersOf v) hle
    rw [unblockFrom_succ]
    refine ⟨⟨?_, ?_, ?_, ?_, ?_⟩, ?_⟩
    · exact fun u hu => (mem_blocked_release.1 (hrest.blocked u hu)).1
    · exact hrest.length_le.trans hlt.le
    · exact fun p hp => (mem_waiting_release.1 (hrest.waiting p hp)).1
    · intro x u hxu hx
      have hne := (mem_waiting_release.1 (hrest.waiting _ hxu)).2
      exact hrest.waiting_blocked x u hxu (mem_blocked_release.2 ⟨hx, hne⟩)
    · intro x u hxu hu
      refine hrest.waiting_kept x u (mem_waiting_release.2 ⟨hxu, ?_⟩) hu
      -- a node that waited for `v` itself was released by the loop
      rintro rfl
      exact hnot u (mem_waitersOf.2 hxu) hu
    · exact fun hmem => (mem_blocked_release.1 (hrest.blocked v hmem)).2 rfl

/-- Some of the nodes that wait for a released node are released as well. -/
theorem foldl_releaseWaiter_released {fuel : Nat} (hfuel : s.blocked.length ≤ fuel)
    (ws : List Nat) : Released s (ws.foldl (releaseWaiter fuel) s) :=
  (foldl_released (fun _ _ hs => releaseWaiter_released (unblockFrom_released hs)) ws hfuel).1

/-- A set of nodes that was blocked stays blocked, no node begins to wait, and nothing is found. -/
structure Keeps (kept : Nat → Prop) (s s' : Search) : Prop where
  found : s'.found = s.found
  waiting : ∀ p ∈ s'.waiting, p ∈ s.waiting
  blocked : ∀ u ∈ s.blocked, kept u → u ∈ s'.blocked

theorem Keeps.refl (kept : Nat → Prop) (s : Search) : Keeps kept s s :=
  ⟨rfl, fun _ h => h, fun _ h _ => h⟩

theorem Keeps.trans {kept : Nat → Prop} (h : Keeps kept s s') (h' : Keeps kept s' s'') :
    Keeps kept s s'' :=
  ⟨h'.found.trans h.found, fun p hp => h.waiting p (h'.waiting p hp),
    fun u hu hk => h'.blocked u (h.blocked u hu hk) hk⟩

/-- The nodes of a set wait only for nodes of the set. -/
def WaitsWithin (s : Search) (kept : Nat → Prop) : Prop :=
  ∀ x u, (x, u) ∈ s.waiting → kept u → kept x

theorem Keeps.waitsWithin {kept : Nat → Prop} (h : Keeps kept s s') (hs : s.WaitsWithin kept) :
    s'.WaitsWithin kept :=
  fun x u hxu => hs x u (h.waiting _ hxu)

/-- If each turn of a loop keeps a set blocked, the loop does. -/
theorem foldl_keeps {kept : Nat → Prop} {step : Search → Nat → Search}
    (hstep : ∀ s w, s.WaitsWithin kept → ¬ kept w → Keeps kept s (step s w))
    {ws : List Nat} (hs : s.WaitsWithin kept) (hws : ∀ w ∈ ws, ¬ kept w) :
    Keeps kept s (ws.foldl step s) := by
  induction ws generalizing s with
  | nil => exact Keeps.refl kept s
  | cons w ws ih =>
    rw [List.foldl_cons]
    have hfirst := hstep s w hs (hws w List.mem_cons_self)
    exact hfirst.trans (ih (hfirst.waitsWithin hs)
      (fun w' hw' => hws w' (List.mem_cons_of_mem w hw')))

/-- A node outside of a set keeps the set when it is released. -/
theorem release_keeps {kept : Nat → Prop} (hv : ¬ kept v) : Keeps kept s (s.release v) := by
  refine ⟨rfl, fun p hp => (mem_waiting_release.1 hp).1, fun u hu hk => ?_⟩
  refine mem_blocked_release.2 ⟨hu, ?_⟩
  rintro rfl
  exact hv hk

/-- What waits for a node outside of a set that waits only for each other is outside of it too. -/
theorem WaitsWithin.not_of_mem_waitersOf {kept : Nat → Prop} (hs : s.WaitsWithin kept)
    (hv : ¬ kept v) (hu : u ∈ s.waitersOf v) : ¬ kept u :=
  fun hk => hv (hs v u (mem_waitersOf.1 hu) hk)

/-- A node that waits is released like any other, or stays as it is. -/
theorem releaseWaiter_keeps {fuel : Nat} {kept : Nat → Prop}
    (h : Keeps kept s (unblockFrom fuel s u)) : Keeps kept s (releaseWaiter fuel s u) := by
  unfold releaseWaiter
  split
  · exact h
  · exact Keeps.refl kept s

/-- A set of nodes that wait only for each other stays blocked when a node outside it is
released. -/
theorem unblockFrom_keeps {fuel : Nat} {kept : Nat → Prop} (hs : s.WaitsWithin kept)
    (hv : ¬ kept v) : Keeps kept s (unblockFrom fuel s v) := by
  induction fuel generalizing s v with
  | zero => exact Keeps.refl kept s
  | succ fuel ih =>
    have hrelease : Keeps kept s (s.release v) := release_keeps hv
    rw [unblockFrom_succ]
    exact hrelease.trans (foldl_keeps (fun s w hs hw => releaseWaiter_keeps (ih hs hw))
      (hrelease.waitsWithin hs) (fun w hw => hs.not_of_mem_waitersOf hv hw))

/-- It stays blocked when some of the nodes that wait are released. -/
theorem foldl_releaseWaiter_keeps {fuel : Nat} {kept : Nat → Prop} {ws : List Nat}
    (hs : s.WaitsWithin kept) (hws : ∀ w ∈ ws, ¬ kept w) :
    Keeps kept s (ws.foldl (releaseWaiter fuel) s) :=
  foldl_keeps (fun _ _ hs hw => releaseWaiter_keeps (unblockFrom_keeps hs hw)) hs hws

/-- Releasing a node finds nothing. -/
theorem found_unblock (s : Search) (v : Nat) : (s.unblock v).found = s.found := by
  have hkeeps : Keeps (fun _ => False) s (s.unblock v) :=
    unblockFrom_keeps (fun _ _ _ hk => hk) (fun hk => hk)
  exact hkeeps.found

end Release

/-! ## Waiting -/

section Await

variable {s : Search} {v : Nat}

/-- A node that waits is added to those that wait for each of the others. -/
theorem await_spec (s : Search) (v : Nat) (others : List Nat) :
    (s.await v others).found = s.found ∧ (s.await v others).blocked = s.blocked ∧
      ∀ x u, (x, u) ∈ (s.await v others).waiting ↔
        (x, u) ∈ s.waiting ∨ (u = v ∧ x ∈ others) := by
  induction others generalizing s with
  | nil => exact ⟨rfl, rfl, fun x u => by simp [await]⟩
  | cons w others ih =>
    unfold await at ih ⊢
    rw [List.foldl_cons]
    by_cases hw : (w, v) ∈ s.waiting
    · rw [if_pos (List.contains_iff_mem.2 hw)]
      obtain ⟨hfound, hblocked, hwaiting⟩ := ih s
      refine ⟨hfound, hblocked, fun x u => ?_⟩
      rw [hwaiting, List.mem_cons]
      constructor
      · rintro (hxu | ⟨hu, hx⟩)
        · exact Or.inl hxu
        · exact Or.inr ⟨hu, Or.inr hx⟩
      · rintro (hxu | ⟨rfl, rfl | hx⟩)
        · exact Or.inl hxu
        · exact Or.inl hw
        · exact Or.inr ⟨rfl, hx⟩
    · rw [if_neg (fun h => hw (List.contains_iff_mem.1 h))]
      obtain ⟨hfound, hblocked, hwaiting⟩ := ih { s with waiting := s.waiting ++ [(w, v)] }
      refine ⟨hfound, hblocked, fun x u => ?_⟩
      rw [hwaiting, List.mem_append, List.mem_singleton, Prod.mk.injEq, List.mem_cons]
      tauto

end Await

end Search

/-! ## The discipline of blocks -/

/-- The successors of a node in a component. -/
def successorsIn (g : Digraph) (component : List Nat) (v : Nat) : List Nat :=
  (g.successors v).filter component.contains

/-- What is true of blocks and waits while the nodes of `path` are on the path. -/
structure Disciplined (g : Digraph) (component : List Nat) (start : Nat) (path : List Nat)
    (s : Search) : Prop where
  path_blocked : ∀ u ∈ path, u ∈ s.blocked
  waits : ∀ u ∈ component, u ∈ s.blocked → u ∉ path → ∀ x ∈ g.successorsIn component u,
    x ≠ start ∧ x ∈ s.blocked ∧ (x, u) ∈ s.waiting
  waiting_sound : ∀ x u, (x, u) ∈ s.waiting → x ∈ component →
    u ∈ component ∧ x ∈ g.successorsIn component u ∧ x ∈ s.blocked

/-- What a search below `path` may change: it releases no node that was blocked, and no node of the
path begins to wait. -/
structure Explored (g : Digraph) (component : List Nat) (start : Nat) (path : List Nat)
    (s s' : Search) : Prop where
  disciplined : g.Disciplined component start path s'
  blocked : ∀ u ∈ s.blocked, u ∈ s'.blocked
  waiting : ∀ x u, (x, u) ∈ s'.waiting → u ∈ path → (x, u) ∈ s.waiting

section Discipline

variable {g : Digraph} {component : List Nat} {start : Nat} {path above : List Nat}
  {s s' s'' t : Search} {v : Nat}

/-- Successors are looked at in the component only. -/
theorem mem_successorsIn {u x : Nat} :
    x ∈ g.successorsIn component u ↔ x ∈ g.successors u ∧ x ∈ component := by
  unfold successorsIn
  simp

theorem Explored.refl (h : g.Disciplined component start path s) :
    g.Explored component start path s s :=
  ⟨h, fun _ hu => hu, fun _ _ hxu _ => hxu⟩

/-- A search goes on from what it has left. -/
theorem Explored.trans (h : g.Explored component start path s s')
    (h' : g.Explored component start path s' s'') : g.Explored component start path s s'' :=
  ⟨h'.disciplined, fun u hu => h'.blocked u (h.blocked u hu),
    fun x u hxu hu => h.waiting x u (h'.waiting x u hxu hu) hu⟩

/-- No path leads back from a blocked node that is not on the path. -/
theorem Disciplined.returnsFrom_eq_nil (h : g.Disciplined component start path s) {u : Nat}
    (hu : u ∈ component) (hblocked : u ∈ s.blocked) (hpath : u ∉ path) (fuel : Nat)
    (more : List Nat) :
    returnsFrom (g.successorsIn component) start fuel (path ++ more) u = [] := by
  induction fuel generalizing u more with
  | zero => rfl
  | succ fuel ih =>
    rw [returnsFrom, List.flatMap_eq_nil_iff]
    intro x hx
    obtain ⟨hstart, hxblocked, -⟩ := h.waits u hu hblocked hpath x hx
    rw [if_neg hstart]
    by_cases hmem : x ∈ path ++ more
    · rw [if_pos hmem]
    · rw [if_neg hmem, List.append_assoc]
      exact ih (mem_successorsIn.1 hx).2 hxblocked
        (fun hx => hmem (List.mem_append_left _ hx)) _

/-- Blocking a node puts it at the end of the path. -/
theorem Disciplined.block (h : g.Disciplined component start above s) (v : Nat) :
    g.Disciplined component start (above ++ [v]) (s.block v) where
  path_blocked := by
    intro u hu
    rcases List.mem_append.1 hu with hu | hu
    · exact List.mem_cons_of_mem v (h.path_blocked u hu)
    · rw [List.mem_singleton.1 hu]
      exact List.mem_cons_self
  waits := by
    intro u hu hblocked hpath x hx
    rw [List.mem_append, not_or, List.mem_singleton] at hpath
    have hu' : u ∈ s.blocked := (List.mem_cons.1 hblocked).resolve_left hpath.2
    obtain ⟨hstart, hxblocked, hwaiting⟩ := h.waits u hu hu' hpath.1 x hx
    exact ⟨hstart, List.mem_cons_of_mem v hxblocked, hwaiting⟩
  waiting_sound := by
    intro x u hxu hx
    obtain ⟨hu, hnext, hblocked⟩ := h.waiting_sound x u hxu hx
    exact ⟨hu, hnext, List.mem_cons_of_mem v hblocked⟩

/-- What was blocked before the search came to a node does not wait for anything that was blocked
since. -/
theorem Explored.waitsWithin (hs : g.Disciplined component start above s)
    (h : g.Explored component start (above ++ [v]) (s.block v) t) :
    t.WaitsWithin (fun u => u ∈ s.blocked ∨ u ∉ component) := by
  intro x u hxu hu
  by_cases hx : x ∈ component
  · obtain ⟨huc, hnext, -⟩ := h.disciplined.waiting_sound x u hxu hx
    have hublocked : u ∈ s.blocked := hu.resolve_right (fun hnot => hnot huc)
    left
    -- a node of the path waits for what it waited for before, any other for its successors
    by_cases hua : u ∈ above
    · have hxu' : (x, u) ∈ s.waiting := h.waiting x u hxu (List.mem_append_left _ hua)
      exact (hs.waiting_sound x u hxu' hx).2.2
    · exact (hs.waits u huc hublocked hua x hnext).2.1
  · exact Or.inr hx

/-- A node that led back is released when the search leaves it.  What was blocked before the search
came to it stays blocked. -/
theorem Explored.unblock (hs : g.Disciplined component start above s) (hv : v ∈ component)
    (hnew : v ∉ s.blocked) (h : g.Explored component start (above ++ [v]) (s.block v) t) :
    g.Explored component start above s (t.unblock v) := by
  have hvt : v ∈ t.blocked := h.disciplined.path_blocked v (by simp)
  obtain ⟨hreleased, hvnot⟩ := Search.unblockFrom_released le_rfl hvt
  have hkeeps : Search.Keeps _ t (t.unblock v) :=
    Search.unblockFrom_keeps (Explored.waitsWithin hs h)
      (fun hk => hk.elim hnew (fun hnot => hnot hv))
  have hblocked : ∀ u ∈ s.blocked, u ∈ (t.unblock v).blocked :=
    fun u hu => hkeeps.blocked u (h.blocked u (List.mem_cons_of_mem v hu)) (Or.inl hu)
  refine ⟨⟨?_, ?_, ?_⟩, hblocked, ?_⟩
  · exact fun u hu => hblocked u (hs.path_blocked u hu)
  -- a node that is still blocked is not `v`, and nothing that it waits for was released
  · intro u hu hublocked hua x hx
    have hupath : u ∉ above ++ [v] := by
      rw [List.mem_append, not_or, List.mem_singleton]
      refine ⟨hua, ?_⟩
      rintro rfl
      exact hvnot hublocked
    obtain ⟨hstart, hxblocked, hwaiting⟩ :=
      h.disciplined.waits u hu (hreleased.blocked u hublocked) hupath x hx
    have hwaiting' := hreleased.waiting_kept x u hwaiting hublocked
    exact ⟨hstart, hreleased.waiting_blocked x u hwaiting' hxblocked, hwaiting'⟩
  · intro x u hxu hx
    obtain ⟨hu, hnext, hxblocked⟩ :=
      h.disciplined.waiting_sound x u (hreleased.waiting _ hxu) hx
    exact ⟨hu, hnext, hreleased.waiting_blocked x u hxu hxblocked⟩
  · exact fun x u hxu hu =>
      h.waiting x u (hreleased.waiting _ hxu) (List.mem_append_left _ hu)

/-- A node that did not lead back stays blocked and waits for all its successors. -/
theorem Explored.await (hs : g.Disciplined component start above s) (hv : v ∈ component)
    (hnew : v ∉ s.blocked) (h : g.Explored component start (above ++ [v]) (s.block v) t)
    (hnext : ∀ w ∈ g.successorsIn component v, w ≠ start ∧ w ∈ t.blocked) :
    g.Explored component start above s (t.await v (g.successorsIn component v)) := by
  obtain ⟨-, hblocked, hwaiting⟩ := Search.await_spec t v (g.successorsIn component v)
  have hgrow : ∀ u ∈ s.blocked, u ∈ (t.await v (g.successorsIn component v)).blocked := by
    intro u hu
    rw [hblocked]
    exact h.blocked u (List.mem_cons_of_mem v hu)
  refine ⟨⟨fun u hu => hgrow u (hs.path_blocked u hu), ?_, ?_⟩, hgrow, ?_⟩
  · intro u hu hublocked hua x hx
    rw [hblocked] at hublocked ⊢
    rw [hwaiting]
    -- of the blocked nodes that left the path only `v` is new
    by_cases huv : u = v
    · subst huv
      exact ⟨(hnext x hx).1, (hnext x hx).2, Or.inr ⟨rfl, hx⟩⟩
    · have hupath : u ∉ above ++ [v] := by
        rw [List.mem_append, not_or, List.mem_singleton]
        exact ⟨hua, huv⟩
      obtain ⟨hstart, hxblocked, hxu⟩ := h.disciplined.waits u hu hublocked hupath x hx
      exact ⟨hstart, hxblocked, Or.inl hxu⟩
  · intro x u hxu hx
    rw [hblocked]
    rcases (hwaiting x u).1 hxu with hxu | ⟨rfl, hxnext⟩
    · exact h.disciplined.waiting_sound x u hxu hx
    · exact ⟨hv, hxnext, (hnext x hxnext).2⟩
  · intro x u hxu hu
    rcases (hwaiting x u).1 hxu with hxu | ⟨rfl, -⟩
    · exact h.waiting x u hxu (List.mem_append_left _ hu)
    · exact absurd (hs.path_blocked u hu) hnew

end Discipline

/-! ## The search -/

/-- What a search from `w` below `path` does: it adds some paths up to the limit and keeps the
discipline.  If it led nowhere, the limit is not reached and `w` is left blocked. -/
structure Visits (g : Digraph) (component : List Nat) (start limit : Nat) (path : List Nat)
    (w : Nat) (paths : List (List Nat)) (s : Search) (r : Bool × Search) : Prop where
  found : r.2.found = appendUpTo limit s.found paths
  explored : g.Explored component start path s r.2
  unfound : r.1 = false → r.2.found.length < limit ∧ w ∈ r.2.blocked

section FollowEdge

variable {g : Digraph} {component : List Nat} {start limit fuel : Nat} {path : List Nat}
  {visit : Nat → Search → Bool × Search} {t : Search} {w : Nat} {found : Bool}

/-- Going on along an edge adds the paths back along it, whether the search visits the next node or
leaves it out. -/
theorem visits_followEdge (h : g.Disciplined component start path t) (hw : w ∈ component)
    (hroom : found = false → t.found.length < limit)
    (hvisit : t.found.length < limit → w ∉ t.blocked → g.Visits component start limit path w
      (returnsFrom (g.successorsIn component) start fuel (path ++ [w]) w) t (visit w t)) :
    g.Visits component start limit path w
      (returnsAlong (g.successorsIn component) start fuel path w) t
      (followEdge start limit path visit (found, t) w) ∧
    ((followEdge start limit path visit (found, t) w).1 = false → found = false ∧ w ≠ start) := by
  unfold followEdge returnsAlong
  simp only
  by_cases hlimit : limit ≤ t.found.length
  · -- the limit is reached only by finding something
    have hfound : found ≠ false := fun hfalse => absurd (hroom hfalse) (Nat.not_lt.2 hlimit)
    rw [if_pos hlimit]
    exact ⟨⟨(appendUpTo_of_le hlimit _).symm, Explored.refl h, fun hfalse => absurd hfalse hfound⟩,
      fun hfalse => absurd hfalse hfound⟩
  rw [if_neg hlimit]
  by_cases hstart : w = start
  · rw [if_pos hstart, if_pos hstart]
    refine ⟨⟨(appendUpTo_singleton hlimit path).symm, ?_, ?_⟩, ?_⟩
    · exact ⟨⟨h.path_blocked, h.waits, h.waiting_sound⟩, fun _ hu => hu, fun _ _ hxu _ => hxu⟩
    · exact fun hfalse => absurd hfalse.symm Bool.false_ne_true
    · exact fun hfalse => absurd hfalse.symm Bool.false_ne_true
  rw [if_neg hstart, if_neg hstart]
  by_cases hblocked : w ∈ t.blocked
  · -- no path back leads through a blocked node, so nothing is lost by leaving it out
    rw [if_pos (List.contains_iff_mem.2 hblocked)]
    have hnil : (if w ∈ path then [] else
        returnsFrom (g.successorsIn component) start fuel (path ++ [w]) w) = [] := by
      split
      · rfl
      · rename_i hpath
        exact h.returnsFrom_eq_nil hw hblocked hpath fuel [w]
    rw [hnil]
    exact ⟨⟨(appendUpTo_nil t.found).symm, Explored.refl h,
      fun hfalse => ⟨hroom hfalse, hblocked⟩⟩, fun hfalse => ⟨hfalse, hstart⟩⟩
  · -- the nodes of the path are blocked, so the next node is not among them
    rw [if_neg (fun hc => hblocked (List.contains_iff_mem.1 hc)),
      if_neg (fun hpath => hblocked (h.path_blocked w hpath))]
    obtain ⟨hfound, hexplored, hunfound⟩ := hvisit (Nat.not_le.1 hlimit) hblocked
    refine ⟨⟨hfound, hexplored, fun hfalse => ?_⟩, fun hfalse => ?_⟩
    · exact hunfound (Bool.or_eq_false_iff.1 hfalse).2
    · exact ⟨(Bool.or_eq_false_iff.1 hfalse).1, hstart⟩

/-- Going on along several edges adds the paths back along all of them. -/
theorem foldl_followEdge (h : g.Disciplined component start path t) {ws : List Nat}
    (hws : ∀ w ∈ ws, w ∈ component) (hroom : found = false → t.found.length < limit)
    (hvisit : ∀ w ∈ component, ∀ t, g.Disciplined component start path t →
      t.found.length < limit → w ∉ t.blocked → g.Visits component start limit path w
        (returnsFrom (g.successorsIn component) start fuel (path ++ [w]) w) t (visit w t)) :
    (ws.foldl (followEdge start limit path visit) (found, t)).2.found = appendUpTo limit t.found
      (ws.flatMap (returnsAlong (g.successorsIn component) start fuel path)) ∧
    g.Explored component start path t
      (ws.foldl (followEdge start limit path visit) (found, t)).2 ∧
    ((ws.foldl (followEdge start limit path visit) (found, t)).1 = false → found = false ∧
      (ws.foldl (followEdge start limit path visit) (found, t)).2.found.length < limit ∧
      ∀ w ∈ ws, w ≠ start ∧
        w ∈ (ws.foldl (followEdge start limit path visit) (found, t)).2.blocked) := by
  induction ws generalizing t found with
  | nil =>
    rw [List.foldl_nil, List.flatMap_nil, appendUpTo_nil]
    exact ⟨rfl, Explored.refl h,
      fun hfalse => ⟨hfalse, hroom hfalse, fun w hw => absurd hw List.not_mem_nil⟩⟩
  | cons w ws ih =>
    rw [List.foldl_cons, List.flatMap_cons, appendUpTo_append]
    have hw := hws w List.mem_cons_self
    obtain ⟨hfirst, hunfound⟩ := visits_followEdge h hw hroom (hvisit w hw t h)
    rw [← hfirst.found]
    generalize followEdge start limit path visit (found, t) w = r at hfirst hunfound ⊢
    obtain ⟨found', t'⟩ := r
    have hexplored := hfirst.explored
    -- the search is still disciplined after the first edge, so the others are as before
    obtain ⟨hrest, hexplored', hunfound'⟩ :=
      ih hexplored.disciplined (fun w' hw' => hws w' (List.mem_cons_of_mem w hw'))
        (fun hfalse => (hfirst.unfound hfalse).1)
    refine ⟨hrest, hexplored.trans hexplored', fun hfalse => ?_⟩
    obtain ⟨hfound', hroom', hws'⟩ := hunfound' hfalse
    refine ⟨(hunfound hfound').1, hroom', fun w' hw' => ?_⟩
    rcases List.mem_cons.1 hw' with rfl | hw'
    · exact ⟨(hunfound hfound').2, hexplored'.blocked _ (hfirst.unfound hfound').2⟩
    · exact hws' w' hw'

end FollowEdge

/-! ## Whole searches -/

/-- Leaves a node after its edges were followed: it is released if one of them led back, and waits for
its successors otherwise. -/
def settle (g : Digraph) (component : List Nat) (v : Nat) (r : Bool × Search) : Bool × Search :=
  (r.1, if r.1 then r.2.unblock v else r.2.await v (g.successorsIn component v))

section Circuits

variable {g : Digraph} {component : List Nat} {start limit fuel : Nat} {above : List Nat} {v : Nat}
  {s : Search}

/-- A call follows the edges of its node and then settles whether it stays blocked. -/
theorem circuitFrom_succ :
    circuitFrom g component start limit (fuel + 1) above v s =
      g.settle component v ((g.successorsIn component v).foldl
        (followEdge start limit (above ++ [v])
          (circuitFrom g component start limit fuel (above ++ [v])))
        (false, s.block v)) := rfl

/-- Leaving a node keeps what was found and restores the discipline for the path above it. -/
theorem visits_settle {paths : List (List Nat)} {r : Bool × Search}
    (hs : g.Disciplined component start above s) (hv : v ∈ component) (hnew : v ∉ s.blocked)
    (hfound : r.2.found = appendUpTo limit s.found paths)
    (hexplored : g.Explored component start (above ++ [v]) (s.block v) r.2)
    (hunfound : r.1 = false → r.2.found.length < limit ∧
      ∀ w ∈ g.successorsIn component v, w ≠ start ∧ w ∈ r.2.blocked) :
    g.Visits component start limit above v paths s (g.settle component v r) := by
  obtain ⟨found, t⟩ := r
  cases found with
  | true =>
    have hsame : (g.settle component v (true, t)).2.found = t.found := t.found_unblock v
    refine ⟨hsame.trans hfound, Explored.unblock hs hv hnew hexplored, ?_⟩
    exact fun hfalse => absurd hfalse.symm Bool.false_ne_true
  | false =>
    obtain ⟨hroom, hnext⟩ := hunfound rfl
    obtain ⟨hsame, hblocked, -⟩ := Search.await_spec t v (g.successorsIn component v)
    have hsame' : (g.settle component v (false, t)).2.found = t.found := hsame
    refine ⟨hsame'.trans hfound, Explored.await hs hv hnew hexplored hnext, fun _ => ⟨?_, ?_⟩⟩
    · rw [hsame']
      exact hroom
    · show v ∈ (t.await v (g.successorsIn component v)).blocked
      rw [hblocked]
      exact hexplored.blocked v List.mem_cons_self

/-- A node that is not blocked makes a path longer. -/
theorem Disciplined.path_concat (hs : g.Disciplined component start above s) (hv : v ∈ component)
    (hnew : v ∉ s.blocked) (hnodup : above.Nodup) (habove : above ⊆ component) :
    (above ++ [v]).Nodup ∧ above ++ [v] ⊆ component := by
  have hva : v ∉ above := fun hmem => hnew (hs.path_blocked v hmem)
  exact ⟨List.concat_eq_append ▸ hnodup.concat hva,
    List.append_subset.2 ⟨habove, List.forall_mem_singleton.2 hv⟩⟩

/-- **The search with blocked nodes finds all paths back in a component.** -/
theorem circuitFrom_spec (hs : g.Disciplined component start above s)
    (hroom : s.found.length < limit) (hv : v ∈ component) (hnew : v ∉ s.blocked)
    (hnodup : above.Nodup) (habove : above ⊆ component)
    (hfuel : component.length ≤ fuel + above.length) :
    g.Visits component start limit above v
      (returnsFrom (g.successorsIn component) start fuel (above ++ [v]) v) s
      (circuitFrom g component start limit fuel above v s) := by
  obtain ⟨hpath_nodup, hpath⟩ := hs.path_concat hv hnew hnodup habove
  induction fuel generalizing above v s with
  | zero =>
    -- a path in the component is no longer than the component
    have hle := (hpath_nodup.subperm hpath).length_le
    rw [List.length_append, List.length_singleton] at hle
    omega
  | succ fuel ih =>
    have hvisit : ∀ w ∈ component, ∀ t, g.Disciplined component start (above ++ [v]) t →
        t.found.length < limit → w ∉ t.blocked →
        g.Visits component start limit (above ++ [v]) w
          (returnsFrom (g.successorsIn component) start fuel ((above ++ [v]) ++ [w]) w) t
          (circuitFrom g component start limit fuel (above ++ [v]) w t) := by
      intro w hw t ht htroom hwt
      obtain ⟨hpath_nodup', hpath'⟩ := ht.path_concat hw hwt hpath_nodup hpath
      refine ih ht htroom hw hwt hpath_nodup hpath ?_ hpath_nodup' hpath'
      rw [List.length_append, List.length_singleton]
      omega
    obtain ⟨hfound, hexplored, hunfound⟩ := foldl_followEdge (hs.block v)
      (fun w (hw : w ∈ g.successorsIn component v) => (mem_successorsIn.1 hw).2)
      (fun _ => hroom) hvisit
    rw [circuitFrom_succ, returnsFrom_succ]
    exact visits_settle hs hv hnew hfound hexplored (fun hfalse => (hunfound hfalse).2)

end Circuits

end Digraph

end CodeSurvey
