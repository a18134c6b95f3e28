/-
# What a depth-first walk keeps true

At every moment of a walk the stack falls into segments, one for each node on the way.  The nodes of
a segment and its node on the way reach each other, all edges of the nodes that were left have been
followed, and the low mark of the node on the way is at most the number of every node on the stack
that an edge of the segment leads to.  A segment that is left is either closed as a component or
joined to the segment before it.  `Sound` says all this, `Sound.step` that one step keeps it, and
`walkFrom_sound` that a walk ends with an empty way.
-/
import CodeSurvey.Graph.Components
import CodeSurvey.Proofs.Graph.Construction
import Mathlib.Data.List.Forall2
import Mathlib.Logic.Relation

namespace CodeSurvey

namespace Digraph

open Relation

/-! ## Reachability -/

/-- An edge leads to a node that is kept. -/
def KeptEdge (g : Digraph) (keep : Nat → Bool) (u w : Nat) : Prop :=
  w ∈ g.successors u ∧ keep w = true

/-- One node can be reached from another through nodes that are kept. -/
def ReachesWithin (g : Digraph) (keep : Nat → Bool) (u w : Nat) : Prop :=
  ReflTransGen (g.KeptEdge keep) u w

/-! ## The operations on a walk's state -/

/-- The entry of a table after one entry was replaced. -/
theorem getD_set {α : Type} (table : List α) {i : Nat} (j : Nat) (a d : α)
    (hi : i < table.length) : (table.set i a).getD j d = if j = i then a else table.getD j d := by
  rw [List.getD_eq_getElem?_getD, List.getD_eq_getElem?_getD, List.getElem?_set]
  by_cases hij : i = j
  · rw [if_pos hij, if_pos hi, if_pos hij.symm, Option.getD_some]
  · rw [if_neg hij, if_neg (fun h => hij h.symm)]

namespace Traversal

/-- A node was entered. -/
def Entered (t : Traversal) (v : Nat) : Prop := (t.index? v).isSome = true

/-- The number of a node that was entered. -/
def number (t : Traversal) (v : Nat) : Nat := (t.index? v).getD 0

/-- The tables of a walk have an entry for every node. -/
structure Sized (t : Traversal) (n : Nat) : Prop where
  index : t.index.length = n
  low : t.low.length = n
  stacked : t.stacked.length = n

theorem sized_start (n : Nat) : (start n).Sized n := by
  constructor <;> exact List.length_replicate

section Operations

variable {t : Traversal} {n v : Nat}

/-- The tables do not depend on the way. -/
theorem Sized.withFrames (h : t.Sized n) (frames : List Frame) :
    ({ t with frames := frames } : Traversal).Sized n :=
  ⟨h.index, h.low, h.stacked⟩

theorem Sized.enter (h : t.Sized n) (v : Nat) : (t.enter v).Sized n := by
  constructor
  · exact (List.length_set ..).trans h.index
  · exact (List.length_set ..).trans h.low
  · exact (List.length_set ..).trans h.stacked

theorem Sized.lower (h : t.Sized n) (v mark : Nat) : (t.lower v mark).Sized n :=
  ⟨h.index, (List.length_set ..).trans h.low, h.stacked⟩

theorem Sized.index?_enter (h : t.Sized n) (hv : v < n) (u : Nat) :
    (t.enter v).index? u = if u = v then some t.next else t.index? u :=
  getD_set t.index u _ none (by rw [h.index]; exact hv)

theorem Sized.entered_enter (h : t.Sized n) (hv : v < n) (u : Nat) :
    (t.enter v).Entered u ↔ u = v ∨ t.Entered u := by
  unfold Entered
  rw [h.index?_enter hv]
  by_cases hu : u = v <;> simp [hu]

theorem Sized.number_enter (h : t.Sized n) (hv : v < n) (u : Nat) :
    (t.enter v).number u = if u = v then t.next else t.number u := by
  unfold number
  rw [h.index?_enter hv]
  split <;> rfl

theorem Sized.lowOf_enter (h : t.Sized n) (hv : v < n) (u : Nat) :
    (t.enter v).lowOf u = if u = v then t.next else t.lowOf u :=
  getD_set t.low u _ 0 (by rw [h.low]; exact hv)

theorem Sized.isStacked_enter (h : t.Sized n) (hv : v < n) (u : Nat) :
    (t.enter v).isStacked u = if u = v then true else t.isStacked u :=
  getD_set t.stacked u _ false (by rw [h.stacked]; exact hv)

theorem Sized.lowOf_lower (h : t.Sized n) (hv : v < n) (mark u : Nat) :
    (t.lower v mark).lowOf u = if u = v then min (t.lowOf v) mark else t.lowOf u :=
  getD_set t.low u _ 0 (by rw [h.low]; exact hv)

/-- What is taken from a stack ends with the given node. -/
theorem popThrough_append {above : List Nat} (hv : v ∉ above) (rest : List Nat) :
    popThrough v (above ++ v :: rest) = (above ++ [v], rest) := by
  induction above with
  | nil => simp [popThrough]
  | cons w above ih =>
    rw [List.mem_cons, not_or] at hv
    rw [List.cons_append, popThrough, if_neg (fun h => hv.1 h.symm), ih hv.2]
    rfl

/-- The flags after some were cleared. -/
theorem getD_foldl_set_false (taken : List Nat) (flags : List Bool) (u : Nat)
    (htaken : ∀ w ∈ taken, w < flags.length) :
    (taken.foldl (fun flags w => flags.set w false) flags).getD u false =
      if u ∈ taken then false else flags.getD u false := by
  induction taken generalizing flags with
  | nil => rw [List.foldl_nil, if_neg List.not_mem_nil]
  | cons w taken ih =>
    have hw : w < flags.length := htaken w List.mem_cons_self
    rw [List.foldl_cons, ih, getD_set flags u false false hw]
    · by_cases huw : u = w
      · rw [if_pos huw, ite_self, if_pos (huw ▸ List.mem_cons_self)]
      · rw [if_neg huw]
        simp only [List.mem_cons, huw, false_or]
    · intro x hx
      rw [List.length_set]
      exact htaken x (List.mem_cons_of_mem w hx)

theorem length_foldl_set_false (taken : List Nat) (flags : List Bool) :
    (taken.foldl (fun flags w => flags.set w false) flags).length = flags.length := by
  induction taken generalizing flags with
  | nil => rfl
  | cons w taken ih => rw [List.foldl_cons, ih, List.length_set]

/-- Closing a component takes it from the stack. -/
theorem close_eq {above rest : List Nat} (hstack : t.stack = above ++ v :: rest)
    (hv : v ∉ above) :
    t.close v =
      { t with
        stack := rest
        stacked := (above ++ [v]).foldl (fun flags w => flags.set w false) t.stacked
        components := t.components ++ [(above ++ [v]).reverse] } := by
  rw [close, hstack, popThrough_append hv]

end Operations

end Traversal

/-! ## The invariant -/

/-- The edges of a node in the segment of `f` that were followed: those of other nodes than `f.node`
all were. -/
def followedFrom (g : Digraph) (f : Frame) (u : Nat) : List Nat :=
  if u = f.node then (g.successors u).take f.followed else g.successors u

/-- A segment of the stack and its node on the way. -/
structure OpenSegment (g : Digraph) (keep : Nat → Bool) (t : Traversal) (f : Frame)
    (segment : List Nat) : Prop where
  last : ∃ above, segment = above ++ [f.node]
  reaches : ∀ u ∈ segment, g.ReachesWithin keep f.node u ∧ g.ReachesWithin keep u f.node
  followed : ∀ u ∈ segment, ∀ w ∈ g.followedFrom f u, keep w = true →
    t.Entered w ∧ (w ∈ t.stack → t.lowOf f.node ≤ t.number w)
  low_le : t.lowOf f.node ≤ t.number f.node
  low_reached : ∃ x ∈ t.stack, t.number x = t.lowOf f.node ∧ g.ReachesWithin keep f.node x

/-- The members of each component reach each other, and their edges lead to the component itself or
to components before it. -/
def ClosedInOrder (g : Digraph) (keep : Nat → Bool) (components : List (List Nat)) : Prop :=
  ∀ before component after, components = before ++ component :: after →
    component ≠ [] ∧
    (∀ u ∈ component, ∀ w ∈ component, g.ReachesWithin keep u w) ∧
    ∀ u ∈ component, ∀ w, g.KeptEdge keep u w → w ∈ component ∨ w ∈ before.flatten

/-- What is true at every moment of a walk whose stack falls into the given segments. -/
structure Sound (g : Digraph) (keep : Nat → Bool) (t : Traversal) (segments : List (List Nat)) :
    Prop where
  sized : t.Sized g.nodeCount
  entered_iff : ∀ v, t.Entered v ↔ v ∈ t.stack ∨ v ∈ t.components.flatten
  entered_kept : ∀ v, t.Entered v → v < g.nodeCount ∧ keep v = true
  number_lt : ∀ v, t.Entered v → t.number v < t.next
  stack_sorted : t.stack.Pairwise (fun a b => t.number b < t.number a)
  nodup : (t.stack ++ t.components.flatten).Nodup
  stacked_iff : ∀ v, t.isStacked v = true ↔ v ∈ t.stack
  stack_eq : t.stack = segments.flatten
  segments_open : List.Forall₂ (g.OpenSegment keep t) t.frames segments
  way : t.frames.IsChain (fun f parent => g.KeptEdge keep parent.node f.node)
  closed : g.ClosedInOrder keep t.components

/-! ## Segments -/

section Segments

variable {g : Digraph} {keep : Nat → Bool} {t t' : Traversal} {f : Frame} {frames : List Frame}
  {segment : List Nat} {segments : List (List Nat)}

/-- The node on the way is the lowest of its segment. -/
theorem OpenSegment.node_mem (h : g.OpenSegment keep t f segment) : f.node ∈ segment := by
  obtain ⟨above, rfl⟩ := h.last
  exact List.mem_append_right _ (List.mem_singleton_self _)

theorem node_mem_flatten (h : List.Forall₂ (g.OpenSegment keep t) frames segments) :
    ∀ f ∈ frames, f.node ∈ segments.flatten := by
  induction h with
  | nil =>
    intro f hf
    exact absurd hf List.not_mem_nil
  | cons hopen _ ih =>
    intro f hf
    rw [List.flatten_cons, List.mem_append]
    rcases List.mem_cons.1 hf with rfl | hf
    · exact Or.inl hopen.node_mem
    · exact Or.inr (ih f hf)

/-- Every node of the segments reaches the latest node on the way. -/
theorem reaches_latest (h : List.Forall₂ (g.OpenSegment keep t) (f :: frames) segments)
    (hway : (f :: frames).IsChain (fun f parent => g.KeptEdge keep parent.node f.node))
    {x : Nat} (hx : x ∈ segments.flatten) : g.ReachesWithin keep x f.node := by
  -- a node further down reaches the node before the latest, and the way has an edge from there
  induction frames generalizing f segments with
  | nil =>
    obtain ⟨segment, rest, hopen, hrest, rfl⟩ := List.forall₂_cons_left_iff.1 h
    rw [List.forall₂_nil_left_iff.1 hrest, List.flatten_cons, List.flatten_nil,
      List.append_nil] at hx
    exact (hopen.reaches x hx).2
  | cons parent frames ih =>
    obtain ⟨segment, rest, hopen, hrest, rfl⟩ := List.forall₂_cons_left_iff.1 h
    obtain ⟨hedge, hway⟩ := List.isChain_cons_cons.1 hway
    rw [List.flatten_cons, List.mem_append] at hx
    rcases hx with hx | hx
    · exact (hopen.reaches x hx).2
    · exact (ih hrest hway hx).tail hedge

/-- A segment stays open under a change that keeps the numbers, its low mark, and the nodes on the
stack that it may reach. -/
theorem OpenSegment.transfer (h : g.OpenSegment keep t f segment)
    (hentered : ∀ v, t.Entered v → t'.Entered v ∧ t'.number v = t.number v)
    (hstack : ∀ w ∈ t'.stack, t.Entered w → w ∈ t.stack)
    (hstacked : ∀ x ∈ t.stack, t.Entered x)
    (hlow : t'.lowOf f.node = t.lowOf f.node) (hnode : t.Entered f.node)
    (hkeep : ∀ x ∈ t.stack, t.number x ≤ t.number f.node → x ∈ t'.stack) :
    g.OpenSegment keep t' f segment where
  last := h.last
  reaches := h.reaches
  followed := by
    intro u hu w hw hkept
    obtain ⟨hw', hle⟩ := h.followed u hu w hw hkept
    refine ⟨(hentered w hw').1, fun hmem => ?_⟩
    rw [hlow, (hentered w hw').2]
    exact hle (hstack w hmem hw')
  low_le := by
    rw [hlow, (hentered f.node hnode).2]
    exact h.low_le
  low_reached := by
    obtain ⟨x, hx, hnumber, hreach⟩ := h.low_reached
    refine ⟨x, hkeep x hx (hnumber ▸ h.low_le), ?_, hreach⟩
    rw [hlow, (hentered x (hstacked x hx)).2]
    exact hnumber

/-- Segments stay open under a change that keeps the numbers, their low marks, and the nodes on the
stack that they may reach. -/
theorem forall₂_transfer (h : List.Forall₂ (g.OpenSegment keep t) frames segments)
    (hentered : ∀ v, t.Entered v → t'.Entered v ∧ t'.number v = t.number v)
    (hstack : ∀ w ∈ t'.stack, t.Entered w → w ∈ t.stack)
    (hstacked : ∀ x ∈ t.stack, t.Entered x)
    (hsegments : ∀ u ∈ segments.flatten, t'.lowOf u = t.lowOf u ∧ t.Entered u ∧
      ∀ x ∈ t.stack, t.number x ≤ t.number u → x ∈ t'.stack) :
    List.Forall₂ (g.OpenSegment keep t') frames segments := by
  have hboth := (List.forall₂_and_left frames segments).2
    ⟨fun f hf => hsegments f.node (node_mem_flatten h f hf), h⟩
  refine hboth.imp ?_
  rintro f segment ⟨⟨hlow, hnode, hkeep⟩, hopen⟩
  exact hopen.transfer hentered hstack hstacked hlow hnode hkeep

/-- Whether segments are open does not depend on the way. -/
theorem forall₂_withFrames (h : List.Forall₂ (g.OpenSegment keep t) frames segments)
    (way : List Frame) :
    List.Forall₂ (g.OpenSegment keep { t with frames := way }) frames segments :=
  h.imp (fun _ _ hopen =>
    ⟨hopen.last, hopen.reaches, hopen.followed, hopen.low_le, hopen.low_reached⟩)

theorem Sound.entered_of_mem_stack (h : g.Sound keep t segments) {v : Nat} (hv : v ∈ t.stack) :
    t.Entered v :=
  (h.entered_iff v).2 (Or.inl hv)

/-- The nodes on the way are on the stack. -/
theorem Sound.node_mem_stack (h : g.Sound keep t segments) (hf : f ∈ t.frames) :
    f.node ∈ t.stack := by
  rw [h.stack_eq]
  exact node_mem_flatten h.segments_open f hf

theorem Sound.node_lt (h : g.Sound keep t segments) (hf : f ∈ t.frames) :
    f.node < g.nodeCount :=
  (h.entered_kept _ (h.entered_of_mem_stack (h.node_mem_stack hf))).1

theorem Sound.mem_stack_cons (h : g.Sound keep t (segment :: segments)) {v : Nat} :
    v ∈ t.stack ↔ v ∈ segment ∨ v ∈ segments.flatten := by
  rw [h.stack_eq, List.flatten_cons, List.mem_append]

/-- A later segment has the higher numbers. -/
theorem Sound.number_lt_of_mem (h : g.Sound keep t (segment :: segments)) {u x : Nat}
    (hu : u ∈ segment) (hx : x ∈ segments.flatten) : t.number x < t.number u := by
  have hsorted := h.stack_sorted
  rw [h.stack_eq, List.flatten_cons, List.pairwise_append] at hsorted
  exact hsorted.2.2 u hu x hx

/-- The node on the way has the lowest number of its segment. -/
theorem Sound.number_node_le (h : g.Sound keep t (segment :: segments))
    (hopen : g.OpenSegment keep t f segment) {u : Nat} (hu : u ∈ segment) :
    t.number f.node ≤ t.number u := by
  have hsorted := h.stack_sorted
  obtain ⟨above, rfl⟩ := hopen.last
  rw [h.stack_eq, List.flatten_cons, List.pairwise_append, List.pairwise_append] at hsorted
  rcases List.mem_append.1 hu with hu | hu
  · exact (hsorted.1.2.2 u hu f.node (List.mem_singleton_self _)).le
  · rw [List.mem_singleton.1 hu]

end Segments

/-! ## Following an edge -/

section Steps

variable {g : Digraph} {keep : Nat → Bool} {t : Traversal} {f : Frame} {frames : List Frame}
  {segments : List (List Nat)} {w : Nat}

/-- The edge that is followed next joins those that were followed. -/
theorem mem_followedFrom_succ (hw : (g.successors f.node)[f.followed]? = some w) {u x : Nat}
    (hx : x ∈ g.followedFrom { f with followed := f.followed + 1 } u) :
    x ∈ g.followedFrom f u ∨ (u = f.node ∧ x = w) := by
  unfold followedFrom at hx ⊢
  by_cases hu : u = f.node
  · rw [if_pos hu] at hx ⊢
    rw [show ({ f with followed := f.followed + 1 } : Frame).followed = f.followed + 1 from rfl,
      hu, List.take_add_one, hw, Option.toList_some, List.mem_append, List.mem_singleton] at hx
    rw [hu]
    exact hx.imp_right (fun hx => ⟨rfl, hx⟩)
  · rw [if_neg hu] at hx ⊢
    exact Or.inl hx

/-- The next edge of a node on the way was followed. -/
theorem OpenSegment.followNext {segment : List Nat} (h : g.OpenSegment keep t f segment)
    (hw : (g.successors f.node)[f.followed]? = some w)
    (hkept : keep w = true → t.Entered w ∧ (w ∈ t.stack → t.lowOf f.node ≤ t.number w)) :
    g.OpenSegment keep t { f with followed := f.followed + 1 } segment where
  last := h.last
  reaches := h.reaches
  followed := by
    intro u hu x hx hkeep
    rcases mem_followedFrom_succ hw hx with hx | ⟨-, rfl⟩
    · exact h.followed u hu x hx hkeep
    · exact hkept hkeep
  low_le := h.low_le
  low_reached := h.low_reached

/-- The way stays connected when the count of followed edges of its latest node changes. -/
theorem Sound.way_followNext (h : g.Sound keep t segments) (hframes : t.frames = f :: frames) :
    ({ f with followed := f.followed + 1 } :: frames).IsChain
      (fun f parent => g.KeptEdge keep parent.node f.node) := by
  have hway := h.way
  rw [hframes] at hway
  cases frames with
  | nil => exact List.isChain_singleton _
  | cons parent frames => exact List.isChain_cons_cons.2 (List.isChain_cons_cons.1 hway)

/-- An edge was followed to a node that is left out, or that was entered and taken into account. -/
theorem Sound.followNext (h : g.Sound keep t segments) (hframes : t.frames = f :: frames)
    (hw : (g.successors f.node)[f.followed]? = some w)
    (hkept : keep w = true → t.Entered w ∧ (w ∈ t.stack → t.lowOf f.node ≤ t.number w)) :
    g.Sound keep { t with frames := { f with followed := f.followed + 1 } :: frames }
      segments := by
  have hopens := h.segments_open
  rw [hframes] at hopens
  obtain ⟨segment, rest, hopen, hrest, rfl⟩ := List.forall₂_cons_left_iff.1 hopens
  exact
    { sized := h.sized.withFrames _
      entered_iff := h.entered_iff
      entered_kept := h.entered_kept
      number_lt := h.number_lt
      stack_sorted := h.stack_sorted
      nodup := h.nodup
      stacked_iff := h.stacked_iff
      stack_eq := h.stack_eq
      segments_open := forall₂_withFrames (List.Forall₂.cons (hopen.followNext hw hkept) hrest) _
      way := h.way_followNext hframes
      closed := h.closed }

/-- A segment stays open when a mark is lowered to a number on the stack, if the node with the mark
reaches the one with the number. -/
theorem OpenSegment.lower {segment : List Nat} {v x : Nat} (h : g.OpenSegment keep t f segment)
    (hsized : t.Sized g.nodeCount) (hv : v < g.nodeCount) (hx : x ∈ t.stack)
    (hreach : g.ReachesWithin keep v x) :
    g.OpenSegment keep (t.lower v (t.number x)) f segment := by
  have hlow := hsized.lowOf_lower hv (t.number x) f.node
  have hle : (t.lower v (t.number x)).lowOf f.node ≤ t.lowOf f.node := by
    rw [hlow]
    split
    · rename_i hfv
      rw [hfv]
      exact min_le_left _ _
    · exact le_rfl
  refine ⟨h.last, h.reaches, ?_, hle.trans h.low_le, ?_⟩
  · intro u hu w hw hkeep
    obtain ⟨hentered, hle'⟩ := h.followed u hu w hw hkeep
    exact ⟨hentered, fun hmem => hle.trans (hle' hmem)⟩
  · rw [hlow]
    split
    · rename_i hfv
      rcases min_choice (t.lowOf v) (t.number x) with hmin | hmin
      · rw [hmin, ← hfv]
        exact h.low_reached
      · rw [hmin, hfv]
        exact ⟨x, hx, rfl, hreach⟩
    · exact h.low_reached

/-- A node on the way lowers its mark to a number on the stack that it reaches. -/
theorem Sound.lower (h : g.Sound keep t segments) (hf : f ∈ t.frames) {x : Nat}
    (hx : x ∈ t.stack) (hreach : g.ReachesWithin keep f.node x) :
    g.Sound keep (t.lower f.node (t.number x)) segments where
  sized := h.sized.lower _ _
  entered_iff := h.entered_iff
  entered_kept := h.entered_kept
  number_lt := h.number_lt
  stack_sorted := h.stack_sorted
  nodup := h.nodup
  stacked_iff := h.stacked_iff
  stack_eq := h.stack_eq
  segments_open :=
    h.segments_open.imp (fun _ _ hopen => hopen.lower h.sized (h.node_lt hf) hx hreach)
  way := h.way
  closed := h.closed

/-- A new node is entered along an edge from the latest node on the way, or without one. -/
theorem Sound.enter (h : g.Sound keep t segments) (hnew : ¬ t.Entered w) (hw : w < g.nodeCount)
    (hkeep : keep w = true) (way : List Frame)
    (hopens : List.Forall₂ (g.OpenSegment keep (({ t with frames := way }).enter w)) way segments)
    (hway : (Frame.mk w 0 :: way).IsChain
      (fun f parent => g.KeptEdge keep parent.node f.node)) :
    g.Sound keep (({ t with frames := way }).enter w) ([w] :: segments) := by
  have hsized := h.sized.withFrames way
  have hentered := hsized.entered_enter hw
  have hnumber := hsized.number_enter hw
  have hlow := hsized.lowOf_enter hw
  have hold {v : Nat} (hv : t.Entered v) :
      (({ t with frames := way }).enter w).number v = t.number v := by
    rw [hnumber, if_neg]
    · rfl
    · rintro rfl
      exact hnew hv
  -- the new node has a number above all others, so the stack stays sorted
  have hself : (({ t with frames := way }).enter w).number w = t.next := by
    rw [hnumber, if_pos rfl]
  have hnot : w ∉ t.stack ++ t.components.flatten := by
    rw [List.mem_append]
    exact fun hmem => hnew ((h.entered_iff w).2 hmem)
  refine
    { sized := hsized.enter w
      entered_iff := ?_
      entered_kept := ?_
      number_lt := ?_
      stack_sorted := ?_
      nodup := List.nodup_cons.2 ⟨hnot, h.nodup⟩
      stacked_iff := ?_
      stack_eq := congrArg (w :: ·) h.stack_eq
      segments_open := List.Forall₂.cons ?_ hopens
      way := hway
      closed := h.closed }
  · intro v
    show _ ↔ v ∈ w :: t.stack ∨ v ∈ t.components.flatten
    rw [hentered, List.mem_cons, or_assoc, ← h.entered_iff]
    rfl
  · intro v hv
    rcases (hentered v).1 hv with rfl | hv
    · exact ⟨hw, hkeep⟩
    · exact h.entered_kept v hv
  · intro v hv
    show _ < t.next + 1
    rcases (hentered v).1 hv with rfl | hv
    · rw [hself]
      exact Nat.lt_succ_self _
    · rw [hold hv]
      exact Nat.lt_succ_of_lt (h.number_lt v hv)
  · refine List.pairwise_cons.2 ⟨fun x hx => ?_, ?_⟩
    · have hx' := h.entered_of_mem_stack hx
      rw [hold hx', hself]
      exact h.number_lt x hx'
    · refine h.stack_sorted.imp_of_mem (fun {a b} ha hb hlt => ?_)
      rw [hold (h.entered_of_mem_stack ha), hold (h.entered_of_mem_stack hb)]
      exact hlt
  · intro v
    show _ ↔ v ∈ w :: t.stack
    rw [hsized.isStacked_enter hw, List.mem_cons, ← h.stacked_iff]
    by_cases hv : v = w
    · simp [hv]
    · simp only [hv, if_false, false_or]
      rfl
  · -- nothing was followed from the new node, and its low mark is its own number
    refine ⟨⟨[], rfl⟩, ?_, ?_, ?_, ⟨w, List.mem_cons_self, ?_, ReflTransGen.refl⟩⟩
    · intro u hu
      rw [List.mem_singleton.1 hu]
      exact ⟨ReflTransGen.refl, ReflTransGen.refl⟩
    · intro u hu x hx
      rw [List.mem_singleton.1 hu, followedFrom, if_pos rfl, List.take_zero] at hx
      exact absurd hx List.not_mem_nil
    · rw [hlow, if_pos rfl, hself]
    · rw [hlow, if_pos rfl, hself]

/-- An edge was followed to a new node. -/
theorem Sound.descend (h : g.Sound keep t segments) (hframes : t.frames = f :: frames)
    (hw : (g.successors f.node)[f.followed]? = some w) (hnew : ¬ t.Entered w)
    (hlt : w < g.nodeCount) (hkeep : keep w = true) :
    g.Sound keep (({ t with frames := { f with followed := f.followed + 1 } :: frames }).enter w)
      ([w] :: segments) := by
  have hopens := h.segments_open
  rw [hframes] at hopens
  obtain ⟨segment, rest, hopen, hrest, rfl⟩ := List.forall₂_cons_left_iff.1 hopens
  have hsized := h.sized.withFrames ({ f with followed := f.followed + 1 } :: frames)
  have hne {v : Nat} (hv : t.Entered v) : v ≠ w := by
    rintro rfl
    exact hnew hv
  have hnode : t.Entered f.node := by
    refine h.entered_of_mem_stack (h.node_mem_stack ?_)
    rw [hframes]
    exact List.mem_cons_self
  -- the new node is the only change to what was entered and to the stack
  have hkept : List.Forall₂ (g.OpenSegment keep
      (({ t with frames := { f with followed := f.followed + 1 } :: frames }).enter w))
      (f :: frames) (segment :: rest) := by
    refine forall₂_transfer hopens (fun v hv => ⟨?_, ?_⟩)
      (fun x hx hx' => (List.mem_cons.1 hx).resolve_left (hne hx'))
      (fun x hx => h.entered_of_mem_stack hx) (fun u hu => ?_)
    · exact (hsized.entered_enter hlt v).2 (Or.inr hv)
    · rw [hsized.number_enter hlt, if_neg (hne hv)]
      rfl
    · rw [← h.stack_eq] at hu
      have hu' := h.entered_of_mem_stack hu
      refine ⟨?_, hu', fun x hx _ => List.mem_cons_of_mem w hx⟩
      rw [hsized.lowOf_enter hlt, if_neg (hne hu')]
      rfl
  refine h.enter hnew hlt hkeep _ ?_ ?_
  · obtain ⟨hopen', hrest'⟩ := List.forall₂_cons.1 hkept
    refine List.Forall₂.cons (hopen'.followNext hw (fun _ => ?_)) hrest'
    refine ⟨(hsized.entered_enter hlt w).2 (Or.inl rfl), fun _ => ?_⟩
    rw [hsized.lowOf_enter hlt, if_neg (hne hnode), hsized.number_enter hlt, if_pos rfl]
    exact hopen.low_le.trans (h.number_lt _ hnode).le
  · refine List.isChain_cons_cons.2 ⟨⟨List.mem_of_getElem? hw, hkeep⟩, ?_⟩
    exact h.way_followNext hframes

end Steps

/-! ## Leaving a node -/

section Leaving

variable {g : Digraph} {keep : Nat → Bool} {t : Traversal} {f : Frame} {frames : List Frame}
  {segment : List Nat} {segments : List (List Nat)}

/-- All edges of a segment were followed when its node on the way is left. -/
theorem OpenSegment.edge_of_left (h : g.OpenSegment keep t f segment)
    (hleft : (g.successors f.node)[f.followed]? = none) {u w : Nat} (hu : u ∈ segment)
    (hedge : g.KeptEdge keep u w) :
    t.Entered w ∧ (w ∈ t.stack → t.lowOf f.node ≤ t.number w) := by
  refine h.followed u hu w ?_ hedge.2
  -- no edge of `f.node` is left, and those of the other nodes were followed before
  unfold followedFrom
  split
  · rename_i huf
    rw [huf] at hedge ⊢
    rw [List.take_of_length_le (List.getElem?_eq_none_iff.1 hleft)]
    exact hedge.1
  · exact hedge.1

/-- The components stay closed when a segment is added whose edges lead to itself or to them. -/
theorem ClosedInOrder.concat {components : List (List Nat)} {component : List Nat}
    (h : g.ClosedInOrder keep components) (hne : component ≠ [])
    (hreach : ∀ u ∈ component, ∀ w ∈ component, g.ReachesWithin keep u w)
    (hedge : ∀ u ∈ component, ∀ w, g.KeptEdge keep u w →
      w ∈ component ∨ w ∈ components.flatten) :
    g.ClosedInOrder keep (components ++ [component]) := by
  intro before c after heq
  -- the split falls at the new component or among the old ones
  rcases List.eq_nil_or_concat after with rfl | ⟨after', c', rfl⟩
  · obtain ⟨rfl, hc⟩ := List.append_inj' heq rfl
    rw [List.cons.injEq] at hc
    obtain ⟨rfl, -⟩ := hc
    exact ⟨hne, hreach, hedge⟩
  · rw [List.concat_eq_append, ← List.cons_append, ← List.append_assoc] at heq
    exact h before c after' (List.append_inj' heq rfl).1

/-- The edges of a segment that is left with its own number as its low mark lead to itself or to
components. -/
theorem Sound.edge_of_closed (h : g.Sound keep t (segment :: segments))
    (hopen : g.OpenSegment keep t f segment) (hleft : (g.successors f.node)[f.followed]? = none)
    (hroot : t.lowOf f.node = t.number f.node) {u w : Nat} (hu : u ∈ segment)
    (hedge : g.KeptEdge keep u w) : w ∈ segment ∨ w ∈ t.components.flatten := by
  obtain ⟨hentered, hle⟩ := hopen.edge_of_left hleft hu hedge
  rcases (h.entered_iff w).1 hentered with hw | hw
  · refine Or.inl ((h.mem_stack_cons.1 hw).resolve_right (fun hw' => ?_))
    have hlt := h.number_lt_of_mem hopen.node_mem hw'
    have := hle hw
    omega
  · exact Or.inr hw

/-- A low mark that is not the own number is the number of a node in a segment further down. -/
theorem Sound.exists_low_below (h : g.Sound keep t (segment :: segments))
    (hopen : g.OpenSegment keep t f segment) (hroot : t.lowOf f.node ≠ t.number f.node) :
    ∃ x ∈ segments.flatten, g.ReachesWithin keep f.node x := by
  obtain ⟨x, hx, hnumber, hreach⟩ := hopen.low_reached
  refine ⟨x, (h.mem_stack_cons.1 hx).resolve_left (fun hx => ?_), hreach⟩
  have h1 := h.number_node_le hopen hx
  have h2 := hopen.low_le
  omega

/-- A node that is left with its own number as its low mark closes a component. -/
theorem Sound.close (h : g.Sound keep t (segment :: segments)) (hframes : t.frames = f :: frames)
    (hleft : (g.successors f.node)[f.followed]? = none)
    (hroot : t.lowOf f.node = t.number f.node) :
    g.Sound keep (({ t with frames := frames }).close f.node) segments := by
  have hopens := h.segments_open
  have hway := h.way
  rw [hframes] at hopens hway
  obtain ⟨hopen, hrest⟩ := List.forall₂_cons.1 hopens
  obtain ⟨above, hlast⟩ := hopen.last
  have hstack : t.stack = above ++ f.node :: segments.flatten := by
    rw [h.stack_eq, List.flatten_cons, hlast, List.append_assoc]
    rfl
  have hnodup := h.nodup
  rw [h.stack_eq, List.flatten_cons, List.append_assoc, List.nodup_append'] at hnodup
  obtain ⟨hsegment, hothers, hdisjoint⟩ := hnodup
  have hnot : f.node ∉ above := by
    rw [hlast, List.nodup_append'] at hsegment
    exact fun hmem => hsegment.2.2 hmem (List.mem_singleton_self _)
  -- the segment on top of the stack becomes a component, and the segments below it stay
  rw [Traversal.close_eq (t := { t with frames := frames }) hstack hnot, ← hlast]
  refine
    { sized := ⟨h.sized.index, h.sized.low, ?_⟩
      entered_iff := ?_
      entered_kept := h.entered_kept
      number_lt := h.number_lt
      stack_sorted := ?_
      nodup := ?_
      stacked_iff := ?_
      stack_eq := rfl
      segments_open := ?_
      way := hway.tail
      closed := h.closed.concat ?_ ?_ ?_ }
  · exact (Traversal.length_foldl_set_false _ _).trans h.sized.stacked
  · intro v
    show t.Entered v ↔ v ∈ segments.flatten ∨ v ∈ (t.components ++ [segment.reverse]).flatten
    have hflatten : v ∈ (t.components ++ [segment.reverse]).flatten ↔
        v ∈ t.components.flatten ∨ v ∈ segment := by
      simp
    rw [h.entered_iff, h.mem_stack_cons, hflatten]
    tauto
  · have hsorted := h.stack_sorted
    rw [h.stack_eq, List.flatten_cons, List.pairwise_append] at hsorted
    exact hsorted.2.1
  · show (segments.flatten ++ (t.components ++ [segment.reverse]).flatten).Nodup
    rw [List.flatten_append, List.flatten_singleton, ← List.append_assoc, List.nodup_append']
    refine ⟨hothers, List.nodup_reverse.2 hsegment, ?_⟩
    intro v hv hv'
    exact hdisjoint (List.mem_reverse.1 hv') hv
  · intro v
    show (List.foldl _ t.stacked segment).getD v false = true ↔ v ∈ segments.flatten
    rw [Traversal.getD_foldl_set_false]
    · by_cases hv : v ∈ segment
      · rw [if_pos hv]
        have hv' : v ∉ segments.flatten :=
          fun hv' => hdisjoint hv (List.mem_append_left _ hv')
        simp [hv']
      · rw [if_neg hv]
        show t.isStacked v = true ↔ _
        rw [h.stacked_iff, h.mem_stack_cons]
        simp only [hv, false_or]
    · intro v hv
      rw [h.sized.stacked]
      exact (h.entered_kept v (h.entered_of_mem_stack (h.mem_stack_cons.2 (Or.inl hv)))).1
  · refine forall₂_transfer hrest (fun v hv => ⟨hv, rfl⟩)
      (fun w hw _ => h.mem_stack_cons.2 (Or.inr hw))
      (fun x hx => h.entered_of_mem_stack hx) (fun u hu => ⟨rfl, ?_, ?_⟩)
    · exact h.entered_of_mem_stack (h.mem_stack_cons.2 (Or.inr hu))
    · -- a node with a lower number than one further down is not in the closed segment
      intro x hx hle
      refine (h.mem_stack_cons.1 hx).resolve_left (fun hx => ?_)
      have := h.number_lt_of_mem hx hu
      omega
  · rw [hlast]
    simp
  · -- the nodes of the segment reach each other through the node that is left
    intro u hu w hw
    rw [List.mem_reverse] at hu hw
    exact (hopen.reaches u hu).2.trans (hopen.reaches w hw).1
  · -- an edge from the segment stays in it or ends in a component that is already closed
    intro u hu w hedge
    rw [List.mem_reverse] at hu ⊢
    exact h.edge_of_closed hopen hleft hroot hu hedge

/-- A node that is left with another low mark joins the segment of the node before it. -/
theorem Sound.join {parent : Frame} {below : List Nat}
    (h : g.Sound keep t (segment :: below :: segments))
    (hframes : t.frames = f :: parent :: frames)
    (hleft : (g.successors f.node)[f.followed]? = none)
    (hroot : t.lowOf f.node ≠ t.number f.node) (hle : t.lowOf parent.node ≤ t.lowOf f.node) :
    g.Sound keep { t with frames := parent :: frames } ((segment ++ below) :: segments) := by
  have hopens := h.segments_open
  have hway := h.way
  rw [hframes] at hopens hway
  obtain ⟨hopen, hrest⟩ := List.forall₂_cons.1 hopens
  obtain ⟨hparent, hothers⟩ := List.forall₂_cons.1 hrest
  obtain ⟨hedge, hway⟩ := List.isChain_cons_cons.1 hway
  -- the way leads back up from the node with the low mark
  obtain ⟨x, hx, hreach⟩ := h.exists_low_below hopen hroot
  have hback : g.ReachesWithin keep f.node parent.node :=
    hreach.trans (reaches_latest hrest hway hx)
  have hdown : g.ReachesWithin keep parent.node f.node := ReflTransGen.single hedge
  -- so the two segments reach each other, and the low mark of the one below bounds both
  have hjoined : g.OpenSegment keep t parent (segment ++ below) := by
    refine ⟨?_, ?_, ?_, hparent.low_le, hparent.low_reached⟩
    · obtain ⟨above, rfl⟩ := hparent.last
      exact ⟨segment ++ above, (List.append_assoc ..).symm⟩
    · intro u hu
      rcases List.mem_append.1 hu with hu | hu
      · obtain ⟨h1, h2⟩ := hopen.reaches u hu
        exact ⟨hdown.trans h1, h2.trans hback⟩
      · exact hparent.reaches u hu
    · intro u hu w hw hkeep
      rcases List.mem_append.1 hu with hu | hu
      · have hne : u ≠ parent.node := by
          rintro rfl
          refine lt_irrefl _ (h.number_lt_of_mem hu ?_)
          rw [List.flatten_cons]
          exact List.mem_append_left _ hparent.node_mem
        rw [followedFrom, if_neg hne] at hw
        obtain ⟨hentered, hle'⟩ := hopen.edge_of_left hleft hu ⟨hw, hkeep⟩
        exact ⟨hentered, fun hw' => hle.trans (hle' hw')⟩
      · exact hparent.followed u hu w hw hkeep
  have hstack : t.stack = ((segment ++ below) :: segments).flatten := by
    rw [h.stack_eq, List.flatten_cons, List.flatten_cons, List.flatten_cons, List.append_assoc]
  exact
    { sized := h.sized.withFrames _
      entered_iff := h.entered_iff
      entered_kept := h.entered_kept
      number_lt := h.number_lt
      stack_sorted := h.stack_sorted
      nodup := h.nodup
      stacked_iff := h.stacked_iff
      stack_eq := hstack
      segments_open := forall₂_withFrames (List.Forall₂.cons hjoined hothers) _
      way := hway
      closed := h.closed }

/-- A node that is left closes a component or joins the segment before it, once the mark of the node
before it is low enough. -/
theorem Sound.close_or_join (h : g.Sound keep t segments) (hframes : t.frames = f :: frames)
    (hleft : (g.successors f.node)[f.followed]? = none)
    (hle : ∀ parent ∈ frames.head?, t.lowOf parent.node ≤ t.lowOf f.node) :
    ∃ segments', g.Sound keep
      (if t.index? f.node = some (t.lowOf f.node) then ({ t with frames := frames }).close f.node
        else { t with frames := frames }) segments' := by
  have hopens := h.segments_open
  rw [hframes] at hopens
  obtain ⟨segment, rest, hopen, hrest, rfl⟩ := List.forall₂_cons_left_iff.1 hopens
  have hindex : t.index? f.node = some (t.number f.node) := by
    have hf : f ∈ t.frames := by
      rw [hframes]
      exact List.mem_cons_self
    obtain ⟨i, hi⟩ := Option.isSome_iff_exists.1 (h.entered_of_mem_stack (h.node_mem_stack hf))
    rw [Traversal.number, hi, Option.getD_some]
  by_cases hroot : t.lowOf f.node = t.number f.node
  · rw [if_pos (hindex.trans (congrArg some hroot.symm))]
    exact ⟨rest, h.close hframes hleft hroot⟩
  · rw [if_neg (fun heq => hroot (Option.some.inj (heq.symm.trans hindex)))]
    cases frames with
    | nil =>
      -- the last node on the way has nothing further down
      obtain ⟨x, hx, -⟩ := h.exists_low_below hopen hroot
      rw [List.forall₂_nil_left_iff.1 hrest] at hx
      exact absurd hx List.not_mem_nil
    | cons parent frames =>
      obtain ⟨below, segments, -, -, rfl⟩ := List.forall₂_cons_left_iff.1 hrest
      exact ⟨_, h.join hframes hleft hroot (hle parent rfl)⟩

/-- Leaving a node keeps a walk sound. -/
theorem Sound.leave (h : g.Sound keep t segments) (hframes : t.frames = f :: frames)
    (hleft : (g.successors f.node)[f.followed]? = none) :
    ∃ segments', g.Sound keep (leave { t with frames := frames } f.node) segments' := by
  cases frames with
  | nil => exact h.close_or_join hframes hleft (fun parent hparent => nomatch hparent)
  | cons parent frames =>
    have hparent : parent ∈ t.frames := by
      rw [hframes]
      exact List.mem_cons_of_mem f List.mem_cons_self
    have hway := h.way
    have hopens := h.segments_open
    rw [hframes] at hway hopens
    obtain ⟨segment, rest, hopen, -, rfl⟩ := List.forall₂_cons_left_iff.1 hopens
    obtain ⟨x, hx, hnumber, hreach⟩ := hopen.low_reached
    have hlower := h.lower hparent hx (hreach.head (List.isChain_cons_cons.1 hway).1)
    have hlow := h.sized.lowOf_lower (h.node_lt hparent) (t.number x)
    rw [hnumber] at hlower hlow
    refine hlower.close_or_join hframes hleft ?_
    rintro _ ⟨⟩
    rw [hlow, hlow, if_pos rfl]
    split
    · exact le_rfl
    · exact min_le_right _ _

end Leaving

/-! ## Whole walks -/

section Walks

variable {g : Digraph} {keep : Nat → Bool} {t : Traversal} {f : Frame} {frames : List Frame}
  {segments : List (List Nat)}

/-- An edge to a new node enters it. -/
theorem follow_of_new {v w : Nat} (hkeep : keep w = true) (hnew : ¬ t.Entered w) :
    follow keep t v w = t.enter w := by
  have hindex : t.index? w = none := Option.not_isSome_iff_eq_none.1 hnew
  rw [follow, if_pos hkeep, hindex]

/-- An edge to a node on the stack lowers the mark of the current node. -/
theorem follow_of_stacked {v w : Nat} (hkeep : keep w = true) (hentered : t.Entered w)
    (hstacked : t.isStacked w = true) : follow keep t v w = t.lower v (t.number w) := by
  obtain ⟨i, hindex⟩ := Option.isSome_iff_exists.1 hentered
  have hnumber : t.number w = i := by simp [Traversal.number, hindex]
  rw [follow, if_pos hkeep, hindex, hnumber]
  exact if_pos hstacked

/-- Every other edge changes nothing. -/
theorem follow_of_closed {v w : Nat}
    (hclosed : keep w = true → t.Entered w ∧ ¬ t.isStacked w = true) : follow keep t v w = t := by
  by_cases hkeep : keep w = true
  · obtain ⟨hentered, hstacked⟩ := hclosed hkeep
    obtain ⟨i, hindex⟩ := Option.isSome_iff_exists.1 hentered
    rw [follow, if_pos hkeep, hindex]
    exact if_neg hstacked
  · rw [follow, if_neg hkeep]

/-- What a step can do. -/
theorem step_cases (g : Digraph) (keep : Nat → Bool) (hframes : t.frames = f :: frames) :
    (∃ w, (g.successors f.node)[f.followed]? = some w ∧ keep w = true ∧ ¬ t.Entered w ∧
      step g keep t =
        ({ t with frames := { f with followed := f.followed + 1 } :: frames }).enter w) ∨
    (∃ w, (g.successors f.node)[f.followed]? = some w ∧ keep w = true ∧ t.Entered w ∧
      t.isStacked w = true ∧ step g keep t =
        ({ t with frames := { f with followed := f.followed + 1 } :: frames }).lower f.node
          (t.number w)) ∨
    (∃ w, (g.successors f.node)[f.followed]? = some w ∧
      (keep w = true → t.Entered w ∧ ¬ t.isStacked w = true) ∧
      step g keep t = { t with frames := { f with followed := f.followed + 1 } :: frames }) ∨
    ((g.successors f.node)[f.followed]? = none ∧
      step g keep t = leave { t with frames := frames } f.node) := by
  unfold step
  rw [hframes]
  simp only
  cases hw : (g.successors f.node)[f.followed]? with
  | none => exact Or.inr (Or.inr (Or.inr ⟨rfl, rfl⟩))
  | some w =>
    -- the way is not looked at while an edge is followed
    by_cases hclosed : keep w = true → t.Entered w ∧ ¬ t.isStacked w = true
    · exact Or.inr (Or.inr (Or.inl ⟨w, rfl, hclosed, follow_of_closed hclosed⟩))
    · obtain ⟨hkeep, hopen⟩ := Classical.not_imp.1 hclosed
      by_cases hentered : t.Entered w
      · have hstacked : t.isStacked w = true := by
          by_contra hstacked
          exact hopen ⟨hentered, hstacked⟩
        exact Or.inr (Or.inl ⟨w, rfl, hkeep, hentered, hstacked,
          follow_of_stacked hkeep hentered hstacked⟩)
      · exact Or.inl ⟨w, rfl, hkeep, hentered, follow_of_new hkeep hentered⟩

theorem index_leave (t : Traversal) (v : Nat) : (leave t v).index = t.index := by
  unfold leave
  cases t.frames <;> simp only <;> split <;> rfl

theorem frames_leave (t : Traversal) (v : Nat) : (leave t v).frames = t.frames := by
  unfold leave
  cases hframes : t.frames <;> simp only <;> split <;> exact hframes

/-- One step keeps a walk sound. -/
theorem Sound.step (hg : g.Consistent) (h : g.Sound keep t segments)
    (hframes : t.frames = f :: frames) : ∃ segments', g.Sound keep (step g keep t) segments' := by
  rcases step_cases g keep hframes with ⟨w, hw, hkeep, hnew, heq⟩ |
    ⟨w, hw, hkeep, hentered, hstacked, heq⟩ | ⟨w, hw, hkept, heq⟩ | ⟨hleft, heq⟩
  · rw [heq]
    exact ⟨_, h.descend hframes hw hnew (hg.successor_lt (List.mem_of_getElem? hw)) hkeep⟩
  · rw [heq]
    have hmem : w ∈ t.stack := (h.stacked_iff w).1 hstacked
    have hedge : g.KeptEdge keep f.node w := ⟨List.mem_of_getElem? hw, hkeep⟩
    have hf : f ∈ t.frames := by
      rw [hframes]
      exact List.mem_cons_self
    have hlower := h.lower hf hmem (ReflTransGen.single hedge)
    refine ⟨_, hlower.followNext hframes hw (fun _ => ⟨hentered, fun _ => ?_⟩)⟩
    rw [h.sized.lowOf_lower (h.node_lt hf), if_pos rfl]
    exact min_le_right _ _
  · rw [heq]
    refine ⟨_, h.followNext hframes hw (fun hkeep => ?_)⟩
    obtain ⟨hentered, hstacked⟩ := hkept hkeep
    exact ⟨hentered, fun hmem => absurd ((h.stacked_iff w).2 hmem) hstacked⟩
  · rw [heq]
    exact h.leave hframes hleft

/-- A step forgets no node that was entered. -/
theorem Sound.entered_step (hg : g.Consistent) (h : g.Sound keep t segments)
    (hframes : t.frames = f :: frames) {v : Nat} (hv : t.Entered v) :
    (Digraph.step g keep t).Entered v := by
  rcases step_cases g keep hframes with ⟨w, hw, -, -, heq⟩ |
    ⟨w, -, -, -, -, heq⟩ | ⟨w, -, -, heq⟩ | ⟨-, heq⟩
  · rw [heq, (h.sized.withFrames _).entered_enter (hg.successor_lt (List.mem_of_getElem? hw))]
    exact Or.inr hv
  · rw [heq]
    exact hv
  · rw [heq]
    exact hv
  · rw [heq, Traversal.Entered, Traversal.index?, index_leave]
    exact hv

/-- The number of steps that the nodes which were not entered will take: one for each of their edges
and one to leave them. -/
def stepsToEnter (g : Digraph) (index : List (Option Nat)) : Nat :=
  ∑ v ∈ Finset.range g.nodeCount with index.getD v none = none, (g.outDegree v + 1)

/-- The number of steps that the nodes on the way will take. -/
def stepsOnWay (g : Digraph) : List Frame → Nat
  | [] => 0
  | f :: frames => g.outDegree f.node - f.followed + 1 + stepsOnWay g frames

/-- The number of steps that a walk can still take. -/
def remaining (g : Digraph) (t : Traversal) : Nat :=
  g.stepsToEnter t.index + g.stepsOnWay t.frames

theorem stepsOnWay_cons (g : Digraph) (f : Frame) (frames : List Frame) :
    g.stepsOnWay (f :: frames) = g.outDegree f.node - f.followed + 1 + g.stepsOnWay frames := rfl

/-- Entering a node moves its steps from the new nodes to the way. -/
theorem remaining_enter (hsized : t.Sized g.nodeCount) {w : Nat} (hw : w < g.nodeCount)
    (hnew : ¬ t.Entered w) : g.remaining (t.enter w) = g.remaining t := by
  have hindex : t.index? w = none := by
    rw [Traversal.Entered, Option.not_isSome_iff_eq_none] at hnew
    exact hnew
  -- the nodes that were not entered lose `w` and nothing else
  have hset : (Finset.range g.nodeCount).filter (fun v => (t.enter w).index? v = none) =
      ((Finset.range g.nodeCount).filter (fun v => t.index? v = none)).erase w := by
    ext v
    simp only [Finset.mem_filter, Finset.mem_range, Finset.mem_erase, hsized.index?_enter hw]
    by_cases hv : v = w <;> simp [hv]
  have hmem : w ∈ (Finset.range g.nodeCount).filter (fun v => t.index? v = none) :=
    Finset.mem_filter.2 ⟨Finset.mem_range.2 hw, hindex⟩
  have hsum : g.stepsToEnter (t.enter w).index + (g.outDegree w + 1) = g.stepsToEnter t.index := by
    have := Finset.sum_erase_add _ (fun v => g.outDegree v + 1) hmem
    rw [← hset] at this
    exact this
  have hway : g.stepsOnWay (t.enter w).frames = g.outDegree w + 1 + g.stepsOnWay t.frames :=
    g.stepsOnWay_cons ⟨w, 0⟩ t.frames
  unfold remaining
  omega

/-- Every step uses up one of the remaining steps. -/
theorem remaining_step_lt (hg : g.Consistent) (h : g.Sound keep t segments)
    (hframes : t.frames = f :: frames) : g.remaining (step g keep t) < g.remaining t := by
  have hnow : g.remaining t = g.stepsToEnter t.index +
      (g.outDegree f.node - f.followed + 1 + g.stepsOnWay frames) := by
    rw [remaining, hframes, stepsOnWay_cons]
  -- following an edge shortens what is left of the current node
  have hfollow {w : Nat} (hw : (g.successors f.node)[f.followed]? = some w) :
      g.remaining { t with frames := { f with followed := f.followed + 1 } :: frames } <
        g.remaining t := by
    have hlt : f.followed < g.outDegree f.node := (List.getElem?_eq_some_iff.1 hw).1
    rw [hnow, remaining, stepsOnWay_cons]
    show g.stepsToEnter t.index + (g.outDegree f.node - (f.followed + 1) + 1 + _) < _
    omega
  rcases step_cases g keep hframes with ⟨w, hw, -, hnew, heq⟩ |
    ⟨w, hw, -, -, -, heq⟩ | ⟨w, hw, -, heq⟩ | ⟨-, heq⟩
  · have henter := remaining_enter
      (h.sized.withFrames ({ f with followed := f.followed + 1 } :: frames))
      (hg.successor_lt (List.mem_of_getElem? hw)) hnew
    rw [heq, henter]
    exact hfollow hw
  · rw [heq]
    exact hfollow hw
  · rw [heq]
    exact hfollow hw
  · rw [heq, hnow, remaining, frames_leave, index_leave]
    show g.stepsToEnter t.index + g.stepsOnWay frames < _
    omega

/-- There are no segments if the way is empty. -/
theorem Sound.of_frames_nil (h : g.Sound keep t segments) (hframes : t.frames = []) :
    g.Sound keep t [] := by
  have hopens := h.segments_open
  rw [hframes, List.forall₂_nil_left_iff] at hopens
  exact hopens ▸ h

/-- A walk that may take enough steps ends with an empty way. -/
theorem walkFrom_sound (hg : g.Consistent) {fuel : Nat} (h : g.Sound keep t segments)
    (hfuel : g.remaining t ≤ fuel) :
    g.Sound keep (walkFrom g keep fuel t) [] ∧ (walkFrom g keep fuel t).frames = [] ∧
      ∀ v, t.Entered v → (walkFrom g keep fuel t).Entered v := by
  induction fuel generalizing t segments with
  | zero =>
    cases hframes : t.frames with
    | nil => exact ⟨h.of_frames_nil hframes, hframes, fun v hv => hv⟩
    | cons f frames =>
      rw [remaining, hframes, stepsOnWay_cons] at hfuel
      omega
  | succ fuel ih =>
    unfold walkFrom
    cases hframes : t.frames with
    | nil => exact ⟨h.of_frames_nil hframes, hframes, fun v hv => hv⟩
    | cons f frames =>
      obtain ⟨segments', h'⟩ := h.step hg hframes
      have hlt := remaining_step_lt hg h hframes
      rw [if_neg (by simp)]
      obtain ⟨hsound, hempty, hentered⟩ := ih h' (by omega)
      exact ⟨hsound, hempty, fun v hv => hentered v (h.entered_step hg hframes hv)⟩

end Walks

end Digraph

end CodeSurvey
