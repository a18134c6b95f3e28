/-
# Members of classes

A function is a member of a class if it stands directly in the body of the class, or below
decorators there.  The methods that the classes of an outline list are the members: the induction is
on the tree, and what a tree adds to the class above it depends on where it stands in that class
(`memberPairs_perm`).  The class that a function is given is another matter: it is the class that is
the nearest definition around the function, whatever statements stand between.  The two agree
exactly if no function stands within a class without being a member
(`classes_follow_nearest_definition`).
-/
import CodeSurvey.Proofs.Outline.Walk

namespace CodeSurvey

/-! ## Members and where they stand -/

/-- A node stands directly in the block that is the body of a class, or below decorators there. -/
def Lineage.IsMemberOf (l : Lineage) (c : Tree) : Prop :=
  c.kind = .classDefinition ∧ ∃ (body : Tree) (rest : List Tree),
    body.kind = .block ∧ body.field = some .body ∧
      (l.above = body :: c :: rest ∨
        ∃ d, d.kind = .decoratedDefinition ∧ l.above = d :: body :: c :: rest)

/-- A class is the nearest definition of a class or a function around a node. -/
def Lineage.IsWithin (l : Lineage) (c : Tree) : Prop :=
  c.kind = .classDefinition ∧ l.above.find? (·.kind.isNamedDefinition) = some c

/-- Where a node stands in a class: directly below the definition of the class, in its body, or
below decorators in its body. -/
inductive Standing where
  | elsewhere
  | inClass (c : Tree)
  | inBody (c : Tree)
  | decorated (c : Tree)

/-- Where the nodes below a node stand. -/
def Standing.below (s : Standing) (t : Tree) : Standing :=
  if t.kind = .classDefinition then .inClass t
  else match s with
    | inClass c => if t.kind = .block ∧ t.field = some .body then .inBody c else .elsewhere
    | inBody c => if t.kind = .decoratedDefinition then .decorated c else .elsewhere
    | _ => .elsewhere

/-- Where nodes below some nodes stand. -/
def standing : List Tree → Standing
  | [] => .elsewhere
  | t :: above => (standing above).below t

/-- The class that a node that stands somewhere is a member of. -/
def Standing.class? : Standing → Option Tree
  | inBody c | decorated c => some c
  | _ => none

namespace Standing

variable {s : Standing} {t c : Tree}

/-- What stands directly in a class stands below its definition. -/
theorem below_eq_inClass_iff :
    s.below t = .inClass c ↔ t.kind = .classDefinition ∧ t = c := by
  unfold below
  cases s <;> grind

/-- What stands in the body of a class stands below the body of the definition. -/
theorem below_eq_inBody_iff :
    s.below t = .inBody c ↔ s = .inClass c ∧ t.kind = .block ∧ t.field = some .body := by
  unfold below
  cases s <;> grind

/-- What stands below decorators in a class stands below a statement of its body. -/
theorem below_eq_decorated_iff :
    s.below t = .decorated c ↔ s = .inBody c ∧ t.kind = .decoratedDefinition := by
  unfold below
  cases s <;> grind

end Standing

/-- The class that a node is a member of, if there is one. -/
def Lineage.memberClass? (l : Lineage) : Option Tree :=
  (standing l.above).class?

/-- The class that a node stands within, if there is one. -/
def Lineage.withinClass? (l : Lineage) : Option Tree :=
  (l.above.find? (·.kind.isNamedDefinition)).filter (·.kind = .classDefinition)

/-- The class that a node stands within is found on the way up. -/
theorem Lineage.isWithin_iff {l : Lineage} {c : Tree} : l.IsWithin c ↔ l.withinClass? = some c := by
  rw [Lineage.withinClass?, Option.filter_eq_some_iff, decide_eq_true_eq, and_comm]
  rfl

/-- In the body of a class, the two nodes above are the body and the class. -/
theorem exists_of_standing_eq_inBody {above : List Tree} {c : Tree}
    (h : standing above = .inBody c) :
    c.kind = .classDefinition ∧ ∃ (body : Tree) (rest : List Tree),
      body.kind = .block ∧ body.field = some .body ∧ above = body :: c :: rest := by
  match above with
  | [] => cases h
  | [body] => cases (Standing.below_eq_inBody_iff.1 h).1
  | body :: t :: rest =>
    obtain ⟨hclass, hkind, hfield⟩ := Standing.below_eq_inBody_iff.1 h
    obtain ⟨hc, rfl⟩ := Standing.below_eq_inClass_iff.1 hclass
    exact ⟨hc, body, rest, hkind, hfield, rfl⟩

/-- The class that a node is a member of is read off where it stands. -/
theorem Lineage.isMemberOf_iff {l : Lineage} {c : Tree} :
    l.IsMemberOf c ↔ l.memberClass? = some c := by
  unfold Lineage.memberClass?
  constructor
  · rintro ⟨hc, body, rest, hkind, hfield, h | ⟨d, hd, h⟩⟩
    · simp [h, standing, Standing.below, Standing.class?, hc, hkind, hfield]
    · simp [h, standing, Standing.below, Standing.class?, hc, hkind, hfield, hd]
  · intro h
    cases hs : standing l.above with
    | inBody c' =>
      rw [hs] at h
      cases h
      obtain ⟨hc, body, rest, hkind, hfield, habove⟩ := exists_of_standing_eq_inBody hs
      exact ⟨hc, body, rest, hkind, hfield, .inl habove⟩
    | decorated c' =>
      rw [hs] at h
      cases h
      obtain ⟨node, above⟩ := l
      -- the node is part of a decorated definition, which stands in the body
      match above with
      | [] => cases hs
      | d :: above =>
        obtain ⟨hbody, hd⟩ := Standing.below_eq_decorated_iff.1 hs
        obtain ⟨hc, body, rest, hkind, hfield, rfl⟩ := exists_of_standing_eq_inBody hbody
        exact ⟨hc, body, rest, hkind, hfield, .inr ⟨d, hd, rfl⟩⟩
    | elsewhere =>
      rw [hs] at h
      cases h
    | inClass c' =>
      rw [hs] at h
      cases h

/-! ## Pairs of a class and a member -/

section Pairs

variable (source : List Char)

/-- The name of the method that a node in the body of a class is. -/
def methodName? (child : Tree) : Option String := do
  let definition ←
    match child.kind with
    | .functionDefinition => some child
    | .decoratedDefinition => (child.part? .definition).filter (·.kind = .functionDefinition)
    | _ => none
  return (← definition.part? .name).textIn source

/-- The names of a function and of the class that it is given. -/
def classPair? (class? : Lineage → Option Tree) (l : Lineage) : Option (String × String) :=
  if l.node.kind = .functionDefinition then
    (class? l).map fun c => (c.nameIn source, l.node.nameIn source)
  else none

/-- The names of a class and of a function that is a member of it. -/
def memberPair? : Lineage → Option (String × String) :=
  classPair? source Lineage.memberClass?

/-- The names of a class and of the methods that it lists. -/
def classPairs (c : Tree) : List (String × String) :=
  (((c.part? .body).map (methodNames source)).getD []).map (c.nameIn source, ·)

/-- What a tree adds to the methods of the class that it stands in. -/
def pairsAt : Standing → Tree → List (String × String)
  | .elsewhere, _ => []
  | .inClass c, t =>
    if t.kind = .block ∧ t.field = some .body then
      t.children.flatMap fun m => ((methodName? source m).map (c.nameIn source, ·)).toList
    else []
  | .inBody c, t => ((methodName? source t).map (c.nameIn source, ·)).toList
  | .decorated c, t =>
    if t.kind = .functionDefinition then [(c.nameIn source, t.nameIn source)] else []

end Pairs

section Members

variable {source : List Char}

theorem methodNames_eq_filterMap (body : Tree) :
    methodNames source body = body.children.filterMap (methodName? source) := by
  change (body.children.filter _).filterMap (methodName? source) = _
  rw [List.filterMap_filter]
  congr
  funext c
  by_cases hc : c.kind = .mark
  · simp [methodName?, hc, Kind.isNamed]
  · simp [hc, Kind.isNamed]

/-- A definition in a grammatical tree has a name. -/
theorem exists_name {t : Tree} (h : t.Grammatical) (hk : t.kind.isNamedDefinition = true) :
    t.IsNamed source (t.nameIn source) := by
  obtain ⟨k, f, s, e, cs⟩ := t
  obtain ⟨name, hname⟩ := exists_part? (f := f) (s := s) (t := e) (Tree.grammatical_node.1 h).1 hk
  rw [Tree.IsNamed, Tree.nameIn, hname]
  rfl

/-- The definition of a function in a body is listed under its name. -/
theorem methodName?_of_function {t : Tree} (h : t.Grammatical)
    (hk : t.kind = .functionDefinition) : methodName? source t = some (t.nameIn source) := by
  have hname : t.IsNamed source (t.nameIn source) := exists_name h (by rw [hk]; rfl)
  rw [← hname, methodName?, hk, Option.map_eq_bind]
  rfl

/-- After decorators, it is listed if it is a function. -/
theorem methodName?_of_decorated {t d : Tree} (hk : t.kind = .decoratedDefinition)
    (hd : t.part? .definition = some d) (h : d.Grammatical) :
    methodName? source t =
      if d.kind = .functionDefinition then some (d.nameIn source) else none := by
  by_cases hkind : d.kind = .functionDefinition
  · have hname : d.IsNamed source (d.nameIn source) := exists_name h (by rw [hkind]; rfl)
    rw [if_pos hkind, ← hname, methodName?, hk, hd, Option.map_eq_bind,
      Option.filter_some_pos (by simpa using hkind)]
    rfl
  · simp [methodName?, hk, hd, hkind]

/-- Other statements list no method. -/
theorem methodName?_of_other {t : Tree} (hf : t.kind ≠ .functionDefinition)
    (hd : t.kind ≠ .decoratedDefinition) : methodName? source t = none := by
  unfold methodName?
  split
  · exact absurd ‹_› hf
  · exact absurd ‹_› hd
  · rfl

/-- A node that is no function, no decorated definition and no body adds nothing by itself. -/
theorem pairsAt_of_other {t : Tree} (hf : t.kind ≠ .functionDefinition)
    (hd : t.kind ≠ .decoratedDefinition) (hb : t.kind ≠ .block) (s : Standing) :
    pairsAt source s t = [] := by
  cases s with
  | elsewhere => rfl
  | inClass c => simp [pairsAt, hb]
  | inBody c => simp [pairsAt, methodName?_of_other hf hd]
  | decorated c => simp [pairsAt, hf]

/-- The class that a function is a member of lists it. -/
theorem pairsAt_of_function {t : Tree} (h : t.Grammatical) (hk : t.kind = .functionDefinition)
    (above : List Tree) :
    pairsAt source (standing above) t = (memberPair? source ⟨t, above⟩).toList := by
  have hpair : memberPair? source ⟨t, above⟩ =
      (standing above).class?.map fun c => (c.nameIn source, t.nameIn source) := if_pos hk
  rw [hpair]
  cases standing above with
  | elsewhere => rfl
  | inClass c => simp [pairsAt, hk, Standing.class?]
  | inBody c => simp [pairsAt, Standing.class?, methodName?_of_function h hk]
  | decorated c => simp [pairsAt, hk, Standing.class?]

/-- Outside of classes nothing is added. -/
theorem flatMap_pairsAt_elsewhere (cs : List Tree) :
    cs.flatMap (pairsAt source .elsewhere) = [] :=
  List.flatMap_eq_nil_iff.2 fun _ _ => rfl

/-- What the nodes below a class add to it are its methods: one of them is its body. -/
theorem flatMap_pairsAt_inClass {t : Tree} (h : HasOneBody t.children) :
    t.children.flatMap (pairsAt source (.inClass t)) = classPairs source t := by
  obtain ⟨b, hb, hkind⟩ := h
  have hfield : b.field = some .body := by
    have hmem : b ∈ t.children.filter Tree.isBodyPart := hb ▸ List.mem_singleton_self b
    simpa using (List.mem_filter.1 hmem).2
  have hpart : t.part? .body = some b := by
    rw [Tree.part?, ← List.head?_filter]
    exact congrArg List.head? hb
  have hother : ∀ c ∈ t.children, c.isBodyPart = false → pairsAt source (.inClass t) c = [] := by
    intro c _ hc
    have hc : c.field ≠ some .body := by simpa using hc
    simp [pairsAt, hc]
  rw [← flatMap_filter_of_eq_nil hother, hb, List.flatMap_singleton, pairsAt,
    if_pos ⟨hkind, hfield⟩, classPairs, hpart, Option.map_some, Option.getD_some,
    methodNames_eq_filterMap, List.map_filterMap, List.filterMap_eq_flatMap_toList]

theorem Tree.IsFlat.isOutlined_kind {t : Tree} (h : t.IsFlat) : t.kind.isOutlined = false := by
  obtain ⟨k, f, s, e, cs⟩ := t
  exact (Tree.isFlat_node.1 h).1.1

/-- What the nodes below decorators add to a class is the definition there, if it is a function. -/
theorem flatMap_pairsAt_decorated {t : Tree} (h : t.Grammatical)
    (hk : t.kind = .decoratedDefinition) (c : Tree) :
    t.children.flatMap (pairsAt source (.decorated c)) = pairsAt source (.inBody c) t := by
  obtain ⟨k, f, s, e, cs⟩ := t
  cases hk
  obtain ⟨allows, below⟩ := Tree.grammatical_node.1 h
  obtain ⟨⟨d, hd, -⟩, hflat⟩ := allows.decorated rfl
  have hmem : d ∈ cs := List.mem_of_mem_filter (hd ▸ List.mem_singleton_self d)
  have hpart : (Tree.node .decoratedDefinition f s e cs).part? .definition = some d := by
    rw [Tree.part?, ← List.head?_filter]
    exact congrArg List.head? hd
  have hother : ∀ n ∈ cs, n.isDefinitionPart = false →
      pairsAt source (.decorated c) n = [] := by
    intro n hn hpart
    have hkind : n.kind ≠ .functionDefinition := by
      intro hkind
      have houtlined := (hflat n hn hpart).isOutlined_kind
      rw [hkind] at houtlined
      cases houtlined
    simp [pairsAt, hkind]
  change cs.flatMap _ = _
  rw [← flatMap_filter_of_eq_nil hother, hd, List.flatMap_singleton, pairsAt, pairsAt,
    methodName?_of_decorated rfl hpart (below d hmem)]
  split <;> rfl

/-- A node that is neither a class nor a function adds what the nodes below it add. -/
theorem flatMap_pairsAt_below {t : Tree} (h : t.Grammatical)
    (hfunction : t.kind ≠ .functionDefinition) (hclass : t.kind ≠ .classDefinition)
    (s : Standing) :
    t.children.flatMap (pairsAt source (s.below t)) = pairsAt source s t := by
  unfold Standing.below
  rw [if_neg hclass]
  cases s with
  | elsewhere => exact flatMap_pairsAt_elsewhere _
  | inClass c =>
    simp only [pairsAt]
    split
    · rfl
    · exact flatMap_pairsAt_elsewhere _
  | inBody c =>
    dsimp only
    split
    · next hdecorated => exact flatMap_pairsAt_decorated h hdecorated c
    · next hdecorated =>
      rw [flatMap_pairsAt_elsewhere, pairsAt, methodName?_of_other hfunction hdecorated]
      rfl
  | decorated c =>
    rw [pairsAt, if_neg hfunction]
    exact flatMap_pairsAt_elsewhere _

/-- One node: the member that it is and what the nodes below it add to the classes above them is
what its tree adds to the class above it and, if it is a class itself, its methods. -/
theorem memberPair?_append_below {t : Tree} (h : t.Grammatical) (above : List Tree) :
    (memberPair? source ⟨t, above⟩).toList ++
        t.children.flatMap (pairsAt source (standing (t :: above))) =
      pairsAt source (standing above) t ++
        if t.kind = .classDefinition then classPairs source t else [] := by
  rw [standing]
  by_cases hfunction : t.kind = .functionDefinition
  · have hbelow : (standing above).below t = .elsewhere := by
      unfold Standing.below
      cases standing above <;> simp [hfunction]
    rw [hbelow, flatMap_pairsAt_elsewhere, pairsAt_of_function h hfunction,
      if_neg (by simp [hfunction])]
  · have hpair : memberPair? source ⟨t, above⟩ = none := by
      simp [memberPair?, classPair?, hfunction]
    rw [hpair, Option.toList_none, List.nil_append]
    by_cases hclass : t.kind = .classDefinition
    · have hbody : HasOneBody t.children := by
        obtain ⟨k, f, s, e, cs⟩ := t
        exact (Tree.grammatical_node.1 h).1.body hclass
      rw [Standing.below_eq_inClass_iff.2 ⟨hclass, rfl⟩, flatMap_pairsAt_inClass hbody,
        pairsAt_of_other hfunction (by simp [hclass]) (by simp [hclass]), if_pos hclass,
        List.nil_append]
    · rw [flatMap_pairsAt_below h hfunction hclass, if_neg hclass, List.append_nil]

/-- The names of all methods that the classes of a tree list. -/
def Tree.methodPairs (source : List Char) (t : Tree) : List (String × String) :=
  (t.preorder.filter fun n => n.kind = .classDefinition).flatMap (classPairs source)

/-- The methods below a node are those of a class, if it is one, and those further below. -/
theorem Tree.methodPairs_node (k : Kind) (f : Option Field) (s e : Place) (cs : List Tree) :
    (Tree.node k f s e cs).methodPairs source =
      (if k = .classDefinition then classPairs source (.node k f s e cs) else []) ++
        cs.flatMap (Tree.methodPairs source) := by
  rw [methodPairs, preorder_node, List.filter_cons, List.filter_flatMap]
  by_cases hk : k = .classDefinition
  · simp only [kind, hk, decide_true, if_true, List.flatMap_cons, List.flatMap_assoc]
    rfl
  · simp only [kind, hk, decide_false, if_false, Bool.false_eq_true, List.flatMap_assoc,
      List.nil_append]
    rfl

/-- The members in a tree below some nodes are the methods of its classes and what it adds to the
class above it. -/
theorem memberPairs_perm {t : Tree} (h : t.Grammatical) (above : List Tree) :
    ((t.lineagesUnder above).filterMap (memberPair? source)).Perm
      (pairsAt source (standing above) t ++ t.methodPairs source) := by
  induction t using Tree.inductionBelow generalizing above with
  | node k f s e cs ih =>
    have hstep := @memberPair?_append_below source _ h above
    obtain ⟨-, below⟩ := Tree.grammatical_node.1 h
    have hbelow : (cs.flatMap fun c => (c.lineagesUnder (.node k f s e cs :: above)).filterMap
        (memberPair? source)).Perm
        (cs.flatMap (pairsAt source (standing (.node k f s e cs :: above))) ++
          cs.flatMap (Tree.methodPairs source)) :=
      (List.Perm.flatMap_left cs fun c hc => ih c hc (below c hc) _).trans
        (List.flatMap_append_perm cs _ _).symm
    rw [Tree.lineagesUnder_node, List.filterMap_eq_flatMap_toList, List.flatMap_cons,
      ← List.filterMap_eq_flatMap_toList, List.filterMap_flatMap, Tree.methodPairs_node,
      ← List.append_assoc]
    refine (hbelow.append_left _).trans ?_
    rw [← List.append_assoc]
    exact .of_eq (congrArg (· ++ _) hstep)

end Members

/-! ## The class around a function -/

section Within

variable {source : List Char} {l : Lineage} {c : Tree}

/-- A member of a class stands within it. -/
theorem Lineage.IsMemberOf.isWithin (h : l.IsMemberOf c) : l.IsWithin c := by
  obtain ⟨hc, body, rest, hkind, -, habove | ⟨d, hd, habove⟩⟩ := h
  · refine ⟨hc, ?_⟩
    simp [habove, hkind, hc, Kind.isNamedDefinition]
  · refine ⟨hc, ?_⟩
    simp [habove, hkind, hd, hc, Kind.isNamedDefinition]

/-- A node stands within at most one class. -/
theorem Lineage.IsWithin.unique {c' : Tree} (h : l.IsWithin c) (h' : l.IsWithin c') : c = c' :=
  Option.some.inj (h.2.symm.trans h'.2)

/-- The class of the scope of a node is the class that it stands within. -/
theorem className_scopeBelow_eq_some_iff {name : String} :
    (scopeBelow source l.above).className = some name ↔
      ∃ c, l.IsWithin c ∧ c.nameIn source = name := by
  obtain ⟨node, above⟩ := l
  induction above with
  | nil => simp [scopeBelow, Scope.className, Lineage.IsWithin]
  | cons t above ih =>
    cases hk : t.kind.isNamedDefinition with
    | true =>
      have hnearest : ∀ c, Lineage.IsWithin ⟨node, t :: above⟩ c ↔
          c.kind = .classDefinition ∧ t = c := by
        simp [Lineage.IsWithin, hk]
      simp only [hnearest]
      simp only [Kind.isNamedDefinition, Bool.or_eq_true, decide_eq_true_eq] at hk
      rcases hk with hk | hk
      · simp [scopeBelow, hk, Scope.className]
      · simp [scopeBelow, hk, Scope.className]
    | false =>
      rw [scopeBelow_cons hk, ih]
      simp only [Lineage.IsWithin, List.find?_cons, hk]

end Within

/-! ## Lists that select more or less -/

section Selection

variable {α β : Type} {m e : α → Option β} {xs : List α}

/-- A selection of fewer items is a part of the other one. -/
theorem filterMap_sublist (h : ∀ a b, m a = some b → e a = some b) :
    (xs.filterMap m).Sublist (xs.filterMap e) := by
  induction xs with
  | nil => exact .slnil
  | cons a xs ih =>
    cases hm : m a with
    | none =>
      rw [List.filterMap_cons_none hm, List.filterMap_cons]
      split
      · exact ih
      · exact ih.cons _
    | some b =>
      rw [List.filterMap_cons_some hm, List.filterMap_cons_some (h a b hm)]
      exact ih.cons_cons b

/-- A selection is a rearrangement of a smaller one only if it selects the same items. -/
theorem filterMap_perm_iff (h : ∀ a b, m a = some b → e a = some b) :
    (xs.filterMap e).Perm (xs.filterMap m) ↔
      ∀ a ∈ xs, (e a).isSome → (m a).isSome := by
  constructor
  · intro hperm a ha he
    by_contra hm
    obtain ⟨b, hb⟩ := Option.isSome_iff_exists.1 he
    -- one item more is selected here and none less elsewhere, so the lengths differ
    obtain ⟨front, back, rfl⟩ := List.append_of_mem ha
    have hlength := hperm.length_eq
    have hfront : (front.filterMap m).length ≤ (front.filterMap e).length :=
      (filterMap_sublist h).length_le
    have hback : (back.filterMap m).length ≤ (back.filterMap e).length :=
      (filterMap_sublist h).length_le
    rw [List.filterMap_append, List.filterMap_append, List.filterMap_cons_some hb,
      List.filterMap_cons_none (by simpa using hm), List.length_append, List.length_append,
      List.length_cons] at hlength
    omega
  · intro hall
    apply List.Perm.of_eq
    apply List.filterMap_congr
    intro a ha
    cases hm : m a with
    | some b => exact h a b hm
    | none =>
      have hnone := mt (hall a ha)
      simpa [hm] using hnone

end Selection

/-! ## The classes of functions and the methods of classes -/

namespace Outline

/-- The functions of an outline that have a class, with that class. -/
def classMembers (o : Outline) : List (String × String) :=
  o.functions.filterMap fun f => f.className.map (·, f.name)

/-- The methods that the classes of an outline list, with the class. -/
def listedMethods (o : Outline) : List (String × String) :=
  o.classes.flatMap fun c => c.methods.map (c.name, ·)

/-- The functions of an outline are those of a tree, and their classes are those that a relation
gives them. -/
def ClassesFollow (source : List Char) (root : Tree) (R : Lineage → Tree → Prop) (o : Outline) :
    Prop :=
  List.Forall₂ (fun l f => l.node.IsNamed source f.name ∧
      ∀ name, f.className = some name ↔ ∃ c, R l c ∧ c.IsNamed source name)
    (root.lineages.filter fun l => l.node.kind = .functionDefinition) o.functions

end Outline

/-- Every function that stands within a class is a member of it. -/
def Tree.HasOnlyMembers (t : Tree) : Prop :=
  ∀ l ∈ t.lineages, l.node.kind = .functionDefinition → ∀ c, l.IsWithin c → l.IsMemberOf c

section Agreement

variable {source : List Char} {root : Tree}

/-- The nodes above a node of a grammatical tree are grammatical. -/
theorem grammatical_lineagesUnder {t : Tree} (h : t.Grammatical) {above : List Tree}
    (habove : ∀ d ∈ above, d.Grammatical) :
    ∀ l ∈ t.lineagesUnder above, ∀ d ∈ l.above, d.Grammatical := by
  induction t using Tree.inductionBelow generalizing above with
  | node k f s e cs ih =>
    rw [Tree.lineagesUnder_node, List.forall_mem_cons, List.forall_mem_flatMap]
    refine ⟨habove, fun c hc => ?_⟩
    exact ih c hc ((Tree.grammatical_node.1 h).2 c hc) (List.forall_mem_cons.2 ⟨h, habove⟩)

/-- The class that a node stands within has a name. -/
theorem isNamed_of_isWithin (h : root.Grammatical) {l : Lineage} (hl : l ∈ root.lineages)
    {c : Tree} (hc : l.IsWithin c) : c.IsNamed source (c.nameIn source) := by
  have hnil : ∀ d ∈ ([] : List Tree), d.Grammatical := nofun
  have hgrammatical : c.Grammatical :=
    grammatical_lineagesUnder h hnil l hl c (List.mem_of_find?_eq_some hc.2)
  exact exists_name hgrammatical (by rw [hc.1]; rfl)

/-- The class of a function is the class that it stands within. -/
theorem classesFollow_isWithin (hfile : root.kind = .file) (h : root.Grammatical)
    (path : String) :
    (Outline.ofTree path source root).ClassesFollow source root Lineage.IsWithin := by
  refine ((List.forall₂_and_left _ _).2
    ⟨fun l hl => List.mem_of_mem_filter hl, @forall₂_functionsAt source root hfile h path⟩).imp ?_
  rintro l f ⟨hl, ⟨scope, decorators, hf⟩, hclass⟩
  refine ⟨(functionOf?_eq_some hf).1, fun name => ?_⟩
  rw [hclass, className_scopeBelow_eq_some_iff]
  refine exists_congr fun c => and_congr_right fun hc => ?_
  have hnamed : c.IsNamed source (c.nameIn source) := isNamed_of_isWithin h hl hc
  constructor
  · rintro rfl
    exact hnamed
  · exact Tree.IsNamed.nameIn_eq

/-- The pairs of classes and functions that a relation gives. -/
theorem classMembers_eq (h : root.Grammatical) {o : Outline} {R : Lineage → Tree → Prop}
    {class? : Lineage → Option Tree} (hfollow : o.ClassesFollow source root R)
    (hclass : ∀ l c, R l c ↔ class? l = some c) (hwithin : ∀ l c, R l c → l.IsWithin c) :
    o.classMembers = root.lineages.filterMap (classPair? source class?) := by
  -- the entries of the outline follow the function definitions, so they can be compared one by one
  have hpairs : (root.lineages.filter fun l => l.node.kind = .functionDefinition).map
      (classPair? source class?) = o.functions.map fun f => f.className.map (·, f.name) := by
    refine map_eq_map_of_forall₂ ((List.forall₂_and_left _ _).2 ⟨fun l hl => hl, hfollow⟩) ?_
    rintro l f ⟨hl, hname, hf⟩
    obtain ⟨hmem, hk⟩ := List.mem_filter.1 hl
    rw [classPair?, if_pos (of_decide_eq_true hk), hname.nameIn_eq]
    cases hc : class? l with
    | none =>
      have hnone : f.className = none := by
        rw [Option.eq_none_iff_forall_ne_some]
        intro name hsome
        obtain ⟨c, hR, -⟩ := (hf name).1 hsome
        rw [hclass, hc] at hR
        cases hR
      rw [hnone]
      rfl
    | some c =>
      have hR : R l c := (hclass l c).2 hc
      rw [(hf _).2 ⟨c, hR, isNamed_of_isWithin h hmem (hwithin l c hR)⟩]
      rfl
  -- nodes that define no function give no pair
  have hfunctions : root.lineages.filterMap (classPair? source class?) =
      (root.lineages.filter fun l => l.node.kind = .functionDefinition).filterMap
        (classPair? source class?) := by
    rw [List.filterMap_filter]
    congr
    funext l
    by_cases hk : l.node.kind = .functionDefinition
    · simp [hk]
    · simp [classPair?, hk]
  have hselect : ∀ {α β : Type} (g : α → Option β) (xs : List α),
      xs.filterMap g = (xs.map g).filterMap id := by
    intro α β g xs
    rw [List.filterMap_map]
    rfl
  rw [hfunctions, hselect, hpairs, ← hselect]
  rfl

/-- The methods that the classes list are the members of the classes. -/
theorem listedMethods_perm (hfile : root.kind = .file) (h : root.Grammatical) (path : String) :
    (root.lineages.filterMap (memberPair? source)).Perm
      (Outline.ofTree path source root).listedMethods := by
  have hclasses : (root.preorder.filter fun n => n.kind = .classDefinition).map
      (classPairs source) =
        (Outline.ofTree path source root).classes.map fun c => c.methods.map (c.name, ·) := by
    refine map_eq_map_of_forall₂ (forall₂_classes hfile h path) ?_
    rintro n c ⟨decorators, hc⟩
    obtain ⟨hname, hmethods⟩ := classOf?_eq_some hc
    rw [classPairs, hname.nameIn_eq, hmethods]
  have hlisted : root.methodPairs source = (Outline.ofTree path source root).listedMethods := by
    rw [Tree.methodPairs, List.flatMap_def, hclasses, ← List.flatMap_def]
    rfl
  rw [← hlisted]
  exact memberPairs_perm h []

/-- The two lists agree if no function stands within a class without being a member. -/
theorem classMembers_perm_iff (hfile : root.kind = .file) (h : root.Grammatical)
    (path : String) :
    (Outline.ofTree path source root).classMembers.Perm
        (Outline.ofTree path source root).listedMethods ↔ root.HasOnlyMembers := by
  have hsome : ∀ (class? : Lineage → Option Tree) (l : Lineage),
      (classPair? source class? l).isSome ↔
        l.node.kind = .functionDefinition ∧ ∃ c, class? l = some c := by
    intro class? l
    by_cases hk : l.node.kind = .functionDefinition
    · simp [classPair?, hk, Option.isSome_iff_exists]
    · simp [classPair?, hk]
  -- a member is within its class, and there is only one class it can be within
  have hsmaller : ∀ l pair, memberPair? source l = some pair →
      classPair? source Lineage.withinClass? l = some pair := by
    intro l pair hpair
    obtain ⟨hk, c, hc⟩ := (hsome _ l).1 (Option.isSome_iff_exists.2 ⟨pair, hpair⟩)
    have hmember : l.IsMemberOf c := Lineage.isMemberOf_iff.2 hc
    have hwithin : l.withinClass? = some c := Lineage.isWithin_iff.1 hmember.isWithin
    rw [← hpair, memberPair?, classPair?, classPair?, hc, hwithin]
  have hfollow := @classesFollow_isWithin source root hfile h path
  rw [classMembers_eq h hfollow (fun _ _ => Lineage.isWithin_iff) (fun _ _ => id),
    ← (listedMethods_perm hfile h path).congr_right, filterMap_perm_iff hsmaller]
  constructor
  · intro hall l hl hk c hc
    have hpair := hall l hl ((hsome _ l).2 ⟨hk, c, Lineage.isWithin_iff.1 hc⟩)
    obtain ⟨-, c', hc'⟩ := (hsome _ l).1 hpair
    have hmember : l.IsMemberOf c' := Lineage.isMemberOf_iff.2 hc'
    rwa [hc.unique hmember.isWithin]
  · intro hmembers l hl hpair
    obtain ⟨hk, c, hc⟩ := (hsome _ l).1 hpair
    have hmember : l.IsMemberOf c := hmembers l hl hk c (Lineage.isWithin_iff.2 hc)
    exact (hsome _ l).2 ⟨hk, c, Lineage.isMemberOf_iff.1 hmember⟩

/-- Functions have the classes that they are members of under the same condition. -/
theorem classesFollow_isMemberOf_iff (hfile : root.kind = .file) (h : root.Grammatical)
    (path : String) :
    (Outline.ofTree path source root).ClassesFollow source root Lineage.IsMemberOf ↔
      root.HasOnlyMembers := by
  constructor
  · intro hfollow
    rw [← @classMembers_perm_iff source root hfile h path,
      classMembers_eq h hfollow (fun _ _ => Lineage.isMemberOf_iff) (fun _ _ hl => hl.isWithin)]
    exact listedMethods_perm hfile h path
  · intro hmembers
    refine ((List.forall₂_and_left _ _).2
      ⟨fun l hl => hl, @classesFollow_isWithin source root hfile h path⟩).imp ?_
    rintro l f ⟨hl, hname, hf⟩
    obtain ⟨hl, hk⟩ := List.mem_filter.1 hl
    refine ⟨hname, fun name => (hf name).trans <| exists_congr fun c => and_congr_left' ?_⟩
    exact ⟨hmembers l hl (of_decide_eq_true hk) c, Lineage.IsMemberOf.isWithin⟩

end Agreement

/-- **Classes of functions and members of classes.**  In the outline of an accepted source text, the
class of a function is the class that it stands within, and the methods that the classes list are
their members.  So functions have the classes that they are members of, and the functions with a
class are the listed methods, exactly if every function within a class is a member of it. -/
theorem classes_follow_nearest_definition {source : List Char} {root : Tree}
    (h : readTree source = .ok root) (path : String) :
    (Outline.ofTree path source root).ClassesFollow source root Lineage.IsWithin ∧
      (root.lineages.filterMap (memberPair? source)).Perm
        (Outline.ofTree path source root).listedMethods ∧
      ((Outline.ofTree path source root).ClassesFollow source root Lineage.IsMemberOf ↔
        root.HasOnlyMembers) ∧
      ((Outline.ofTree path source root).classMembers.Perm
        (Outline.ofTree path source root).listedMethods ↔ root.HasOnlyMembers) := by
  obtain ⟨hfile, hroot⟩ := grammatical_of_readTree h
  exact ⟨classesFollow_isWithin hfile hroot path, listedMethods_perm hfile hroot path,
    classesFollow_isMemberOf_iff hfile hroot path, classMembers_perm_iff hfile hroot path⟩

/-- A decorated method, a method of a class in a class, and a function in a method. -/
def membersSource : List Char :=
  "class A:\n @w\n def f(s):\n  def h(): pass\n class B:\n  def g(s): pass\n".toList

/-- Where all functions of classes are members, both lists agree. -/
theorem classes_follow_nearest_definition_members : ∃ root, readTree membersSource = .ok root ∧
    (Outline.ofTree "a.py" membersSource root).classMembers = [("A", "f"), ("B", "g")] ∧
    (Outline.ofTree "a.py" membersSource root).ClassesFollow membersSource root
      Lineage.IsMemberOf := by
  have hcomputed : (readTree membersSource).toOption.map (fun root =>
      ((Outline.ofTree "a.py" membersSource root).classMembers,
        (Outline.ofTree "a.py" membersSource root).listedMethods)) =
      some ([("A", "f"), ("B", "g")], [("A", "f"), ("B", "g")]) := by
    decide +kernel
  obtain ⟨root, hread, hcomputed⟩ := exists_readTree hcomputed
  obtain ⟨hmembers, hlisted⟩ := Prod.mk.inj hcomputed
  obtain ⟨-, -, hfollow, hperm⟩ := classes_follow_nearest_definition hread "a.py"
  refine ⟨root, hread, hmembers, hfollow.2 (hperm.1 ?_)⟩
  rw [hmembers, hlisted]

/-- A function below a condition in the body of a class. -/
def conditionalSource : List Char :=
  "class A:\n if x:\n  def f(s): pass\n".toList

/-- The function has the class, is no member of it, and is not listed. -/
theorem class_of_function_below_condition : ∃ root, readTree conditionalSource = .ok root ∧
    (Outline.ofTree "a.py" conditionalSource root).classMembers = [("A", "f")] ∧
    (Outline.ofTree "a.py" conditionalSource root).listedMethods = [] ∧
    ¬ (Outline.ofTree "a.py" conditionalSource root).ClassesFollow conditionalSource root
      Lineage.IsMemberOf := by
  have hcomputed : (readTree conditionalSource).toOption.map (fun root =>
      ((Outline.ofTree "a.py" conditionalSource root).classMembers,
        (Outline.ofTree "a.py" conditionalSource root).listedMethods)) =
      some ([("A", "f")], []) := by
    decide +kernel
  obtain ⟨root, hread, hcomputed⟩ := exists_readTree hcomputed
  obtain ⟨hmembers, hlisted⟩ := Prod.mk.inj hcomputed
  obtain ⟨hfile, hroot⟩ := grammatical_of_readTree hread
  refine ⟨root, hread, hmembers, hlisted, fun hfollow => ?_⟩
  have hperm := (@classMembers_perm_iff conditionalSource root hfile hroot "a.py").2
    ((classesFollow_isMemberOf_iff hfile hroot "a.py").1 hfollow)
  rw [hmembers, hlisted] at hperm
  exact absurd hperm.length_eq (by decide)

end CodeSurvey
