/-
# Grammatical trees

A tree is grammatical if every definition in it has a name, every class has one body, which is a
block, no import holds a definition or another import, every decorated definition holds one
definition, beside which nothing is defined or imported, and every operation holds its operands.
Comments and line continuations that are woven into a grammatical tree leave it grammatical
(`Grammatical.weave`).
-/
import CodeSurvey.Proofs.Syntax.Reading

namespace CodeSurvey

/-- Whether a node is the definition that decorators belong to. -/
abbrev Tree.isDefinitionPart (t : Tree) : Bool :=
  t.field = some .definition

/-- Whether a node is the body of the node above it. -/
abbrev Tree.isBodyPart (t : Tree) : Bool :=
  t.field = some .body

/-- Among some nodes there is one body, and it is a block. -/
def HasOneBody (cs : List Tree) : Prop :=
  ∃ b, cs.filter Tree.isBodyPart = [b] ∧ b.kind = .block

/-- Something that is no body does not count. -/
theorem hasOneBody_cons {c : Tree} (hc : c.field ≠ some .body) {cs : List Tree} :
    HasOneBody (c :: cs) ↔ HasOneBody cs := by
  simp [HasOneBody, hc]

/-- Nor do several such parts in front. -/
theorem hasOneBody_append {front : List Tree} (h : ∀ c ∈ front, c.field ≠ some .body)
    {cs : List Tree} : HasOneBody (front ++ cs) ↔ HasOneBody cs := by
  have hnone : front.filter Tree.isBodyPart = [] := by
    rw [List.filter_eq_nil_iff]
    intro c hc
    simpa using h c hc
  rw [HasOneBody, List.filter_append, hnone, List.nil_append, HasOneBody]

/-- What the grammar says about the nodes below a node of a kind. -/
structure Kind.Allows (k : Kind) (cs : List Tree) : Prop where
  named : k.isNamedDefinition = true → ∃ c ∈ cs, c.field = some .name
  flat : k.isImport = true → ∀ c ∈ cs, c.IsFlat
  decorated : k = .decoratedDefinition →
    (∃ d, cs.filter Tree.isDefinitionPart = [d] ∧ d.kind.isNamedDefinition = true) ∧
      ∀ c ∈ cs, c.isDefinitionPart = false → c.IsFlat
  body : k = .classDefinition → HasOneBody cs
  operation : IsOperation k cs

/-- A tree whose nodes are all as the grammar says. -/
inductive Tree.Grammatical : Tree → Prop where
  | node {k : Kind} {f : Option Field} {s t : Place} {cs : List Tree} (allows : k.Allows cs)
    (below : ∀ c ∈ cs, c.Grammatical) : (Tree.node k f s t cs).Grammatical

/-- Only definitions, imports and operations are restricted. -/
theorem Kind.allows_of_isOutlined {k : Kind} (h : k.isOutlined = false) {cs : List Tree}
    (hcs : IsOperation k cs) : k.Allows cs := by
  have hk := mt Kind.isOutlined_iff.2 (Bool.eq_false_iff.1 h)
  simp only [not_or] at hk
  refine ⟨fun h => absurd h hk.1, fun h => absurd h hk.2.2, fun h => absurd h hk.2.1, ?_, hcs⟩
  rintro rfl
  exact absurd rfl hk.1

/-- A kind of which nothing is asked may hold anything. -/
theorem Kind.allows_of_isFree {k : Kind} (h : k.isFree = true) (cs : List Tree) : k.Allows cs := by
  rw [isFree_iff] at h
  exact allows_of_isOutlined h.1 (isOperation_of_other h.2 cs)

/-- Definitions of functions and classes need a name, and those of classes a body. -/
theorem Kind.allows_of_isNamedDefinition {k : Kind} (hk : k.isNamedDefinition = true)
    {cs : List Tree} (hname : ∃ c ∈ cs, c.field = some .name)
    (hbody : k = .classDefinition → HasOneBody cs) : k.Allows cs := by
  simp only [Kind.isNamedDefinition, Bool.or_eq_true, decide_eq_true_eq] at hk
  refine ⟨fun _ => hname, fun himport => ?_, fun hdecorated => ?_, hbody, ?_⟩
  · rcases hk with rfl | rfl <;> cases himport
  · rcases hk with rfl | rfl <;> cases hdecorated
  · rcases hk with rfl | rfl <;> exact isOperation_of_other rfl cs

/-- Imports hold flat trees. -/
theorem Kind.allows_of_isImport {k : Kind} (hk : k.isImport = true) {cs : List Tree}
    (hcs : ∀ c ∈ cs, c.IsFlat) : k.Allows cs := by
  simp only [Kind.isImport, Bool.or_eq_true, decide_eq_true_eq] at hk
  rcases hk with (rfl | rfl) | rfl
  · exact ⟨nofun, fun _ => hcs, nofun, nofun, isOperation_of_other rfl cs⟩
  · exact ⟨nofun, fun _ => hcs, nofun, nofun, isOperation_of_other rfl cs⟩
  · exact ⟨nofun, fun _ => hcs, nofun, nofun, isOperation_of_other rfl cs⟩

namespace Tree

/-- A node is grammatical if its kind allows its children and they are grammatical. -/
theorem grammatical_node {k : Kind} {f : Option Field} {s t : Place} {cs : List Tree} :
    (node k f s t cs).Grammatical ↔ k.Allows cs ∧ ∀ c ∈ cs, c.Grammatical := by
  constructor
  · rintro (⟨allows, below⟩)
    exact ⟨allows, below⟩
  · rintro ⟨allows, below⟩
    exact .node allows below

theorem grammatical_ofParts {k : Kind} {cs : List Tree} :
    (ofParts k cs).Grammatical ↔ k.Allows cs ∧ ∀ c ∈ cs, c.Grammatical :=
  grammatical_node

/-- Under a kind of which nothing is asked, only the children matter. -/
@[simp] theorem grammatical_ofParts_of_isFree {k : Kind} (h : k.isFree = true) {cs : List Tree} :
    (ofParts k cs).Grammatical ↔ ∀ c ∈ cs, c.Grammatical := by
  rw [grammatical_ofParts, and_iff_right (k.allows_of_isFree h cs)]

/-- The part that a node plays does not matter. -/
@[simp] theorem grammatical_withField {f : Field} {t : Tree} :
    (t.withField f).Grammatical ↔ t.Grammatical := by
  cases t
  rw [withField, grammatical_node, grammatical_node]

/-- Induction on a tree, with the hypothesis for every node below. -/
theorem inductionBelow {motive : Tree → Prop}
    (node : ∀ k f s t cs, (∀ c ∈ cs, motive c) → motive (node k f s t cs)) :
    ∀ t, motive t
  | .node k f s t cs => node k f s t cs fun c _ => inductionBelow node c

/-- A tree without definitions and imports is grammatical. -/
@[simp] theorem grammatical_of_isFlat {t : Tree} (h : t.IsFlat) : t.Grammatical := by
  induction t using inductionBelow with
  | node k f s t cs ih =>
    obtain ⟨hk, hcs⟩ := isFlat_node.1 h
    exact .node (k.allows_of_isOutlined hk.1 hk.2) fun c hc => ih c hc (hcs c hc)

/-- Every operation of a grammatical tree holds its operands. -/
theorem Grammatical.isOperation {t : Tree} (h : t.Grammatical) :
    ∀ n ∈ t.preorder, IsOperation n.kind n.children := by
  induction h with
  | node allows below ih =>
    rw [preorder_node, List.forall_mem_cons, List.forall_mem_flatMap]
    exact ⟨allows.operation, ih⟩

/-! ## Weaving comments in -/

section Weave

variable {extra : Tree}

/-- A node keeps its kind when an extra is woven into it. -/
@[simp] theorem kind_weave (extra t : Tree) : (weave extra t).kind = t.kind := by
  cases t
  rw [weave]
  rfl

@[simp] theorem field_weave (extra t : Tree) : (weave extra t).field = t.field := by
  cases t
  rw [weave]
  rfl

/-- An extra gets a place of its own among nodes, or goes into one of them. -/
theorem weaveAmong_cases (extra : Tree) (cs : List Tree) :
    (∃ front back, cs = front ++ back ∧ weaveAmong extra cs = front ++ extra :: back) ∨
      ∃ front c back, cs = front ++ c :: back ∧
        weaveAmong extra cs = front ++ weave extra c :: back := by
  induction cs with
  | nil => exact .inl ⟨[], [], rfl, rfl⟩
  | cons c cs ih =>
    rw [weaveAmong]
    split
    · exact .inr ⟨[], c, cs, rfl, rfl⟩
    · split
      · exact .inl ⟨[], c :: cs, rfl, rfl⟩
      · rcases ih with ⟨front, back, hcs, h⟩ | ⟨front, d, back, hcs, h⟩
        · exact .inl ⟨c :: front, back, by rw [hcs]; rfl, by rw [h]; rfl⟩
        · exact .inr ⟨c :: front, d, back, by rw [hcs]; rfl, by rw [h]; rfl⟩

/-- What holds of an extra and of all nodes, woven or not, holds after weaving. -/
theorem forall_mem_weaveAmong {P : Tree → Prop} {cs : List Tree} (hextra : P extra)
    (hcs : ∀ c ∈ cs, P c) (hweave : ∀ c ∈ cs, P (weave extra c)) :
    ∀ c ∈ weaveAmong extra cs, P c := by
  rcases weaveAmong_cases extra cs with ⟨front, back, rfl, h⟩ | ⟨front, d, back, rfl, h⟩
  · rw [h]
    simp_all [or_imp, forall_and]
  · rw [h]
    simp_all [or_imp, forall_and]

/-- A node keeps its part in an operation. -/
@[simp] theorem role_weave (extra t : Tree) : (weave extra t).role = t.role := by
  rw [role, kind_weave, field_weave, role]

/-- Weaving an extra keeps the operands of an operation. -/
theorem isOperation_weaveAmong (hextra : extra.IsExtra) {k : Kind} {cs : List Tree}
    (h : IsOperation k cs) : IsOperation k (weaveAmong extra cs) := by
  have hrole : extra.role.1.isExtra = true := hextra.kind
  obtain ⟨hbinary, hunary, hcomparison, hextras⟩ := h
  rcases weaveAmong_cases extra cs with ⟨front, back, rfl, hw⟩ | ⟨front, c, back, rfl, hw⟩
  · rw [hw]
    constructor
    · simpa [hextra.field] using hbinary
    · simpa [hextra.field] using hunary
    · simpa [rolesAmong, hrole] using hcomparison
    · simp only [List.forall_mem_append, List.forall_mem_cons] at hextras ⊢
      exact fun hk => ⟨(hextras hk).1, fun _ => hextra.field, (hextras hk).2⟩
  · rw [hw]
    constructor
    · simpa [List.filterMap_cons] using hbinary
    · simpa [List.filterMap_cons] using hunary
    · simpa [rolesAmong] using hcomparison
    · simpa only [List.forall_mem_append, List.forall_mem_cons, kind_weave, field_weave] using hextras

/-- A flat tree stays flat: an extra is no definition, no import and no operand. -/
theorem isFlat_weave (hextra : extra.IsExtra) {t : Tree} (h : t.IsFlat) :
    (weave extra t).IsFlat := by
  induction t using inductionBelow with
  | node k f s t cs ih =>
    obtain ⟨hk, hcs⟩ := isFlat_node.1 h
    rw [weave]
    exact isFlat_node.2 ⟨⟨hk.1, isOperation_weaveAmong hextra hk.2⟩,
      forall_mem_weaveAmong hextra.flat hcs fun c hc => ih c hc (hcs c hc)⟩

/-- Weaving an extra keeps the node that plays a part alone. -/
theorem filter_field_weaveAmong (hextra : extra.field = none) {f : Field} {cs : List Tree}
    {d : Tree} (h : cs.filter (fun c => c.field = some f) = [d]) :
    ∃ d', (weaveAmong extra cs).filter (fun c => c.field = some f) = [d'] ∧
      d'.kind = d.kind := by
  rcases weaveAmong_cases extra cs with ⟨front, back, rfl, hw⟩ | ⟨front, c, back, rfl, hw⟩
  · refine ⟨d, ?_, rfl⟩
    rw [hw, ← h]
    simp [hextra]
  · rw [hw]
    by_cases hc : c.field = some f
    · have hnil : front.filter (fun c => c.field = some f) = [] ∧ c = d ∧
          back.filter (fun c => c.field = some f) = [] := by
        rw [List.filter_append, List.filter_cons_of_pos (by simpa using hc),
          List.append_eq_singleton_iff] at h
        simpa using h
      obtain ⟨hfront, rfl, hback⟩ := hnil
      refine ⟨weave extra c, ?_, kind_weave extra c⟩
      rw [List.filter_append, List.filter_cons_of_pos (by simpa using hc), hfront, hback]
      rfl
    · refine ⟨d, ?_, rfl⟩
      rw [← h]
      simp [hc]

/-- For every node there is one that plays the same part afterwards. -/
theorem exists_field_weaveAmong (extra : Tree) {cs : List Tree} {c : Tree} (hc : c ∈ cs) :
    ∃ c' ∈ weaveAmong extra cs, c'.field = c.field := by
  rcases weaveAmong_cases extra cs with ⟨front, back, rfl, h⟩ | ⟨front, d, back, rfl, h⟩
  · rw [h]
    refine ⟨c, ?_, rfl⟩
    rw [List.mem_append] at hc
    rw [List.mem_append, List.mem_cons]
    tauto
  · rw [h]
    rw [List.mem_append, List.mem_cons] at hc
    rcases hc with hc | rfl | hc
    · exact ⟨c, List.mem_append_left _ hc, rfl⟩
    · exact ⟨weave extra c, by simp, field_weave extra c⟩
    · exact ⟨c, List.mem_append_right _ (List.mem_cons_of_mem _ hc), rfl⟩

/-- Weaving an extra keeps what the grammar asks of a node. -/
theorem allows_weaveAmong (hextra : extra.IsExtra) {k : Kind} {cs : List Tree}
    (h : k.Allows cs) : k.Allows (weaveAmong extra cs) where
  named := by
    intro hk
    obtain ⟨c, hc, hname⟩ := h.named hk
    obtain ⟨c', hc', hfield'⟩ := exists_field_weaveAmong extra hc
    exact ⟨c', hc', hfield'.trans hname⟩
  flat := by
    intro hk
    have hcs := h.flat hk
    exact forall_mem_weaveAmong hextra.flat hcs fun c hc => isFlat_weave hextra (hcs c hc)
  decorated := by
    intro hk
    obtain ⟨⟨d, hd, hkind⟩, hcs⟩ := h.decorated hk
    obtain ⟨d', hd', hkind'⟩ := filter_field_weaveAmong hextra.field hd
    refine ⟨⟨d', hd', by rw [hkind', hkind]⟩, ?_⟩
    refine forall_mem_weaveAmong (fun _ => hextra.flat) hcs fun c hc hpart => ?_
    rw [isDefinitionPart, field_weave] at hpart
    exact isFlat_weave hextra (hcs c hc hpart)
  body := by
    intro hk
    obtain ⟨b, hb, hkind⟩ := h.body hk
    obtain ⟨b', hb', hkind'⟩ := filter_field_weaveAmong hextra.field hb
    exact ⟨b', hb', hkind'.trans hkind⟩
  operation := isOperation_weaveAmong hextra h.operation

/-- A grammatical tree stays grammatical when an extra is woven in. -/
theorem Grammatical.weave {t : Tree} (h : t.Grammatical) (hextra : extra.IsExtra) :
    (Tree.weave extra t).Grammatical := by
  induction h with
  | node allows below ih =>
    rw [Tree.weave]
    exact .node (allows_weaveAmong hextra allows)
      (forall_mem_weaveAmong (grammatical_of_isFlat hextra.flat) below ih)

/-- All extras of a tidy reader may be woven into a grammatical tree. -/
theorem Grammatical.weaveAll {t : Tree} (h : t.Grammatical) {extras : List Tree}
    (hextras : ∀ e ∈ extras, e.IsExtra) :
    (extras.foldl (fun t extra => Tree.weave extra t) t).Grammatical := by
  induction extras generalizing t with
  | nil => exact h
  | cons e es ih =>
    rw [List.forall_mem_cons] at hextras
    exact ih (h.weave hextras.1) hextras.2

/-- Weaving in any number of extras keeps the kind at the top. -/
theorem kind_weaveAll (extras : List Tree) (t : Tree) :
    (extras.foldl (fun t extra => Tree.weave extra t) t).kind = t.kind := by
  induction extras generalizing t with
  | nil => rfl
  | cons e es ih => rw [List.foldl_cons, ih, kind_weave]

end Weave

end Tree

end CodeSurvey
