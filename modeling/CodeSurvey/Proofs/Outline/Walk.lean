/-
# The walk meets every definition and import once

The nodes of a tree that an outline records are the definitions of functions and classes and the
imports.  A walk over a grammatical tree gives one entry for each of them, in the order of the
nodes, and carries the scope that the nodes above decide (`recordsAt_entriesOf`); the induction is
on the tree, and a decorated definition is entered through its definition only.  Trees of accepted
source texts are grammatical, so their outlines list all of their functions, classes and imports.
-/
import CodeSurvey.Outline.Reading
import CodeSurvey.Proofs.Syntax.Lineage
import CodeSurvey.Proofs.Syntax.Statements

namespace CodeSurvey

/-! ## Nodes and their entries -/

/-- The kinds of nodes that an outline records. -/
def Kind.isRecorded (k : Kind) : Bool :=
  k.isNamedDefinition || k.isImport

/-- What is recorded is outlined. -/
theorem Kind.isOutlined_of_isRecorded {k : Kind} (h : k.isRecorded = true) :
    k.isOutlined = true := by
  rw [Kind.isOutlined_iff]
  rcases Bool.or_eq_true_iff.1 h with h | h
  · exact .inl h
  · exact .inr (.inr h)

/-- The nodes of a tree that an outline records, each before the nodes below it. -/
def Tree.recorded (t : Tree) : List Tree :=
  t.preorder.filter (·.kind.isRecorded)

/-- The recorded nodes of a tree below some nodes, with the nodes above them. -/
def Tree.recordedUnder (above : List Tree) (t : Tree) : List Lineage :=
  (t.lineagesUnder above).filter (·.node.kind.isRecorded)

/-- The entry of an import of any kind. -/
def importEntryOf (source : List Char) (t : Tree) : ImportEntry :=
  match t.kind with
  | .importStatement => importOf source t
  | .futureImportStatement => futureImportOf source t
  | _ => fromImportOf source t

/-- An entry that records a node. -/
inductive Entry.Records (source : List Char) (n : Tree) : Entry → Prop where
  | ofFunction (scope : Scope) (decorators : List String) {f : FunctionEntry}
    (kind : n.kind = .functionDefinition)
    (entry : functionOf? source scope decorators n = some f) : Records source n (.function f)
  | ofClass (decorators : List String) {c : ClassEntry} (kind : n.kind = .classDefinition)
    (entry : classOf? source decorators n = some c) : Records source n (.class c)
  | ofImport (kind : n.kind.isImport = true) :
    Records source n (.import (importEntryOf source n))

/-- Whether an entry records a definition or an import. -/
def Entry.isRecord : Entry → Bool
  | .global _ => false
  | _ => true

/-- The name of a definition. -/
def Tree.nameIn (source : List Char) (t : Tree) : String :=
  ((t.part? .name).map (·.textIn source)).getD ""

/-- A definition has a given name. -/
def Tree.IsNamed (source : List Char) (t : Tree) (name : String) : Prop :=
  (t.part? .name).map (·.textIn source) = some name

theorem Tree.IsNamed.nameIn_eq {source : List Char} {t : Tree} {name : String}
    (h : t.IsNamed source name) : t.nameIn source = name := by
  rw [Tree.nameIn, h, Option.getD_some]

/-- The scope below some nodes: the nearest class or function among them decides. -/
def scopeBelow (source : List Char) : List Tree → Scope
  | [] => .file
  | t :: above =>
    match t.kind with
    | .functionDefinition => .inFunction
    | .classDefinition => .inClass (t.nameIn source)
    | _ => scopeBelow source above

/-- Only definitions change the scope. -/
theorem scopeBelow_cons {source : List Char} {t : Tree} (h : t.kind.isNamedDefinition = false)
    (above : List Tree) : scopeBelow source (t :: above) = scopeBelow source above := by
  rw [scopeBelow]
  split
  · simp_all [Kind.isNamedDefinition]
  · simp_all [Kind.isNamedDefinition]
  · rfl

/-- An entry that records a node and, if it is a function, has the class of the scope there. -/
def Entry.RecordsAt (source : List Char) (l : Lineage) (e : Entry) : Prop :=
  Entry.Records source l.node e ∧
    ∀ f, e = .function f → f.className = (scopeBelow source l.above).className

namespace Tree

/-- The recorded nodes come in the order of the tree. -/
theorem map_node_recordedUnder (above : List Tree) (t : Tree) :
    (t.recordedUnder above).map Lineage.node = t.recorded := by
  rw [recorded, ← map_node_lineagesUnder above t, List.filter_map]
  rfl

/-- A recorded node comes before those below it. -/
theorem recordedUnder_of_isRecorded {k : Kind} (hk : k.isRecorded = true) (above : List Tree)
    (f : Option Field) (s t : Place) (cs : List Tree) :
    (node k f s t cs).recordedUnder above =
      ⟨node k f s t cs, above⟩ :: cs.flatMap (recordedUnder (node k f s t cs :: above)) := by
  rw [recordedUnder, lineagesUnder_node, List.filter_cons_of_pos (by exact hk),
    List.filter_flatMap]
  rfl

/-- Another node adds those below it only. -/
theorem recordedUnder_of_not_isRecorded {k : Kind} (hk : k.isRecorded = false)
    (above : List Tree) (f : Option Field) (s t : Place) (cs : List Tree) :
    (node k f s t cs).recordedUnder above =
      cs.flatMap (recordedUnder (node k f s t cs :: above)) := by
  rw [recordedUnder, lineagesUnder_node,
    List.filter_cons_of_neg (by exact Bool.eq_false_iff.1 hk), List.filter_flatMap]
  rfl

/-- In a flat tree nothing is recorded. -/
theorem IsFlat.recordedUnder_eq_nil {t : Tree} (h : t.IsFlat) (above : List Tree) :
    t.recordedUnder above = [] := by
  rw [← List.map_eq_nil_iff, map_node_recordedUnder, recorded, List.filter_eq_nil_iff]
  intro n hn hrecorded
  have houtlined := Kind.isOutlined_of_isRecorded hrecorded
  rw [(h n hn).1] at houtlined
  cases houtlined

theorem flatMap_recordedUnder_eq_nil {cs : List Tree} (h : ∀ c ∈ cs, c.IsFlat)
    (above : List Tree) : cs.flatMap (recordedUnder above) = [] := by
  rw [List.flatMap_eq_nil_iff]
  exact fun c hc => (h c hc).recordedUnder_eq_nil above

end Tree

/-- Items that give nothing may be left out. -/
theorem flatMap_filter_of_eq_nil {α β : Type} {p : α → Bool} {f : α → List β} {xs : List α}
    (h : ∀ x ∈ xs, p x = false → f x = []) : (xs.filter p).flatMap f = xs.flatMap f := by
  induction xs with
  | nil => rfl
  | cons x xs ih =>
    rw [List.forall_mem_cons] at h
    rw [List.filter_cons, List.flatMap_cons, ← ih h.2]
    split
    · rw [List.flatMap_cons]
    · rw [h.1 (by simp_all), List.nil_append]

/-! ## One entry for each node -/

section Walk

variable {source : List Char}

/-- The entries among trees are those of each tree, one after another. -/
theorem entriesAmong_eq_flatMap (scope : Scope) (above : Kind) (cs : List Tree) :
    entriesAmong source scope above cs = cs.flatMap (entriesOf source scope above []) := by
  induction cs with
  | nil => rw [entriesAmong]; rfl
  | cons c cs ih => rw [entriesAmong, ih, List.flatMap_cons]

/-- Below decorators, the entries are those of the definition. -/
theorem entriesUnder?_of_decorated (scope : Scope) (decorators : List String) {cs : List Tree}
    {d : Tree} (hd : cs.filter Tree.isDefinitionPart = [d])
    (hkind : d.kind.isNamedDefinition = true) :
    entriesUnder? source scope decorators cs =
      some (entriesOf source scope .decoratedDefinition decorators d) := by
  induction cs with
  | nil => cases hd
  | cons c cs ih =>
    rw [entriesUnder?]
    by_cases hc : c.field = some .definition
    · rw [List.filter_cons_of_pos (by simpa using hc)] at hd
      obtain ⟨rfl, -⟩ := List.cons.inj hd
      rw [if_pos hc, if_pos hkind]
    · rw [List.filter_cons_of_neg (by simpa using hc)] at hd
      rw [if_neg hc, ih hd]

/-- A definition in a grammatical tree has a node for its name. -/
theorem exists_part? {k : Kind} {f : Option Field} {s t : Place} {cs : List Tree}
    (h : k.Allows cs) (hk : k.isNamedDefinition = true) :
    ∃ name, (Tree.node k f s t cs).part? .name = some name := by
  obtain ⟨c, hc, hfield⟩ := h.named hk
  rw [← Option.isSome_iff_exists, Tree.part?, List.find?_isSome]
  exact ⟨c, hc, by simpa using hfield⟩

/-- The definition of a function with a name has an entry. -/
theorem exists_functionOf? (source : List Char) (scope : Scope) (decorators : List String)
    {n name : Tree} (h : n.part? .name = some name) :
    ∃ f, functionOf? source scope decorators n = some f := by
  unfold functionOf?
  rw [h]
  exact ⟨_, rfl⟩

/-- So has that of a class. -/
theorem exists_classOf? (source : List Char) (decorators : List String) {n name : Tree}
    (h : n.part? .name = some name) : ∃ c, classOf? source decorators n = some c := by
  unfold classOf?
  rw [h]
  exact ⟨_, rfl⟩

/-- What the entry of a function takes from its definition. -/
theorem functionOf?_eq_some {scope : Scope} {decorators : List String} {n : Tree}
    {f : FunctionEntry} (h : functionOf? source scope decorators n = some f) :
    n.IsNamed source f.name ∧ f.className = scope.className ∧ f.calls = callNames source n ∧
      f.complexity = n.cyclomatic := by
  obtain ⟨name, hname, hf⟩ := Option.bind_eq_some_iff.1 h
  rw [← Option.some.inj hf, Tree.IsNamed, hname]
  exact ⟨rfl, rfl, rfl, rfl⟩

/-- Lists that are put together from matching pieces match. -/
theorem forall₂_flatMap {α β γ : Type} {R : β → γ → Prop} {f : α → List β} {g : α → List γ}
    {xs : List α} (h : ∀ x ∈ xs, List.Forall₂ R (f x) (g x)) :
    List.Forall₂ R (xs.flatMap f) (xs.flatMap g) := by
  induction xs with
  | nil => exact .nil
  | cons x xs ih =>
    rw [List.forall_mem_cons] at h
    exact List.rel_append h.1 (ih h.2)

/-- What the entry of a class takes from its definition. -/
theorem classOf?_eq_some {decorators : List String} {n : Tree} {c : ClassEntry}
    (h : classOf? source decorators n = some c) :
    n.IsNamed source c.name ∧
      c.methods = ((n.part? .body).map (methodNames source)).getD [] := by
  obtain ⟨name, hname, hc⟩ := Option.bind_eq_some_iff.1 h
  rw [← Option.some.inj hc, Tree.IsNamed, hname]
  exact ⟨rfl, rfl⟩

/-- Below an import, nothing is recorded. -/
theorem recordsAt_import {k : Kind} {f : Option Field} {s t : Place} {cs : List Tree}
    (hk : k.isImport = true) (h : k.Allows cs) (above : List Tree) :
    List.Forall₂ (Entry.RecordsAt source) ((Tree.node k f s t cs).recordedUnder above)
      [.import (importEntryOf source (Tree.node k f s t cs))] := by
  have hrecorded : k.isRecorded = true := by rw [Kind.isRecorded, hk, Bool.or_true]
  rw [Tree.recordedUnder_of_isRecorded hrecorded, Tree.flatMap_recordedUnder_eq_nil (h.flat hk)]
  exact .cons ⟨.ofImport hk, nofun⟩ .nil

/-- A walk over a grammatical tree gives one entry for each recorded node, in their order, and the
classes of functions are those of the nearest scopes. -/
theorem recordsAt_entriesOf {t : Tree} (ht : t.Grammatical) (above : List Tree) (kind : Kind)
    (decorators : List String) :
    List.Forall₂ (Entry.RecordsAt source) (t.recordedUnder above)
      ((entriesOf source (scopeBelow source above) kind decorators t).filter
        Entry.isRecord) := by
  induction ht generalizing above kind decorators with
  | @node k f s e cs allows below ih =>
    have hbelow : ∀ above kind, List.Forall₂ (Entry.RecordsAt source)
        (cs.flatMap (Tree.recordedUnder above))
        ((entriesAmong source (scopeBelow source above) kind cs).filter Entry.isRecord) := by
      intro above kind
      rw [entriesAmong_eq_flatMap, List.filter_flatMap]
      exact forall₂_flatMap fun c hc => ih c hc above kind []
    -- the cases are those of the walk, and every import is the same case
    unfold entriesOf
    split
    · obtain ⟨name, hname⟩ := exists_part? (f := f) (s := s) (t := e) allows rfl
      obtain ⟨entry, hentry⟩ :=
        exists_functionOf? source (scopeBelow source above) decorators hname
      rw [Tree.recordedUnder_of_isRecorded rfl]
      simp only [hentry]
      refine .cons ⟨.ofFunction _ decorators rfl hentry, ?_⟩ (hbelow _ _)
      rintro _ ⟨⟩
      exact (functionOf?_eq_some hentry).2.1
    · obtain ⟨name, hname⟩ := exists_part? (f := f) (s := s) (t := e) allows rfl
      obtain ⟨entry, hentry⟩ := exists_classOf? source decorators hname
      rw [Tree.recordedUnder_of_isRecorded rfl]
      simp only [hentry]
      rw [← (classOf?_eq_some hentry).1.nameIn_eq]
      exact .cons ⟨.ofClass decorators rfl hentry, nofun⟩
        (hbelow (.node .classDefinition f s e cs :: above) .classDefinition)
    · obtain ⟨⟨d, hd, hkind⟩, hflat⟩ := allows.decorated rfl
      have hmem : d ∈ cs := List.mem_of_mem_filter (hd ▸ List.mem_singleton_self d)
      rw [Tree.recordedUnder_of_not_isRecorded rfl,
        ← flatMap_filter_of_eq_nil fun c hc hpart => (hflat c hc hpart).recordedUnder_eq_nil _, hd,
        List.flatMap_singleton, entriesUnder?_of_decorated _ _ hd hkind]
      exact ih d hmem (.node .decoratedDefinition f s e cs :: above) .decoratedDefinition
        (decoratorTexts source cs)
    · exact recordsAt_import rfl allows above
    · exact recordsAt_import rfl allows above
    · exact recordsAt_import rfl allows above
    · rw [Tree.recordedUnder_of_not_isRecorded rfl, List.filter_append]
      have hglobal : ∀ globals : List GlobalEntry,
          (globals.map Entry.global).filter Entry.isRecord = [] := by
        intro globals
        rw [List.filter_eq_nil_iff]
        simp [Entry.isRecord]
      rw [hglobal, List.nil_append]
      exact hbelow (.node .expressionStatement f s e cs :: above) .expressionStatement
    · have hother : k.isRecorded = false := by
        simp_all [Kind.isRecorded, Kind.isNamedDefinition, Kind.isImport]
      have hscope : k.isNamedDefinition = false := (Bool.or_eq_false_iff.1 hother).1
      rw [Tree.recordedUnder_of_not_isRecorded hother,
        ← scopeBelow_cons (t := .node k f s e cs) hscope]
      exact hbelow (.node k f s e cs :: above) k

end Walk

/-! ## The lists of an outline -/

/-- The entries of one sort list the nodes of one sort. -/
theorem forall₂_filter_filterMap {α β γ : Type} {R : α → β → Prop} {S : α → γ → Prop}
    {p : α → Bool} {g : β → Option γ} {xs : List α} {ys : List β} (h : List.Forall₂ R xs ys)
    (hout : ∀ x y, R x y → p x = false → g y = none)
    (hin : ∀ x y, R x y → p x = true → ∃ z, g y = some z ∧ S x z) :
    List.Forall₂ S (xs.filter p) (ys.filterMap g) := by
  induction h with
  | nil => exact .nil
  | @cons x y xs ys hxy _ ih =>
    cases hp : p x with
    | false =>
      rw [List.filter_cons_of_neg (Bool.eq_false_iff.1 hp),
        List.filterMap_cons_none (hout x y hxy hp)]
      exact ih
    | true =>
      obtain ⟨z, hz, hS⟩ := hin x y hxy hp
      rw [List.filter_cons_of_pos hp, List.filterMap_cons_some hz]
      exact .cons hS ih

/-- What the items of two lists share, the lists share. -/
theorem map_eq_map_of_forall₂ {α β γ : Type} {R : α → β → Prop} {f : α → γ} {g : β → γ}
    {xs : List α} {ys : List β} (h : List.Forall₂ R xs ys) (hR : ∀ x y, R x y → f x = g y) :
    xs.map f = ys.map g := by
  induction h with
  | nil => rfl
  | cons hxy _ ih => rw [List.map_cons, List.map_cons, hR _ _ hxy, ih]

/-- Matching lists have items of matching sorts. -/
theorem exists_mem_iff_of_forall₂ {α β : Type} {R : α → β → Prop} {p : α → Prop} {q : β → Prop}
    {xs : List α} {ys : List β} (h : List.Forall₂ R xs ys) (hR : ∀ x y, R x y → (p x ↔ q y)) :
    (∃ x ∈ xs, p x) ↔ ∃ y ∈ ys, q y := by
  induction h with
  | nil => simp
  | cons hxy _ ih => simp only [List.exists_mem_cons_iff, hR _ _ hxy, ih]

/-- Leaving global variables out does not matter for the other entries. -/
theorem filterMap_filter_isRecord {γ : Type} {g : Entry → Option γ}
    (hg : ∀ e, g (.global e) = none) (entries : List Entry) :
    (entries.filter Entry.isRecord).filterMap g = entries.filterMap g := by
  rw [List.filterMap_filter]
  congr
  funext e
  cases e <;> simp [Entry.isRecord, hg]

/-- The nodes of a recorded kind are all recorded. -/
theorem filter_recordedUnder {p : Kind → Bool} (hp : ∀ k, p k = true → k.isRecorded = true)
    (above : List Tree) (t : Tree) :
    (t.recordedUnder above).filter (fun l => p l.node.kind) =
      (t.lineagesUnder above).filter (fun l => p l.node.kind) := by
  rw [Tree.recordedUnder, List.filter_filter]
  congr
  funext l
  cases hk : p l.node.kind with
  | false => rfl
  | true => rw [hp _ hk]; rfl

/-- The entries of a file record its nodes, with their scopes. -/
theorem recordsAt_file {source : List Char} {root : Tree} (hfile : root.kind = .file)
    (h : root.Grammatical) :
    List.Forall₂ (Entry.RecordsAt source) (root.recordedUnder [])
      ((entriesAmong source .file root.kind root.children).filter Entry.isRecord) := by
  have hwalk : List.Forall₂ (Entry.RecordsAt source) (root.recordedUnder []) _ :=
    recordsAt_entriesOf h [] .file []
  obtain ⟨k, f, s, t, cs⟩ := root
  cases hfile
  simp only [entriesOf] at hwalk
  exact hwalk

/-- The entries of one sort in an outline list the nodes of one sort, with the nodes above them. -/
theorem forall₂_entriesAt {γ : Type} {source : List Char} {root : Tree}
    (hfile : root.kind = .file) (h : root.Grammatical) {p : Kind → Bool} {g : Entry → Option γ}
    {S : Lineage → γ → Prop} (hp : ∀ k, p k = true → k.isRecorded = true)
    (hg : ∀ e, g (.global e) = none)
    (hout : ∀ l e, Entry.RecordsAt source l e → p l.node.kind = false → g e = none)
    (hin : ∀ l e, Entry.RecordsAt source l e → p l.node.kind = true →
      ∃ z, g e = some z ∧ S l z) :
    List.Forall₂ S (root.lineages.filter fun l => p l.node.kind)
      ((entriesAmong source .file root.kind root.children).filterMap g) := by
  have hrecords := forall₂_filter_filterMap (p := fun l => p l.node.kind) (recordsAt_file hfile h)
    hout hin
  rwa [filter_recordedUnder hp, filterMap_filter_isRecord hg] at hrecords

/-- What relates nodes with the nodes above them to items relates the nodes alone to them. -/
theorem forall₂_preorder {γ : Type} {root : Tree} {p : Tree → Bool} {S : Tree → γ → Prop}
    {zs : List γ} (h : List.Forall₂ (fun l z => S l.node z)
      (root.lineages.filter fun l => p l.node) zs) :
    List.Forall₂ S (root.preorder.filter p) zs := by
  rw [← Tree.map_node_lineagesUnder [] root, List.filter_map, List.forall₂_map_left_iff]
  exact h

/-- The entries of one sort in an outline list the nodes of one sort. -/
theorem forall₂_entries {γ : Type} {source : List Char} {root : Tree} (hfile : root.kind = .file)
    (h : root.Grammatical) {p : Kind → Bool} {g : Entry → Option γ} {S : Tree → γ → Prop}
    (hp : ∀ k, p k = true → k.isRecorded = true) (hg : ∀ e, g (.global e) = none)
    (hout : ∀ n e, Entry.Records source n e → p n.kind = false → g e = none)
    (hin : ∀ n e, Entry.Records source n e → p n.kind = true → ∃ z, g e = some z ∧ S n z) :
    List.Forall₂ S (root.preorder.filter fun n => p n.kind)
      ((entriesAmong source .file root.kind root.children).filterMap g) :=
  forall₂_preorder <| forall₂_entriesAt hfile h hp hg (fun l e hl => hout l.node e hl.1)
    fun l e hl => hin l.node e hl.1

/-- An accepted source text has a grammatical tree. -/
theorem grammatical_of_readTree {source : List Char} {root : Tree}
    (h : readTree source = .ok root) : root.kind = .file ∧ root.Grammatical := by
  unfold readTree at h
  split at h
  · cases h
  · next t ht =>
    split at h
    · cases h
    · cases h
      exact grammatical_of_parseFile? ht

/-- The functions of an outline, with the nodes above their definitions. -/
theorem forall₂_functionsAt {source : List Char} {root : Tree} (hfile : root.kind = .file)
    (h : root.Grammatical) (path : String) :
    List.Forall₂ (fun l f => (∃ scope decorators,
        functionOf? source scope decorators l.node = some f) ∧
          f.className = (scopeBelow source l.above).className)
      (root.lineages.filter fun l => l.node.kind = .functionDefinition)
      (Outline.ofTree path source root).functions := by
  apply forall₂_entriesAt (p := fun k => k = .functionDefinition) hfile h
  · intro k hk
    cases of_decide_eq_true hk
    rfl
  · exact fun _ => rfl
  · rintro l e ⟨⟨_, _, hk, _⟩ | ⟨_, hk, _⟩ | hk, -⟩ hn
    · simp [hk] at hn
    · rfl
    · rfl
  · rintro l e ⟨⟨scope, decorators, hk, hf⟩ | ⟨_, hk, _⟩ | hk, hclass⟩ hn
    · exact ⟨_, rfl, ⟨scope, decorators, hf⟩, hclass _ rfl⟩
    · simp [hk] at hn
    · rw [of_decide_eq_true hn] at hk
      cases hk

/-- The functions of an outline are the definitions of functions in the tree. -/
theorem forall₂_functions {source : List Char} {root : Tree} (hfile : root.kind = .file)
    (h : root.Grammatical) (path : String) :
    List.Forall₂ (fun n f => ∃ scope decorators, functionOf? source scope decorators n = some f)
      (root.preorder.filter fun n => n.kind = .functionDefinition)
      (Outline.ofTree path source root).functions :=
  forall₂_preorder <| (forall₂_functionsAt hfile h path).imp fun _ _ hf => hf.1

/-- Its classes are the definitions of classes. -/
theorem forall₂_classes {source : List Char} {root : Tree} (hfile : root.kind = .file)
    (h : root.Grammatical) (path : String) :
    List.Forall₂ (fun n c => ∃ decorators, classOf? source decorators n = some c)
      (root.preorder.filter fun n => n.kind = .classDefinition)
      (Outline.ofTree path source root).classes := by
  apply forall₂_entries (p := fun k => k = .classDefinition) hfile h
  · intro k hk
    cases of_decide_eq_true hk
    rfl
  · exact fun _ => rfl
  · rintro n e (⟨_, _, hk, _⟩ | ⟨_, hk, _⟩ | hk) hn
    · rfl
    · simp [hk] at hn
    · rfl
  · rintro n e (⟨_, _, hk, _⟩ | ⟨decorators, hk, hc⟩ | hk) hn
    · simp [hk] at hn
    · exact ⟨_, rfl, decorators, hc⟩
    · rw [of_decide_eq_true hn] at hk
      cases hk

/-- Its imports are the imports in the tree. -/
theorem imports_ofTree {source : List Char} {root : Tree} (hfile : root.kind = .file)
    (h : root.Grammatical) (path : String) :
    (Outline.ofTree path source root).imports =
      (root.preorder.filter fun n => n.kind.isImport).map (importEntryOf source) := by
  have himports : List.Forall₂ (fun n i => importEntryOf source n = i)
      (root.preorder.filter fun n => n.kind.isImport)
      (Outline.ofTree path source root).imports := by
    apply forall₂_entries hfile h
    · intro k hk
      rw [Kind.isRecorded, hk, Bool.or_true]
    · exact fun _ => rfl
    · rintro n e (⟨_, _, hk, _⟩ | ⟨_, hk, _⟩ | hk) hn
      · rfl
      · rfl
      · rw [hk] at hn
        cases hn
    · rintro n e (⟨_, _, hk, _⟩ | ⟨_, hk, _⟩ | hk) hn
      · rw [hk] at hn
        cases hn
      · rw [hk] at hn
        cases hn
      · exact ⟨_, rfl, rfl⟩
  rw [← List.forall₂_map_left_iff (f := importEntryOf source), List.forall₂_eq_eq_eq] at himports
  exact himports.symm

/-- The outline of an accepted source text lists one function for each definition of a function, one
class for each definition of a class and one import for each import, wherever they stand, and each
list is in the order of the nodes. -/
theorem outline_lists_every_node {source : List Char} {root : Tree}
    (h : readTree source = .ok root) (path : String) :
    List.Forall₂ (fun n f => ∃ scope decorators, functionOf? source scope decorators n = some f)
        (root.preorder.filter fun n => n.kind = .functionDefinition)
        (Outline.ofTree path source root).functions ∧
      List.Forall₂ (fun n c => ∃ decorators, classOf? source decorators n = some c)
        (root.preorder.filter fun n => n.kind = .classDefinition)
        (Outline.ofTree path source root).classes ∧
      (Outline.ofTree path source root).imports =
        (root.preorder.filter fun n => n.kind.isImport).map (importEntryOf source) := by
  obtain ⟨hfile, hroot⟩ := grammatical_of_readTree h
  exact ⟨forall₂_functions hfile hroot path, forall₂_classes hfile hroot path,
    imports_ofTree hfile hroot path⟩

/-- What is computed from the tree of a source text holds of a tree that is read. -/
theorem exists_readTree {α : Type} {source : List Char} {f : Tree → α} {a : α}
    (h : (readTree source).toOption.map f = some a) :
    ∃ root, readTree source = .ok root ∧ f root = a := by
  cases hread : readTree source with
  | error e =>
    rw [hread] at h
    cases h
  | ok root =>
    rw [hread] at h
    exact ⟨root, rfl, Option.some.inj h⟩

/-- A decorated method with an import and a function in it, and a decorated class. -/
def nestedSource : List Char :=
  ("class A:\n @w\n def f(s):\n  import os\n  def g(): pass\n" ++
    "@z\nclass B(A): from . import q\n").toList

/-- The functions and classes of the nested source. -/
theorem exists_nestedTree : ∃ root, readTree nestedSource = .ok root ∧
    (Outline.ofTree "a.py" nestedSource root).functions.map FunctionEntry.name = ["f", "g"] ∧
    (Outline.ofTree "a.py" nestedSource root).classes.map ClassEntry.name = ["A", "B"] := by
  have hnames : (readTree nestedSource).toOption.map (fun root =>
      ((Outline.ofTree "a.py" nestedSource root).functions.map FunctionEntry.name,
        (Outline.ofTree "a.py" nestedSource root).classes.map ClassEntry.name)) =
      some (["f", "g"], ["A", "B"]) := by
    decide +kernel
  obtain ⟨root, hread, hnames⟩ := exists_readTree hnames
  exact ⟨root, hread, Prod.mk.inj hnames⟩

/-- Definitions inside definitions are listed too. -/
theorem outline_lists_every_node_nested : ∃ root, readTree nestedSource = .ok root ∧
    (Outline.ofTree "a.py" nestedSource root).functions.map FunctionEntry.name = ["f", "g"] ∧
    (Outline.ofTree "a.py" nestedSource root).classes.map ClassEntry.name = ["A", "B"] ∧
    List.Forall₂
      (fun n f => ∃ scope decorators, functionOf? nestedSource scope decorators n = some f)
      (root.preorder.filter fun n => n.kind = .functionDefinition)
      (Outline.ofTree "a.py" nestedSource root).functions ∧
    List.Forall₂ (fun n c => ∃ decorators, classOf? nestedSource decorators n = some c)
      (root.preorder.filter fun n => n.kind = .classDefinition)
      (Outline.ofTree "a.py" nestedSource root).classes ∧
    (Outline.ofTree "a.py" nestedSource root).imports =
      (root.preorder.filter fun n => n.kind.isImport).map (importEntryOf nestedSource) := by
  obtain ⟨root, hread, hfunctions, hclasses⟩ := exists_nestedTree
  exact ⟨root, hread, hfunctions, hclasses, outline_lists_every_node hread "a.py"⟩

end CodeSurvey
