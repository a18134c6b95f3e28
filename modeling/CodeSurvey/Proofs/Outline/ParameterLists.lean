/-
# Parameter lists

A parameter list is written as a sequence of named and starred parameters, separators and comments, in
any order.  Each of them stands as a node of its own kind in the syntax tree (`isWrittenAs`), from which
the entry of the function is read.  The positional parameters are counted in one pass from the left, by a
count that slashes start again and a flag that stars set.  After each item the pass has counted what the
rest of the list leaves standing (`positionalFrom_map`), so in the end it has counted the places after
every slash and before every star (`functionOf?_reads_parameters`).
-/
import CodeSurvey.Outline.Extract
import CodeSurvey.Proofs.Outline.Walk
import Mathlib.Data.Fintype.Fin

namespace CodeSurvey

/-! ## Parameters as they are written -/

/-- An item of a parameter list as it is written. -/
inductive WrittenParameter where
  /-- A parameter with a name, with or without annotation and default. -/
  | named (typed hasDefault : Bool) (name : String)
  /-- A name after one star, with or without annotation. -/
  | args (typed : Bool) (name : String)
  /-- A name after two stars, with or without annotation. -/
  | kwargs (typed : Bool) (name : String)
  | slash
  | star
  | comment
  deriving Repr, DecidableEq

/-- Whether a node is a given name. -/
def Tree.isNameOf (source : List Char) (name : String) (t : Tree) : Bool :=
  t.kind = .identifier && t.textIn source = name

/-- Whether a node is a given name after stars. -/
def Tree.isStarredName (source : List Char) (stars : Kind) (name : String) (t : Tree) : Bool :=
  t.kind = stars && (t.named.filter (·.kind = .identifier)).map (·.textIn source) = [name]

/-- Whether a node is an annotated parameter over a given one. -/
def Tree.isAnnotated (parameter : Tree → Bool) (t : Tree) : Bool :=
  t.kind = .typedParameter && t.children.head?.any fun c => c.kind.isNamed && parameter c

namespace WrittenParameter

/-- Whether a node of a syntax tree is the given item. -/
def isWrittenAs (source : List Char) (t : Tree) : WrittenParameter → Bool
  | named false false name => t.isNameOf source name
  | named true false name => t.isAnnotated (Tree.isNameOf source name)
  | named false true name =>
    t.kind = .defaultParameter && (t.part? .name).any (Tree.isNameOf source name)
  | named true true name =>
    t.kind = .typedDefaultParameter && (t.part? .name).any (Tree.isNameOf source name)
  | args false name => t.isStarredName source .listSplatPattern name
  | args true name => t.isAnnotated (Tree.isStarredName source .listSplatPattern name)
  | kwargs false name => t.isStarredName source .dictionarySplatPattern name
  | kwargs true name => t.isAnnotated (Tree.isStarredName source .dictionarySplatPattern name)
  | slash => t.kind = .positionalSeparator
  | star => t.kind = .keywordSeparator
  | comment => t.kind = .comment || t.kind = .lineContinuation

/-- The name of a named parameter. -/
def name? : WrittenParameter → Option String
  | named _ _ name => some name
  | _ => none

/-- A starred name with its stars. -/
def starred? : WrittenParameter → Option String
  | args _ name => some ("*" ++ name)
  | kwargs _ name => some ("**" ++ name)
  | _ => none

/-- Whether the named parameters after the item can be given by name only. -/
def endsPositional : WrittenParameter → Bool
  | args _ _ => true
  | star => true
  | _ => false

/-- What is read from the item. -/
def item : WrittenParameter → ParameterItem
  | named _ _ name => .named name
  | args _ name => .rest (some name)
  | kwargs _ name => .restByName (some name)
  | slash => .slash
  | star => .star
  | comment => .other

end WrittenParameter

/-! ## Reading the items -/

section Reading

variable {source : List Char} {t : Tree} {name : String}

/-- A plain parameter is an identifier. -/
theorem of_isNameOf (h : t.isNameOf source name = true) :
    t.kind = .identifier ∧ String.ofList (t.text source) = name := by
  simp only [Tree.isNameOf, Bool.and_eq_true, decide_eq_true_eq] at h
  exact h

/-- A starred parameter has its name after the stars. -/
theorem of_isStarredName {stars : Kind} (h : t.isStarredName source stars name = true) :
    t.kind = stars ∧ ParameterItem.starredName source t = some name := by
  simp only [Tree.isStarredName, Bool.and_eq_true, decide_eq_true_eq] at h
  refine ⟨h.1, ?_⟩
  rw [ParameterItem.starredName, ← List.head?_filter, ← List.head?_map]
  exact congrArg List.head? h.2

/-- An annotated parameter starts with the parameter that is annotated. -/
theorem exists_of_isAnnotated {parameter : Tree → Bool} (h : t.isAnnotated parameter = true) :
    t.kind = .typedParameter ∧ ∃ c, t.named.head? = some c ∧ parameter c = true := by
  simp only [Tree.isAnnotated, Bool.and_eq_true, decide_eq_true_eq, Option.any_eq_true] at h
  obtain ⟨hkind, c, hc, hnamed, hparameter⟩ := h
  obtain ⟨rest, hchildren⟩ := List.head?_eq_some_iff.1 hc
  refine ⟨hkind, c, ?_, hparameter⟩
  rw [Tree.named, hchildren, List.filter_cons, if_pos hnamed, List.head?_cons]

/-- A parameter with a default is read under its name. -/
theorem ofTree_of_default (hkind : t.kind = .defaultParameter ∨ t.kind = .typedDefaultParameter)
    (h : (t.part? .name).any (Tree.isNameOf source name) = true) :
    ParameterItem.ofTree source t = .named name := by
  obtain ⟨n, hn, hname⟩ := (Option.any_eq_true ..).1 h
  obtain ⟨hidentifier, htext⟩ := of_isNameOf hname
  rcases hkind with hkind | hkind <;> simp [ParameterItem.ofTree, hkind, hn, hidentifier, htext]

/-- So is one with an annotation. -/
theorem ofTree_of_annotatedName (h : t.isAnnotated (Tree.isNameOf source name) = true) :
    ParameterItem.ofTree source t = .named name := by
  obtain ⟨hkind, c, hc, hname⟩ := exists_of_isAnnotated h
  obtain ⟨hidentifier, htext⟩ := of_isNameOf hname
  simp [ParameterItem.ofTree, hkind, hc, hidentifier, htext]

/-- With or without annotation, a starred name is read as such. -/
theorem ofTree_of_starred {stars : Kind} {i : ParameterItem}
    (hstars : stars = .listSplatPattern ∧ i = .rest (some name) ∨
      stars = .dictionarySplatPattern ∧ i = .restByName (some name))
    (h : t.isStarredName source stars name = true ∨
      t.isAnnotated (Tree.isStarredName source stars name) = true) :
    ParameterItem.ofTree source t = i := by
  rcases h with h | h
  · obtain ⟨hkind, hname⟩ := of_isStarredName h
    rcases hstars with ⟨rfl, rfl⟩ | ⟨rfl, rfl⟩ <;>
      simp [ParameterItem.ofTree, ParameterItem.ofStarred, hkind, hname]
  · obtain ⟨hkind, c, hc, hstarred⟩ := exists_of_isAnnotated h
    obtain ⟨hckind, hname⟩ := of_isStarredName hstarred
    rcases hstars with ⟨rfl, rfl⟩ | ⟨rfl, rfl⟩ <;>
      simp [ParameterItem.ofTree, ParameterItem.ofStarred, hkind, hc, hckind, hname]

/-- A node is read as the item that it is. -/
theorem ofTree_of_isWrittenAs {p : WrittenParameter} (h : p.isWrittenAs source t = true) :
    ParameterItem.ofTree source t = p.item := by
  match p with
  | .named false false name =>
    obtain ⟨hkind, htext⟩ := of_isNameOf h
    simp [ParameterItem.ofTree, hkind, htext, WrittenParameter.item]
  | .named true false name => exact ofTree_of_annotatedName h
  | .named false true name | .named true true name =>
    simp only [WrittenParameter.isWrittenAs, Bool.and_eq_true, decide_eq_true_eq] at h
    exact ofTree_of_default (by simp [h.1]) h.2
  | .args false name => exact ofTree_of_starred (.inl ⟨rfl, rfl⟩) (.inl h)
  | .args true name => exact ofTree_of_starred (.inl ⟨rfl, rfl⟩) (.inr h)
  | .kwargs false name => exact ofTree_of_starred (.inr ⟨rfl, rfl⟩) (.inl h)
  | .kwargs true name => exact ofTree_of_starred (.inr ⟨rfl, rfl⟩) (.inr h)
  | .slash | .star =>
    simp only [WrittenParameter.isWrittenAs, decide_eq_true_eq] at h
    simp [ParameterItem.ofTree, h, WrittenParameter.item]
  | .comment =>
    simp only [WrittenParameter.isWrittenAs, Bool.or_eq_true, decide_eq_true_eq] at h
    rcases h with h | h <;>
      simp [ParameterItem.ofTree, ParameterItem.ofStarred, h, WrittenParameter.item]

end Reading

/-! ## Counting positional parameters -/

/-- The parameter at a place is named, after every slash and before every star. -/
def IsPositional (ps : List WrittenParameter) (i : Fin ps.length) : Prop :=
  ps[i].name?.isSome = true ∧ (∀ j : Fin ps.length, ps[j] = .slash → j < i) ∧
    ∀ j : Fin ps.length, ps[j].endsPositional = true → i < j

instance (ps : List WrittenParameter) : DecidablePred (IsPositional ps) :=
  fun _ => inferInstanceAs (Decidable (_ ∧ _ ∧ _))

/-- The number of places after every slash and before every star with a named parameter. -/
def positionalPlaces (ps : List WrittenParameter) : Nat :=
  (Finset.univ.filter (IsPositional ps)).card

section Counting

variable {p : WrittenParameter} {ps : List WrittenParameter}

/-- The first item may be a slash or a star like any other. -/
theorem isPositional_cons {i : Fin (ps.length + 1)} :
    IsPositional (p :: ps) i ↔ ((p :: ps).get i).name?.isSome = true ∧
      ((p = .slash → 0 < i) ∧ ∀ j : Fin ps.length, ps[j] = .slash → j.succ < i) ∧
        (p.endsPositional = true → i < 0) ∧
          ∀ j : Fin ps.length, ps[j].endsPositional = true → i < j.succ := by
  refine and_congr_right fun _ => and_congr ?_ ?_
  · exact Fin.forall_fin_succ (P := fun j => (p :: ps).get j = .slash → j < i)
  · exact Fin.forall_fin_succ (P := fun j => ((p :: ps).get j).endsPositional = true → i < j)

/-- The first parameter counts if it is named and no slash follows. -/
theorem isPositional_zero :
    IsPositional (p :: ps) (0 : Fin (ps.length + 1)) ↔ p.name?.isSome = true ∧ .slash ∉ ps := by
  have hslash : .slash ∉ ps ↔ ∀ j : Fin ps.length, ps[j] ≠ .slash := by
    rw [List.mem_iff_get, not_exists]
    rfl
  rw [isPositional_cons, hslash]
  cases p <;> simp [WrittenParameter.name?, WrittenParameter.endsPositional]

/-- A later parameter counts as in the rest of the list, unless the list starts with a star. -/
theorem isPositional_succ {i : Fin ps.length} :
    IsPositional (p :: ps) i.succ ↔ p.endsPositional = false ∧ IsPositional ps i := by
  rw [isPositional_cons, IsPositional]
  simp only [List.get_cons_succ', Fin.succ_lt_succ_iff, Fin.succ_pos, Fin.not_lt_zero, implies_true,
    true_and, imp_false, Bool.not_eq_true]
  change (ps[i].name?.isSome = true ∧ _ ∧ p.endsPositional = false ∧ _) ↔ _
  tauto

/-- The first parameter counts if it is named and no slash follows; a star ends the count. -/
theorem positionalPlaces_cons (p : WrittenParameter) (ps : List WrittenParameter) :
    positionalPlaces (p :: ps) =
      (if p.name?.isSome = true ∧ .slash ∉ ps then 1 else 0) +
        if p.endsPositional = true then 0 else positionalPlaces ps := by
  have hrest : (Finset.univ.filter fun i : Fin ps.length => IsPositional (p :: ps) i.succ).card =
      if p.endsPositional = true then 0 else positionalPlaces ps := by
    simp only [isPositional_succ]
    cases p.endsPositional <;> simp [positionalPlaces]
  have hcount := Fin.card_filter_univ_succ' (fun i : Fin (ps.length + 1) => IsPositional (p :: ps) i)
  rw [hrest] at hcount
  simp only [isPositional_zero] at hcount
  exact hcount

/-- Places with positional parameters are places with names. -/
theorem positionalPlaces_le (ps : List WrittenParameter) :
    positionalPlaces ps ≤ (ps.filterMap (·.name?)).length := by
  induction ps with
  | nil => rfl
  | cons p ps ih =>
    rw [positionalPlaces_cons, List.filterMap_cons]
    cases p.name? <;> split_ifs <;> simp_all <;> omega

end Counting

section Pass

attribute [local simp] WrittenParameter.item WrittenParameter.name? WrittenParameter.endsPositional
  ParameterItem.opensKeywords positionalFrom

/-- A pass adds the positional parameters of the rest to its count, unless a slash starts the count
again or a star has come already. -/
theorem positionalFrom_map (count : Nat) (keywordOnly : Bool) (ps : List WrittenParameter) :
    positionalFrom count keywordOnly (ps.map WrittenParameter.item) =
      (if .slash ∈ ps then 0 else count) + if keywordOnly then 0 else positionalPlaces ps := by
  induction ps generalizing count keywordOnly with
  | nil => simp [positionalPlaces]
  | cons p ps ih =>
    rw [List.map_cons, positionalPlaces_cons]
    cases p with
    | named typed hasDefault name =>
      -- the name counts if no star came before it, and stays counted if no slash comes after it
      by_cases hslash : .slash ∈ ps <;> cases keywordOnly <;> simp [ih, hslash, Nat.add_assoc]
    | args typed name | star | kwargs typed name | slash | comment => simp [ih]

end Pass

/-! ## Entries of functions -/

/-- The names are those of the parameters as they are written. -/
theorem parameterNames_map (ps : List WrittenParameter) :
    parameterNames (ps.map WrittenParameter.item) = ps.filterMap (·.name?) := by
  rw [parameterNames, List.filterMap_map]
  congr 1
  funext p
  cases p <;> rfl

/-- The variadic names are those after stars. -/
theorem variadicNames_map (ps : List WrittenParameter) :
    variadicNames (ps.map WrittenParameter.item) = ps.filterMap (·.starred?) := by
  rw [variadicNames, List.filterMap_map]
  congr 1
  funext p
  cases p <;> rfl

/-- The count is that of the places with positional parameters. -/
theorem positionalCount_map (ps : List WrittenParameter) :
    positionalCount (ps.map WrittenParameter.item) = positionalPlaces ps := by
  rw [positionalCount, positionalFrom_map]
  simp

/-- Nodes that are written as some parameters are read as these. -/
theorem map_ofTree {source : List Char} {ps : List WrittenParameter} {ts : List Tree}
    (h : List.Forall₂ (fun p t => p.isWrittenAs source t = true) ps ts) :
    ts.map (ParameterItem.ofTree source) = ps.map WrittenParameter.item := by
  induction h with
  | nil => rfl
  | cons hp _ ih => rw [List.map_cons, List.map_cons, ofTree_of_isWrittenAs hp, ih]

/-- **The entry of a function lists the names and the starred names of its parameter list in order,
and counts the named parameters after every slash and before every star.** -/
theorem functionOf?_reads_parameters {source : List Char} {t params : Tree}
    (hname : (t.part? .name).isSome = true) (hparams : t.part? .parameters = some params)
    {ps : List WrittenParameter}
    (hps : List.Forall₂ (fun p n => p.isWrittenAs source n = true) ps params.named)
    (scope : Scope) (decorators : List String) :
    ∃ f, functionOf? source scope decorators t = some f ∧
      f.parameters = ps.filterMap (·.name?) ∧ f.variadic = ps.filterMap (·.starred?) ∧
      f.positionalCount = (Finset.univ.filter (IsPositional ps)).card ∧
      f.positionalCount ≤ f.parameters.length := by
  obtain ⟨name, hname⟩ := Option.isSome_iff_exists.1 hname
  unfold functionOf?
  simp only [hname, hparams, map_ofTree hps, parameterNames_map, variadicNames_map,
    positionalCount_map]
  exact ⟨_, rfl, rfl, rfl, rfl, positionalPlaces_le ps⟩

/-- A parameter list with a slash, a star on an annotated name, a comment and defaults. -/
def separatedSource : List Char :=
  "def f(a, /, b: int = 1, *c: int, # d\n e=2, **g): pass\n".toList

/-- The items of that list. -/
def separatedParameters : List WrittenParameter :=
  [.named false false "a", .slash, .named true true "b", .args true "c", .comment,
    .named false true "e", .kwargs false "g"]

/-- All names are read, and the one after the slash and before the star is counted. -/
theorem functionOf?_reads_parameters_separated : ∃ t params : Tree,
    (t.part? .name).isSome = true ∧ t.part? .parameters = some params ∧
    List.Forall₂ (fun p n => p.isWrittenAs separatedSource n = true) separatedParameters
      params.named ∧
    ∃ f, functionOf? separatedSource .file [] t = some f ∧ f.parameters = ["a", "b", "e"] ∧
      f.variadic = ["*c", "**g"] ∧ f.positionalCount = 1 := by
  have hcomputed : (readTree separatedSource).toOption.map (fun root =>
      (root.preorder.find? fun n => n.kind = .functionDefinition).map fun t =>
        ((t.part? .name).isSome, (t.part? .parameters).map fun params =>
          (params.named.length, (separatedParameters.zip params.named).all fun x =>
            x.1.isWrittenAs separatedSource x.2))) = some (some (true, some (7, true))) := by
    decide +kernel
  obtain ⟨root, -, hcomputed⟩ := exists_readTree hcomputed
  obtain ⟨t, -, hcomputed⟩ := Option.map_eq_some_iff.1 hcomputed
  obtain ⟨hname, hcomputed⟩ := Prod.mk.inj hcomputed
  obtain ⟨params, hparams, hcomputed⟩ := Option.map_eq_some_iff.1 hcomputed
  obtain ⟨hlength, hitems⟩ := Prod.mk.inj hcomputed
  have hps : List.Forall₂ (fun p n => p.isWrittenAs separatedSource n = true) separatedParameters
      params.named := by
    rw [List.forall₂_iff_zip]
    refine ⟨hlength.symm, fun {p n} hmem => ?_⟩
    exact List.all_eq_true.1 hitems (p, n) hmem
  obtain ⟨f, hf, hparameters, hvariadic, hcount, -⟩ :=
    functionOf?_reads_parameters hname hparams hps .file []
  refine ⟨t, params, hname, hparams, hps, f, hf, hparameters, hvariadic, hcount.trans ?_⟩
  decide

end CodeSurvey
