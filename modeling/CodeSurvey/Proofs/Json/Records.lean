/-
# Records in JSON

Outlines and smells are written as objects and read back.  The kind of a smell stands flat beside
its line and severity, an import carries its kind as a tag, and an absent part is `null`: none of
this loses anything, since no member of a smell's kind takes the name of another member.  With
numbers of 64 bits the same holds of the texts, in both layouts.
-/
import CodeSurvey.Proofs.Json.Texts
import CodeSurvey.Smell.Json
import Mathlib.Data.Set.Operations

namespace CodeSurvey

/-! ## Members of an object -/

namespace Json

variable {α : Type} {key other : String} {members : List (String × Json)}

/-- The first member of an object is found under its key. -/
@[simp]
theorem member?_cons_self (v : Json) : (obj ((key, v) :: members)).member? key = some v := by
  simp [member?]

/-- A member with another key is passed over. -/
@[simp]
theorem member?_cons_of_ne (h : other ≠ key) (v : Json) :
    (obj ((other, v) :: members)).member? key = (obj members).member? key := by
  simp [member?, h]

/-- An object that names each member once shows all of them. -/
theorem member?_of_mem (hkeys : (members.map (·.1)).Nodup) {m : String × Json}
    (hm : m ∈ members) : (obj members).member? m.1 = some m.2 := by
  induction members with
  | nil => exact absurd hm List.not_mem_nil
  | cons first members ih =>
    obtain ⟨hnew, hrest⟩ := List.nodup_cons.1 hkeys
    rcases List.mem_cons.1 hm with rfl | hm
    · exact member?_cons_self _
    · have hne : first.1 ≠ m.1 := by
        intro heq
        exact hnew (List.mem_map.2 ⟨m, hm, heq.symm⟩)
      exact (member?_cons_of_ne hne _).trans (ih hrest hm)

/-- A text that may be absent is found as it was written. -/
@[simp]
theorem optionalStrAt?_cons_self (s : Option String) :
    (obj ((key, .option .str s) :: members)).optionalStrAt? key = some s := by
  rw [optionalStrAt?, member?_cons_self]
  cases s <;> rfl

/-- Under any other key it is looked for further on. -/
@[simp]
theorem optionalStrAt?_cons_of_ne (h : other ≠ key) (v : Json) :
    (obj ((other, v) :: members)).optionalStrAt? key = (obj members).optionalStrAt? key := by
  simp [optionalStrAt?, h]

/-- A number is read as it was written. -/
@[simp]
theorem nat?_nat (n : Nat) : (nat n).nat? = some n := by
  simp [nat, nat?]

/-- Items that are read back one by one are read back as a list. -/
@[simp]
theorem mapM_comp_of_reads {write : α → Json} {read : Json → Option α}
    (hread : ∀ a, read (write a) = some a) (items : List α) :
    items.mapM (read ∘ write) = some items := by
  have hpure : read ∘ write = pure := funext hread
  rw [hpure, List.mapM_pure]
  simp

/-- Texts are read as they were written. -/
@[simp]
theorem strs?_strs (items : List String) : (strs items).strs? = some items := by
  have hread : ∀ s : String, (Json.str s).str? = some s := fun _ => rfl
  simp [strs?, strs, items?, hread]

end Json

/-! ## Reading records back -/

open Json

/-- A function is read back from its value. -/
@[simp]
theorem FunctionEntry.ofJson?_toJson (f : FunctionEntry) : ofJson? f.toJson = some f := by
  simp [ofJson?, toJson, strAt?, natAt?, boolAt?, strsAt?, str?, bool?]

/-- A class is read back from its value. -/
@[simp]
theorem ClassEntry.ofJson?_toJson (c : ClassEntry) : ofJson? c.toJson = some c := by
  simp [ofJson?, toJson, strAt?, natAt?, strsAt?, str?]

/-- An import is read back: its tag tells the two shapes apart. -/
@[simp]
theorem ImportEntry.ofJson?_toJson (i : ImportEntry) : ofJson? i.toJson = some i := by
  cases i with
  | plain modules aliases line =>
    have hpair : ∀ p : String × String, strPair? (strs [p.1, p.2]) = some p := fun _ => rfl
    simp [ofJson?, toJson, strAt?, natAt?, strsAt?, listAt?, str?, items?,
      mapM_comp_of_reads hpair]
  | names source imported level line => simp [ofJson?, toJson, strAt?, natAt?, strsAt?, str?]

/-- A global variable is read back from its value. -/
@[simp]
theorem GlobalEntry.ofJson?_toJson (g : GlobalEntry) : ofJson? g.toJson = some g := by
  simp [ofJson?, toJson, strAt?, natAt?, str?]

/-- An outline is read back, since every record in it is. -/
theorem Outline.ofJson?_toJson (o : Outline) : ofJson? o.toJson = some o := by
  simp [ofJson?, toJson, strAt?, listAt?, str?, items?]

/-- The words for severities tell them apart. -/
@[simp]
theorem Severity.ofWord?_word (s : Severity) : ofWord? s.word = some s := by
  cases s <;> rfl

/-- The words for what lacks a docstring tell them apart. -/
@[simp]
theorem EntityKind.ofWord?_word (e : EntityKind) : ofWord? e.word = some e := by
  cases e <;> rfl

/-- The tag of a smell says which members to read. -/
theorem SmellKind.ofJson?_toJson (s : Smell) : ofJson? s.toJson = some s.kind := by
  obtain ⟨line, severity, kind⟩ := s
  cases kind <;> simp [ofJson?, Smell.toJson, label, members, strAt?, natAt?, strsAt?, str?]

/-- A smell is read back, although its kind has no object of its own. -/
theorem Smell.ofJson?_toJson (s : Smell) : ofJson? s.toJson = some s := by
  rw [ofJson?, SmellKind.ofJson?_toJson]
  simp [toJson, strAt?, natAt?, str?]

/-! ## The numbers of a record -/

def FunctionEntry.numbers (f : FunctionEntry) : List Nat :=
  [f.positionalCount, f.lineStart, f.lineEnd, f.complexity, f.lineCount]

def ClassEntry.numbers (c : ClassEntry) : List Nat := [c.lineStart, c.lineEnd, c.lineCount]

def ImportEntry.numbers : ImportEntry → List Nat
  | plain _ _ line => [line]
  | names _ _ level line => [level, line]

/-- The numbers that stand in an outline. -/
def Outline.numbers (o : Outline) : List Nat :=
  o.functions.flatMap FunctionEntry.numbers ++ (o.classes.flatMap ClassEntry.numbers ++
    (o.imports.flatMap ImportEntry.numbers ++ o.globals.map GlobalEntry.line))

def SmellKind.numbers : SmellKind → List Nat
  | longFunction _ lines => [lines]
  | longClass _ lines methods => [lines, methods]
  | tooManyParameters _ count _ => [count]
  | _ => []

/-- The numbers that stand in a smell. -/
def Smell.numbers (s : Smell) : List Nat := s.line :: s.kind.numbers

/-- Numbers of 64 bits. -/
def AreWords (numbers : List Nat) : Prop := ∀ n ∈ numbers, n < 2 ^ 64

instance (numbers : List Nat) : Decidable (AreWords numbers) :=
  inferInstanceAs (Decidable (∀ n ∈ numbers, n < 2 ^ 64))

/-! ## Readable values -/

section Readable

variable {depth : Nat}

/-- A number of 64 bits is readable. -/
theorem isReadable_nat {n : Nat} (h : n < 2 ^ 64) : IsReadable (depth + 1) (.nat n) :=
  .int (by omega) (by omega)

/-- A text that may be absent is readable. -/
theorem isReadable_option (s : Option String) : IsReadable (depth + 1) (.option .str s) := by
  cases s with
  | none => exact .null
  | some s => exact .str s

/-- An array is readable if its items are, one level down. -/
theorem isReadable_arr {α : Type} {write : α → Json} {items : List α}
    (h : ∀ a ∈ items, IsReadable (depth + 1) (write a)) :
    IsReadable (depth + 2) (.arr (items.map write)) :=
  .arr (List.forall_mem_map.2 h)

theorem isReadable_strs (items : List String) : IsReadable (depth + 2) (.strs items) :=
  isReadable_arr fun s _ => .str s

/-- The value of a function is nested three deep. -/
theorem FunctionEntry.isReadable_toJson {f : FunctionEntry} (h : AreWords f.numbers) :
    IsReadable (depth + 3) f.toJson := by
  obtain ⟨hpositional, hstart, hend, hcomplexity, hcount⟩ := List.forall_iff_forall_mem.2 h
  refine .obj (by simp) (List.forall_iff_forall_mem.1 ?_)
  exact ⟨.str _, isReadable_option _, isReadable_strs _, isReadable_strs _,
    isReadable_nat hpositional, isReadable_option _, isReadable_option _, isReadable_nat hstart,
    isReadable_nat hend, isReadable_strs _, .bool _, isReadable_strs _, isReadable_nat hcomplexity,
    isReadable_nat hcount⟩

/-- So is that of a class. -/
theorem ClassEntry.isReadable_toJson {c : ClassEntry} (h : AreWords c.numbers) :
    IsReadable (depth + 3) c.toJson := by
  obtain ⟨hstart, hend, hcount⟩ := List.forall_iff_forall_mem.2 h
  refine .obj (by simp) (List.forall_iff_forall_mem.1 ?_)
  exact ⟨.str _, isReadable_strs _, isReadable_option _, isReadable_strs _, isReadable_strs _,
    isReadable_nat hstart, isReadable_nat hend, isReadable_nat hcount⟩

/-- The tag of an import adds a level. -/
theorem ImportEntry.isReadable_toJson {i : ImportEntry} (h : AreWords i.numbers) :
    IsReadable (depth + 4) i.toJson := by
  cases i with
  | plain modules aliases line =>
    have hline : line < 2 ^ 64 := List.forall_iff_forall_mem.2 h
    refine .obj (by simp) (List.forall_iff_forall_mem.1 ?_)
    exact ⟨.str _, isReadable_strs _, isReadable_arr fun p _ => isReadable_strs [p.1, p.2],
      isReadable_nat hline⟩
  | names source imported level line =>
    obtain ⟨hlevel, hline⟩ := List.forall_iff_forall_mem.2 h
    refine .obj (by simp) (List.forall_iff_forall_mem.1 ?_)
    exact ⟨.str _, isReadable_option _, isReadable_strs _, isReadable_nat hlevel,
      isReadable_nat hline⟩

/-- A global variable has no lists. -/
theorem GlobalEntry.isReadable_toJson {g : GlobalEntry} (h : g.line < 2 ^ 64) :
    IsReadable (depth + 2) g.toJson :=
  .obj (by simp) (List.forall_iff_forall_mem.1 ⟨.str _, isReadable_nat h⟩)

/-- The value of an outline is nested six deep, far from what the reader allows. -/
theorem Outline.isReadable_toJson {o : Outline} (h : AreWords o.numbers) :
    IsReadable (depth + 6) o.toJson := by
  simp only [AreWords, numbers, List.forall_mem_append, List.forall_mem_flatMap,
    List.forall_mem_map] at h
  obtain ⟨hfunctions, hclasses, himports, hglobals⟩ := h
  refine .obj (by simp) (List.forall_iff_forall_mem.1 ?_)
  exact ⟨.str _, isReadable_arr fun f hf => FunctionEntry.isReadable_toJson (hfunctions f hf),
    isReadable_arr fun c hc => ClassEntry.isReadable_toJson (hclasses c hc),
    isReadable_arr fun i hi => ImportEntry.isReadable_toJson (himports i hi),
    isReadable_arr fun g hg => GlobalEntry.isReadable_toJson (hglobals g hg)⟩

/-- No member of a smell's kind takes the name of another member. -/
theorem Smell.keys_nodup (s : Smell) :
    (("line" :: "severity" :: "type" :: s.kind.members.map (·.1))).Nodup := by
  cases s.kind <;> simp [SmellKind.members]

/-- The members of a smell's kind are readable. -/
theorem SmellKind.isReadable_members {kind : SmellKind} (h : AreWords kind.numbers) :
    ∀ m ∈ kind.members, IsReadable (depth + 2) m.2 := by
  have hnumbers := List.forall_iff_forall_mem.2 h
  refine List.forall_iff_forall_mem.1 ?_
  cases kind with
  | longFunction name lines => exact ⟨.str _, isReadable_nat hnumbers⟩
  | longClass name lines methods =>
    exact ⟨.str _, isReadable_nat hnumbers.1, isReadable_nat hnumbers.2⟩
  | missingDocstring name entity => exact ⟨.str _, .str _⟩
  | tooManyParameters name count parameters =>
    exact ⟨.str _, isReadable_nat hnumbers, isReadable_strs _⟩
  | deadCode name => exact .str _
  | magicNumber value context => exact ⟨.str _, .str _⟩
  | nonConstantGlobal name => exact .str _

/-- The value of a smell is readable. -/
theorem Smell.isReadable_toJson {s : Smell} (h : AreWords s.numbers) :
    IsReadable (depth + 3) s.toJson := by
  obtain ⟨hline, hkind⟩ := List.forall_mem_cons.1 h
  refine .obj s.keys_nodup ?_
  simp only [List.forall_mem_cons]
  exact ⟨isReadable_nat hline, .str _, .str _, SmellKind.isReadable_members hkind⟩

end Readable

/-! ## Nothing is lost -/

namespace Json

variable {α : Type}

/-- Records are read back from the values that they are written as, and, where their numbers are
of 64 bits, from both layouts of those values; so no two of them are written alike. -/
structure ReadsBack (write : α → Json) (read : Json → Option α) (numbers : α → List Nat) :
    Prop where
  value : ∀ a, read (write a) = some a
  injective : Function.Injective write
  readable : ∀ a, AreWords (numbers a) → IsReadable 128 (write a)
  compact : ∀ a, AreWords (numbers a) → (parse? (write a).compact).bind read = some a
  pretty : ∀ a, AreWords (numbers a) → (parse? (write a).pretty).bind read = some a
  compact_injOn : Set.InjOn (fun a => (write a).compact) {a | AreWords (numbers a)}
  pretty_injOn : Set.InjOn (fun a => (write a).pretty) {a | AreWords (numbers a)}

/-- Records that are read back from their values are read back from both layouts of the text too. -/
theorem ReadsBack.of_value {write : α → Json} {read : Json → Option α} {numbers : α → List Nat}
    (hvalue : ∀ a, read (write a) = some a)
    (hreadable : ∀ a, AreWords (numbers a) → IsReadable 128 (write a)) :
    ReadsBack write read numbers := by
  have hcompact : ∀ a, AreWords (numbers a) → (parse? (write a).compact).bind read = some a := by
    intro a ha
    rw [parse?_compact (hreadable a ha), Option.bind_some, hvalue]
  have hpretty : ∀ a, AreWords (numbers a) → (parse? (write a).pretty).bind read = some a := by
    intro a ha
    rw [parse?_pretty (hreadable a ha), Option.bind_some, hvalue]
  refine ⟨hvalue, ?_, hreadable, hcompact, hpretty, ?_, ?_⟩
  · intro a b hab
    have hread := congrArg read hab
    rw [hvalue, hvalue] at hread
    exact Option.some.inj hread
  · intro a ha b hb hab
    have hread := congrArg (fun text => (parse? text).bind read) hab
    exact Option.some.inj ((hcompact a ha).symm.trans (hread.trans (hcompact b hb)))
  · intro a ha b hb hab
    have hread := congrArg (fun text => (parse? text).bind read) hab
    exact Option.some.inj ((hpretty a ha).symm.trans (hread.trans (hpretty b hb)))

/-- Only an absent text is written as `null`. -/
theorem option_str_eq_null_iff (s : Option String) : option .str s = .null ↔ s = none := by
  cases s <;> simp [option]

end Json

/-- Every member of a smell is found under its key, those of its kind included. -/
theorem Smell.member?_toJson (s : Smell) :
    ∀ m ∈ ("line", Json.nat s.line) :: ("severity", .str s.severity.word) ::
      ("type", .str s.kind.label) :: s.kind.members, s.toJson.member? m.1 = some m.2 := by
  intro m hm
  refine member?_of_mem ?_ hm
  exact s.keys_nodup

/-- **Outlines and smells are read back from their JSON forms, so no two of them are written
alike.**  In these forms the members of a smell's kind stand beside its line, its severity and the
tag of the kind, an import carries a tag, and a part is `null` just if it is absent. -/
theorem records_read_back :
    ReadsBack Outline.toJson Outline.ofJson? Outline.numbers ∧
    ReadsBack Smell.toJson Smell.ofJson? Smell.numbers ∧
    (∀ s : Smell, ∀ m ∈ ("line", Json.nat s.line) :: ("severity", .str s.severity.word) ::
      ("type", .str s.kind.label) :: s.kind.members, s.toJson.member? m.1 = some m.2) ∧
    (∀ modules aliases line,
      (ImportEntry.plain modules aliases line).toJson.strAt? "type" = some "plain") ∧
    (∀ source names level line,
      (ImportEntry.names source names level line).toJson.strAt? "type" = some "from" ∧
      ((ImportEntry.names source names level line).toJson.member? "module" = some .null ↔
        source = none)) ∧
    (∀ f : FunctionEntry,
      (f.toJson.member? "class_name" = some .null ↔ f.className = none) ∧
      (f.toJson.member? "return_annotation" = some .null ↔ f.returnType = none) ∧
      (f.toJson.member? "docstring" = some .null ↔ f.docstring = none)) ∧
    ∀ c : ClassEntry, c.toJson.member? "docstring" = some .null ↔ c.docstring = none := by
  refine ⟨?_, ?_, Smell.member?_toJson, ?_, ?_, ?_, ?_⟩
  · exact .of_value Outline.ofJson?_toJson fun _ => Outline.isReadable_toJson
  · exact .of_value Smell.ofJson?_toJson fun _ => Smell.isReadable_toJson
  · intro modules aliases line
    simp [ImportEntry.toJson, strAt?, str?]
  · intro source names level line
    simp [ImportEntry.toJson, strAt?, str?, option_str_eq_null_iff]
  · intro f
    simp [FunctionEntry.toJson, option_str_eq_null_iff]
  · intro c
    simp [ClassEntry.toJson, option_str_eq_null_iff]

/-- The outline of a small file, with every kind of import and with parts that are absent. -/
def sampleOutline : Outline where
  path := "pkg/a.py"
  functions := [
    { name := "run", className := some "Job", parameters := ["self", "n"], variadic := ["*args"]
      positionalCount := 2, returnType := none, docstring := some "Runs \"n\"\tjobs.\n"
      lineStart := 6, lineEnd := 9, decorators := [], isAsync := true, calls := ["help"]
      complexity := 2, lineCount := 4 }]
  classes := [
    { name := "Job", bases := ["Base"], docstring := none, methods := ["run"], decorators := []
      lineStart := 5, lineEnd := 9, lineCount := 5 }]
  imports := [
    .plain ["os", "sys"] [("sys", "system")] 1, .names none ["help"] 1 2,
    .names (some "base") ["Base"] 0 3]
  globals := [⟨"limit", 4⟩]

/-- The outline and a smell are read back from their texts. -/
theorem records_read_back_sample :
    (parse? sampleOutline.toJson.pretty).bind Outline.ofJson? = some sampleOutline ∧
    (parse? (Smell.mk 6 .low (.missingDocstring "run" .function)).toJson.pretty).bind
      Smell.ofJson? = some ⟨6, .low, .missingDocstring "run" .function⟩ :=
  ⟨records_read_back.1.pretty sampleOutline (by decide),
    records_read_back.2.1.pretty ⟨6, .low, .missingDocstring "run" .function⟩ (by decide)⟩

end CodeSurvey
