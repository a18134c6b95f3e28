/-
# Callers that dead code knows

A function is reported as dead code if its name is not called, but only the calls that stand in
functions are known: the names that the functions of a file call are those of the call nodes with a
function above them (`callsName_ofTree`).  So a function that is reported may be called where no
function stands around the call, by a statement of the file or of a class body, in a decorator, and
nowhere else (`deadCode_ignores_outer_calls`).
-/
import CodeSurvey.Proofs.Outline.CalledNames
import CodeSurvey.Proofs.Outline.Walk
import CodeSurvey.Proofs.Report.DeadCodeScope
import CodeSurvey.Proofs.Syntax.Lineage

namespace CodeSurvey

/-! ## The calls of functions -/

/-- A node that stands in no function. -/
def Lineage.IsOutsideFunctions (l : Lineage) : Prop :=
  ∀ d ∈ l.above, d.kind ≠ .functionDefinition

/-- A function of a given name is defined somewhere in a tree. -/
def Tree.DefinesFunction (source : List Char) (t : Tree) (name : String) : Prop :=
  ∃ d ∈ t.preorder, d.kind = .functionDefinition ∧ d.IsNamed source name

section File

variable {source : List Char} {root : Tree} (hfile : root.kind = .file) (h : root.Grammatical)
  (path name : String)

include hfile h

theorem exists_function_iff :
    (∃ f ∈ (Outline.ofTree path source root).functions, f.name = name) ↔
      root.DefinesFunction source name := by
  have hfunctions := @forall₂_functions source root hfile h path
  have hnamed : ∀ n f, (∃ scope decorators, functionOf? source scope decorators n = some f) →
      (n.IsNamed source name ↔ f.name = name) := by
    rintro n f ⟨scope, decorators, hf⟩
    have hname : n.IsNamed source f.name := (functionOf?_eq_some hf).1
    rw [Tree.IsNamed] at hname
    rw [Tree.IsNamed, hname, Option.some.injEq]
  rw [← exists_mem_iff_of_forall₂ hfunctions hnamed]
  simp only [Tree.DefinesFunction, List.mem_filter, decide_eq_true_eq, and_assoc]

/-- The functions of a file call what is called in a function. -/
theorem callsName_ofTree :
    (Outline.ofTree path source root).CallsName name ↔
      ∃ l ∈ root.lineages, l.node.Calls source name ∧ ¬ l.IsOutsideFunctions := by
  have hfunctions := @forall₂_functions source root hfile h path
  have hcalled : ∀ n f, (∃ scope decorators, functionOf? source scope decorators n = some f) →
      ((∃ c ∈ n.preorder, c.Calls source name) ↔ name ∈ f.calls) := by
    rintro n f ⟨scope, decorators, hf⟩
    obtain ⟨-, -, hcalls, -⟩ := functionOf?_eq_some hf
    rw [hcalls, mem_callNames]
  have habove := @Tree.exists_above_iff (fun d => d.kind = .functionDefinition)
    (fun n => n.Calls source name) [] root
  simp only [List.not_mem_nil, false_and, exists_false, or_false] at habove
  rw [Outline.CallsName, ← exists_mem_iff_of_forall₂ hfunctions hcalled]
  simp only [List.mem_filter, decide_eq_true_eq, and_assoc]
  rw [← habove]
  refine exists_congr fun l => and_congr_right fun _ => and_congr_right fun hcalls => ?_
  -- a call is no function
  simp [Lineage.IsOutsideFunctions, hcalls.1]

end File

/-! ## Dead code -/

/-- A function is reported if its name is neither exempt nor called. -/
theorem exists_deadFunctions_iff {called : List String} {functions : List FunctionEntry}
    {name : String} :
    (∃ s ∈ deadFunctions called functions, s.deadName? = some name) ↔
      (∃ f ∈ functions, f.name = name) ∧ isExempt name = false ∧ name ∉ called := by
  have hnames : (∃ s ∈ deadFunctions called functions, s.deadName? = some name) ↔
      name ∈ (firstBy (·.name) (functions.filter fun f =>
        !isExempt f.name && !called.contains f.name)).map (·.name) := by
    simp [deadFunctions, Smell.deadName?]
  rw [hnames, mem_map_firstBy]
  simp only [List.mem_map, List.mem_filter]
  constructor
  · rintro ⟨f, ⟨hf, hdead⟩, rfl⟩
    exact ⟨⟨f, hf, rfl⟩, by simpa using hdead⟩
  · rintro ⟨⟨f, hf, rfl⟩, hexempt, hcalled⟩
    exact ⟨f, ⟨hf, by simp [hexempt, hcalled]⟩, rfl⟩

/-- Dead code reports a name for a file. -/
def FileContext.ReportsDead (c : FileContext) (name : String) : Prop :=
  ∃ s ∈ Detector.deadCode.detect c, s.deadName? = some name

instance (c : FileContext) (name : String) : Decidable (c.ReportsDead name) :=
  inferInstanceAs (Decidable (∃ _ ∈ _, _))

/-- A file reports the functions that are not exempt and that no call in a function names. -/
theorem reportsDead_iff {source : List Char} {root : Tree} (h : readTree source = .ok root)
    (path content : String) (thresholds : Thresholds) (name : String) :
    FileContext.ReportsDead ⟨.ofTree path source root, content, thresholds, .file⟩ name ↔
      root.DefinesFunction source name ∧ isExempt name = false ∧
        ∀ l ∈ root.lineages, l.node.Calls source name → l.IsOutsideFunctions := by
  obtain ⟨hfile, hroot⟩ := grammatical_of_readTree h
  have hcalled : name ∉ calledNames [Outline.ofTree path source root] ↔
      ∀ l ∈ root.lineages, l.node.Calls source name → l.IsOutsideFunctions := by
    rw [mem_calledNames]
    simp only [List.mem_singleton, exists_eq_left, callsName_ofTree hfile hroot path name]
    push Not
    rfl
  rw [← hcalled, ← exists_function_iff hfile hroot path name]
  exact exists_deadFunctions_iff

/-- **Dead code looks for callers in functions only.**  A function of an accepted source text is
reported if it is not exempt and every call of its name stands outside all functions.  So nothing
calls a function that is reported if, and only if, no call outside of functions does. -/
theorem deadCode_ignores_outer_calls {source : List Char} {root : Tree}
    (h : readTree source = .ok root) (path content : String) (thresholds : Thresholds)
    (name : String) :
    (FileContext.ReportsDead ⟨.ofTree path source root, content, thresholds, .file⟩ name ↔
      root.DefinesFunction source name ∧ isExempt name = false ∧
        ∀ l ∈ root.lineages, l.node.Calls source name → l.IsOutsideFunctions) ∧
    (FileContext.ReportsDead ⟨.ofTree path source root, content, thresholds, .file⟩ name →
      ((∀ n ∈ root.preorder, ¬ n.Calls source name) ↔
        ∀ l ∈ root.lineages, l.IsOutsideFunctions → ¬ l.node.Calls source name)) := by
  have hreports := reportsDead_iff h path content thresholds name
  refine ⟨hreports, fun hreported => ?_⟩
  obtain ⟨-, -, houtside⟩ := hreports.1 hreported
  constructor
  · intro hnone l hl _
    exact hnone l.node (Tree.mem_preorder_iff.2 ⟨l, hl, rfl⟩)
  · intro hnone n hn hcalls
    obtain ⟨l, hl, rfl⟩ := Tree.mem_preorder_iff.1 hn
    exact hnone l hl (houtside l hl hcalls) hcalls

/-- A function that another function calls, and that function called by a statement of the file. -/
def outerCallSource : List Char :=
  "def f(): g()\ndef g(): pass\nf()\n".toList

/-- The function called by a statement is reported, though it is called. -/
theorem deadCode_reports_called_function : ∃ root, readTree outerCallSource = .ok root ∧
    FileContext.ReportsDead
      ⟨.ofTree "a.py" outerCallSource root, String.ofList outerCallSource, {}, .file⟩ "f" ∧
    ∃ n ∈ root.preorder, n.Calls outerCallSource "f" := by
  have hcomputed : (readTree outerCallSource).toOption.map (fun root =>
      (decide (FileContext.ReportsDead
        ⟨.ofTree "a.py" outerCallSource root, String.ofList outerCallSource, {}, .file⟩ "f"),
        decide ("f" ∈ callNames outerCallSource root))) = some (true, true) := by
    decide +kernel
  obtain ⟨root, hread, hcomputed⟩ := exists_readTree hcomputed
  obtain ⟨hreported, hcalled⟩ := Prod.mk.inj hcomputed
  exact ⟨root, hread, of_decide_eq_true hreported, mem_callNames.1 (of_decide_eq_true hcalled)⟩

/-- The function called in a function is not reported. -/
theorem deadCode_ignores_outer_calls_outer : ∃ root, readTree outerCallSource = .ok root ∧
    (∀ l ∈ root.lineages, l.node.Calls outerCallSource "f" → l.IsOutsideFunctions) ∧
    ¬ FileContext.ReportsDead
      ⟨.ofTree "a.py" outerCallSource root, String.ofList outerCallSource, {}, .file⟩ "g" ∧
    ¬ ∀ l ∈ root.lineages, l.IsOutsideFunctions → ¬ l.node.Calls outerCallSource "f" := by
  have hcomputed : (readTree outerCallSource).toOption.map (fun root =>
      (decide (FileContext.ReportsDead
        ⟨.ofTree "a.py" outerCallSource root, String.ofList outerCallSource, {}, .file⟩ "f"),
        decide (FileContext.ReportsDead
        ⟨.ofTree "a.py" outerCallSource root, String.ofList outerCallSource, {}, .file⟩ "g"),
        decide ("f" ∈ callNames outerCallSource root))) = some (true, false, true) := by
    decide +kernel
  obtain ⟨root, hread, hcomputed⟩ := exists_readTree hcomputed
  obtain ⟨hreported, hcomputed⟩ := Prod.mk.inj hcomputed
  obtain ⟨hother, hcalled⟩ := Prod.mk.inj hcomputed
  have hf := of_decide_eq_true hreported
  obtain ⟨hexact, hclaim⟩ :=
    deadCode_ignores_outer_calls hread "a.py" (String.ofList outerCallSource) {} "f"
  refine ⟨root, hread, (hexact.1 hf).2.2, of_decide_eq_false hother, fun hnone => ?_⟩
  obtain ⟨n, hn, hcalls⟩ := mem_callNames.1 (of_decide_eq_true hcalled)
  exact (hclaim hf).2 hnone n hn hcalls

end CodeSurvey
