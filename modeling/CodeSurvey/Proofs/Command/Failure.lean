/-
# Failing commands leave no trace

A command first reads, and a reading step leaves the session as it is, apart from warnings that it
logs.  It writes at most one file, which either happens or fails with nothing written, and what it
does after that cannot fail.  So a command fails only for one of a few causes (`Invocation.Fails`),
and then nothing has been printed or written (`failing_command_leaves_no_trace`).
-/
import CodeSurvey.Command.Run
import CodeSurvey.Proofs.Graph.Resolution

namespace CodeSurvey

/-! ## Steps -/

namespace Run

section Sequence

variable {α β : Type} {m : Run α} {w w' : Session}

/-- A command goes on with what a step answers, in the session that the step leaves. -/
theorem run_bind_ok {a : α} (h : m.run.run w = (.ok a, w')) (k : α → Run β) :
    (m >>= k).run.run w = (k a).run.run w' := by
  rw [ExceptT.run_bind, StateT.run_bind, h]
  rfl

/-- A step that fails ends the command. -/
theorem run_bind_error {e : RunError} (h : m.run.run w = (.error e, w')) (k : α → Run β) :
    (m >>= k).run.run w = (.error e, w') := by
  rw [ExceptT.run_bind, StateT.run_bind, h]
  rfl

end Sequence

/-- A step that cannot fail and writes no file. -/
def OnlyPrints (m : Run Unit) : Prop :=
  ∀ w, ∃ w', m.run.run w = (.ok (), w') ∧ w'.tree = w.tree

theorem onlyPrints_printLine (s : String) : OnlyPrints (printLine s) :=
  fun _ => ⟨_, rfl, rfl⟩

theorem OnlyPrints.bind {m k : Run Unit} (hm : OnlyPrints m) (hk : OnlyPrints k) :
    OnlyPrints (m >>= fun _ => k) := by
  intro w
  obtain ⟨w₁, hrun, htree⟩ := hm w
  obtain ⟨w₂, hrun', htree'⟩ := hk w₁
  exact ⟨w₂, (run_bind_ok hrun _).trans hrun', htree'.trans htree⟩

/-- Printing something for every item of a list only prints. -/
theorem onlyPrints_forM {α : Type} {f : α → Run Unit} (hf : ∀ a, OnlyPrints (f a)) (as : List α) :
    OnlyPrints (as.forM f) := by
  induction as with
  | nil => exact fun w => ⟨w, rfl, rfl⟩
  | cons a as ih => exact (hf a).bind ih

/-! ## Logging -/

theorem run_warn (warnings : List String) (w : Session) :
    (warn warnings).run.run w = (.ok (), w.logged warnings) := rfl

/-- Logging nothing does nothing. -/
theorem logged_nil (w : Session) : w.logged [] = w := by
  rw [Session.logged, List.append_nil]

/-- Warnings that are logged one after another are logged together. -/
theorem logged_logged (w : Session) (first second : List String) :
    (w.logged first).logged second = w.logged (first ++ second) := by
  simp only [Session.logged, List.append_assoc]

/-! ## Reading -/

theorem run_tree (w : Session) : tree.run.run w = (.ok w.tree, w) := rfl

section Reading

variable {i : Invocation} {w : Session} {β : Type}

/-- Settings are read, or the command ends for want of them. -/
theorem run_settings (i : Invocation) (w : Session) :
    (settings i).run.run w = ((loadSettings w.tree i.path i.config).mapError .settings, w) := by
  unfold settings
  rw [run_bind_ok (run_tree w)]
  cases loadSettings w.tree i.path i.config <;> rfl

theorem settings_bind_ok {s : Settings} (h : loadSettings w.tree i.path i.config = .ok s)
    (k : Settings → Run β) : (settings i >>= k).run.run w = (k s).run.run w := by
  apply run_bind_ok
  rw [run_settings, h]
  rfl

/-- Without settings the command ends, and nothing has happened. -/
theorem settings_bind_error {e : SettingsError}
    (h : loadSettings w.tree i.path i.config = .error e) (k : Settings → Run β) :
    (settings i >>= k).run.run w = (.error (.settings e), w) := by
  apply run_bind_error
  rw [run_settings, h]
  rfl

/-- Source files are read, and those without text are warned about. -/
theorem sourceFiles_bind_ok {s : Settings} {files : List SourceFile}
    (h : loadFiles w.tree s.loader i.path = .ok files) (k : List SourceFile → Run β) :
    (sourceFiles i s >>= k).run.run w =
      (k files).run.run (w.logged (loadWarnings w.tree s.loader i.path)) := by
  apply run_bind_ok
  unfold sourceFiles
  rw [run_bind_ok (run_tree w), h]
  rfl

/-- Without a directory to read from, the command ends. -/
theorem sourceFiles_bind_error {s : Settings} {e : LoadError}
    (h : loadFiles w.tree s.loader i.path = .error e) (k : List SourceFile → Run β) :
    (sourceFiles i s >>= k).run.run w = (.error (.load e), w) := by
  apply run_bind_error
  unfold sourceFiles
  rw [run_bind_ok (run_tree w), h]
  rfl

end Reading

/-! ## Writing -/

theorem run_write_some {t : FileTree} {path s : String} {w : Session}
    (h : w.tree.write? path s = some t) :
    (write path s).run.run w = (.ok (), { w with tree := t }) := by
  unfold write
  rw [run_bind_ok (run_tree w), h]
  rfl

/-- A file that cannot be written to ends the command as it was. -/
theorem run_write_none {path s : String} {w : Session} (h : w.tree.write? path s = none) :
    (write path s).run.run w = (.error (.unwritable path), w) := by
  unfold write
  rw [run_bind_ok (run_tree w), h]
  rfl

theorem run_create {t : FileTree} {l : Location} {s : String} {w : Session}
    (h : w.tree.writeAt? l s = some t) :
    (create l s).run.run w = (.ok (), { w with tree := t }) := by
  unfold create
  rw [run_bind_ok (run_tree w), h]
  rfl

end Run

/-- Whether a file can be written to does not depend on the text. -/
theorem FileTree.write?_eq_none {t : FileTree} {path s : String} (h : t.write? path s = none)
    (s' : String) : t.write? path s' = none := by
  simp only [write?, writeAt?, Option.bind_eq_bind, Option.bind_eq_none_iff] at h ⊢
  intro _ hname directory hdirectory _ hplace
  exact absurd (h () hname directory hdirectory () hplace) (by simp)

/-! ## Commands -/

namespace Run

variable {i : Invocation} {w : Session}

/-- The place of the settings file that is created. -/
def settingsPlace (root : Location) : Location :=
  root ++ [settingsFileNames.headD ""]

/-- The settings file or directory that is found in a directory. -/
def settingsFound? (t : FileTree) (root : Location) : Option Location :=
  (settingsFileNames.map fun name => root ++ [name]).find? t.has

/-- The tree with a settings file in a directory: with the one that is there, or one that holds the
defaults. -/
def withSettingsFile (t : FileTree) (root : Location) : FileTree :=
  match settingsFound? t root with
  | some _ => t
  | none => t.put (settingsPlace root) (.text defaultSettingsText)

/-- If no settings file is found, there is nothing under any of their names. -/
theorem has_eq_false_of_settingsFound? {t : FileTree} {root : Location}
    (h : settingsFound? t root = none) {name : String} (hname : name ∈ settingsFileNames) :
    t.has (root ++ [name]) = false := by
  have hnot := List.find?_eq_none.1 h (root ++ [name]) (List.mem_map.2 ⟨name, hname, rfl⟩)
  simpa using hnot

/-- In a directory without a settings file, one can be written. -/
theorem writeAt?_settingsPlace {t : FileTree} {root : Location} (hroot : t.isDirectory root = true)
    (hplace : settingsFound? t root = none) (s : String) :
    t.writeAt? (settingsPlace root) s = some (t.put (settingsPlace root) (.text s)) := by
  have hnew : t.has (settingsPlace root) = false :=
    has_eq_false_of_settingsFound? hplace List.mem_cons_self
  have hdirectory : t.isDirectory (settingsPlace root) = false := (Bool.or_eq_false_iff.1 hnew).2
  have hparent : (settingsPlace root).dropLast = root := List.dropLast_concat
  unfold FileTree.writeAt?
  rw [hparent, hroot, hdirectory]
  rfl

section Init

/-- Where there is nothing, no settings file is written. -/
theorem init_of_missing (h : w.tree.locate? i.path = none) :
    (init i).run.run w = (.error (.missingPath i.path), w) := by
  unfold init
  rw [run_bind_ok (run_tree w), h]
  rfl

variable {root : Location} (h : w.tree.locate? i.path = some root)

include h

/-- Nor is one written where there is no directory. -/
theorem init_of_not_directory (hroot : w.tree.isDirectory root = false) :
    (init i).run.run w = (.error (.notDirectory (locationText root)), w) := by
  unfold init
  rw [run_bind_ok (run_tree w), h]
  simp only [hroot]
  rfl

/-- In a directory, the settings file is there or is written. -/
theorem init_of_directory (hroot : w.tree.isDirectory root = true) :
    ∃ w', (init i).run.run w = (.ok (), w') ∧ w'.tree = withSettingsFile w.tree root := by
  unfold init withSettingsFile
  rw [run_bind_ok (run_tree w), h]
  cases hplace : settingsFound? w.tree root with
  | some place =>
    unfold settingsFound? at hplace
    simp only [hroot, hplace]
    exact onlyPrints_printLine _ w
  | none =>
    have hcreate := run_create (writeAt?_settingsPlace hroot hplace defaultSettingsText)
    unfold settingsFound? at hplace
    simp only [hroot, hplace]
    -- what is printed after the file was written cannot fail
    obtain ⟨w', hprinted, htree⟩ := ((onlyPrints_printLine _).bind ((onlyPrints_printLine _).bind
      ((onlyPrints_printLine _).bind (onlyPrints_printLine _)))) _
    exact ⟨w', (run_bind_ok hcreate _).trans hprinted, htree⟩

end Init

/-- A report that cannot be written is not delivered. -/
theorem deliver_of_unwritable {path text : String} (h : w.tree.write? path text = none) :
    (deliver (some path) text).run.run w = (.error (.unwritable path), w) :=
  run_bind_error (run_write_none h) _

/-- Printing cannot fail, so a report is delivered if it can be written. -/
theorem deliver_of_writable {output : Option String} {text : String}
    (h : ∀ path ∈ output, w.tree.write? path text ≠ none) :
    ∃ w', (deliver output text).run.run w = (.ok (), w') := by
  cases output with
  | none => exact ⟨_, rfl⟩
  | some path =>
    obtain ⟨t, ht⟩ := Option.ne_none_iff_exists'.1 (h path rfl)
    exact ⟨_, run_bind_ok (run_write_some ht) _⟩

section Survey

variable {s : Settings} {files : List SourceFile}
  (hs : loadSettings w.tree i.path i.config = .ok s)
  (hfiles : loadFiles w.tree s.loader i.path = .ok files)

include hs hfiles

/-- A function without a node ends the command before anything is printed. -/
theorem chains_of_unknown {function : String} {depth : Nat}
    (h : (callsIn s files).graph.node? function = none) :
    (chains i function depth).run.run w =
      (.error (.unknownFunction function), w.logged (loadWarnings w.tree s.loader i.path)) := by
  unfold chains
  rw [settings_bind_ok hs, sourceFiles_bind_ok hfiles]
  simp only [h]
  rfl

/-- For a function with a node, chains are only printed. -/
theorem chains_of_known {function : String} {depth : Nat}
    (h : (callsIn s files).graph.node? function ≠ none) :
    ∃ w', (chains i function depth).run.run w = (.ok (), w') ∧ w'.tree = w.tree := by
  obtain ⟨v, hv⟩ := Option.ne_none_iff_exists'.1 h
  unfold chains
  rw [settings_bind_ok hs, sourceFiles_bind_ok hfiles]
  simp only [hv]
  exact (onlyPrints_printLine _).bind (onlyPrints_forM (fun _ => onlyPrints_printLine _) _) _

/-- What is left of a survey once its files are read is to log warnings and deliver the report. -/
theorem exists_run_analyze (seconds : Float) (format : OutputFormat) (output : Option String)
    (scope : Option DeadCodeScope) :
    ∃ text warnings, (analyze i seconds format output scope).run.run w =
      (deliver output text).run.run (w.logged warnings) := by
  unfold analyze
  rw [settings_bind_ok hs,
    sourceFiles_bind_ok (s := { s with deadCodeScope := scope.getD s.deadCodeScope }) hfiles,
    run_bind_ok (run_warn _ _), run_bind_ok (run_warn _ _), logged_logged, logged_logged]
  exact ⟨_, _, rfl⟩

/-- A survey whose report cannot be written fails with warnings alone. -/
theorem analyze_of_unwritable (seconds : Float) (format : OutputFormat) {path : String}
    (scope : Option DeadCodeScope) (h : ∀ text, w.tree.write? path text = none) :
    ∃ warnings, (analyze i seconds format (some path) scope).run.run w =
      (.error (.unwritable path), w.logged warnings) := by
  obtain ⟨text, warnings, hrun⟩ := exists_run_analyze hs hfiles seconds format (some path) scope
  exact ⟨warnings, hrun.trans (deliver_of_unwritable (h text))⟩

/-- A survey whose report can be written succeeds; what the report says does not matter. -/
theorem analyze_of_writable (seconds : Float) (format : OutputFormat) {output : Option String}
    (scope : Option DeadCodeScope) (h : ∀ path ∈ output, ∃ text, w.tree.write? path text ≠ none) :
    ∃ w', (analyze i seconds format output scope).run.run w = (.ok (), w') := by
  obtain ⟨text, warnings, hrun⟩ := exists_run_analyze hs hfiles seconds format output scope
  obtain ⟨w', hdelivered⟩ :
      ∃ w', (deliver output text).run.run (w.logged warnings) = (.ok (), w') := by
    apply deliver_of_writable
    intro path hpath hnone
    obtain ⟨text', hwritten⟩ := h path hpath
    exact hwritten (FileTree.write?_eq_none hnone text')
  exact ⟨w', hrun.trans hdelivered⟩

end Survey

end Run

/-! ## Failing -/

/-- Why a command line fails on a tree: something that it reads is missing or wrong, or its report
cannot be written anywhere. -/
inductive Invocation.Fails (i : Invocation) (t : FileTree) : RunError → Prop where
  | missingPath (hcommand : i.command = some .init) (hpath : t.locate? i.path = none) :
      Fails i t (.missingPath i.path)
  | notDirectory {root : Location} (hcommand : i.command = some .init)
      (hpath : t.locate? i.path = some root) (hroot : t.isDirectory root = false) :
      Fails i t (.notDirectory (locationText root))
  | settings {e : SettingsError} (hcommand : i.command ≠ some .init)
      (hsettings : loadSettings t i.path i.config = .error e) : Fails i t (.settings e)
  | load {s : Settings} {e : LoadError} (hcommand : i.command ≠ some .init)
      (hsettings : loadSettings t i.path i.config = .ok s)
      (hfiles : loadFiles t s.loader i.path = .error e) : Fails i t (.load e)
  | unknownFunction {s : Settings} {files : List SourceFile} {function : String} {depth : Nat}
      (hcommand : i.command = some (.chains function depth))
      (hsettings : loadSettings t i.path i.config = .ok s)
      (hfiles : loadFiles t s.loader i.path = .ok files)
      (hunknown : ∀ file ∈ files,
        ∀ f ∈ (measureFile s.thresholds.maxComplexity file).outline.functions,
          f.qualifiedId (measureFile s.thresholds.maxComplexity file).outline.path ≠ function) :
      Fails i t (.unknownFunction function)
  | unwritable {s : Settings} {files : List SourceFile} {format : OutputFormat} {path : String}
      {scope : Option DeadCodeScope} (hcommand : i.command = some (.analyze format (some path) scope))
      (hsettings : loadSettings t i.path i.config = .ok s)
      (hfiles : loadFiles t s.loader i.path = .ok files)
      (hwrite : ∀ text, t.write? path text = none) : Fails i t (.unwritable path)

namespace Invocation

section Rules

variable {i : Invocation} {w : Session} {e : RunError}

/-- Every command but one starts by reading settings and files. -/
theorem exists_run_eq (h : i.command ≠ some .init) (seconds : Float) :
    ∃ k : Settings → List SourceFile → Run Unit,
      i.run seconds = Run.settings i >>= fun s => Run.sourceFiles i s >>= k s := by
  obtain ⟨path, config, logLevel, workers, command⟩ := i
  cases command with
  | none => exact ⟨_, rfl⟩
  | some command =>
    cases command with
    | init => exact absurd rfl h
    | chains function depth => exact ⟨_, rfl⟩
    | analyze format output scope => exact ⟨_, rfl⟩

/-- A function has no node if and only if no file defines it. -/
theorem node?_callsIn_eq_none_iff {s : Settings} {files : List SourceFile} {function : String} :
    (Run.callsIn s files).graph.node? function = none ↔
      ∀ file ∈ files, ∀ f ∈ (measureFile s.thresholds.maxComplexity file).outline.functions,
        f.qualifiedId (measureFile s.thresholds.maxComplexity file).outline.path ≠ function := by
  unfold Run.callsIn
  obtain ⟨hbuilt, hkeys, -⟩ := CallGraph.graph_ofOutlines
    (files.map fun f => (measureFile s.thresholds.maxComplexity f).outline)
  rw [← Option.not_isSome_iff_eq_none, hbuilt.consistent.isSome_node?_iff, hkeys,
    CallGraph.mem_definition_ids]
  simp

/-- A command with a cause to fail fails, and leaves the session as it was, apart from warnings. -/
theorem Fails.run_eq (h : i.Fails w.tree e) (seconds : Float) :
    ∃ warnings, (i.run seconds).run.run w = (.error e, w.logged warnings) := by
  -- a command that fails before its files are read leaves no warning
  have hquiet {result : Except RunError Unit × Session} (hr : result = (.error e, w)) :
      ∃ warnings, result = (.error e, w.logged warnings) := by
    refine ⟨[], ?_⟩
    rw [Run.logged_nil]
    exact hr
  cases h with
  | missingPath hcommand hpath =>
    rw [run, hcommand]
    exact hquiet (Run.init_of_missing hpath)
  | notDirectory hcommand hpath hroot =>
    rw [run, hcommand]
    exact hquiet (Run.init_of_not_directory hpath hroot)
  | settings hcommand hsettings =>
    obtain ⟨k, hk⟩ := exists_run_eq hcommand seconds
    rw [hk]
    exact hquiet (Run.settings_bind_error hsettings _)
  | load hcommand hsettings hfiles =>
    obtain ⟨k, hk⟩ := exists_run_eq hcommand seconds
    rw [hk, Run.settings_bind_ok hsettings]
    exact hquiet (Run.sourceFiles_bind_error hfiles _)
  | unknownFunction hcommand hsettings hfiles hunknown =>
    rw [run, hcommand]
    exact ⟨_, Run.chains_of_unknown hsettings hfiles (node?_callsIn_eq_none_iff.2 hunknown)⟩
  | unwritable hcommand hsettings hfiles hwrite =>
    rw [run, hcommand]
    exact Run.analyze_of_unwritable hsettings hfiles seconds _ _ hwrite

/-- A command that could read settings and files fails for want of a function or of a place to write
to, or succeeds. -/
theorem fails_or_succeeds_of_read {s : Settings} {files : List SourceFile}
    (hcommand : i.command ≠ some .init) (hsettings : loadSettings w.tree i.path i.config = .ok s)
    (hfiles : loadFiles w.tree s.loader i.path = .ok files) (seconds : Float) :
    (∃ e, i.Fails w.tree e) ∨ ∃ w', (i.run seconds).run.run w = (.ok (), w') := by
  cases hc : i.command with
  | none =>
    rw [run, hc]
    exact .inr (Run.analyze_of_writable hsettings hfiles seconds .text none
      (fun path hpath => absurd hpath (Option.not_mem_none path)))
  | some command =>
    cases command with
    | init => exact absurd hc hcommand
    | chains function depth =>
      by_cases hnode : (Run.callsIn s files).graph.node? function = none
      · exact .inl ⟨_, .unknownFunction hc hsettings hfiles (node?_callsIn_eq_none_iff.1 hnode)⟩
      · obtain ⟨w', hrun, -⟩ := Run.chains_of_known hsettings hfiles hnode
        rw [run, hc]
        exact .inr ⟨w', hrun⟩
    | analyze format output scope =>
      by_cases hwrite : ∃ path ∈ output, ∀ text, w.tree.write? path text = none
      · obtain ⟨path, hpath, hnone⟩ := hwrite
        obtain rfl := Option.mem_def.1 hpath
        exact .inl ⟨_, .unwritable hc hsettings hfiles hnone⟩
      · push Not at hwrite
        rw [run, hc]
        exact .inr (Run.analyze_of_writable hsettings hfiles seconds format scope hwrite)

/-- Without a cause to fail, a command succeeds. -/
theorem fails_or_succeeds (i : Invocation) (seconds : Float) (w : Session) :
    (∃ e, i.Fails w.tree e) ∨ ∃ w', (i.run seconds).run.run w = (.ok (), w') := by
  by_cases hcommand : i.command = some .init
  · cases hpath : w.tree.locate? i.path with
    | none => exact .inl ⟨_, .missingPath hcommand hpath⟩
    | some root =>
      cases hroot : w.tree.isDirectory root with
      | false => exact .inl ⟨_, .notDirectory hcommand hpath hroot⟩
      | true =>
        obtain ⟨w', hrun, -⟩ := Run.init_of_directory hpath hroot
        rw [run, hcommand]
        exact .inr ⟨w', hrun⟩
  · cases hsettings : loadSettings w.tree i.path i.config with
    | error e => exact .inl ⟨_, .settings hcommand hsettings⟩
    | ok s =>
      cases hfiles : loadFiles w.tree s.loader i.path with
      | error e => exact .inl ⟨_, .load hcommand hsettings hfiles⟩
      | ok files => exact fails_or_succeeds_of_read hcommand hsettings hfiles seconds

/-- A command fails exactly if it has a cause to. -/
theorem run_eq_error_iff {seconds : Float} :
    ((i.run seconds).run.run w).1 = .error e ↔ i.Fails w.tree e := by
  constructor
  · intro herror
    rcases fails_or_succeeds i seconds w with ⟨e', hfails⟩ | ⟨w', hok⟩
    · obtain ⟨warnings, hrun⟩ := hfails.run_eq seconds
      rw [hrun] at herror
      exact Except.error.inj herror ▸ hfails
    · rw [hok] at herror
      cases herror
  · intro hfails
    obtain ⟨warnings, hrun⟩ := hfails.run_eq seconds
    rw [hrun]

end Rules

/-- **A failing command leaves no trace.**  A command fails for exactly the causes above, and
nothing has then been printed and no file has been created or changed: at most there are warnings in
the log. -/
theorem failing_command_leaves_no_trace (i : Invocation) (seconds : Float) (t : FileTree)
    (e : RunError) :
    ((i.execute seconds t).1 = .error e ↔ i.Fails t e) ∧
    ((i.execute seconds t).1 = .error e →
      (i.execute seconds t).2.stdout = "" ∧ (i.execute seconds t).2.stderr = "" ∧
        (i.execute seconds t).2.tree = t) := by
  have hiff : (i.execute seconds t).1 = .error e ↔ i.Fails t e :=
    run_eq_error_iff (w := { tree := t })
  refine ⟨hiff, fun herror => ?_⟩
  obtain ⟨warnings, hrun⟩ := Fails.run_eq (w := { tree := t }) (hiff.1 herror) seconds
  rw [execute, hrun]
  exact ⟨rfl, rfl, rfl⟩

/-- A directory with one function, which calls another that is not there. -/
def smallTree : FileTree :=
  ⟨["r"], [(["r", "m.py"], .text "def f(): g()\n")], []⟩

/-- Asking for the chains of a function that is only called fails, and so does a report to a directory
that is missing. -/
theorem failing_command_leaves_no_trace_small :
    (execute { command := some (.chains "m.py::g" 3) } 0 smallTree).1 =
      .error (.unknownFunction "m.py::g") ∧
    (execute { command := some (.chains "m.py::g" 3) } 0 smallTree).2.stdout = "" ∧
    (execute { command := some (.analyze .json (some "missing/report.json") none) } 0 smallTree).1 =
      .error (.unwritable "missing/report.json") ∧
    (execute { command := some (.analyze .json (some "missing/report.json") none) } 0
      smallTree).2.tree = smallTree := by
  have hsettings : loadSettings smallTree "." none = .ok {} := by decide
  have hfiles : loadFiles smallTree ({} : Settings).loader "." =
      .ok [⟨"m.py", "def f(): g()\n"⟩] := by decide +kernel
  have hunwritable : smallTree.write? "missing/report.json" "" = none := by decide
  have hchains := failing_command_leaves_no_trace { command := some (.chains "m.py::g" 3) } 0
    smallTree (.unknownFunction "m.py::g")
  have hanalyze := failing_command_leaves_no_trace
    { command := some (.analyze .json (some "missing/report.json") none) } 0 smallTree
    (.unwritable "missing/report.json")
  have hunknown := hchains.1.2 (.unknownFunction rfl hsettings hfiles (by decide +kernel))
  have hmissing := hanalyze.1.2
    (.unwritable rfl hsettings hfiles (FileTree.write?_eq_none hunwritable))
  exact ⟨hunknown, (hchains.2 hunknown).1, hmissing, (hanalyze.2 hmissing).2.2⟩

end Invocation

end CodeSurvey
