/-
# A settings file with the defaults changes nothing

Where there is no settings file, one with the defaults can be written.  Its text holds the settings
that are used without a file (`ofText_defaultSettingsText`), and it is a new file in a directory, so
all that could be found before is found as it was.  So the command that writes it never changes what
other commands do (`init_keeps_files_and_settings`).
-/
import CodeSurvey.Proofs.Command.Failure
import CodeSurvey.Proofs.Files.Walk

namespace CodeSurvey

/-! ## The default text -/

/-- The text that is written stands for the default settings. -/
theorem ofJson?_defaultSettingsText :
    (SettingsFormat.toml.parse? defaultSettingsText).bind (Settings.ofJson? .toml) = some {} := by
  -- the text is taken apart into characters first, as they can be computed with
  rw [SettingsFormat.parse?, Toml.parse?, defaultSettingsText, String.toList_join,
    defaultSettingsLines]
  simp only [List.map_cons, List.map_nil, List.flatMap_cons, List.flatMap_nil, String.toList_append,
    String.toList_intercalate]
  dsimp only [String.reduceToList]
  decide +kernel

/-- The text with the defaults holds the defaults, and they are valid. -/
theorem ofText_defaultSettingsText (path : String) :
    Settings.ofText .toml path defaultSettingsText = .ok {} := by
  have hvalid : ({} : Settings).validate = .ok () := by decide
  rw [Settings.ofText, ofJson?_defaultSettingsText]
  simp only [hvalid]

/-! ## Looking for a settings file -/

section Looking

variable {t : FileTree} {path : String} {root : Location} (hpath : t.locate? path = some root)
  (hroot : t.isDirectory root = true)

include hpath hroot

/-- Without a settings file there are the defaults. -/
theorem loadSettings_of_not_found (h : Run.settingsFound? t root = none) :
    loadSettings t path none = .ok {} := by
  have hnone : t.settingsFile? path = none := by
    rw [FileTree.settingsFile?, List.findSome?_eq_none_iff]
    intro name hname
    have hfile : t.isFile (root ++ [name]) = false :=
      (Bool.or_eq_false_iff.1 (Run.has_eq_false_of_settingsFound? h hname)).1
    rw [FileTree.read?_joinPath hpath hroot (isEntryName_of_mem hname),
      FileTree.content?_eq_none hfile, Option.map_none]
  rw [loadSettings, hnone]

/-- With a file that holds the defaults there are the defaults. -/
theorem loadSettings_of_default
    (h : t.content? (Run.settingsPlace root) = some (.text defaultSettingsText)) :
    loadSettings t path none = .ok {} := by
  have hname : IsEntryName "archaeologist.toml" := isEntryName_of_mem List.mem_cons_self
  have hsome : t.settingsFile? path =
      some (joinPath path "archaeologist.toml", .text defaultSettingsText) := by
    have hread : t.read? (joinPath path "archaeologist.toml") = some (.text defaultSettingsText) :=
      (FileTree.read?_joinPath hpath hroot hname).trans h
    rw [FileTree.settingsFile?, settingsFileNames, List.findSome?_cons, hread, Option.map_some]
  have hformat : SettingsFormat.ofPath? (joinPath path "archaeologist.toml") = some .toml := by
    rw [SettingsFormat.ofPath?, hname.pathExtension?_joinPath]
    decide
  rw [loadSettings, hsome]
  simp only [Settings.ofContent, FileContent.text?, hformat]
  exact ofText_defaultSettingsText _

end Looking

/-! ## The tree with a settings file -/

namespace Run

/-- A settings file that is there stays as it is, or there is none and one is put into the
directory. -/
theorem withSettingsFile_cases (t : FileTree) (root : Location) :
    (∃ place, settingsFound? t root = some place ∧ withSettingsFile t root = t) ∨
    (settingsFound? t root = none ∧
      withSettingsFile t root = t.put (settingsPlace root) (.text defaultSettingsText)) := by
  unfold withSettingsFile
  cases settingsFound? t root with
  | some place => exact .inl ⟨place, rfl, rfl⟩
  | none => exact .inr ⟨rfl, rfl⟩

section Tree

variable {t : FileTree} {root : Location}

/-- The place of a settings file that is written was free. -/
theorem isFile_settingsPlace (h : settingsFound? t root = none) :
    t.isFile (settingsPlace root) = false :=
  (Bool.or_eq_false_iff.1 (has_eq_false_of_settingsFound? h List.mem_cons_self)).1

/-- No content is lost. -/
theorem content?_withSettingsFile {l : Location} {c : FileContent} (h : t.content? l = some c) :
    (withSettingsFile t root).content? l = some c := by
  obtain ⟨-, -, hsame⟩ | ⟨hplace, hput⟩ := withSettingsFile_cases t root
  · rwa [hsame]
  · have hl : l ≠ settingsPlace root := by
      rintro rfl
      rw [FileTree.content?_eq_none (isFile_settingsPlace hplace)] at h
      cases h
    rw [hput, FileTree.content?_put, if_neg hl, h]

/-- At most one file is new. -/
theorem isFile_of_withSettingsFile {l : Location}
    (h : (withSettingsFile t root).isFile l = true) :
    t.isFile l = true ∨ l = settingsPlace root := by
  obtain ⟨-, -, hsame⟩ | ⟨-, hput⟩ := withSettingsFile_cases t root
  · rw [hsame] at h
    exact .inl h
  · rw [hput, FileTree.isFile_iff] at h
    rw [FileTree.isFile_iff]
    exact FileTree.mem_locations_put.1 h

/-- Afterwards there is a settings file. -/
theorem exists_settingsFound? (t : FileTree) (root : Location) :
    ∃ place, settingsFound? (withSettingsFile t root) root = some place := by
  obtain ⟨place, hplace, hsame⟩ | ⟨-, hput⟩ := withSettingsFile_cases t root
  · exact ⟨place, hsame.symm ▸ hplace⟩
  · rw [hput, ← Option.isSome_iff_exists, settingsFound?, List.find?_isSome]
    refine ⟨settingsPlace root, List.mem_cons_self, ?_⟩
    rw [FileTree.has, FileTree.isFile_iff.2 (FileTree.mem_locations_put.2 (.inr rfl)), Bool.true_or]

/-- Writing a settings file where there is one by now does nothing. -/
theorem withSettingsFile_idem (t : FileTree) (root : Location) :
    withSettingsFile (withSettingsFile t root) root = withSettingsFile t root := by
  obtain ⟨place, hplace⟩ := exists_settingsFound? t root
  rw [withSettingsFile, hplace]

variable (hroot : t.isDirectory root = true)

include hroot

theorem isDirectory_settingsPlace : t.isDirectory (settingsPlace root).dropLast = true := by
  rwa [settingsPlace, List.dropLast_concat]

/-- No directory comes or goes. -/
theorem isDirectory_withSettingsFile (l : Location) :
    (withSettingsFile t root).isDirectory l = t.isDirectory l := by
  obtain ⟨-, -, hsame⟩ | ⟨-, hput⟩ := withSettingsFile_cases t root
  · rw [hsame]
  · rw [hput, FileTree.isDirectory_put (isDirectory_settingsPlace hroot)]

/-- Every path that led somewhere still leads there. -/
theorem locate?_withSettingsFile {path : String} {l : Location} (h : t.locate? path = some l) :
    (withSettingsFile t root).locate? path = some l := by
  obtain ⟨-, -, hsame⟩ | ⟨-, hput⟩ := withSettingsFile_cases t root
  · rwa [hsame]
  · rw [hput, FileTree.locate?_put (isDirectory_settingsPlace hroot) h]

end Tree

end Run

/-! ## Settings and files of a command -/

/-- A settings file is not a source file. -/
theorem sourceFile?_settingsPlace (s : LoaderSettings) (directory root : Location)
    (c : FileContent) : sourceFile? s directory (Run.settingsPlace root, c) = none := by
  have hname : IsEntryName "archaeologist.toml" := isEntryName_of_mem List.mem_cons_self
  have hextension : pathExtension? "archaeologist.toml" = some "toml" := by decide
  have hunsupported : isSupported
      ("/".intercalate ((Run.settingsPlace root).drop directory.length)) = false := by
    by_cases hlength : directory.length ≤ root.length
    · -- the path below the directory still ends with the name
      have hdrop : (Run.settingsPlace root).drop directory.length =
          root.drop directory.length ++ ["archaeologist.toml"] :=
        List.drop_append_of_le_length hlength
      rw [hdrop, isSupported, hname.pathExtension?_intercalate, hextension]
      decide
    · have hdrop : (Run.settingsPlace root).drop directory.length = [] := by
        rw [List.drop_eq_nil_iff, Run.settingsPlace, List.length_append, List.length_singleton]
        omega
      rw [hdrop]
      decide
  simp [sourceFile?, isWanted, hunsupported]

/-- A settings file holds no rules for what is ignored. -/
theorem ruleFilePlace?_settingsPlace (root : Location) :
    ruleFilePlace? (Run.settingsPlace root) = none := by
  simp [ruleFilePlace?, Run.settingsPlace, settingsFileNames]

section Reading

variable {t : FileTree} {root : Location} (hroot : t.isDirectory root = true) {path : String}
  {directory : Location} (hpath : t.locate? path = some directory)
  (hdirectory : t.isDirectory directory = true)

include hroot hpath hdirectory

/-- The settings for a directory are as they were, whether the new file is found there or not. -/
theorem loadSettings_withSettingsFile :
    loadSettings (Run.withSettingsFile t root) path none = loadSettings t path none := by
  have hpath' := Run.locate?_withSettingsFile hroot hpath
  have hdirectory' := hdirectory
  rw [← Run.isDirectory_withSettingsFile hroot] at hdirectory'
  obtain ⟨-, -, hsame⟩ | ⟨hplace, hput⟩ := Run.withSettingsFile_cases t root
  · rw [hsame]
  · by_cases hsettings : directory = root
    · subst hsettings
      rw [loadSettings_of_not_found hpath hdirectory hplace]
      apply loadSettings_of_default hpath' hdirectory'
      rw [hput, FileTree.content?_put, if_pos rfl]
    · have hfile : (Run.withSettingsFile t root).settingsFile? path = t.settingsFile? path := by
        unfold FileTree.settingsFile?
        rw [← List.head?_filterMap, ← List.head?_filterMap]
        congr 1
        apply List.filterMap_congr
        intro name hname
        have hother : directory ++ [name] ≠ Run.settingsPlace root := fun heq =>
          hsettings (List.append_inj_left' heq rfl)
        rw [FileTree.read?_joinPath hpath' hdirectory' (isEntryName_of_mem hname),
          FileTree.read?_joinPath hpath hdirectory (isEntryName_of_mem hname), hput,
          FileTree.content?_put, if_neg hother]
      rw [loadSettings, loadSettings, hfile]

/-- The source files below a directory are those that were there. -/
theorem loadFiles_withSettingsFile (s : LoaderSettings) :
    loadFiles (Run.withSettingsFile t root) s path = loadFiles t s path := by
  obtain ⟨-, -, hsame⟩ | ⟨hplace, hput⟩ := Run.withSettingsFile_cases t root
  · rw [hsame]
  · have hfiles : (Run.withSettingsFile t root).files =
        t.files ++ [(Run.settingsPlace root, .text defaultSettingsText)] := by
      rw [hput, FileTree.files_put_of_new (Run.isFile_settingsPlace hplace)]
    -- the settings file holds no ignore rules, so the same entries are skipped
    have hrules : ruleFiles (Run.withSettingsFile t root) s.respectGitignore =
        ruleFiles t s.respectGitignore := by
      rw [ruleFiles, ruleFiles, hfiles, List.filterMap_append]
      simp [ruleFilePlace?_settingsPlace]
    have hbelow : sourceFilesBelow (Run.withSettingsFile t root) s directory =
        sourceFilesBelow t s directory := by
      have hnew : t.has (Run.settingsPlace root) = false :=
        Run.has_eq_false_of_settingsFound? hplace List.mem_cons_self
      -- the walk may go deeper than before, where it meets nothing but the settings file
      have hdepth : t.depth ≤ (Run.withSettingsFile t root).depth := by
        rw [FileTree.depth, FileTree.depth, hfiles, List.foldl_append]
        exact Nat.le_max_left _ _
      unfold sourceFilesBelow filesBelow
      simp only [hrules]
      rw [hput] at hdepth ⊢
      rw [filterMap_walk_put hnew (Run.isDirectory_settingsPlace hroot)
        (sourceFile?_settingsPlace s directory root _) hdepth]
      intro m hm _
      exact (FileTree.length_le_depth hm).trans (Nat.le_add_left _ _)
    have hlocated : (Run.withSettingsFile t root).locateDirectory? path = some directory :=
      FileTree.locateDirectory?_eq_some.2 ⟨Run.locate?_withSettingsFile hroot hpath,
        (Run.isDirectory_withSettingsFile hroot directory).trans hdirectory⟩
    rw [loadFiles, loadFiles, hlocated,
      FileTree.locateDirectory?_eq_some.2 ⟨hpath, hdirectory⟩]
    simp only [hbelow]

end Reading

/-! ## The command -/

namespace Invocation

section Init

variable {i : Invocation} (hcommand : i.command = some .init)

include hcommand

/-- In a directory the command succeeds and leaves a settings file. -/
theorem execute_init {t : FileTree} {root : Location} (hpath : t.locate? i.path = some root)
    (hroot : t.isDirectory root = true) (seconds : Float) :
    (i.execute seconds t).1 = .ok () ∧
      (i.execute seconds t).2.tree = Run.withSettingsFile t root := by
  obtain ⟨w, hrun, htree⟩ := Run.init_of_directory (w := { tree := t }) hpath hroot
  have hexecute : i.execute seconds t = (.ok (), w) := by
    rw [execute, run, hcommand]
    exact hrun
  rw [hexecute]
  exact ⟨rfl, htree⟩

/-- Only in a directory does the command succeed. -/
theorem locateDirectory?_of_init {t : FileTree} {seconds : Float}
    (h : (i.execute seconds t).1 = .ok ()) : ∃ root, t.locateDirectory? i.path = some root := by
  have hno {e : RunError} : ¬ i.Fails t e := by
    intro hfails
    have herror : (i.execute seconds t).1 = .error e := run_eq_error_iff.2 hfails
    rw [h] at herror
    cases herror
  cases hpath : t.locate? i.path with
  | none => exact absurd (.missingPath hcommand hpath) hno
  | some root =>
    cases hroot : t.isDirectory root with
    | false => exact absurd (.notDirectory hcommand hpath hroot) hno
    | true => exact ⟨root, FileTree.locateDirectory?_eq_some.2 ⟨hpath, hroot⟩⟩

end Init

/-- **Writing a settings file never changes what a command does.**  If it succeeds, all files are as
they were, apart from a settings file in the directory that may be new; doing it again changes
nothing; and every directory, that one included, has the settings and source files that it had. -/
theorem init_keeps_files_and_settings {i : Invocation} (hcommand : i.command = some .init)
    {seconds : Float} {t : FileTree} (h : (i.execute seconds t).1 = .ok ()) :
    ∃ root t', t.locateDirectory? i.path = some root ∧ (i.execute seconds t).2.tree = t' ∧
      (∀ l c, t.content? l = some c → t'.content? l = some c) ∧
      (∀ l, t'.isFile l = true → t.isFile l = true ∨ l = root ++ ["archaeologist.toml"]) ∧
      (∀ l, t'.isDirectory l = t.isDirectory l) ∧
      (∃ place, Run.settingsFound? t' root = some place) ∧
      (∀ later, (i.execute later t').1 = .ok () ∧ (i.execute later t').2.tree = t') ∧
      ∀ path directory, t.locateDirectory? path = some directory →
        loadSettings t' path none = loadSettings t path none ∧
        ∀ s, loadFiles t' s path = loadFiles t s path := by
  obtain ⟨root, hlocated⟩ := locateDirectory?_of_init hcommand h
  obtain ⟨hpath, hroot⟩ := FileTree.locateDirectory?_eq_some.1 hlocated
  refine ⟨root, Run.withSettingsFile t root, hlocated, (execute_init hcommand hpath hroot seconds).2,
    fun l c => Run.content?_withSettingsFile, fun l => Run.isFile_of_withSettingsFile,
    Run.isDirectory_withSettingsFile hroot, Run.exists_settingsFound? t root, fun later => ?_,
    fun path directory hdirectory => ?_⟩
  · have hagain := execute_init hcommand (Run.locate?_withSettingsFile hroot hpath)
      ((Run.isDirectory_withSettingsFile hroot root).trans hroot) later
    rwa [Run.withSettingsFile_idem] at hagain
  · obtain ⟨hpath', hdirectory'⟩ := FileTree.locateDirectory?_eq_some.1 hdirectory
    exact ⟨loadSettings_withSettingsFile hroot hpath' hdirectory',
      loadFiles_withSettingsFile hroot hpath' hdirectory'⟩

/-- The source file stays, a second time nothing happens, and a path from the top of the tree has the
same settings as before. -/
theorem init_keeps_files_and_settings_small :
    (execute { path := "./", command := some .init } 0 smallTree).1 = .ok () ∧
    ∃ t', (execute { path := "./", command := some .init } 0 smallTree).2.tree = t' ∧
      t'.content? ["r", "m.py"] = some (.text "def f(): g()\n") ∧
      (execute { path := "./", command := some .init } 1 t').2.tree = t' ∧
      loadSettings t' "/r" none = loadSettings smallTree "/r" none := by
  have h : (execute { path := "./", command := some .init } 0 smallTree).1 = .ok () := by
    decide
  obtain ⟨root, t', -, htree, hcontent, -, -, -, hagain, hsettings⟩ :=
    init_keeps_files_and_settings rfl h
  have htop : smallTree.locateDirectory? "/r" = some ["r"] := by decide
  exact ⟨h, t', htree, hcontent _ _ (by decide), (hagain 1).2, (hsettings "/r" _ htop).1⟩

end Invocation

end CodeSurvey
