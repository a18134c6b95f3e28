/-
# Paths below a directory and files that are put there

A path is followed part by part, so joining a name to the path of a directory leads to the entry
with that name (`locate?_joinPath`), and reading there gives what the entry holds
(`read?_joinPath`).  A file that is put into a directory is read back there and nowhere else
(`content?_put`), no directory comes or goes (`isDirectory_put`), and every path that led somewhere
still leads there (`locate?_put`).
-/
import CodeSurvey.Proofs.Text.Lines
import CodeSurvey.Settings.File
import Mathlib.Tactic.SplitIfs

namespace CodeSurvey

/-! ## Names -/

/-- A name that an entry of a directory can have. -/
structure IsEntryName (name : String) : Prop where
  slash : '/' ∉ name.toList
  special : name ∉ ["", ".", ".."]

/-- The names of settings files are names of entries. -/
theorem isEntryName_of_mem {name : String} (h : name ∈ settingsFileNames) : IsEntryName name := by
  have hall : ∀ name ∈ settingsFileNames, '/' ∉ name.toList ∧ name ∉ ["", ".", ".."] := by decide
  exact ⟨(hall name h).1, (hall name h).2⟩

/-- A slash sets the parts before it off from those after it. -/
theorem splitText_append_slash (path path' : String) :
    splitText '/' (path ++ "/" ++ path') = splitText '/' path ++ splitText '/' path' := by
  have hchars : (path ++ "/" ++ path').toList = path.toList ++ '/' :: path'.toList := by
    simp
  rw [splitText, hchars, piecesAt_append_cons, List.map_append]
  rfl

/-- The parts of a joined path are those of the directory and of the name, apart from an empty part
where the path of the directory ends with a slash. -/
theorem exists_splitText_joinPath (path name : String) :
    ∃ before, splitText '/' (joinPath path name) = before ++ splitText '/' name ∧
      (splitText '/' path = before ∨ splitText '/' path = before ++ [""]) := by
  unfold joinPath
  split_ifs with hends
  · rw [Bool.or_eq_true, decide_eq_true_eq, decide_eq_true_eq] at hends
    obtain rfl | hlast := hends
    · exact ⟨[], by rw [String.empty_append, List.nil_append], .inr rfl⟩
    · obtain ⟨stem, hstem⟩ := List.getLast?_eq_some_iff.1 hlast
      have hpath : path = String.ofList stem ++ "/" := by
        rw [← String.toList_inj, hstem]
        simp
      refine ⟨splitText '/' (String.ofList stem), ?_, .inr ?_⟩
      · rw [hpath, splitText_append_slash]
      · rw [hpath, ← String.append_empty (s := String.ofList stem ++ "/"), splitText_append_slash]
        rfl
  · exact ⟨splitText '/' path, splitText_append_slash path name, .inl rfl⟩

section Names

variable {name : String} (hname : IsEntryName name)

include hname

/-- A name is a path of one part. -/
theorem IsEntryName.splitText_eq : splitText '/' name = [name] := by
  rw [splitText, piecesAt_of_not_mem hname.slash, List.map_singleton, String.ofList_toList]

/-- The last part of a path gives its extension. -/
theorem IsEntryName.pathExtension?_eq {path : String} {before : List String}
    (h : splitText '/' path = before ++ [name]) : pathExtension? path = pathExtension? name := by
  have hspecial := hname.special
  have hfile {p : String} {parts : List String} (hp : splitText '/' p = parts ++ [name]) :
      pathFileName? p = some name := by
    rw [pathFileName?, pathComponents, hp]
    simp_all
  have hself : splitText '/' name = [] ++ [name] := hname.splitText_eq
  unfold pathExtension?
  rw [hfile h, hfile hself]

/-- A joined path has the extension of the name. -/
theorem IsEntryName.pathExtension?_joinPath (path : String) :
    pathExtension? (joinPath path name) = pathExtension? name := by
  obtain ⟨before, hparts, -⟩ := exists_splitText_joinPath path name
  rw [hname.splitText_eq] at hparts
  exact hname.pathExtension?_eq hparts

/-- A name at the end of a path is its last part. -/
theorem IsEntryName.exists_splitText_intercalate (directories : List String) :
    ∃ before, splitText '/' ("/".intercalate (directories ++ [name])) = before ++ [name] := by
  induction directories with
  | nil =>
    rw [List.nil_append, String.intercalate_singleton, hname.splitText_eq]
    exact ⟨[], rfl⟩
  | cons d ds ih =>
    obtain ⟨before, hbefore⟩ := ih
    have hjoined : "/".intercalate (d :: ds ++ [name]) =
        d ++ "/" ++ "/".intercalate (ds ++ [name]) :=
      String.intercalate_cons_of_ne_nil (List.append_ne_nil_of_right_ne_nil _ (List.cons_ne_nil _ _))
    refine ⟨splitText '/' d ++ before, ?_⟩
    rw [hjoined, splitText_append_slash, hbefore, List.append_assoc]

/-- So the path has the extension of the name. -/
theorem IsEntryName.pathExtension?_intercalate (directories : List String) :
    pathExtension? ("/".intercalate (directories ++ [name])) = pathExtension? name := by
  obtain ⟨before, hbefore⟩ := hname.exists_splitText_intercalate directories
  exact hname.pathExtension?_eq hbefore

end Names

namespace FileTree

/-! ## Following a path -/

/-- Where one part of a path leads. -/
def enter? (t : FileTree) (part : String) (l : Location) : Option Location :=
  if !t.isDirectory l then none
  else if part = "" || part = "." then some l
  else if part = ".." then some l.dropLast
  else if t.has (l ++ [part]) then some (l ++ [part])
  else none

theorem followFrom_cons (t : FileTree) (part : String) (parts : List String) (l : Location) :
    t.followFrom (part :: parts) l = (t.enter? part l).bind (t.followFrom parts) := by
  rw [followFrom, enter?]
  split_ifs <;> rfl

/-- A path is followed from where its beginning leads. -/
theorem followFrom_append (t : FileTree) (parts parts' : List String) (l : Location) :
    t.followFrom (parts ++ parts') l = (t.followFrom parts l).bind (t.followFrom parts') := by
  induction parts generalizing l with
  | nil => rfl
  | cons part parts ih =>
    rw [List.cons_append, followFrom_cons, followFrom_cons, Option.bind_assoc]
    exact Option.bind_congr fun m _ => ih m

/-- An empty part at the end leads nowhere else. -/
theorem followFrom_of_append_empty {t : FileTree} {parts : List String} {l root : Location}
    (h : t.followFrom (parts ++ [""]) l = some root) : t.followFrom parts l = some root := by
  rw [followFrom_append, Option.bind_eq_some_iff] at h
  obtain ⟨m, hm, hroot⟩ := h
  have henter : t.enter? "" m = if t.isDirectory m then some m else none := by
    cases hdirectory : t.isDirectory m <;> simp [enter?, hdirectory]
  rw [followFrom_cons, henter] at hroot
  split_ifs at hroot
  · exact hm.trans hroot
  · cases hroot

/-- Inside a directory, a name leads to the entry if it is there. -/
theorem enter?_name {t : FileTree} {root : Location} (hroot : t.isDirectory root = true)
    {name : String} (hname : IsEntryName name) :
    t.enter? name root = if t.has (root ++ [name]) then some (root ++ [name]) else none := by
  have hspecial := hname.special
  simp_all [enter?]

section Joined

variable {t : FileTree} {path : String} {root : Location} (hpath : t.locate? path = some root)
  (hroot : t.isDirectory root = true) {name : String} (hname : IsEntryName name)

theorem path_ne_empty (hpath : t.locate? path = some root) : path ≠ "" := by
  rintro rfl
  cases hpath

/-- Joining a name to a path does not change where it starts. -/
theorem startOf_joinPath (h : path ≠ "") : t.startOf (joinPath path name) = t.startOf path := by
  obtain ⟨c, cs, hcs⟩ := List.exists_cons_of_ne_nil (mt String.toList_eq_nil_iff.1 h)
  unfold joinPath
  split_ifs <;> simp [startOf, hcs]

include hpath hroot hname

/-- A name joined to the path of a directory leads to the entry with that name. -/
theorem locate?_joinPath :
    t.locate? (joinPath path name) =
      if t.has (root ++ [name]) then some (root ++ [name]) else none := by
  have hpath' := path_ne_empty hpath
  have hjoined : joinPath path name ≠ "" := by
    unfold joinPath
    split_ifs <;> simp [hpath']
  obtain ⟨before, hparts, hbefore⟩ := exists_splitText_joinPath path name
  unfold locate? at hpath ⊢
  rw [if_neg hpath'] at hpath
  have hlocated : t.followFrom before (t.startOf path) = some root := by
    rcases hbefore with heq | heq
    · rwa [heq] at hpath
    · rw [heq] at hpath
      exact followFrom_of_append_empty hpath
  rw [if_neg hjoined, hparts, hname.splitText_eq, startOf_joinPath hpath',
    followFrom_append, hlocated, Option.bind_some, followFrom_cons, enter?_name hroot hname]
  exact Option.bind_fun_some _

end Joined

/-! ## Files and directories -/

/-- The locations of the files. -/
def locations (t : FileTree) : List Location :=
  t.files.map (·.1)

section Lookup

variable {t : FileTree} {l m : Location}

theorem isFile_iff : t.isFile l = true ↔ l ∈ t.locations := by
  simp [isFile, locations]

/-- A content is found just where there is a file. -/
theorem content?_eq_none_iff : t.content? l = none ↔ l ∉ t.locations := by
  rw [content?, Option.map_eq_none_iff, List.find?_eq_none, locations, List.mem_map]
  simp only [decide_eq_true_eq, not_exists, not_and]

theorem locateDirectory?_eq_some {path : String} :
    t.locateDirectory? path = some l ↔ t.locate? path = some l ∧ t.isDirectory l = true := by
  rw [locateDirectory?, Option.filter_eq_some_iff]

theorem content?_eq_none (h : t.isFile l = false) : t.content? l = none := by
  rw [content?_eq_none_iff, ← isFile_iff, h]
  exact Bool.false_ne_true

/-- A directory is there with everything below it. -/
theorem isDirectory_iff :
    t.isDirectory l = true ↔ l <+: t.workingDirectory ∨ (∃ d ∈ t.directories, l <+: d) ∨
      ∃ m ∈ t.locations, l <+: m.dropLast := by
  simp [isDirectory, locations, or_assoc]

/-- What is above a directory is a directory. -/
theorem isDirectory_of_prefix (h : t.isDirectory m = true) (hl : l <+: m) :
    t.isDirectory l = true := by
  rw [isDirectory_iff] at h ⊢
  obtain hwork | ⟨d, hd, hm⟩ | ⟨k, hk, hm⟩ := h
  · exact .inl (hl.trans hwork)
  · exact .inr (.inl ⟨d, hd, hl.trans hm⟩)
  · exact .inr (.inr ⟨k, hk, hl.trans hm⟩)

end Lookup

/-- Reading below a directory gives what the entry with the name holds. -/
theorem read?_joinPath {t : FileTree} {path : String} {root : Location}
    (hpath : t.locate? path = some root) (hroot : t.isDirectory root = true) {name : String}
    (hname : IsEntryName name) : t.read? (joinPath path name) = t.content? (root ++ [name]) := by
  unfold read? locateFile?
  rw [locate?_joinPath hpath hroot hname]
  cases hfile : t.isFile (root ++ [name]) with
  | true =>
    have hhas : t.has (root ++ [name]) = true := by
      rw [has, hfile, Bool.true_or]
    rw [if_pos hhas, Option.filter_some, if_pos hfile]
    rfl
  | false =>
    rw [content?_eq_none hfile]
    split_ifs <;> simp [hfile]

/-! ## Putting a file -/

section Put

variable {t : FileTree} {l : Location} {c : FileContent}

theorem files_put_of_new (h : t.isFile l = false) : (t.put l c).files = t.files ++ [(l, c)] := by
  rw [put, h]
  rfl

/-- Putting a file adds its location, if it is new. -/
theorem mem_locations_put {m : Location} :
    m ∈ (t.put l c).locations ↔ m ∈ t.locations ∨ m = l := by
  by_cases hfile : t.isFile l = true
  · have hsame : (t.put l c).locations = t.locations := by
      rw [put, if_pos hfile]
      simp only [locations, List.map_map]
      apply List.map_congr_left
      intro f _
      simp only [Function.comp]
      split_ifs with hf
      · exact hf.symm
      · rfl
    rw [hsame, or_iff_left_of_imp]
    rintro rfl
    exact isFile_iff.1 hfile
  · rw [put, if_neg hfile]
    simp [locations]

/-- A file that was there gets the new content, and no other one does. -/
theorem content?_put_of_isFile (hfile : t.isFile l = true) (m : Location) :
    (t.put l c).content? m = (t.files.find? (·.1 = m)).map fun f => if f.1 = l then c else f.2 := by
  -- the entries keep their locations, and only what is at the one location changes
  have hlocation : ((fun f : Location × FileContent => decide (f.1 = m)) ∘
      fun f => if f.1 = l then (l, c) else f) = fun f => decide (f.1 = m) := by
    funext f
    by_cases hf : f.1 = l <;> simp [hf]
  rw [put, if_pos hfile, content?, List.find?_map, Option.map_map, hlocation]
  congr 1
  funext f
  by_cases hf : f.1 = l <;> simp [hf]

/-- A new file comes after all others. -/
theorem content?_put_of_new (hnew : t.isFile l = false) (m : Location) :
    (t.put l c).content? m = (t.content? m).or (if m = l then some c else none) := by
  rw [content?, files_put_of_new hnew, List.find?_append, Option.map_or]
  by_cases hm : m = l
  · simp [hm, content?]
  · simp [hm, Ne.symm hm, content?]

/-- A file that is put is read back, and the others are as they were. -/
theorem content?_put (m : Location) :
    (t.put l c).content? m = if m = l then some c else t.content? m := by
  by_cases hfile : t.isFile l = true
  · rw [content?_put_of_isFile hfile]
    cases hfind : t.files.find? (·.1 = m) with
    | none =>
      have hnone : t.content? m = none := by
        rw [content?, hfind, Option.map_none]
      have hm : m ≠ l := by
        rintro rfl
        exact content?_eq_none_iff.1 hnone (isFile_iff.1 hfile)
      rw [if_neg hm, hnone, Option.map_none]
    | some f =>
      obtain rfl : f.1 = m := by
        simpa using List.find?_some hfind
      rw [content?, hfind, Option.map_some, Option.map_some]
      split_ifs <;> rfl
  · have hnew : t.isFile l = false := Bool.eq_false_iff.2 hfile
    rw [content?_put_of_new hnew]
    split_ifs with hm
    · rw [hm, content?_eq_none hnew, Option.none_or]
    · exact Option.or_none

theorem workingDirectory_put : (t.put l c).workingDirectory = t.workingDirectory := by
  unfold put
  split_ifs <;> rfl

theorem directories_put : (t.put l c).directories = t.directories := by
  unfold put
  split_ifs <;> rfl

variable (hparent : t.isDirectory l.dropLast = true)

include hparent

/-- A file inside a directory brings no new directory. -/
theorem isDirectory_put (m : Location) : (t.put l c).isDirectory m = t.isDirectory m := by
  rw [Bool.eq_iff_iff]
  constructor
  · intro h
    rw [isDirectory_iff, workingDirectory_put, directories_put] at h
    obtain hm | hm | ⟨k, hk, hm⟩ := h
    · exact isDirectory_iff.2 (.inl hm)
    · exact isDirectory_iff.2 (.inr (.inl hm))
    · rcases mem_locations_put.1 hk with hk | rfl
      · exact isDirectory_iff.2 (.inr (.inr ⟨k, hk, hm⟩))
      · exact isDirectory_of_prefix hparent hm
  · intro h
    rw [isDirectory_iff, workingDirectory_put, directories_put]
    obtain hm | hm | ⟨k, hk, hm⟩ := isDirectory_iff.1 h
    · exact .inl hm
    · exact .inr (.inl hm)
    · exact .inr (.inr ⟨k, mem_locations_put.2 (.inl hk), hm⟩)

/-- Whatever was there still is. -/
theorem has_put {m : Location} (h : t.has m = true) : (t.put l c).has m = true := by
  unfold has at h ⊢
  rw [isDirectory_put hparent, Bool.or_eq_true] 
  rcases Bool.or_eq_true_iff.1 h with hfile | hdirectory
  · exact .inl (isFile_iff.2 (mem_locations_put.2 (.inl (isFile_iff.1 hfile))))
  · exact .inr hdirectory

/-- A part of a path that led somewhere still leads there. -/
theorem enter?_put {part : String} {k m : Location} (h : t.enter? part k = some m) :
    (t.put l c).enter? part k = some m := by
  unfold enter? at h ⊢
  rw [isDirectory_put hparent]
  by_cases hhas : t.has (k ++ [part]) = true
  · rw [hhas] at h
    rwa [has_put hparent hhas]
  · rw [if_neg hhas] at h
    split_ifs at h ⊢ <;> assumption

/-- A path that led somewhere still leads there. -/
theorem followFrom_put {parts : List String} {k m : Location} (h : t.followFrom parts k = some m) :
    (t.put l c).followFrom parts k = some m := by
  induction parts generalizing k with
  | nil => exact h
  | cons part parts ih =>
    rw [followFrom_cons] at h ⊢
    obtain ⟨k', hk', hrest⟩ := Option.bind_eq_some_iff.1 h
    rw [enter?_put hparent hk']
    exact ih hrest

/-- So does the whole path. -/
theorem locate?_put {path : String} {m : Location} (h : t.locate? path = some m) :
    (t.put l c).locate? path = some m := by
  have hpath := path_ne_empty h
  unfold locate? startOf at h ⊢
  rw [if_neg hpath] at h ⊢
  rw [workingDirectory_put]
  exact followFrom_put hparent h

end Put

end FileTree

end CodeSurvey
