/-
# Which files are loaded

Without ignore files a walk enters every directory that is neither hidden nor excluded, so whether it
meets a file can be seen from the names on the way to it (`isOpenWay_iff`).  The source files of those
that it meets are put in order by their paths.  Different files have different paths, since no name
holds a slash, and the order of paths is the order of their bytes.  So each file that is to be loaded
is loaded once, and the files come in strict order (`loadFiles_lists_selected`).
-/
import CodeSurvey.Outline.Reading
import CodeSurvey.Proofs.Files.Walk
import CodeSurvey.Proofs.Text.ByteOrder

namespace CodeSurvey

/-! ## Bytes of files -/

theorem toList_loop_eq (b : ByteArray) (i : Nat) (done : List UInt8) :
    ByteArray.toList.loop b i done = done.reverse ++ b.data.toList.drop i := by
  fun_induction ByteArray.toList.loop b i done with
  | case1 i done h ih =>
    have hbyte : b.get! i = b.data.toList[i] := getElem!_pos b.data i h
    have hdrop : b.data.toList.drop i = b.data.toList[i] :: b.data.toList.drop (i + 1) :=
      List.drop_eq_getElem_cons h
    rw [ih, hbyte, hdrop, List.reverse_cons, List.append_assoc, List.singleton_append]
  | case2 i done h =>
    have hdrop : b.data.toList.drop i = [] := List.drop_eq_nil_of_le (Nat.le_of_not_lt h)
    rw [hdrop, List.append_nil]

/-- Bytes are the same after being listed. -/
theorem toByteArray_toList (b : ByteArray) : b.toList.toByteArray = b := by
  have hlist : b.toList = b.data.toList := toList_loop_eq b 0 []
  apply ByteArray.ext
  rw [hlist, ← Array.toList_inj, List.toList_data_toByteArray]

namespace FileContent

/-- The bytes of a file. -/
def bytes : FileContent → ByteArray
  | text s => s.toUTF8
  | binary bytes => bytes.toByteArray

/-- The size of a file is the number of its bytes. -/
theorem size_bytes (c : FileContent) : c.bytes.size = c.size := by
  cases c with
  | text s => rfl
  | binary bytes => exact List.size_toByteArray

/-- A content keeps the bytes that it was read from, and is a text if they are. -/
theorem bytes_ofBytes (b : ByteArray) :
    (ofBytes b).bytes = b ∧ (ofBytes b).text? = String.fromUTF8? b := by
  unfold ofBytes
  by_cases h : b.IsValidUTF8
  · rw [String.fromUTF8?, dif_pos h]
    exact ⟨rfl, rfl⟩
  · rw [String.fromUTF8?, dif_neg h]
    exact ⟨toByteArray_toList b, rfl⟩

end FileContent

/-- A tree that a disk can hold. -/
structure FileTree.IsProper (t : FileTree) : Prop where
  names : ∀ l ∈ t.locations, ∀ name ∈ l, IsEntryName name
  /-- No file is a directory. -/
  apart : ∀ l ∈ t.locations, t.isDirectory l = false
  /-- The size of a file is a number of 64 bits. -/
  sizes : ∀ f ∈ t.files, f.2.size ≤ maxWord
  read : ∀ f ∈ t.files, ∃ b, f.2 = .ofBytes b

namespace FileTree

variable {t : FileTree} {l : Location} {c : FileContent}

theorem mem_files_of_content? (h : t.content? l = some c) : (l, c) ∈ t.files := by
  obtain ⟨f, hf, rfl⟩ := Option.map_eq_some_iff.1 h
  have hl : f.1 = l := by
    simpa using List.find?_some hf
  rw [← hl]
  exact List.mem_of_find?_eq_some hf

/-- In a proper tree, a file has a text if its bytes are one. -/
theorem IsProper.text?_eq (ht : t.IsProper) (h : t.content? l = some c) :
    c.text? = String.fromUTF8? c.bytes := by
  obtain ⟨b, rfl⟩ : ∃ b, c = .ofBytes b := ht.read _ (mem_files_of_content? h)
  rw [(FileContent.bytes_ofBytes b).1, (FileContent.bytes_ofBytes b).2]

theorem mem_locations_of_content? (h : t.content? l = some c) : l ∈ t.locations :=
  isFile_iff.1 (isFile_of_content? h)

end FileTree

/-! ## Ways without rules -/

section Ways

variable {t : FileTree}

/-- Rules that are always read stand in files of one name. -/
theorem kind_of_ruleFilePlace? {l directory : Location} {kind : RuleKind}
    (h : ruleFilePlace? l = some (directory, kind)) (hl : l.getLast? ≠ some ".ignore") :
    kind ≠ .ignore := by
  unfold ruleFilePlace? at h
  rw [← List.head?_reverse] at hl
  split at h
  · simp_all
  · cases h
    exact RuleKind.noConfusion
  · cases h
    exact RuleKind.noConfusion
  · cases h

/-- Without such files, and with the others left aside, there are no rules. -/
theorem ruleFiles_eq_nil (h : ∀ l ∈ t.locations, l.getLast? ≠ some ".ignore") :
    ruleFiles t false = [] := by
  rw [ruleFiles, List.filterMap_eq_nil_iff]
  rintro ⟨l, c⟩ hf
  have hl := h l (List.mem_map.2 ⟨(l, c), hf, rfl⟩)
  cases hplace : ruleFilePlace? l with
  | none => simp [hplace]
  | some place =>
    have hkind := kind_of_ruleFilePlace? hplace hl
    simp [hplace, hkind]

theorem verdict?_nil (l : Location) (isDirectory : Bool) : verdict? [] l isDirectory = none := by
  simp [verdict?, kindVerdict?]

/-- Without rules only names count. -/
theorem isSkipped_nil {excluded : List String} {directory : Location} {name : String}
    {isDirectory : Bool} :
    isSkipped [] excluded (directory ++ [name]) isDirectory = false ↔
      isHidden name = false ∧ (isDirectory = true → name ∉ excluded) := by
  simp [isSkipped, verdict?_nil]

/-- Whether a way is open can be seen from the names on it. -/
theorem isOpenWay_iff (ht : t.IsProper) {excluded : List String} {directory below : Location}
    (hne : below ≠ []) (hfile : t.isFile (directory ++ below) = true) :
    IsOpenWay t [] excluded directory below ↔
      (∀ name ∈ below, isHidden name = false) ∧ ∀ name ∈ below.dropLast, name ∉ excluded := by
  induction below generalizing directory with
  | nil => exact absurd rfl hne
  | cons name below ih =>
    rw [IsOpenWay, isSkipped_nil]
    rw [← List.singleton_append, ← List.append_assoc] at hfile
    by_cases hbelow : below = []
    · -- the way ends with the file
      subst hbelow
      rw [List.append_nil] at hfile
      have hother : t.isDirectory (directory ++ [name]) = false :=
        ht.apart _ (FileTree.isFile_iff.1 hfile)
      simp [hother, IsOpenWay]
    · -- the way goes on below a directory
      have hdirectory : t.isDirectory (directory ++ [name]) = true :=
        FileTree.isDirectory_of_isFile hfile hbelow
      have hnone : t.content? (directory ++ [name]) = none := by
        rw [FileTree.content?_eq_none_iff]
        intro hmem
        rw [ht.apart _ hmem] at hdirectory
        cases hdirectory
      rw [ih hbelow hfile, List.dropLast_cons_of_ne_nil hbelow]
      simp only [hdirectory, hnone, List.forall_mem_cons, forall_const, implies_true, true_and]
      tauto

end Ways

/-! ## Paths -/

/-- The names of a location are read off its path. -/
theorem splitText_intercalate {below : Location} (hnames : ∀ name ∈ below, IsEntryName name)
    (hne : below ≠ []) : splitText '/' ("/".intercalate below) = below := by
  induction below with
  | nil => exact absurd rfl hne
  | cons name below ih =>
    rw [List.forall_mem_cons] at hnames
    by_cases hbelow : below = []
    · rw [hbelow, String.intercalate_singleton, hnames.1.splitText_eq]
    · have hjoined : "/".intercalate (name :: below) = name ++ "/" ++ "/".intercalate below :=
        String.intercalate_cons_of_ne_nil hbelow
      rw [hjoined, splitText_append_slash, hnames.1.splitText_eq, ih hnames.2 hbelow]
      rfl

/-! ## Selected files -/

/-- A file below a directory that is to be loaded. -/
structure IsSelected (t : FileTree) (s : LoaderSettings) (root below : Location) : Prop where
  inside : below ≠ []
  /-- It is there, not too large, and its bytes are a text. -/
  file : ∃ c, t.content? (root ++ below) = some c ∧ c.bytes.size ≤ s.maxFileSizeMb * 2 ^ 20 ∧
    (String.fromUTF8? c.bytes).isSome = true
  /-- No name below the directory starts with a point. -/
  visible : ∀ name ∈ below, name.toList.head? ≠ some '.'
  /-- No directory on the way to it is excluded. -/
  entered : ∀ name ∈ below.dropLast, name ∉ s.excludeDirs
  supported : isSupported ("/".intercalate below) = true

/-- A source file holds the text of a file below a directory, under its path from there. -/
structure IsSourceOf (t : FileTree) (root below : Location) (f : SourceFile) : Prop where
  path : f.path = "/".intercalate below
  content : ∃ c, t.content? (root ++ below) = some c ∧ String.fromUTF8? c.bytes = some f.content

/-- For sizes that fit a word, the limit is the product that it is meant to be. -/
theorem le_maxFileSizeBytes_iff {s : LoaderSettings} {n : Nat} (h : n ≤ maxWord) :
    n ≤ s.maxFileSizeBytes ↔ n ≤ s.maxFileSizeMb * 2 ^ 20 := by
  rw [LoaderSettings.maxFileSizeBytes, Nat.le_min, and_iff_left h]
  rfl

/-- A file that is met is loaded if it is supported, small enough and a text. -/
theorem sourceFile?_eq_some_iff {s : LoaderSettings} {root below : Location} {c : FileContent}
    {f : SourceFile} :
    sourceFile? s root (root ++ below, c) = some f ↔
      isSupported ("/".intercalate below) = true ∧ c.size ≤ s.maxFileSizeBytes ∧
        f.path = "/".intercalate below ∧ c.text? = some f.content := by
  obtain ⟨path, content⟩ := f
  simp only [sourceFile?, isWanted, List.drop_left]
  cases isSupported ("/".intercalate below) <;> cases c.text? <;>
    by_cases hsize : c.size ≤ s.maxFileSizeBytes <;>
      simp [hsize, guard, failure, eq_comm]

section Loaded

variable {t : FileTree} (ht : t.IsProper) {s : LoaderSettings} {root below : Location}

include ht

/-- A walk meets the source file of a selected file, and no other. -/
theorem exists_mem_walk_iff {f : SourceFile} :
    (∃ c, (root ++ below, c) ∈ walk t [] s.excludeDirs t.depth root ∧
        sourceFile? s root (root ++ below, c) = some f) ↔
      IsSelected t s root below ∧ IsSourceOf t root below f := by
  simp only [mem_walk_iff, List.append_cancel_left_eq, exists_eq_left', sourceFile?_eq_some_iff]
  constructor
  · rintro ⟨c, ⟨hne, -, hc, hway⟩, hsupported, hsize, hpath, htext⟩
    have hmem := FileTree.mem_files_of_content? hc
    obtain ⟨hvisible, hentered⟩ := (isOpenWay_iff ht hne (FileTree.isFile_of_content? hc)).1 hway
    rw [ht.text?_eq hc] at htext
    rw [le_maxFileSizeBytes_iff (ht.sizes _ hmem), ← c.size_bytes] at hsize
    exact ⟨⟨hne, ⟨c, hc, hsize, Option.isSome_of_eq_some htext⟩,
      fun name hname => of_decide_eq_false (hvisible name hname), hentered, hsupported⟩,
      ⟨hpath, c, hc, htext⟩⟩
  · rintro ⟨⟨hne, ⟨c, hc, hsize, -⟩, hvisible, hentered, hsupported⟩, hpath, c', hc', htext⟩
    cases hc.symm.trans hc'
    have hfile := FileTree.isFile_of_content? hc
    have hmem := FileTree.mem_files_of_content? hc
    -- the walk goes down far enough to meet every file
    have hdeep : below.length ≤ t.depth :=
      (List.length_append ▸ Nat.le_add_left _ _).trans (FileTree.length_le_depth hfile)
    rw [c.size_bytes, ← le_maxFileSizeBytes_iff (ht.sizes _ hmem)] at hsize
    rw [← ht.text?_eq hc] at htext
    exact ⟨c, ⟨hne, hdeep, hc, (isOpenWay_iff ht hne hfile).2
      ⟨fun name hname => decide_eq_false (hvisible name hname), hentered⟩⟩,
      hsupported, hsize, hpath, htext⟩

/-- The names of a file below a directory are read off the path of its source file. -/
theorem IsSourceOf.splitText_path {f : SourceFile} (h : IsSourceOf t root below f)
    (hne : below ≠ []) : splitText '/' f.path = below := by
  obtain ⟨c, hc, -⟩ := h.content
  have hnames := ht.names _ (FileTree.mem_locations_of_content? hc)
  rw [h.path]
  exact splitText_intercalate (fun name hname => hnames name (List.mem_append_right _ hname)) hne

variable (hrules : ruleFiles t s.respectGitignore = [])

include hrules

/-- The loaded files are those of the selected ones. -/
theorem mem_sourceFilesBelow {f : SourceFile} :
    f ∈ sourceFilesBelow t s root ↔
      ∃ below, IsSelected t s root below ∧ IsSourceOf t root below f := by
  simp only [sourceFilesBelow, filesBelow, hrules, List.mem_mergeSort, List.mem_filterMap]
  constructor
  · rintro ⟨⟨l, c⟩, hl, hf⟩
    obtain ⟨below, rfl, -⟩ := mem_walk_iff.1 hl
    exact ⟨below, (exists_mem_walk_iff ht).1 ⟨c, hl, hf⟩⟩
  · rintro ⟨below, h⟩
    obtain ⟨c, hl, hf⟩ := (exists_mem_walk_iff ht).2 h
    exact ⟨_, hl, hf⟩

/-- Different files have different paths. -/
theorem pairwise_path_ne : (sourceFilesBelow t s root).Pairwise fun f g => f.path ≠ g.path := by
  rw [sourceFilesBelow, filesBelow, hrules, List.Perm.pairwise_iff (fun h => h.symm) (List.mergeSort_perm _ _),
    List.pairwise_filterMap]
  have hmet : (walk t [] s.excludeDirs t.depth root).Pairwise fun x y => x.1 ≠ y.1 :=
    List.pairwise_map.1 (nodup_walk t.depth root)
  refine hmet.imp_of_mem ?_
  rintro ⟨l, c⟩ ⟨l', c'⟩ hl hl' hne f hf g hg hpath
  obtain ⟨below, rfl, hbelow, -⟩ := mem_walk_iff.1 hl
  obtain ⟨below', rfl, hbelow', -⟩ := mem_walk_iff.1 hl'
  have hf' := ((exists_mem_walk_iff ht).1 ⟨c, hl, hf⟩).2
  have hg' := ((exists_mem_walk_iff ht).1 ⟨c', hl', hg⟩).2
  apply hne
  dsimp only
  rw [← hf'.splitText_path ht hbelow, ← hg'.splitText_path ht hbelow', hpath]

/-- Loaded files come in the strict order of the bytes of their paths. -/
theorem pairwise_sourceFilesBelow :
    (sourceFilesBelow t s root).Pairwise fun f g => textBytes f.path < textBytes g.path := by
  have hsorted : (sourceFilesBelow t s root).Pairwise fun f g => decide (f.path ≤ g.path) = true := by
    apply List.pairwise_mergeSort
    · intro f g h hfg hgh
      exact decide_eq_true ((of_decide_eq_true hfg).trans (of_decide_eq_true hgh))
    · intro f g
      rw [Bool.or_eq_true, decide_eq_true_eq, decide_eq_true_eq]
      exact le_total f.path g.path
  refine (hsorted.and (pairwise_path_ne ht hrules)).imp ?_
  rintro f g ⟨hle, hne⟩
  exact textBytes_lt (lt_of_le_of_ne (of_decide_eq_true hle) hne)

end Loaded

theorem readTree_ne_unsupported (source : List Char) : readTree source ≠ .error .unsupported := by
  unfold readTree
  split
  · nofun
  · split <;> nofun

/-- A file with a supported path is not refused as unsupported. -/
theorem readOutline_ne_unsupported {path content : String} (h : isSupported path = true) :
    readOutline path content ≠ .error .unsupported := by
  have htree := readTree_ne_unsupported content.toList
  simp only [readOutline, h, Bool.not_true]
  cases hread : readTree content.toList with
  | ok tree => nofun
  | error fault =>
    rw [hread] at htree
    exact fun heq => htree (congrArg Except.error (Except.error.inj heq))

/-- **Without ignore files the files to be loaded are those with no hidden name and no excluded
directory on the way to them**, that are source files, not too large, and text.  Each is loaded once,
they are in strict order of the bytes of their paths, and none is refused for its type. -/
theorem loadFiles_lists_selected (t : FileTree) (ht : t.IsProper)
    (hignore : ∀ l ∈ t.locations, l.getLast? ≠ some ".ignore") (s : LoaderSettings)
    (hgit : s.respectGitignore = false) (path : String) (root : Location)
    (hroot : t.locateDirectory? path = some root) :
    ∃ files belows, loadFiles t s path = .ok files ∧ belows.Nodup ∧
      (∀ below, below ∈ belows ↔ IsSelected t s root below) ∧
      List.Forall₂ (IsSourceOf t root) belows files ∧
      (files.Pairwise fun f g => textBytes f.path < textBytes g.path) ∧
      ∀ f ∈ files, readOutline f.path f.content ≠ .error .unsupported := by
  have hrules : ruleFiles t s.respectGitignore = [] := hgit ▸ ruleFiles_eq_nil hignore
  have hmem {f : SourceFile} : f ∈ sourceFilesBelow t s root ↔
      ∃ below, IsSelected t s root below ∧ IsSourceOf t root below f :=
    mem_sourceFilesBelow ht hrules
  -- the path of a source file gives back where it was found
  have hnames {f : SourceFile} {below : Location} (hselected : IsSelected t s root below)
      (hf : IsSourceOf t root below f) : splitText '/' f.path = below :=
    hf.splitText_path ht hselected.inside
  refine ⟨sourceFilesBelow t s root, (sourceFilesBelow t s root).map (splitText '/' ·.path),
    ?_, ?_, ?_, ?_, pairwise_sourceFilesBelow ht hrules, ?_⟩
  · rw [loadFiles, hroot]
  · rw [List.Nodup, List.pairwise_map]
    refine (pairwise_path_ne ht hrules).imp_of_mem fun {f g} hf hg hne hsame => hne ?_
    obtain ⟨below, hselected, hsource⟩ := hmem.1 hf
    obtain ⟨below', hselected', hsource'⟩ := hmem.1 hg
    rw [hnames hselected hsource, hnames hselected' hsource'] at hsame
    rw [hsource.path, hsource'.path, hsame]
  · intro below
    rw [List.mem_map]
    constructor
    · rintro ⟨f, hf, rfl⟩
      obtain ⟨below, hselected, hsource⟩ := hmem.1 hf
      rwa [hnames hselected hsource]
    · intro hselected
      obtain ⟨c, hc, -, htext⟩ := hselected.file
      obtain ⟨content, hcontent⟩ := Option.isSome_iff_exists.1 htext
      have hsource : IsSourceOf t root below ⟨"/".intercalate below, content⟩ :=
        ⟨rfl, c, hc, hcontent⟩
      exact ⟨_, hmem.2 ⟨below, hselected, hsource⟩, hnames hselected hsource⟩
  · rw [List.forall₂_map_left_iff, List.forall₂_same]
    intro f hf
    obtain ⟨below, hselected, hsource⟩ := hmem.1 hf
    rwa [hnames hselected hsource]
  · intro f hf
    obtain ⟨below, hselected, hsource⟩ := hmem.1 hf
    exact readOutline_ne_unsupported (hsource.path ▸ hselected.supported)

/-- Directories that are hidden or excluded, a file that is no text, and a name that is less than that
of a directory before the slash but not after it. -/
def mixedTree : FileTree where
  workingDirectory := ["work"]
  files := [(["work", "a", "z.py"], .ofBytes "x = 1\n".toUTF8), (["work", "a-b.py"], .ofBytes .empty),
    (["work", ".h", "x.py"], .ofBytes .empty), (["work", "venv", "x.py"], .ofBytes .empty),
    (["work", "a", "bad.py"], .ofBytes [255].toByteArray)]
  directories := []

theorem isProper_mixedTree : mixedTree.IsProper where
  names := by
    have hall : ∀ l ∈ mixedTree.locations, ∀ name ∈ l,
        '/' ∉ name.toList ∧ name ∉ ["", ".", ".."] := by decide
    exact fun l hl name hname => ⟨(hall l hl name hname).1, (hall l hl name hname).2⟩
  apart := by decide
  sizes := by decide +kernel
  read := by
    simp only [mixedTree, List.forall_mem_cons, exists_apply_eq_apply', true_and]
    nofun

/-- Files in hidden or excluded directories are left out, and so is one that is no text. -/
theorem loadFiles_lists_selected_mixed :
    ∃ files belows, loadFiles mixedTree { respectGitignore := false } "." = .ok files ∧
      List.Forall₂ (IsSourceOf mixedTree ["work"]) belows files ∧
      ["a-b.py"] ∈ belows ∧ ["a", "z.py"] ∈ belows ∧ [".h", "x.py"] ∉ belows ∧
      ["venv", "x.py"] ∉ belows ∧ ["a", "bad.py"] ∉ belows := by
  obtain ⟨files, belows, hload, -, hmem, hfiles, -⟩ :=
    loadFiles_lists_selected mixedTree isProper_mixedTree (by decide) { respectGitignore := false }
      rfl "." ["work"] (by decide)
  refine ⟨files, belows, hload, hfiles, (hmem _).2 ?_, (hmem _).2 ?_, ?_, ?_, ?_⟩
  · exact ⟨List.cons_ne_nil _ _, ⟨.text "", by decide, by decide, by decide⟩,
      by decide, by decide, by decide⟩
  · exact ⟨List.cons_ne_nil _ _, ⟨.text "x = 1\n", by decide, by decide,
      by decide⟩, by decide, by decide, by decide⟩
  · exact fun h => ((hmem _).1 h).visible ".h" (by decide) (by decide)
  · exact fun h => ((hmem _).1 h).entered "venv" (by decide) (by decide)
  · intro h
    have hbad : mixedTree.content? ["work", "a", "bad.py"] = some (.ofBytes [255].toByteArray) := rfl
    obtain ⟨c, hc, -, htext⟩ := ((hmem _).1 h).file
    cases hbad.symm.trans hc
    rw [(FileContent.bytes_ofBytes _).1] at htext
    revert htext
    decide

end CodeSurvey
