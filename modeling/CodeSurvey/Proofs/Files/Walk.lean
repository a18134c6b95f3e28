/-
# Walking down a file tree

A walk looks at the entries of a directory and goes on below those that are directories.  It meets a
file if and only if nothing on the way to it is passed over and no other file stands in the way
(`mem_walk_iff`); the induction is on the levels that the walk goes down.  It meets no file twice
(`nodup_walk`).  A new file in a directory adds one entry there and changes nothing else, so a walk meets
what it met before and perhaps the new file (`filterMap_walk_put`).
-/
import CodeSurvey.Files.Loader
import CodeSurvey.Proofs.Files.Locations
import CodeSurvey.Proofs.Listing

namespace CodeSurvey

/-! ## Entries -/

/-- An entry leads toward a location if it is on the way. -/
theorem entryToward?_eq_some_iff {directory l : Location} {name : String} :
    entryToward? directory l = some name ↔ directory ++ [name] <+: l := by
  unfold entryToward?
  constructor
  · intro h
    split_ifs at h with hbelow
    obtain ⟨rest, rfl⟩ := List.isPrefixOf_iff_prefix.1 hbelow
    rw [List.getElem?_append_right (Nat.le_refl _), Nat.sub_self] at h
    cases rest with
    | nil => cases h
    | cons first rest =>
      cases h
      exact ⟨rest, by rw [List.append_assoc, List.singleton_append]⟩
  · rintro ⟨rest, rfl⟩
    rw [if_pos (List.isPrefixOf_iff_prefix.2 ⟨name :: rest, by simp⟩)]
    simp

theorem prefix_dropLast_iff {l m : Location} (hne : l ≠ m) : l <+: m ↔ l <+: m.dropLast := by
  constructor
  · rintro ⟨rest, rfl⟩
    have hrest : rest ≠ [] := by
      rintro rfl
      exact hne (List.append_nil l).symm
    rw [List.dropLast_append_of_ne_nil hrest]
    exact List.prefix_append _ _
  · intro h
    exact h.trans (List.dropLast_prefix m)

namespace FileTree

variable {t : FileTree} {directory : Location} {name : String}

/-- Something is at a location if it is on the way to a file or to a directory that is known. -/
theorem has_iff {l : Location} :
    t.has l = true ↔ l <+: t.workingDirectory ∨ (∃ d ∈ t.directories, l <+: d) ∨
      ∃ m ∈ t.locations, l <+: m := by
  rw [has, Bool.or_eq_true, isFile_iff, isDirectory_iff]
  constructor
  · rintro (hfile | hwork | hdirectory | ⟨m, hm, hl⟩)
    · exact .inr (.inr ⟨l, hfile, List.prefix_refl l⟩)
    · exact .inl hwork
    · exact .inr (.inl hdirectory)
    · exact .inr (.inr ⟨m, hm, hl.trans (List.dropLast_prefix m)⟩)
  · rintro (hwork | hdirectory | ⟨m, hm, hl⟩)
    · exact .inr (.inl hwork)
    · exact .inr (.inr (.inl hdirectory))
    · by_cases hne : l = m
      · exact .inl (hne ▸ hm)
      · exact .inr (.inr (.inr ⟨m, hm, (prefix_dropLast_iff hne).1 hl⟩))

/-- The entries of a directory are the files and directories that stand in it. -/
theorem mem_entryNames : name ∈ t.entryNames directory ↔ t.has (directory ++ [name]) = true := by
  rw [entryNames, mem_firstBy_id, List.mem_filterMap, has_iff]
  simp only [entryToward?_eq_some_iff, List.cons_append, List.mem_cons, List.mem_append,
    or_and_right, exists_or, exists_eq_left]
  rfl

/-- No entry of a directory is met twice. -/
theorem nodup_entryNames (t : FileTree) (directory : Location) : (t.entryNames directory).Nodup :=
  (listsFirst_firstBy _).nodup

theorem isFile_of_content? {l : Location} {c : FileContent} (h : t.content? l = some c) :
    t.isFile l = true := by
  rw [isFile_iff, ← not_not (a := l ∈ t.locations), ← content?_eq_none_iff, h]
  exact Option.some_ne_none c

/-- Every place on the way to a file is a directory. -/
theorem isDirectory_of_isFile {l below : Location} (h : t.isFile (l ++ below) = true)
    (hbelow : below ≠ []) : t.isDirectory l = true := by
  rw [isDirectory_iff]
  refine .inr (.inr ⟨l ++ below, isFile_iff.1 h, ?_⟩)
  rw [List.dropLast_append_of_ne_nil hbelow]
  exact List.prefix_append _ _

/-- Everything on the way to a file is there. -/
theorem has_of_isFile {l below : Location} (h : t.isFile (l ++ below) = true) : t.has l = true :=
  has_iff.2 (.inr (.inr ⟨l ++ below, isFile_iff.1 h, List.prefix_append _ _⟩))

theorem le_foldl_max (files : List (Location × FileContent)) (n : Nat) :
    n ≤ files.foldl (fun n f => max n f.1.length) n ∧
      ∀ f ∈ files, f.1.length ≤ files.foldl (fun n f => max n f.1.length) n := by
  induction files generalizing n with
  | nil => exact ⟨Nat.le_refl n, nofun⟩
  | cons f files ih =>
    obtain ⟨hstart, hfiles⟩ := ih (max n f.1.length)
    rw [List.foldl_cons, List.forall_mem_cons]
    exact ⟨(Nat.le_max_left ..).trans hstart, (Nat.le_max_right ..).trans hstart, hfiles⟩

/-- No file lies deeper than the depth of the tree. -/
theorem length_le_depth {l : Location} (h : t.isFile l = true) : l.length ≤ t.depth := by
  obtain ⟨f, hf, rfl⟩ := List.mem_map.1 (isFile_iff.1 h)
  exact (le_foldl_max t.files 0).2 f hf

end FileTree

/-! ## Files on open ways -/

section Walk

variable (t : FileTree) (rules : List RuleFile) (excluded : List String)

/-- Nothing on the way from a directory is passed over, and only its end may be a file. -/
def IsOpenWay (directory : Location) : Location → Prop
  | [] => True
  | name :: below =>
    isSkipped rules excluded (directory ++ [name]) (t.isDirectory (directory ++ [name])) = false ∧
      (below ≠ [] → t.content? (directory ++ [name]) = none) ∧
        IsOpenWay (directory ++ [name]) below

/-- What a walk meets at an entry: the file that stands there, or what is below. -/
def metAt (levels : Nat) (l : Location) : List (Location × FileContent) :=
  if isSkipped rules excluded l (t.isDirectory l) then []
  else match t.content? l with
    | some c => [(l, c)]
    | none => walk t rules excluded levels l

theorem walk_succ (levels : Nat) (directory : Location) :
    walk t rules excluded (levels + 1) directory =
      (t.entryNames directory).flatMap fun name =>
        metAt t rules excluded levels (directory ++ [name]) :=
  rfl

variable {t rules excluded}

/-- What is met at an entry is its content, or what is met below it. -/
theorem mem_metAt {levels : Nat} {l : Location} {x : Location × FileContent} :
    x ∈ metAt t rules excluded levels l ↔
      isSkipped rules excluded l (t.isDirectory l) = false ∧
        ((∃ c, t.content? l = some c ∧ x = (l, c)) ∨
          t.content? l = none ∧ x ∈ walk t rules excluded levels l) := by
  unfold metAt
  cases isSkipped rules excluded l (t.isDirectory l) with
  | true => simp
  | false => cases t.content? l <;> simp

/-- **A walk meets the files at the end of open ways**, as far as it goes down. -/
theorem mem_walk_iff {levels : Nat} {directory l : Location} {c : FileContent} :
    (l, c) ∈ walk t rules excluded levels directory ↔
      ∃ below, l = directory ++ below ∧ below ≠ [] ∧ below.length ≤ levels ∧
        t.content? l = some c ∧ IsOpenWay t rules excluded directory below := by
  induction levels generalizing directory with
  | zero =>
    simp only [walk, List.not_mem_nil, false_iff]
    rintro ⟨below, -, hne, hlength, -⟩
    exact hne (List.length_eq_zero_iff.1 (Nat.le_zero.1 hlength))
  | succ levels ih =>
    simp only [walk_succ, List.mem_flatMap, FileTree.mem_entryNames, mem_metAt]
    constructor
    · rintro ⟨name, -, hopen, ⟨c', hc, hx⟩ | ⟨hnone, hx⟩⟩
      · cases hx
        exact ⟨[name], rfl, List.cons_ne_nil _ _, by simp, hc, hopen, fun h => absurd rfl h, trivial⟩
      · obtain ⟨below, hl, hne, hlength, hc, hway⟩ := ih.1 hx
        refine ⟨name :: below, ?_, List.cons_ne_nil _ _, Nat.succ_le_succ hlength, hc, hopen,
          fun _ => hnone, hway⟩
        rw [hl, List.append_assoc, List.singleton_append]
    · rintro ⟨below, hl, hne, hlength, hc, hway⟩
      cases below with
      | nil => exact absurd rfl hne
      | cons name below =>
        obtain ⟨hopen, hnone, hway⟩ := hway
        rw [← List.singleton_append, ← List.append_assoc] at hl
        have hfile := FileTree.isFile_of_content? hc
        rw [hl] at hfile
        refine ⟨name, FileTree.has_of_isFile hfile, hopen, ?_⟩
        -- the way ends at this entry, or goes on below it
        by_cases hbelow : below = []
        · rw [hbelow, List.append_nil] at hl
          exact .inl ⟨c, hl ▸ hc, by rw [hl]⟩
        · exact .inr ⟨hnone hbelow,
            ih.2 ⟨below, hl, hbelow, Nat.le_of_succ_le_succ hlength, hc, hway⟩⟩

/-- What is met at an entry lies there or below. -/
theorem prefix_of_mem_metAt {levels : Nat} {l : Location} {x : Location × FileContent}
    (h : x ∈ metAt t rules excluded levels l) : l <+: x.1 := by
  obtain ⟨-, ⟨c, -, rfl⟩ | ⟨-, hx⟩⟩ := mem_metAt.1 h
  · exact List.prefix_refl l
  · obtain ⟨below, hl, -⟩ := mem_walk_iff.1 hx
    exact ⟨below, hl.symm⟩

/-- A walk meets no location twice. -/
theorem nodup_walk (levels : Nat) (directory : Location) :
    ((walk t rules excluded levels directory).map (·.1)).Nodup := by
  induction levels generalizing directory with
  | zero => exact List.nodup_nil
  | succ levels ih =>
    rw [walk_succ, List.map_flatMap, List.nodup_flatMap]
    constructor
    · intro name _
      unfold metAt
      split_ifs
      · exact List.nodup_nil
      · cases t.content? (directory ++ [name]) with
        | none => exact ih _
        | some c => exact List.nodup_singleton _
    · -- what is met at an entry has its name, and no two entries have the same name
      refine (t.nodup_entryNames directory).imp fun {name name'} hne l hl hl' => hne ?_
      obtain ⟨x, hx, rfl⟩ := List.mem_map.1 hl
      obtain ⟨x', hx', hlocation⟩ := List.mem_map.1 hl'
      have hname := entryToward?_eq_some_iff.2 (prefix_of_mem_metAt hx)
      have hname' := entryToward?_eq_some_iff.2 (prefix_of_mem_metAt hx')
      rw [hlocation, hname] at hname'
      exact Option.some.inj hname'

end Walk

/-! ## New files -/

section Put

variable {t : FileTree} {l : Location} {c : FileContent} (hnew : t.has l = false)
  (hparent : t.isDirectory l.dropLast = true)

include hnew

theorem isFile_eq_false_of_has : t.isFile l = false := by
  rw [FileTree.has, Bool.or_eq_false_iff] at hnew
  exact hnew.1

include hparent

/-- A new file is one more entry of its directory, and no other directory has another entry. -/
theorem entryNames_put (directory : Location) :
    (t.put l c).entryNames directory = t.entryNames directory ∨
      ∃ name, l = directory ++ [name] ∧
        (t.put l c).entryNames directory = t.entryNames directory ++ [name] := by
  have hentries : (t.put l c).entryNames directory =
      firstBy id ((t.workingDirectory :: t.directories ++ t.files.map (·.1)).filterMap
        (entryToward? directory) ++ (entryToward? directory l).toList) := by
    rw [FileTree.entryNames, FileTree.files_put_of_new (isFile_eq_false_of_has hnew),
      FileTree.workingDirectory_put, FileTree.directories_put, List.map_append, ← List.append_assoc,
      List.filterMap_append]
    cases h : entryToward? directory l <;> simp [h]
  cases h : entryToward? directory l with
  | none => exact .inl (by rw [hentries, h, Option.toList_none, List.append_nil]; rfl)
  | some name =>
    have hbelow := entryToward?_eq_some_iff.1 h
    rw [h, Option.toList_some, firstBy_concat, List.map_id, id] at hentries
    by_cases hl : directory ++ [name] = l
    · refine .inr ⟨name, hl.symm, ?_⟩
      have hmissing : name ∉ t.entryNames directory := by
        rw [FileTree.mem_entryNames, hl, hnew]
        exact Bool.false_ne_true
      rw [hentries, if_neg (mt mem_firstBy_id.2 hmissing)]
      rfl
    · -- the name leads to the directory of the new file
      have hthere : name ∈ t.entryNames directory := by
        rw [FileTree.mem_entryNames, FileTree.has, Bool.or_eq_true]
        exact .inr (FileTree.isDirectory_of_prefix hparent ((prefix_dropLast_iff hl).1 hbelow))
      rw [hentries, if_pos (mem_firstBy_id.1 hthere)]
      exact .inl rfl

/-- Apart from the new file a walk meets what it met before, if it went deep enough then. -/
theorem filterMap_walk_put {rules : List RuleFile} {excluded : List String} {β : Type}
    {f : Location × FileContent → Option β} (hf : f (l, c) = none) {levels levels' : Nat}
    (hlevels : levels ≤ levels') {directory : Location}
    (hdeep : ∀ m, t.isFile m = true → directory <+: m → m.length ≤ directory.length + levels) :
    (walk (t.put l c) rules excluded levels' directory).filterMap f =
      (walk t rules excluded levels directory).filterMap f := by
  induction levels generalizing levels' directory with
  | zero =>
    rw [walk, List.filterMap_nil, List.filterMap_eq_nil_iff]
    rintro ⟨m, c'⟩ hm
    obtain ⟨below, rfl, hne, -, hc, -⟩ := mem_walk_iff.1 hm
    rw [FileTree.content?_put] at hc
    split_ifs at hc with hl
    · cases hc
      rw [hl, hf]
    · have hlength := hdeep _ (FileTree.isFile_of_content? hc) (List.prefix_append _ _)
      rw [List.length_append] at hlength
      exact absurd (List.length_eq_zero_iff.1 (by omega)) hne
  | succ levels ih =>
    obtain ⟨levels', rfl⟩ := Nat.exists_eq_add_of_lt (Nat.lt_of_lt_of_le (Nat.succ_pos _) hlevels)
    rw [Nat.zero_add] at hlevels ⊢
    -- what is met at the entries that were there
    have hmet : ∀ name ∈ t.entryNames directory,
        (metAt (t.put l c) rules excluded levels' (directory ++ [name])).filterMap f =
          (metAt t rules excluded levels (directory ++ [name])).filterMap f := by
      intro name hname
      have hne : directory ++ [name] ≠ l := by
        rintro rfl
        rw [FileTree.mem_entryNames, hnew] at hname
        cases hname
      unfold metAt
      rw [FileTree.isDirectory_put hparent, FileTree.content?_put, if_neg hne]
      split_ifs
      · rfl
      · cases t.content? (directory ++ [name]) with
        | some c' => rfl
        | none =>
          refine ih (Nat.le_of_succ_le_succ hlevels) fun m hm hbelow => ?_
          have hlength := hdeep m hm ((List.prefix_append _ _).trans hbelow)
          rw [List.length_append, List.length_singleton]
          omega
    rw [walk_succ, walk_succ, List.filterMap_flatMap, List.filterMap_flatMap]
    obtain hsame | ⟨name, hl, hmore⟩ := entryNames_put (c := c) hnew hparent directory
    · rw [hsame]
      exact List.flatMap_congr hmet
    · -- the only new entry is the file itself, which `f` leaves out
      have hnone :
          (metAt (t.put l c) rules excluded levels' (directory ++ [name])).filterMap f = [] := by
        unfold metAt
        rw [FileTree.content?_put, if_pos hl.symm]
        split_ifs
        · rfl
        · rw [← hl, List.filterMap_cons, hf, List.filterMap_nil]
      rw [hmore, List.flatMap_append, List.flatMap_singleton, hnone, List.append_nil]
      exact List.flatMap_congr hmet

end Put

end CodeSurvey
