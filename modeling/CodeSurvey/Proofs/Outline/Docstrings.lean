/-
# Docstrings keep their content and their layout

Laying out a docstring only adds and takes away blanks: tabs become spaces, every line loses blanks
at its ends, and lines without content go (`nonBlanks_cleanDocstring`).  The margin is the least
indentation of the lines with content after the first, so it cuts off nothing else, and all these
lines move to the left by the same distance (`isShownAs_layout`).
-/
import CodeSurvey.Outline.Extract
import CodeSurvey.Proofs.Text.Lines
import Mathlib.Order.Bounds.Basic

namespace CodeSurvey

/-! ## Tabs -/

/-- Expanding tabs keeps the content of a line. -/
theorem nonBlanks_expandTabsFrom (column : Nat) (line : List Char) :
    nonBlanks (expandTabsFrom column line) = nonBlanks line := by
  induction line generalizing column with
  | nil => rfl
  | cons c cs ih =>
    have hcons : ∀ ds, nonBlanks (c :: ds) = nonBlanks [c] ++ nonBlanks ds := nonBlanks_append [c]
    rw [expandTabsFrom, hcons cs]
    split
    · next htab =>
      have hspaces : nonBlanks (List.replicate (8 - column % 8) ' ') = [] := by
        rw [nonBlanks_eq_nil_iff]
        intro d hd
        rw [List.eq_of_mem_replicate hd]
        decide
      have htab' : nonBlanks [c] = [] := by
        rw [htab]
        decide
      rw [nonBlanks_append, ih, hspaces, htab']
    · split
      · rw [hcons, ih]
      · rw [hcons, ih]

/-- Expanding tabs leaves no tab and brings in nothing but spaces. -/
theorem mem_expandTabsFrom {column : Nat} {line : List Char} {c : Char}
    (h : c ∈ expandTabsFrom column line) : c ≠ '\t' ∧ (c = ' ' ∨ c ∈ line) := by
  induction line generalizing column with
  | nil => exact absurd h List.not_mem_nil
  | cons d ds ih =>
    have hrest : ∀ column', c ∈ expandTabsFrom column' ds → c ≠ '\t' ∧ (c = ' ' ∨ c ∈ d :: ds) :=
      fun column' hc => ⟨(ih hc).1, (ih hc).2.imp_right (List.mem_cons_of_mem d)⟩
    -- a character that is no tab is kept, whatever the column after it
    have hsame : d ≠ '\t' → ∀ column', c ∈ d :: expandTabsFrom column' ds →
        c ≠ '\t' ∧ (c = ' ' ∨ c ∈ d :: ds) := by
      intro htab column' hc
      rcases List.mem_cons.1 hc with rfl | hc
      · exact ⟨htab, .inr List.mem_cons_self⟩
      · exact hrest column' hc
    rw [expandTabsFrom] at h
    split at h
    · rcases List.mem_append.1 h with h | h
      · rw [List.eq_of_mem_replicate h]
        exact ⟨by decide, .inl rfl⟩
      · exact hrest _ h
    · next htab =>
      split at h
      · exact hsame htab _ h
      · exact hsame htab _ h

/-! ## The margin -/

/-- A line without content holds blanks only. -/
theorem isBlankLine_iff {line : List Char} :
    isBlankLine line = true ↔ ∀ c ∈ line, isBlank c = true := by
  rw [isBlankLine, List.all_eq_true]

/-- A line has content if something in it is no blank. -/
theorem isBlankLine_iff_nonBlanks {line : List Char} :
    isBlankLine line = true ↔ nonBlanks line = [] := by
  rw [isBlankLine_iff, nonBlanks_eq_nil_iff]

/-- The indentations of the lines with content. -/
def indentations (lines : List (List Char)) : Set Nat :=
  {n | ∃ line ∈ lines, isBlankLine line = false ∧ indentation line = n}

/-- No line with content is indented less than the margin. -/
theorem margin_le {lines : List (List Char)} {line : List Char} (hline : line ∈ lines)
    (hcontent : isBlankLine line = false) : margin lines ≤ indentation line := by
  apply List.min?_getD_le_of_mem
  rw [List.mem_map]
  exact ⟨line, List.mem_filter.2 ⟨hline, by rw [hcontent]; rfl⟩, rfl⟩

/-- The margin is the least indentation, if there is one. -/
theorem margin_eq_of_isLeast {lines : List (List Char)} {m : Nat}
    (h : IsLeast (indentations lines) m) : margin lines = m := by
  have hmem : ∀ n, n ∈ ((lines.filter (!isBlankLine ·)).map indentation) ↔
      n ∈ indentations lines := by
    intro n
    simp [indentations, and_assoc]
  have hmin : ((lines.filter (!isBlankLine ·)).map indentation).min? = some m := by
    rw [List.min?_eq_some_iff]
    refine ⟨(hmem m).2 h.1, fun n hn => h.2 ((hmem n).1 hn)⟩
  rw [margin, hmin, Option.getD_some]

/-- What stands before the content of a line is blank. -/
theorem isBlank_of_mem_take {line : List Char} {m : Nat} (h : m ≤ indentation line) {c : Char}
    (hc : c ∈ line.take m) : isBlank c = true := by
  have hfront : line.take m <+: line.takeWhile isBlank := by
    apply List.prefix_of_prefix_length_le (List.take_prefix m line) (List.takeWhile_prefix isBlank)
    rw [List.length_take]
    exact Nat.le_trans (Nat.min_le_left _ _) h
  exact List.mem_takeWhile_imp (hfront.mem hc)

/-- A line is shown without a margin of blanks and without the blanks at its end. -/
def IsShownAs (m : Nat) (line shown : List Char) : Prop :=
  ∃ blanks blanks', line = blanks ++ shown ++ blanks' ∧ blanks.length = m ∧
    (∀ c ∈ blanks, isBlank c = true) ∧ (∀ c ∈ blanks', isBlank c = true) ∧
      ∀ c, shown.getLast? = some c → isBlank c = false

/-- Up to its indentation, a line may be moved to the left. -/
theorem isShownAs_drop {line : List Char} {m : Nat} (h : m ≤ indentation line) :
    IsShownAs m line (dropBlanksEnd (line.drop m)) := by
  obtain ⟨blanks', hcut, hblanks'⟩ := exists_dropBlanksEnd_append (line.drop m)
  have hlength : m ≤ line.length :=
    Nat.le_trans h (List.takeWhile_prefix isBlank).length_le
  refine ⟨line.take m, blanks', ?_, List.length_take_of_le hlength,
    fun c => isBlank_of_mem_take h, hblanks', fun c => eq_false_of_getLast?_rdropWhile⟩
  rw [List.append_assoc, ← hcut, List.take_append_drop]

/-- A line keeps its content when it is moved. -/
theorem IsShownAs.nonBlanks_eq {m : Nat} {line shown : List Char} (h : IsShownAs m line shown) :
    nonBlanks shown = nonBlanks line := by
  obtain ⟨blanks, blanks', rfl, -, hblanks, hblanks', -⟩ := h
  rw [nonBlanks_append, nonBlanks_append, nonBlanks_eq_nil_iff.2 hblanks,
    nonBlanks_eq_nil_iff.2 hblanks', List.nil_append, List.append_nil]

/-- A line with content moves to the left by the margin. -/
theorem IsShownAs.indentation_add {m : Nat} {line shown : List Char} (h : IsShownAs m line shown)
    (hcontent : isBlankLine line = false) : indentation shown + m = indentation line := by
  have hshown : isBlankLine shown = false := by
    rw [← Bool.not_eq_true, isBlankLine_iff_nonBlanks, h.nonBlanks_eq, ← isBlankLine_iff_nonBlanks,
      hcontent]
    exact Bool.false_ne_true
  obtain ⟨blanks, blanks', rfl, rfl, hblanks, -, -⟩ := h
  have hshort : (shown.takeWhile isBlank).length ≠ shown.length := by
    intro hlength
    have hall : shown.takeWhile isBlank = shown :=
      (List.takeWhile_prefix isBlank).eq_of_length hlength
    have hblank : isBlankLine shown = true :=
      isBlankLine_iff.2 fun c hc => List.mem_takeWhile_imp (hall ▸ hc)
    rw [hshown] at hblank
    cases hblank
  rw [indentation, indentation, List.append_assoc, List.takeWhile_append_of_pos hblanks,
    List.takeWhile_append, if_neg hshort, List.length_append, Nat.add_comm]

/-! ## Lines -/

/-- The lines of a docstring with their tabs as spaces. -/
def docLines (doc : List Char) : List (List Char) :=
  (piecesAt '\n' doc).map expandTabs

theorem newline_not_mem_piecesAt {doc line : List Char} (h : line ∈ piecesAt '\n' doc) :
    '\n' ∉ line := by
  induction doc generalizing line with
  | nil =>
    rw [List.mem_singleton.1 h]
    exact List.not_mem_nil
  | cons c cs ih =>
    rw [piecesAt] at h
    split at h
    · rcases List.mem_cons.1 h with rfl | h
      · exact List.not_mem_nil
      · exact ih h
    · next hc =>
      obtain ⟨p, ps, hpieces⟩ := List.exists_cons_of_ne_nil (piecesAt_ne_nil '\n' cs)
      rw [hpieces] at h ih
      rcases List.mem_cons.1 h with rfl | h
      · rw [List.mem_cons, not_or]
        exact ⟨Ne.symm hc, ih List.mem_cons_self⟩
      · exact ih (List.mem_cons_of_mem p h)

/-- No line of a docstring holds the end of a line, tabs expanded or not. -/
theorem newline_not_mem_docLines {doc line : List Char} (h : line ∈ docLines doc) :
    '\n' ∉ line := by
  obtain ⟨piece, hpiece, rfl⟩ := List.mem_map.1 h
  intro hmem
  rcases (mem_expandTabsFrom hmem).2 with hspace | hmem
  · cases hspace
  · exact newline_not_mem_piecesAt hpiece hmem

/-- No line of a docstring holds a tab. -/
theorem tab_not_mem_docLines {doc line : List Char} (h : line ∈ docLines doc) : '\t' ∉ line := by
  obtain ⟨piece, -, rfl⟩ := List.mem_map.1 h
  exact fun hmem => (mem_expandTabsFrom hmem).1 rfl

/-- The ends of lines are blanks. -/
theorem nonBlanks_intercalate (lines : List (List Char)) :
    nonBlanks (['\n'].intercalate lines) = lines.flatMap nonBlanks := by
  induction lines with
  | nil => rfl
  | cons line lines ih =>
    cases lines with
    | nil => simp
    | cons line' lines =>
      have hjoined : ['\n'].intercalate (line :: line' :: lines) =
          line ++ '\n' :: ['\n'].intercalate (line' :: lines) := rfl
      rw [hjoined, List.flatMap_cons, ← ih, nonBlanks_append]
      rfl

/-- The lines of a docstring hold all of its content. -/
theorem nonBlanks_docLines (doc : List Char) :
    (docLines doc).flatMap nonBlanks = nonBlanks doc := by
  have hlines : (docLines doc).flatMap nonBlanks = (piecesAt '\n' doc).flatMap nonBlanks := by
    rw [docLines, List.flatMap_map]
    exact List.flatMap_congr fun line _ => nonBlanks_expandTabsFrom 0 line
  rw [hlines, ← nonBlanks_intercalate, piecesAt_eq_splitOn, List.intercalate_splitOn]

/-- Every line after the first is laid out by the margin. -/
theorem getElem?_layoutLines {lines : List (List Char)} {i : Nat} (hi : 0 < i) :
    (layoutLines lines)[i]? =
      lines[i]?.map fun line => dropBlanksEnd (line.drop (margin lines.tail)) := by
  cases lines with
  | nil => rfl
  | cons first rest =>
    obtain ⟨j, rfl⟩ := Nat.exists_eq_succ_of_ne_zero (Nat.ne_of_gt hi)
    simp [layoutLines]

/-- Laying lines out keeps their content. -/
theorem nonBlanks_layoutLines (lines : List (List Char)) :
    (layoutLines lines).flatMap nonBlanks = lines.flatMap nonBlanks := by
  cases lines with
  | nil => rfl
  | cons first rest =>
    have hrest : ∀ line ∈ rest,
        nonBlanks (dropBlanksEnd (line.drop (margin rest))) = nonBlanks line := by
      intro line hline
      cases hcontent : isBlankLine line with
      | true =>
        have hblank := isBlankLine_iff.1 hcontent
        rw [nonBlanks_dropBlanksEnd, nonBlanks_eq_nil_iff.2 hblank, nonBlanks_eq_nil_iff]
        exact fun c hc => hblank c (List.mem_of_mem_drop hc)
      | false => exact (isShownAs_drop (margin_le hline hcontent)).nonBlanks_eq
    simp only [layoutLines, List.flatMap_cons, List.flatMap_map, nonBlanks_dropBlanks]
    rw [List.flatMap_congr hrest]

/-- Laying lines out brings in no end of a line. -/
theorem newline_not_mem_layoutLines {lines : List (List Char)} (h : ∀ line ∈ lines, '\n' ∉ line) :
    ∀ line ∈ layoutLines lines, '\n' ∉ line := by
  cases lines with
  | nil => exact fun line hline => absurd hline List.not_mem_nil
  | cons first rest =>
    intro line hline hmem
    rcases List.mem_cons.1 hline with rfl | hline
    · exact h first List.mem_cons_self ((List.dropWhile_sublist isBlank).subset hmem)
    · obtain ⟨line', hline', rfl⟩ := List.mem_map.1 hline
      have hdrop : '\n' ∈ line'.drop (margin rest) := (List.rdropWhile_prefix isBlank _).subset hmem
      exact h line' (List.mem_cons_of_mem first hline') (List.mem_of_mem_drop hdrop)

/-- Only lines without content go at either end. -/
theorem exists_trimBlankLines (lines : List (List Char)) :
    ∃ before after, lines = before ++ trimBlankLines lines ++ after ∧
      (∀ line ∈ before, isBlankLine line = true) ∧ ∀ line ∈ after, isBlankLine line = true := by
  refine ⟨lines.takeWhile isBlankLine, (lines.dropWhile isBlankLine).rtakeWhile isBlankLine, ?_,
    fun _ => List.mem_takeWhile_imp, fun _ => List.mem_rtakeWhile_imp⟩
  have hend : trimBlankLines lines ++ (lines.dropWhile isBlankLine).rtakeWhile isBlankLine =
      lines.dropWhile isBlankLine := List.rdropWhile_append_rtakeWhile
  rw [List.append_assoc, hend, List.takeWhile_append_dropWhile]

/-- Lines without content may go. -/
theorem nonBlanks_trimBlankLines (lines : List (List Char)) :
    (trimBlankLines lines).flatMap nonBlanks = lines.flatMap nonBlanks := by
  obtain ⟨before, after, hlines, hbefore, hafter⟩ := exists_trimBlankLines lines
  have hnone : ∀ blank : List (List Char), (∀ line ∈ blank, isBlankLine line = true) →
      blank.flatMap nonBlanks = [] := by
    intro blank hblank
    rw [List.flatMap_eq_nil_iff]
    exact fun line hline => isBlankLine_iff_nonBlanks.1 (hblank line hline)
  conv_rhs => rw [hlines, List.flatMap_append, List.flatMap_append, hnone before hbefore,
    hnone after hafter, List.nil_append, List.append_nil]

/-- The first line that is left has content. -/
theorem isBlankLine_head_trimBlankLines {lines : List (List Char)} {line : List Char}
    (h : (trimBlankLines lines).head? = some line) : isBlankLine line = false := by
  have hhead : (trimBlankLines lines).head? = (lines.dropWhile isBlankLine).head? :=
    head?_rdropWhile fun _ => eq_false_of_head?_dropWhile
  rw [hhead] at h
  exact eq_false_of_head?_dropWhile h

/-- So has the last one. -/
theorem isBlankLine_getLast_trimBlankLines {lines : List (List Char)} {line : List Char}
    (h : (trimBlankLines lines).getLast? = some line) : isBlankLine line = false :=
  eq_false_of_getLast?_rdropWhile h

/-! ## The whole docstring -/

/-- Laying out a docstring loses no content. -/
theorem nonBlanks_cleanDocstring (doc : List Char) :
    nonBlanks (cleanDocstring doc) = nonBlanks doc := by
  rw [← nonBlanks_docLines doc, cleanDocstring, nonBlanks_intercalate, nonBlanks_trimBlankLines,
    nonBlanks_layoutLines]
  rfl

/-- The lines that are left when a docstring is laid out. -/
def shownLines (doc : List Char) : List (List Char) :=
  trimBlankLines (layoutLines (docLines doc))

theorem cleanDocstring_eq (doc : List Char) :
    cleanDocstring doc = ['\n'].intercalate (shownLines doc) := rfl

/-- A docstring that is not empty shows a line. -/
theorem shownLines_ne_nil {doc : List Char} (h : cleanDocstring doc ≠ []) :
    shownLines doc ≠ [] := by
  intro hnone
  rw [cleanDocstring_eq, hnone] at h
  exact h rfl

/-- A docstring is empty if and only if it holds blanks only. -/
theorem cleanDocstring_eq_nil_iff {doc : List Char} :
    cleanDocstring doc = [] ↔ ∀ c ∈ doc, isBlank c = true := by
  rw [← nonBlanks_eq_nil_iff, ← nonBlanks_cleanDocstring]
  constructor
  · intro h
    rw [h]
    rfl
  · intro h
    by_contra hne
    obtain ⟨line, lines, hlines⟩ := List.exists_cons_of_ne_nil (shownLines_ne_nil hne)
    -- the first line that is left has content
    have hcontent : isBlankLine line = false := by
      apply isBlankLine_head_trimBlankLines
      rw [← shownLines, hlines, List.head?_cons]
    rw [cleanDocstring_eq, nonBlanks_intercalate, List.flatMap_eq_nil_iff] at h
    have hblank := isBlankLine_iff_nonBlanks.2 (h line (hlines ▸ List.mem_cons_self))
    rw [hcontent] at hblank
    cases hblank

/-- There is no docstring if and only if the string holds blanks only. -/
theorem docstringOf_eq_none_iff {value : List Char} :
    docstringOf value = none ↔ ∀ c ∈ value, isBlank c = true := by
  rw [← cleanDocstring_eq_nil_iff, docstringOf]
  split
  · next hnil => exact iff_of_true rfl hnil
  · next hne => exact iff_of_false nofun hne

/-- Otherwise the docstring is the text that is laid out. -/
theorem toList_of_mem_docstringOf {value : List Char} {text : String}
    (h : text ∈ docstringOf value) : text.toList = cleanDocstring value := by
  rw [docstringOf] at h
  split at h
  · cases h
  · cases h
    exact String.toList_ofList

/-- The lines of a docstring that is not empty are those that are left. -/
theorem piecesAt_cleanDocstring {doc : List Char} (h : cleanDocstring doc ≠ []) :
    piecesAt '\n' (cleanDocstring doc) = shownLines doc := by
  rw [piecesAt_eq_splitOn, cleanDocstring_eq]
  refine List.splitOn_intercalate '\n' (fun line hline => ?_) (shownLines_ne_nil h)
  obtain ⟨before, after, hlines, -, -⟩ := exists_trimBlankLines (layoutLines (docLines doc))
  apply newline_not_mem_layoutLines fun _ => newline_not_mem_docLines
  rw [hlines]
  exact List.mem_append_left _ (List.mem_append_right _ hline)

/-- An item that stands neither before nor after a part of a list stands in the part. -/
theorem getElem?_of_append {α : Type} {before part after : List α} {i : Nat} {a : α}
    (h : (before ++ part ++ after)[i]? = some a) (hbefore : a ∉ before) (hafter : a ∉ after) :
    before.length ≤ i ∧ part[i - before.length]? = some a := by
  have hle : before.length ≤ i := by
    by_contra hlt
    rw [List.append_assoc, List.getElem?_append_left (by omega)] at h
    exact hbefore (List.mem_of_getElem? h)
  refine ⟨hle, ?_⟩
  rw [List.append_assoc, List.getElem?_append_right hle] at h
  by_cases hlt : i - before.length < part.length
  · rwa [List.getElem?_append_left hlt] at h
  · rw [List.getElem?_append_right (by omega)] at h
    exact absurd (List.mem_of_getElem? h) hafter

/-- The lines with content after the first are shown without the margin, in their places. -/
theorem isShownAs_layout (doc : List Char) :
    ∃ dropped, ∀ i line, 0 < i → (docLines doc)[i]? = some line → isBlankLine line = false →
      dropped ≤ i ∧ ∃ shown, (piecesAt '\n' (cleanDocstring doc))[i - dropped]? = some shown ∧
        IsShownAs (margin (docLines doc).tail) line shown := by
  obtain ⟨before, after, hlines, hbefore, hafter⟩ :=
    exists_trimBlankLines (layoutLines (docLines doc))
  refine ⟨before.length, fun i line hi hline hcontent => ?_⟩
  have hmem : line ∈ (docLines doc).tail := by
    have htail : (docLines doc).tail[i - 1]? = some line := by
      rw [List.getElem?_tail, Nat.sub_add_cancel hi, hline]
    exact List.mem_of_getElem? htail
  have hshown := isShownAs_drop (margin_le hmem hcontent)
  have hlaid : (layoutLines (docLines doc))[i]? = _ := getElem?_layoutLines hi
  rw [hline, Option.map_some] at hlaid
  have hcontent' : isBlankLine (dropBlanksEnd (line.drop (margin (docLines doc).tail))) ≠ true := by
    rw [Ne, isBlankLine_iff_nonBlanks, hshown.nonBlanks_eq, ← isBlankLine_iff_nonBlanks, hcontent]
    exact Bool.false_ne_true
  rw [hlines] at hlaid
  -- a line with content is not among the blank lines that are cut off
  obtain ⟨hle, hplace⟩ := getElem?_of_append hlaid (fun h => hcontent' (hbefore _ h))
    fun h => hcontent' (hafter _ h)
  have hne : cleanDocstring doc ≠ [] := by
    rw [Ne, cleanDocstring_eq_nil_iff, ← nonBlanks_eq_nil_iff, ← nonBlanks_docLines,
      List.flatMap_eq_nil_iff]
    intro hnone
    have hblank := isBlankLine_iff_nonBlanks.2 (hnone line (List.mem_of_getElem? hline))
    rw [hcontent] at hblank
    cases hblank
  rw [piecesAt_cleanDocstring hne]
  exact ⟨hle, _, hplace, hshown⟩

/-- The first statement of a body is a string with a given value, in one piece or in several. -/
def StartsWithString (source : List Char) (body : Tree) (value : List Char) : Prop :=
  ∃ statement literal, body.named.find? (·.kind ≠ .comment) = some statement ∧
    statement.kind = .expressionStatement ∧ statement.named.head? = some literal ∧
      (literal.kind = .string ∧ literalValue? (literal.text source) = some value ∨
        literal.kind = .concatenatedString ∧ ∃ pieces : List (List Char), value = pieces.flatten ∧
          (literal.named.filter (·.kind = .string)).mapM (fun p => literalValue? (p.text source)) =
            some pieces)

/-- The docstring of a body is that of the string which it starts with. -/
theorem bodyDocstring_eq {source : List Char} {body : Tree} {value : List Char}
    (h : StartsWithString source body value) : bodyDocstring source body = docstringOf value := by
  obtain ⟨statement, literal, hfirst, hstatement, hhead, hvalue⟩ := h
  rw [bodyDocstring, hfirst]
  rcases hvalue with ⟨hkind, hone⟩ | ⟨hkind, pieces, rfl, hseveral⟩
  · simp [hstatement, hhead, hkind, hone]
  · simp [hstatement, hhead, hkind, hseveral]

/-- **A docstring keeps its content and its layout.**  Without blanks it is what it was, and a body
that starts with a string has no docstring if and only if the string holds blanks only.  The first
and the last line of what is left have content.  With the tabs as spaces, the lines with content
after the first all lose the least indentation among them and the blanks at their ends. -/
theorem cleanDocstring_keeps_layout (doc : List Char) :
    nonBlanks (cleanDocstring doc) = nonBlanks doc ∧
    (∀ source body, StartsWithString source body doc →
      (bodyDocstring source body = none ↔ ∀ c ∈ doc, isBlank c = true) ∧
      ∀ text ∈ bodyDocstring source body, text.toList = cleanDocstring doc) ∧
    (cleanDocstring doc ≠ [] →
      ∃ first last, (piecesAt '\n' (cleanDocstring doc)).head? = some first ∧
        (piecesAt '\n' (cleanDocstring doc)).getLast? = some last ∧
          isBlankLine first = false ∧ isBlankLine last = false) ∧
    (∀ line ∈ docLines doc, '\t' ∉ line) ∧
    ∀ m, IsLeast (indentations (docLines doc).tail) m →
      ∃ dropped, ∀ i line, 0 < i → (docLines doc)[i]? = some line → isBlankLine line = false →
        dropped ≤ i ∧ ∃ shown, (piecesAt '\n' (cleanDocstring doc))[i - dropped]? = some shown ∧
          IsShownAs m line shown ∧ indentation shown + m = indentation line := by
  refine ⟨nonBlanks_cleanDocstring doc, fun source body h => ?_, fun hne => ?_,
    fun _ => tab_not_mem_docLines, fun m hm => ?_⟩
  · rw [bodyDocstring_eq h]
    exact ⟨docstringOf_eq_none_iff, fun text => toList_of_mem_docstringOf⟩
  · rw [piecesAt_cleanDocstring hne]
    have hlines := shownLines_ne_nil hne
    refine ⟨_, _, List.head?_eq_some_head hlines, List.getLast?_eq_some_getLast hlines, ?_, ?_⟩
    · exact isBlankLine_head_trimBlankLines (List.head?_eq_some_head hlines)
    · exact isBlankLine_getLast_trimBlankLines (List.getLast?_eq_some_getLast hlines)
  · obtain ⟨dropped, hlayout⟩ := isShownAs_layout doc
    rw [margin_eq_of_isLeast hm] at hlayout
    refine ⟨dropped, fun i line hi hline hcontent => ?_⟩
    obtain ⟨hle, shown, hplace, hshown⟩ := hlayout i line hi hline hcontent
    exact ⟨hle, shown, hplace, hshown, hshown.indentation_add hcontent⟩

/-- A docstring with two lines of content after an empty first line. -/
def indentedDoc : List Char := "\n\tfor x:\n\t    add \n".toList

/-- The same docstring between quotes. -/
def indentedSource : List Char := "\"\"\"".toList ++ indentedDoc ++ "\"\"\"".toList

/-- A body of one statement, the docstring between quotes. -/
def indentedBody : Tree :=
  .ofParts .block [.ofParts .expressionStatement
    [.leaf .string .origin (indentedSource.foldl Place.advance .origin)]]

/-- A line that is indented further keeps what it has beyond the margin. -/
theorem cleanDocstring_keeps_layout_indented :
    StartsWithString indentedSource indentedBody indentedDoc ∧
      bodyDocstring indentedSource indentedBody ≠ none ∧
      IsLeast (indentations (docLines indentedDoc).tail) 8 ∧
      ∃ dropped, dropped ≤ 2 ∧
        ∃ shown, (piecesAt '\n' (cleanDocstring indentedDoc))[2 - dropped]? = some shown ∧
          IsShownAs 8 "            add ".toList shown ∧ indentation shown + 8 = 12 := by
  have hlines : docLines indentedDoc =
      [[], "        for x:".toList, "            add ".toList, []] := by decide
  have hleast : IsLeast (indentations (docLines indentedDoc).tail) 8 := by
    rw [hlines]
    constructor
    · exact ⟨_, List.mem_cons_self, by decide, by decide⟩
    · rintro n ⟨line, hline, hcontent, rfl⟩
      revert line
      decide
  have hstarts : StartsWithString indentedSource indentedBody indentedDoc :=
    ⟨_, _, rfl, rfl, rfl, .inl ⟨rfl, by decide⟩⟩
  obtain ⟨-, hnone, -, -, hlayout⟩ := cleanDocstring_keeps_layout indentedDoc
  refine ⟨hstarts, fun h => ?_, hleast, ?_⟩
  · exact absurd ((hnone _ _ hstarts).1.1 h 'x' (by decide)) (by decide)
  · obtain ⟨dropped, hline⟩ := hlayout 8 hleast
    exact ⟨dropped, hline 2 _ (by decide) (by rw [hlines]; rfl) (by decide)⟩

end CodeSurvey
