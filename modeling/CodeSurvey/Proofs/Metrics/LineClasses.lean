/-
# One bit of memory classifies the lines

Whether a line stands in a string is decided by the triple quotes on the lines before it, and only
by whether their number is odd (`getElem?_classesOfLines`).  Triple quotes do not reach over the end
of a line, nor into blanks, so those of a text are those of its lines (`tripleQuotes_eq_sum`).
A text that ends with a line and has an even number of them leaves nothing open, and the counts of
what follows it are simply added to its own.
-/
import CodeSurvey.Metrics.Lines
import CodeSurvey.Proofs.Text.Lines
import Mathlib.Algebra.Ring.Parity
import Mathlib.Data.Set.Card

namespace CodeSurvey

/-! ## Triple quotes -/

section Triples

variable {quote : Char}

/-- A character that is no quote starts no triple. -/
theorem countTriples_cons_of_ne {c : Char} (hc : c ≠ quote) (ys : List Char) :
    countTriples quote (c :: ys) = countTriples quote ys := by
  rcases ys with _ | ⟨y, _ | ⟨z, ys⟩⟩
  · rfl
  · rfl
  · rw [countTriples, if_neg (by simp [hc])]

/-- Another character parts the triples before it from those after it. -/
theorem countTriples_append_cons {c : Char} (hc : c ≠ quote) (xs ys : List Char) :
    countTriples quote (xs ++ c :: ys) = countTriples quote xs + countTriples quote ys := by
  fun_induction countTriples quote xs with
  | case1 a b d cs htriple ih =>
    simp only [List.cons_append]
    rw [countTriples, if_pos htriple, ih]
    omega
  | case2 a b d cs htriple ih =>
    simp only [List.cons_append] at ih ⊢
    rw [countTriples, if_neg htriple, ih]
  | case3 xs hshort =>
    -- fewer than three characters stand before `c`, which no triple can span
    rcases xs with _ | ⟨a, _ | ⟨b, _ | ⟨d, xs⟩⟩⟩
    · rw [List.nil_append, countTriples_cons_of_ne hc, Nat.zero_add]
    · rw [List.singleton_append, Nat.zero_add]
      cases ys with
      | nil => rfl
      | cons y ys => rw [countTriples, if_neg (by simp [hc]), countTriples_cons_of_ne hc]
    · simp only [List.cons_append, List.nil_append]
      rw [countTriples, if_neg (by simp [hc]), Nat.zero_add]
      cases ys with
      | nil => rfl
      | cons y ys => rw [countTriples, if_neg (by simp [hc]), countTriples_cons_of_ne hc]
    · exact absurd rfl (hshort a b d xs)

/-- Text without quotes in front adds no triple. -/
theorem countTriples_append_of_not_mem {xs : List Char} (h : quote ∉ xs) (ys : List Char) :
    countTriples quote (xs ++ ys) = countTriples quote ys := by
  induction xs with
  | nil => rfl
  | cons x xs ih =>
    rw [List.mem_cons, not_or] at h
    rw [List.cons_append, countTriples_cons_of_ne (Ne.symm h.1), ih h.2]

/-- Nor does text without quotes at the end. -/
theorem countTriples_append_right_of_not_mem {ys : List Char} (h : quote ∉ ys) (xs : List Char) :
    countTriples quote (xs ++ ys) = countTriples quote xs := by
  cases ys with
  | nil => rw [List.append_nil]
  | cons y ys =>
    rw [List.mem_cons, not_or] at h
    have hnone := countTriples_append_of_not_mem h.2 []
    rw [List.append_nil] at hnone
    rw [countTriples_append_cons (Ne.symm h.1), hnone]
    rfl

/-- A triple is counted where three quotes stand in a row. -/
theorem countTriples_pos_iff (cs : List Char) :
    0 < countTriples quote cs ↔ [quote, quote, quote] <:+: cs := by
  fun_induction countTriples quote cs with
  | case1 a b d cs htriple ih =>
    obtain ⟨⟨rfl, rfl⟩, rfl⟩ : (a = quote ∧ b = quote) ∧ d = quote := by simpa using htriple
    exact iff_of_true (Nat.succ_pos _) ⟨[], cs, rfl⟩
  | case2 a b d cs htriple ih =>
    rw [ih, List.infix_cons_iff (a := a)]
    -- no triple begins here, so one in the text is in the rest
    refine (or_iff_right fun hprefix => htriple ?_).symm
    obtain ⟨rest, hrest⟩ := hprefix
    simp only [List.cons_append, List.nil_append, List.cons.injEq] at hrest
    obtain ⟨rfl, rfl, rfl, -⟩ := hrest
    simp
  | case3 cs hshort =>
    refine iff_of_false (Nat.lt_irrefl 0) fun hinfix => ?_
    have hlength := hinfix.length_le
    rcases cs with _ | ⟨a, _ | ⟨b, _ | ⟨d, cs⟩⟩⟩
    · exact absurd hlength (by simp)
    · exact absurd hlength (by simp)
    · exact absurd hlength (by simp)
    · exact hshort a b d cs rfl

end Triples

/-- A line has triple quotes if three quotes of one sort stand in a row. -/
theorem tripleQuotes_pos_iff (line : List Char) : 0 < tripleQuotes line ↔ HasTripleQuote line := by
  rw [HasTripleQuote, ← countTriples_pos_iff, ← countTriples_pos_iff, tripleQuotes]
  omega

/-- Neither of the quotes stands in a text. -/
def IsUnquoted (cs : List Char) : Prop :=
  '"' ∉ cs ∧ '\'' ∉ cs

/-- Blanks are no quotes. -/
theorem isUnquoted_of_isBlank {cs : List Char} (h : ∀ c ∈ cs, isBlank c = true) :
    IsUnquoted cs := by
  constructor
  · intro hmem
    exact absurd (h _ hmem) (by decide)
  · intro hmem
    exact absurd (h _ hmem) (by decide)

/-- Text without quotes of either sort adds none in front. -/
theorem tripleQuotes_append_of_isUnquoted {xs : List Char} (h : IsUnquoted xs) (ys : List Char) :
    tripleQuotes (xs ++ ys) = tripleQuotes ys := by
  rw [tripleQuotes, countTriples_append_of_not_mem h.1, countTriples_append_of_not_mem h.2,
    tripleQuotes]

/-- And none at the end. -/
theorem tripleQuotes_append_right_of_isUnquoted {ys : List Char} (h : IsUnquoted ys)
    (xs : List Char) : tripleQuotes (xs ++ ys) = tripleQuotes xs := by
  rw [tripleQuotes, countTriples_append_right_of_not_mem h.1,
    countTriples_append_right_of_not_mem h.2, tripleQuotes]

/-- The end of a line parts the triple quotes before it from those after it. -/
theorem tripleQuotes_append_newline (xs ys : List Char) :
    tripleQuotes (xs ++ '\n' :: ys) = tripleQuotes xs + tripleQuotes ys := by
  rw [tripleQuotes, countTriples_append_cons (by decide), countTriples_append_cons (by decide),
    tripleQuotes, tripleQuotes]
  omega

/-- Trimming a line takes no triple quote away. -/
theorem tripleQuotes_trimChars (line : List Char) :
    tripleQuotes (trimChars line) = tripleQuotes line := by
  obtain ⟨before, hbefore, hblanks⟩ := exists_append_dropBlanks line
  obtain ⟨after, hafter, hblanks'⟩ := exists_dropBlanksEnd_append (dropBlanks line)
  calc tripleQuotes (trimChars line)
    _ = tripleQuotes (trimChars line ++ after) :=
      (tripleQuotes_append_right_of_isUnquoted (isUnquoted_of_isBlank hblanks') _).symm
    _ = tripleQuotes (dropBlanks line) := by rw [trimChars, ← hafter]
    _ = tripleQuotes (before ++ dropBlanks line) :=
      (tripleQuotes_append_of_isUnquoted (isUnquoted_of_isBlank hblanks) _).symm
    _ = tripleQuotes line := by rw [← hbefore]

/-- A carriage return is no quote, so dropping it changes nothing. -/
theorem tripleQuotes_dropReturn (line : List Char) :
    tripleQuotes (dropReturn line) = tripleQuotes line := by
  unfold dropReturn
  split
  · next hlast =>
    obtain ⟨before, rfl⟩ := List.getLast?_eq_some_iff.1 hlast
    rw [List.dropLast_concat, tripleQuotes_append_right_of_isUnquoted]
    exact ⟨by decide, by decide⟩
  · rfl

/-- The triple quotes of lines that are joined are those of each line. -/
theorem tripleQuotes_intercalate (pieces : List (List Char)) :
    tripleQuotes (['\n'].intercalate pieces) = (pieces.map tripleQuotes).sum := by
  induction pieces with
  | nil => rfl
  | cons p pieces ih =>
    cases pieces with
    | nil => simp
    | cons q pieces =>
      rw [List.map_cons, List.sum_cons, ← ih, ← tripleQuotes_append_newline]
      rfl

/-- No triple quote reaches over the end of a line. -/
theorem tripleQuotes_eq_sum (cs : List Char) :
    tripleQuotes cs = ((linesOfChars cs).map tripleQuotes).sum := by
  have hpieces : tripleQuotes cs = ((piecesAt '\n' cs).map tripleQuotes).sum := by
    rw [← tripleQuotes_intercalate, piecesAt_eq_splitOn, List.intercalate_splitOn]
  obtain ⟨ended, last, hcut⟩ : ∃ ended last, piecesAt '\n' cs = ended ++ [last] :=
    ⟨_, _, (List.dropLast_append_getLast (piecesAt_ne_nil '\n' cs)).symm⟩
  have hended : (ended.map dropReturn).map tripleQuotes = ended.map tripleQuotes := by
    rw [List.map_map]
    exact List.map_congr_left fun line _ => tripleQuotes_dropReturn line
  rw [hpieces, linesOfChars]
  simp only [hcut, List.dropLast_concat, List.getLast?_concat]
  -- the last piece counts for nothing if it is empty
  cases last with
  | nil => rw [hended, List.map_append, List.sum_append]; rfl
  | cons c last => rw [List.map_append, List.map_append, hended]

/-! ## Classes -/

/-- Whether a string is open after some lines, given whether one is open before them. -/
def openAfter (inString : Bool) (lines : List (List Char)) : Bool :=
  inString != ((lines.map tripleQuotes).sum % 2 = 1)

/-- No line changes nothing. -/
theorem openAfter_nil (inString : Bool) : openAfter inString [] = inString := by
  simp [openAfter]

/-- One line changes over what is open if its triple quotes are odd in number. -/
theorem openAfter_cons (inString : Bool) (line : List Char) (lines : List (List Char)) :
    openAfter inString (line :: lines) =
      openAfter (inString != (tripleQuotes line % 2 = 1)) lines := by
  simp only [openAfter, List.map_cons, List.sum_cons]
  rcases Nat.mod_two_eq_zero_or_one (tripleQuotes line) with hline | hline
  · simp [Nat.add_mod, hline]
  · rcases Nat.mod_two_eq_zero_or_one ((lines.map tripleQuotes).sum) with hrest | hrest
    · simp [Nat.add_mod, hline, hrest]
    · simp [Nat.add_mod, hline, hrest]

/-- The class of a line depends on the lines before it only by whether a string is open. -/
theorem getElem?_classesOfLines (inString : Bool) (lines : List (List Char)) (i : Nat) :
    (classesOfLines inString lines)[i]? =
      lines[i]?.map (classOfLine (openAfter inString (lines.take i))) := by
  induction lines generalizing inString i with
  | nil => rfl
  | cons line lines ih =>
    cases i with
    | zero => simp [classesOfLines, openAfter_nil]
    | succ i => simp [classesOfLines, ih, openAfter_cons]

/-- Lines are classified on from where those before them stopped. -/
theorem classesOfLines_append (inString : Bool) (lines lines' : List (List Char)) :
    classesOfLines inString (lines ++ lines') =
      classesOfLines inString lines ++ classesOfLines (openAfter inString lines) lines' := by
  induction lines generalizing inString with
  | nil => rw [openAfter_nil]; rfl
  | cons line lines ih => simp [classesOfLines, ih, openAfter_cons]

/-! ## Counts -/

/-- Every line gets a class. -/
theorem length_classesOfLines (inString : Bool) (lines : List (List Char)) :
    (classesOfLines inString lines).length = lines.length := by
  induction lines generalizing inString with
  | nil => rfl
  | cons line lines ih => rw [classesOfLines, List.length_cons, ih, List.length_cons]

/-- Every line has one of three classes. -/
theorem length_eq_count_classes (classes : List LineClass) :
    classes.length = classes.count .source + classes.count .comment + classes.count .blank := by
  induction classes with
  | nil => rfl
  | cons c classes ih =>
    rw [List.length_cons, List.count_cons, List.count_cons, List.count_cons, ih]
    cases c <;> simp <;> omega

/-- A text has as many classes as lines. -/
theorem length_lineClasses (cs : List Char) :
    (lineClasses cs).length = (linesOfChars cs).length := by
  rw [lineClasses, length_classesOfLines, List.length_map]

/-- All lines of a text are counted. -/
theorem loc_ofText (content : String) :
    (LineMetrics.ofText content).loc = (textLines content).length := by
  rw [textLines, List.length_map]
  exact length_lineClasses content.toList

/-- The three counts add up to the number of lines. -/
theorem loc_eq_add (content : String) :
    (LineMetrics.ofText content).loc = (LineMetrics.ofText content).sloc +
      (LineMetrics.ofText content).comments + (LineMetrics.ofText content).blank :=
  length_eq_count_classes (lineClasses content.toList)

/-! ## What the class of a line says -/

/-- The line at a place counts as a comment: three quotes stand on it in a row, or it starts with a
number sign, or the triple quotes on the lines before it are odd in number. -/
def IsCommentAt (lines : List (List Char)) (i : Nat) : Prop :=
  ∃ line, lines[i]? = some line ∧
    (HasTripleQuote line ∨ (trimChars line).head? = some '#' ∨
      Odd ((lines.take i).map tripleQuotes).sum)

/-- The line at a place holds blanks only. -/
def IsBlankAt (lines : List (List Char)) (i : Nat) : Prop :=
  ∃ line, lines[i]? = some line ∧ ∀ c ∈ line, isBlank c = true

/-- The line at a place has a class. -/
def HasClass (lines : List (List Char)) (i : Nat) : LineClass → Prop
  | .comment => IsCommentAt lines i
  | .blank => IsBlankAt lines i ∧ ¬ IsCommentAt lines i
  | .source => i < lines.length ∧ ¬ IsCommentAt lines i ∧ ¬ IsBlankAt lines i

/-- Trimming lines does not change what is open after them. -/
theorem openAfter_map_trimChars (inString : Bool) (lines : List (List Char)) :
    openAfter inString (lines.map trimChars) = openAfter inString lines := by
  have hquotes : (lines.map trimChars).map tripleQuotes = lines.map tripleQuotes := by
    rw [List.map_map]
    exact List.map_congr_left fun line _ => tripleQuotes_trimChars line
  rw [openAfter, hquotes, openAfter]

/-- A string is open after an odd number of triple quotes. -/
theorem openAfter_false_eq_true_iff {lines : List (List Char)} :
    openAfter false lines = true ↔ Odd (lines.map tripleQuotes).sum := by
  rw [Nat.odd_iff, openAfter]
  simp

/-- The class of a line follows from the line and from what is open before it. -/
theorem getElem?_lineClasses (cs : List Char) (i : Nat) :
    (lineClasses cs)[i]? = (linesOfChars cs)[i]?.map fun line =>
      classOfLine (openAfter false ((linesOfChars cs).take i)) (trimChars line) := by
  rw [lineClasses, getElem?_classesOfLines, ← List.map_take, openAfter_map_trimChars,
    List.getElem?_map, Option.map_map]
  rfl

/-- A line is a comment for one of three reasons. -/
theorem classOfLine_eq_comment_iff {inString : Bool} {line : List Char} :
    classOfLine inString line = .comment ↔
      0 < tripleQuotes line ∨ line.head? = some '#' ∨ inString = true := by
  unfold classOfLine
  split
  · next h => simpa [or_assoc, or_comm (a := inString = true)] using h
  · next h =>
    have hother : ¬(0 < tripleQuotes line ∨ line.head? = some '#' ∨ inString = true) := by
      simpa [or_assoc, or_comm (a := inString = true)] using h
    split <;> simpa using hother

/-- An empty line is blank unless it is a comment. -/
theorem classOfLine_eq_blank_iff {inString : Bool} {line : List Char} :
    classOfLine inString line = .blank ↔
      line = [] ∧ classOfLine inString line ≠ .comment := by
  unfold classOfLine
  split
  · simp
  · split <;> simp_all

/-- The classes are those that the lines have. -/
theorem getElem?_lineClasses_eq_some_iff {cs : List Char} {i : Nat} {c : LineClass} :
    (lineClasses cs)[i]? = some c ↔ HasClass (linesOfChars cs) i c := by
  rw [getElem?_lineClasses]
  cases hline : (linesOfChars cs)[i]? with
  | none =>
    have hlength := List.getElem?_eq_none_iff.1 hline
    cases c <;> simp [HasClass, IsCommentAt, IsBlankAt, hlength]
  | some line =>
    have hlength : i < (linesOfChars cs).length := (List.getElem?_eq_some_iff.1 hline).1
    have hcomment : classOfLine (openAfter false ((linesOfChars cs).take i)) (trimChars line) =
        .comment ↔ IsCommentAt (linesOfChars cs) i := by
      rw [classOfLine_eq_comment_iff, tripleQuotes_trimChars, tripleQuotes_pos_iff,
        openAfter_false_eq_true_iff]
      simp [IsCommentAt, hline]
    have hblank : trimChars line = [] ↔ IsBlankAt (linesOfChars cs) i := by
      simp [IsBlankAt, hline, trimChars_eq_nil_iff]
    rw [Option.map_some, Option.some.injEq]
    cases c with
    | comment => exact hcomment
    | blank => rw [classOfLine_eq_blank_iff, hblank, Ne, hcomment, HasClass]
    | source =>
      -- a line of source is one of neither other class
      have hother := @classOfLine_eq_blank_iff (openAfter false ((linesOfChars cs).take i))
        (trimChars line)
      rw [hblank, Ne, hcomment] at hother
      rw [HasClass, and_iff_right hlength, ← hcomment]
      cases hclass : classOfLine (openAfter false ((linesOfChars cs).take i)) (trimChars line) <;>
        simp_all

/-- An item is counted at its places. -/
theorem count_eq_ncard {α : Type} [BEq α] [LawfulBEq α] (items : List α) (a : α) :
    items.count a = {i : Nat | items[i]? = some a}.ncard := by
  have hplaces : {i : Nat | items[i]? = some a} =
      ((items.zipIdx.filter (·.1 == a)).map Prod.snd).toFinset := by
    ext i
    simp [List.mem_zipIdx_iff_getElem?]
  have hnodup : ((items.zipIdx.filter (·.1 == a)).map Prod.snd).Nodup := by
    refine List.Nodup.sublist (List.filter_sublist.map Prod.snd) ?_
    rw [List.zipIdx_map_snd]
    exact List.nodup_range'
  rw [hplaces, Set.ncard_coe_finset, List.toFinset_card_of_nodup hnodup, List.length_map,
    ← List.countP_eq_length_filter]
  conv_lhs => rw [← List.zipIdx_map_fst 0 items, List.count, List.countP_map]
  rfl

/-- A class is counted once for each line that has it. -/
theorem count_lineClasses (cs : List Char) (c : LineClass) :
    (lineClasses cs).count c = {i | HasClass (linesOfChars cs) i c}.ncard := by
  rw [count_eq_ncard]
  congr 1
  ext i
  exact getElem?_lineClasses_eq_some_iff

/-- After whole lines that leave nothing open, the classes start anew. -/
theorem lineClasses_append {cs : List Char} (h : EndsLine cs) (heven : Even (tripleQuotes cs))
    (ds : List Char) : lineClasses (cs ++ ds) = lineClasses cs ++ lineClasses ds := by
  have hclosed : openAfter false ((linesOfChars cs).map trimChars) = false := by
    rw [openAfter_map_trimChars, ← Bool.not_eq_true, openAfter_false_eq_true_iff,
      ← tripleQuotes_eq_sum, Nat.not_odd_iff_even]
    exact heven
  rw [lineClasses, linesOfChars_append h, List.map_append, classesOfLines_append, hclosed]
  rfl

/-- **The lines are classified by the parity of the triple quotes before them.**  Every line has the
class that its own characters and this parity give, and the counts are those of the lines of each
class.  After a text that ends with a line and leaves no string open, the counts are added. -/
theorem lines_classified_by_parity :
    (∀ content : String,
      (∀ i c, (lineClasses content.toList)[i]? = some c ↔
        HasClass (linesOfChars content.toList) i c) ∧
      (LineMetrics.ofText content).loc = (linesOfChars content.toList).length ∧
      (LineMetrics.ofText content).loc = (LineMetrics.ofText content).sloc +
        (LineMetrics.ofText content).comments + (LineMetrics.ofText content).blank ∧
      (LineMetrics.ofText content).sloc =
        {i | HasClass (linesOfChars content.toList) i .source}.ncard ∧
      (LineMetrics.ofText content).comments =
        {i | HasClass (linesOfChars content.toList) i .comment}.ncard ∧
      (LineMetrics.ofText content).blank =
        {i | HasClass (linesOfChars content.toList) i .blank}.ncard) ∧
    ∀ a b : String, EndsLine a.toList → Even (tripleQuotes a.toList) →
      (LineMetrics.ofText (a ++ b)).loc =
        (LineMetrics.ofText a).loc + (LineMetrics.ofText b).loc ∧
      (LineMetrics.ofText (a ++ b)).sloc =
        (LineMetrics.ofText a).sloc + (LineMetrics.ofText b).sloc ∧
      (LineMetrics.ofText (a ++ b)).comments =
        (LineMetrics.ofText a).comments + (LineMetrics.ofText b).comments ∧
      (LineMetrics.ofText (a ++ b)).blank =
        (LineMetrics.ofText a).blank + (LineMetrics.ofText b).blank := by
  constructor
  · intro content
    have hcount := count_lineClasses content.toList
    exact ⟨fun i c => getElem?_lineClasses_eq_some_iff, length_lineClasses content.toList,
      loc_eq_add content, hcount .source, hcount .comment, hcount .blank⟩
  · intro a b hends heven
    have hclasses : lineClasses (a ++ b).toList = lineClasses a.toList ++ lineClasses b.toList := by
      rw [String.toList_append]
      exact lineClasses_append hends heven b.toList
    have hcount (c : LineClass) : (lineClasses (a ++ b).toList).count c =
        (lineClasses a.toList).count c + (lineClasses b.toList).count c := by
      rw [hclasses, List.count_append]
    have hloc : (lineClasses (a ++ b).toList).length =
        (lineClasses a.toList).length + (lineClasses b.toList).length := by
      rw [hclasses, List.length_append]
    exact ⟨hloc, hcount .source, hcount .comment, hcount .blank⟩

/-- A string over two lines. -/
def stringLines : String := "'''a\r\n'''\n"

/-- The lines after a string that is closed are counted on their own. -/
theorem lines_classified_by_parity_closed :
    EndsLine stringLines.toList ∧ Even (tripleQuotes stringLines.toList) ∧
    (LineMetrics.ofText (stringLines ++ "x\n\n")).loc = 4 ∧
    (LineMetrics.ofText (stringLines ++ "x\n\n")).sloc = 1 ∧
    (LineMetrics.ofText (stringLines ++ "x\n\n")).comments = 2 ∧
    (LineMetrics.ofText (stringLines ++ "x\n\n")).blank = 1 := by
  have hends : EndsLine stringLines.toList := Or.inr (by decide)
  have heven : Even (tripleQuotes stringLines.toList) := by decide
  obtain ⟨hloc, hsloc, hcomments, hblank⟩ :=
    lines_classified_by_parity.2 stringLines "x\n\n" hends heven
  rw [hloc, hsloc, hcomments, hblank]
  exact ⟨hends, heven, by decide, by decide, by decide, by decide⟩

end CodeSurvey
