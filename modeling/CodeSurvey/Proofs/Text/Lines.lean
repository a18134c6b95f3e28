/-
# Cut and trimmed texts

A text is cut at a character as the library's `List.splitOn` cuts it (`piecesAt_eq_splitOn`), and
blanks go from its end as `List.rdropWhile` drops them.  Trimming takes nothing but blanks away, so
it leaves the other characters as they are (`nonBlanks_trimChars`).  The lines of two texts one after
the other are those of each, if the first ends where a line ends (`linesOfChars_append`).
-/
import CodeSurvey.Text.Basic
import Mathlib.Data.List.DropRight

namespace CodeSurvey

/-! ## Cutting at a character -/

theorem piecesAt_eq_splitOn (c : Char) (xs : List Char) : piecesAt c xs = xs.splitOn c := by
  induction xs with
  | nil => rfl
  | cons x xs ih =>
    rw [piecesAt, ih, List.splitOn_cons_eq_if_modifyHead]
    by_cases hx : x = c
    · rw [if_pos hx, if_pos (beq_iff_eq.2 hx)]
    · rw [if_neg hx, if_neg (fun h => hx (beq_iff_eq.1 h))]
      cases h : xs.splitOn c with
      | nil => exact absurd h (List.splitOn_ne_nil c xs)
      | cons p ps => rfl

theorem piecesAt_ne_nil (c : Char) (xs : List Char) : piecesAt c xs ≠ [] := by
  rw [piecesAt_eq_splitOn]
  exact List.splitOn_ne_nil c xs

/-- A cut falls where the character stands. -/
theorem piecesAt_append_cons (c : Char) (xs ys : List Char) :
    piecesAt c (xs ++ c :: ys) = piecesAt c xs ++ piecesAt c ys := by
  simp only [piecesAt_eq_splitOn]
  exact List.splitOn_append_cons_self xs ys

theorem piecesAt_of_not_mem {c : Char} {xs : List Char} (h : c ∉ xs) : piecesAt c xs = [xs] := by
  rw [piecesAt_eq_splitOn]
  exact List.splitOn_eq_singleton h

/-! ## Dropping at the ends -/

section Ends

variable {α : Type} {p : α → Bool} {xs : List α}

theorem eq_false_of_head?_dropWhile {a : α} (h : (xs.dropWhile p).head? = some a) :
    p a = false := by
  have hnot := List.head?_dropWhile_not p xs
  rw [h] at hnot
  exact hnot

theorem eq_false_of_getLast?_rdropWhile {a : α} (h : (xs.rdropWhile p).getLast? = some a) :
    p a = false := by
  rw [List.rdropWhile, List.getLast?_reverse] at h
  exact eq_false_of_head?_dropWhile h

/-- Dropping at the end keeps a first item that is not dropped. -/
theorem head?_rdropWhile (h : ∀ a, xs.head? = some a → p a = false) :
    (xs.rdropWhile p).head? = xs.head? := by
  cases xs with
  | nil => rfl
  | cons a xs =>
    have hcut : (a :: xs).rdropWhile p ++ (a :: xs).rtakeWhile p = a :: xs :=
      List.rdropWhile_append_rtakeWhile
    cases hend : (a :: xs).rdropWhile p with
    | nil =>
      rw [hend, List.nil_append] at hcut
      have hdropped : p a = true := List.mem_rtakeWhile_imp (hcut ▸ List.mem_cons_self)
      rw [h a rfl] at hdropped
      cases hdropped
    | cons b ys =>
      rw [hend, List.cons_append] at hcut
      rw [List.head?_cons, List.head?_cons, (List.cons.inj hcut).1]

end Ends

/-! ## Trimming -/

/-- The characters of a text that are not blank. -/
def nonBlanks (cs : List Char) : List Char :=
  cs.filter (!isBlank ·)

theorem nonBlanks_append (cs ds : List Char) :
    nonBlanks (cs ++ ds) = nonBlanks cs ++ nonBlanks ds :=
  List.filter_append cs ds

theorem nonBlanks_eq_nil_iff {cs : List Char} :
    nonBlanks cs = [] ↔ ∀ c ∈ cs, isBlank c = true := by
  rw [nonBlanks, List.filter_eq_nil_iff]
  simp

/-- Only blanks are taken away in front. -/
theorem exists_append_dropBlanks (cs : List Char) :
    ∃ blanks, cs = blanks ++ dropBlanks cs ∧ ∀ c ∈ blanks, isBlank c = true :=
  ⟨cs.takeWhile isBlank, List.takeWhile_append_dropWhile.symm, fun _ => List.mem_takeWhile_imp⟩

/-- Only blanks are taken away at the end. -/
theorem exists_dropBlanksEnd_append (cs : List Char) :
    ∃ blanks, cs = dropBlanksEnd cs ++ blanks ∧ ∀ c ∈ blanks, isBlank c = true :=
  ⟨cs.rtakeWhile isBlank, List.rdropWhile_append_rtakeWhile.symm,
    fun _ => List.mem_rtakeWhile_imp⟩

theorem nonBlanks_dropBlanks (cs : List Char) : nonBlanks (dropBlanks cs) = nonBlanks cs := by
  obtain ⟨blanks, hcs, hblanks⟩ := exists_append_dropBlanks cs
  conv_rhs => rw [hcs, nonBlanks_append, nonBlanks_eq_nil_iff.2 hblanks, List.nil_append]

theorem nonBlanks_dropBlanksEnd (cs : List Char) :
    nonBlanks (dropBlanksEnd cs) = nonBlanks cs := by
  obtain ⟨blanks, hcs, hblanks⟩ := exists_dropBlanksEnd_append cs
  conv_rhs => rw [hcs, nonBlanks_append, nonBlanks_eq_nil_iff.2 hblanks, List.append_nil]

theorem nonBlanks_trimChars (cs : List Char) : nonBlanks (trimChars cs) = nonBlanks cs := by
  rw [trimChars, nonBlanks_dropBlanksEnd, nonBlanks_dropBlanks]

theorem head?_trimChars (cs : List Char) : (trimChars cs).head? = (dropBlanks cs).head? :=
  head?_rdropWhile fun _ => eq_false_of_head?_dropWhile

theorem trimChars_eq_nil_iff {cs : List Char} :
    trimChars cs = [] ↔ ∀ c ∈ cs, isBlank c = true := by
  rw [← nonBlanks_eq_nil_iff, ← nonBlanks_trimChars]
  constructor
  · intro h
    rw [h]
    rfl
  · -- what is left of a text starts with a character that is not blank
    intro h
    rw [nonBlanks_eq_nil_iff] at h
    cases htrim : trimChars cs with
    | nil => rfl
    | cons c ds =>
      have hhead : (dropBlanks cs).head? = some c := by rw [← head?_trimChars, htrim]; rfl
      have hblank : isBlank c = true := h c (htrim ▸ List.mem_cons_self)
      rw [eq_false_of_head?_dropWhile hhead] at hblank
      cases hblank

/-! ## Lines -/

/-- The lines up to a line feed are the pieces before it. -/
theorem linesOfChars_append_newline (xs ys : List Char) :
    linesOfChars (xs ++ '\n' :: ys) = (piecesAt '\n' xs).map dropReturn ++ linesOfChars ys := by
  have hlast := List.getLast?_append_of_ne_nil (piecesAt '\n' xs) (piecesAt_ne_nil '\n' ys)
  unfold linesOfChars
  simp only [piecesAt_append_cons, hlast, List.dropLast_append_of_ne_nil (piecesAt_ne_nil '\n' ys),
    List.map_append]
  split <;> simp

/-- A text ends where a line ends. -/
def EndsLine (cs : List Char) : Prop :=
  cs = [] ∨ cs.getLast? = some '\n'

/-- After the end of a line, lines start anew. -/
theorem linesOfChars_append {xs : List Char} (h : EndsLine xs) (ys : List Char) :
    linesOfChars (xs ++ ys) = linesOfChars xs ++ linesOfChars ys := by
  rcases h with rfl | h
  · rfl
  · obtain ⟨before, rfl⟩ := List.getLast?_eq_some_iff.1 h
    rw [List.append_assoc, List.singleton_append, linesOfChars_append_newline,
      linesOfChars_append_newline]
    simp [linesOfChars, piecesAt]

/-- Three single or three double quotes stand in a row. -/
def HasTripleQuote (line : List Char) : Prop :=
  ['"', '"', '"'] <:+: line ∨ ['\'', '\'', '\''] <:+: line

end CodeSurvey
