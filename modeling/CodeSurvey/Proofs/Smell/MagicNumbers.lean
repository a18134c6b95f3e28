/-
# Magic numbers are the runs of digits that stand alone

A number on a line is given by a cut: what stands before it, its digits, and what stands after it.
The scan of a line meets its maximal runs of digits, each once and from left to right
(`mem_digitCutsFrom`, `pairwise_digitCutsFrom`).  Those of two or more digits are what a search finds
that takes the longest match at every place and goes on after it (`finds_iff`).  So the magic numbers
of a text are the runs that stand alone on its lines of code, as far as they are reported.
-/
import CodeSurvey.Proofs.Listing
import CodeSurvey.Proofs.Text.Lines
import CodeSurvey.Smell.MagicNumber

namespace CodeSurvey

/-! ## Cuts -/

/-- A line cut before and after some digits. -/
structure Cut where
  before : List Char
  digits : List Char
  after : List Char
  deriving DecidableEq

/-- A list that starts with a given one goes on with what is left of the other. -/
theorem exists_append_of_length_le {α : Type} {xs ys zs ws : List α} (h : xs ++ ys = zs ++ ws)
    (hle : zs.length ≤ xs.length) : ∃ more, xs = zs ++ more ∧ ws = more ++ ys := by
  rcases List.append_eq_append_iff.1 h with ⟨more, rfl, rfl⟩ | ⟨more, hxs, hws⟩
  · have hmore : more = [] := by
      rw [List.length_append] at hle
      exact List.eq_nil_of_length_eq_zero (by omega)
    subst hmore
    exact ⟨[], by simp⟩
  · exact ⟨more, hxs, hws⟩

/-- Digits up to another character are what is taken as long as there are digits. -/
theorem takeWhile_digits {digits after : List Char}
    (hdigits : ∀ d ∈ digits, isDecimalDigit d = true)
    (hafter : ∀ d, after.head? = some d → isDecimalDigit d = false) :
    (digits ++ after).takeWhile isDecimalDigit = digits := by
  rw [List.takeWhile_append_of_pos hdigits]
  cases after with
  | nil => simp
  | cons d after => simp [hafter d rfl]

theorem isDecimalDigit_of_getLast?_concat {cs : List Char} {d e : Char}
    (hd : isDecimalDigit d = false) (he : (cs ++ [d]).getLast? = some e) :
    isDecimalDigit e = false := by
  rw [List.getLast?_concat] at he
  rw [← Option.some.inj he]
  exact hd

theorem isDecimalDigit_of_head?_cons {cs : List Char} {d e : Char}
    (hd : isDecimalDigit d = false) (he : (d :: cs).head? = some e) : isDecimalDigit e = false := by
  rw [← Option.some.inj he]
  exact hd

namespace Cut

/-- The line that is cut. -/
def line (c : Cut) : List Char :=
  c.before ++ c.digits ++ c.after

/-- The digits with the characters right before and after them. -/
def run (c : Cut) : DigitRun :=
  ⟨c.before.getLast?, c.digits, c.after.head?⟩

/-- The digits of a cut are a maximal run. -/
structure IsRun (c : Cut) : Prop where
  nonempty : c.digits ≠ []
  digits : ∀ d ∈ c.digits, isDecimalDigit d = true
  before : ∀ d, c.before.getLast? = some d → isDecimalDigit d = false
  after : ∀ d, c.after.head? = some d → isDecimalDigit d = false

section Runs

variable {c : Cut} (hc : c.IsRun) {before : List Char}

include hc

/-- A run that starts among digits up to another character is all of them. -/
theorem IsRun.eq_of_within {digits after : List Char}
    (hline : c.line = before ++ digits ++ after) (hdigits : ∀ d ∈ digits, isDecimalDigit d = true)
    (hafter : ∀ d, after.head? = some d → isDecimalDigit d = false)
    (hle : before.length ≤ c.before.length)
    (hlt : c.before.length < before.length + digits.length) : c = ⟨before, digits, after⟩ := by
  rw [line, List.append_assoc, List.append_assoc] at hline
  obtain ⟨more, hbefore, hrest⟩ := exists_append_of_length_le hline hle
  have hmore : more = [] := by
    -- the last of more characters would be a digit right before the run
    rcases List.eq_nil_or_concat' more with rfl | ⟨front, d, rfl⟩
    · rfl
    · have hlength : (front ++ [d]).length ≤ digits.length := by
        rw [hbefore, List.length_append] at hlt
        omega
      obtain ⟨rest, hdigits', -⟩ := exists_append_of_length_le hrest hlength
      have hdigit : isDecimalDigit d = true := hdigits d (by simp [hdigits'])
      have hother : isDecimalDigit d = false := hc.before d (by simp [hbefore])
      rw [hdigit] at hother
      cases hother
  subst hmore
  rw [List.append_nil] at hbefore
  rw [List.nil_append] at hrest
  have hsame : digits = c.digits := by
    rw [← takeWhile_digits hdigits hafter, hrest, takeWhile_digits hc.digits hc.after]
  have hsame' : after = c.after := by
    rw [hsame] at hrest
    exact List.append_cancel_left hrest
  rw [← hbefore, hsame, hsame']

/-- No run starts at a character that is no digit. -/
theorem IsRun.lt_of_not_digit {d : Char} {after : List Char} (hline : c.line = before ++ d :: after)
    (hd : isDecimalDigit d = false) (hle : before.length ≤ c.before.length) :
    before.length < c.before.length := by
  rw [line, List.append_assoc] at hline
  obtain ⟨more, hbefore, hrest⟩ := exists_append_of_length_le hline hle
  cases more with
  | nil =>
    obtain ⟨e, digits, hdigits⟩ := List.exists_cons_of_ne_nil hc.nonempty
    rw [hdigits] at hrest
    have hdigit : isDecimalDigit e = true := hc.digits e (by simp [hdigits])
    rw [← (List.cons.inj hrest).1, hd] at hdigit
    cases hdigit
  | cons e more =>
    rw [hbefore, List.length_append, List.length_cons]
    omega

/-- A run does not start at the end of a line. -/
theorem IsRun.lt_length : c.before.length < c.line.length := by
  have hpos := List.length_pos_of_ne_nil hc.nonempty
  rw [line, List.length_append, List.length_append]
  omega

end Runs

end Cut

/-! ## The scan of a line -/

/-- The maximal runs of digits of a line as cuts, from left to right.  The run at hand is carried
along with what stands before it. -/
def digitCutsFrom (before run : List Char) : List Char → List Cut
  | [] => if run.isEmpty then [] else [⟨before, run, []⟩]
  | c :: cs =>
    if isDecimalDigit c then digitCutsFrom before (run ++ [c]) cs
    else if run.isEmpty then digitCutsFrom (before ++ [c]) [] cs
    else ⟨before, run, c :: cs⟩ :: digitCutsFrom (before ++ run ++ [c]) [] cs

/-- The maximal runs of digits of a line as cuts. -/
def digitCuts (line : List Char) : List Cut :=
  digitCutsFrom [] [] line

theorem map_run_digitCutsFrom (before run cs : List Char) :
    (digitCutsFrom before run cs).map Cut.run =
      digitRunsFrom before.getLast? run.reverse cs := by
  induction cs generalizing before run with
  | nil =>
    rw [digitCutsFrom, digitRunsFrom]
    cases run with
    | nil => rfl
    | cons d run => simp [Cut.run]
  | cons c cs ih =>
    rw [digitCutsFrom, digitRunsFrom]
    by_cases hc : isDecimalDigit c = true
    · rw [if_pos hc, if_pos hc, ih, List.reverse_append]
      rfl
    · rw [if_neg hc, if_neg hc]
      cases run with
      | nil => simp [ih]
      | cons d run =>
        rw [if_neg (by simp), if_neg (by simp), List.map_cons, ih, List.getLast?_concat,
          List.reverse_reverse]
        rfl

/-- The runs that are scanned are those of the cuts. -/
theorem map_run_digitCuts (line : List Char) : (digitCuts line).map Cut.run = digitRuns line :=
  map_run_digitCutsFrom [] [] line

/-- The scan meets the maximal runs that start where it stands or later. -/
theorem mem_digitCutsFrom {before run cs : List Char} {c : Cut}
    (hbefore : ∀ d, before.getLast? = some d → isDecimalDigit d = false)
    (hrun : ∀ d ∈ run, isDecimalDigit d = true) :
    c ∈ digitCutsFrom before run cs ↔
      c.IsRun ∧ c.line = before ++ run ++ cs ∧ before.length ≤ c.before.length := by
  induction cs generalizing before run with
  | nil =>
    rw [digitCutsFrom]
    cases run with
    | nil =>
      refine iff_of_false (by simp) ?_
      rintro ⟨hc, hline, hle⟩
      have hlt := hc.lt_length
      rw [hline, List.append_nil, List.append_nil] at hlt
      omega
    | cons r run =>
      rw [if_neg (by simp), List.mem_singleton]
      constructor
      · rintro rfl
        exact ⟨⟨List.cons_ne_nil _ _, hrun, hbefore, nofun⟩, rfl, Nat.le_refl _⟩
      · rintro ⟨hc, hline, hle⟩
        have hlt := hc.lt_length
        rw [hline, List.append_nil, List.length_append] at hlt
        exact hc.eq_of_within hline hrun nofun hle hlt
  | cons d cs ih =>
    rw [digitCutsFrom]
    by_cases hd : isDecimalDigit d = true
    · have hrun' : ∀ e ∈ run ++ [d], isDecimalDigit e = true := by
        intro e he
        rcases List.mem_append.1 he with he | he
        · exact hrun e he
        · rw [List.mem_singleton.1 he]
          exact hd
      rw [if_pos hd, ih hbefore hrun']
      simp only [List.append_assoc, List.singleton_append]
    · rw [if_neg hd]
      have hd' : isDecimalDigit d = false := Bool.eq_false_iff.2 hd
      -- after a character that is no digit, the scan is at the start of no run
      have hlater : c ∈ digitCutsFrom (before ++ run ++ [d]) [] cs ↔
          c.IsRun ∧ c.line = before ++ run ++ d :: cs ∧ (before ++ run).length < c.before.length := by
        have hlength : (before ++ run ++ [d]).length = (before ++ run).length + 1 :=
          List.length_append
        rw [ih (fun _ => isDecimalDigit_of_getLast?_concat hd') (by simp), hlength, Nat.succ_le_iff]
        simp only [List.append_assoc, List.append_nil, List.singleton_append]
      cases run with
      | nil =>
        rw [List.append_nil] at hlater ⊢
        rw [if_pos List.isEmpty_nil, hlater]
        constructor
        · rintro ⟨hc, hline, hlt⟩
          exact ⟨hc, hline, Nat.le_of_lt hlt⟩
        · rintro ⟨hc, hline, hle⟩
          exact ⟨hc, hline, hc.lt_of_not_digit hline hd' hle⟩
      | cons r run =>
        have hhead : ∀ e, (d :: cs).head? = some e → isDecimalDigit e = false :=
          fun _ => isDecimalDigit_of_head?_cons hd'
        rw [if_neg (by simp), List.mem_cons, hlater]
        constructor
        · rintro (rfl | ⟨hc, hline, hlt⟩)
          · exact ⟨⟨List.cons_ne_nil _ _, hrun, hbefore, hhead⟩, rfl, Nat.le_refl _⟩
          · rw [List.length_append] at hlt
            exact ⟨hc, hline, by omega⟩
        · rintro ⟨hc, hline, hle⟩
          -- a run that starts within the one just ended is that run
          by_cases hwithin : c.before.length < before.length + (r :: run).length
          · exact Or.inl (hc.eq_of_within hline hrun hhead hle hwithin)
          · have hle' : (before ++ r :: run).length ≤ c.before.length := by
              rw [List.length_append]
              omega
            exact Or.inr ⟨hc, hline, hc.lt_of_not_digit hline hd' hle'⟩

/-- The scan goes from left to right. -/
theorem pairwise_digitCutsFrom {before run cs : List Char}
    (hbefore : ∀ d, before.getLast? = some d → isDecimalDigit d = false)
    (hrun : ∀ d ∈ run, isDecimalDigit d = true) :
    (digitCutsFrom before run cs).Pairwise fun c c' => c.before.length < c'.before.length := by
  induction cs generalizing before run with
  | nil =>
    rw [digitCutsFrom]
    split
    · exact .nil
    · exact List.pairwise_singleton _ _
  | cons d cs ih =>
    rw [digitCutsFrom]
    split
    · next hd =>
      refine ih hbefore fun e he => ?_
      rcases List.mem_append.1 he with he | he
      · exact hrun e he
      · rw [List.mem_singleton.1 he]
        exact hd
    · next hd =>
      have hd' : isDecimalDigit d = false := Bool.eq_false_iff.2 hd
      split
      · exact ih (fun _ => isDecimalDigit_of_getLast?_concat hd') (by simp)
      · have hlast : ∀ e, (before ++ run ++ [d]).getLast? = some e → isDecimalDigit e = false :=
          fun _ => isDecimalDigit_of_getLast?_concat hd'
        rw [List.pairwise_cons]
        -- a later run is found after the whole of this one
        refine ⟨fun c hc => ?_, ih hlast (by simp)⟩
        obtain ⟨-, -, hle⟩ := (mem_digitCutsFrom hlast (by simp)).1 hc
        rw [List.length_append, List.length_append, List.length_singleton] at hle
        show before.length < c.before.length
        omega

theorem mem_digitCuts {line : List Char} {c : Cut} :
    c ∈ digitCuts line ↔ c.IsRun ∧ c.line = line := by
  rw [digitCuts, mem_digitCutsFrom (by simp) (by simp)]
  simp

theorem pairwise_digitCuts (line : List Char) :
    (digitCuts line).Pairwise fun c c' => c.before.length < c'.before.length :=
  pairwise_digitCutsFrom (by simp) (by simp)

/-! ## Searching for the longest matches -/

/-- Two or more digits match. -/
def IsMatch (cs : List Char) : Prop :=
  2 ≤ cs.length ∧ ∀ d ∈ cs, isDecimalDigit d = true

/-- What a search finds from a place on, after some characters that are passed: where a match
starts, it takes the longest one and goes on after it, and elsewhere it goes on by one character. -/
inductive Finds : List Char → List Char → List Cut → Prop where
  | atEnd (passed : List Char) : Finds passed [] []
  | here {passed digits after : List Char} {found : List Cut} (isMatch : IsMatch digits)
    (longest : ∀ longer rest, digits ++ after = longer ++ rest → IsMatch longer →
      longer.length ≤ digits.length) (onward : Finds (passed ++ digits) after found) :
    Finds passed (digits ++ after) (⟨passed, digits, after⟩ :: found)
  | later {passed rest : List Char} {d : Char} {found : List Cut}
    (noMatch : ∀ digits after, d :: rest = digits ++ after → ¬ IsMatch digits)
    (onward : Finds (passed ++ [d]) rest found) : Finds passed (d :: rest) found

/-- After the longest match there is no digit. -/
theorem isDecimalDigit_of_longest {digits after : List Char} (hmatch : IsMatch digits)
    (longest : ∀ longer rest, digits ++ after = longer ++ rest → IsMatch longer →
      longer.length ≤ digits.length) {d : Char} (hd : after.head? = some d) :
    isDecimalDigit d = false := by
  obtain ⟨rest, rfl⟩ := List.head?_eq_some_iff.1 hd
  by_contra hdigit
  have hlonger : IsMatch (digits ++ [d]) := by
    constructor
    · rw [List.length_append]
      exact Nat.le_add_right_of_le hmatch.1
    · intro e he
      rcases List.mem_append.1 he with he | he
      · exact hmatch.2 e he
      · rw [List.mem_singleton.1 he]
        exact Bool.not_eq_false _ ▸ hdigit
  have hle := longest (digits ++ [d]) rest (by simp) hlonger
  rw [List.length_append, List.length_singleton] at hle
  omega

/-- A search that does not start amid a run finds the runs of two or more digits from left to
right. -/
theorem Finds.spec {passed rest : List Char} {found : List Cut} (h : Finds passed rest found)
    (hstart : ∀ d e, passed.getLast? = some d → rest.head? = some e → isDecimalDigit d = true →
      isDecimalDigit e = false) :
    (∀ c, c ∈ found ↔ c.IsRun ∧ 2 ≤ c.digits.length ∧ c.line = passed ++ rest ∧
      passed.length ≤ c.before.length) ∧
    found.Pairwise fun c c' => c.before.length < c'.before.length := by
  induction h with
  | atEnd passed =>
    refine ⟨fun c => iff_of_false (by simp) ?_, .nil⟩
    rintro ⟨hc, -, hline, hle⟩
    have hlt := hc.lt_length
    rw [hline, List.append_nil] at hlt
    omega
  | @here passed digits after found isMatch longest onward ih =>
    have hafter : ∀ d, after.head? = some d → isDecimalDigit d = false :=
      fun d => isDecimalDigit_of_longest isMatch longest
    obtain ⟨hmem, hpairwise⟩ := ih fun d e _ he _ => hafter e he
    have hrun : Cut.IsRun ⟨passed, digits, after⟩ := by
      refine ⟨List.ne_nil_of_length_pos (Nat.lt_of_lt_of_le Nat.two_pos isMatch.1), isMatch.2,
        fun d hd => ?_, hafter⟩
      -- a digit right before the match would have been passed amid a run
      by_contra hdigit
      obtain ⟨e, digits, rfl⟩ := List.exists_cons_of_length_pos
        (Nat.lt_of_lt_of_le Nat.two_pos isMatch.1)
      have hother := hstart d e hd rfl (Bool.not_eq_false _ ▸ hdigit)
      rw [isMatch.2 e List.mem_cons_self] at hother
      cases hother
    constructor
    · intro c
      rw [List.mem_cons, hmem]
      constructor
      · rintro (rfl | ⟨hc, hlong, hline, hle⟩)
        · exact ⟨hrun, isMatch.1, List.append_assoc _ _ _, Nat.le_refl _⟩
        · rw [List.length_append] at hle
          exact ⟨hc, hlong, by rw [hline, List.append_assoc], by omega⟩
      · rintro ⟨hc, hlong, hline, hle⟩
        rw [← List.append_assoc] at hline
        -- two maximal runs that overlap are the same run
        by_cases hwithin : c.before.length < passed.length + digits.length
        · exact Or.inl (hc.eq_of_within hline isMatch.2 hafter hle hwithin)
        · refine Or.inr ⟨hc, hlong, hline, ?_⟩
          rw [List.length_append]
          omega
    · rw [List.pairwise_cons]
      refine ⟨fun c hc => ?_, hpairwise⟩
      obtain ⟨-, -, -, hle⟩ := (hmem c).1 hc
      have hlong := isMatch.1
      rw [List.length_append] at hle
      show passed.length < c.before.length
      omega
  | @later passed rest d found noMatch onward ih =>
    -- two digits in a row would have been a match
    have hstart' : ∀ d' e, (passed ++ [d]).getLast? = some d' → rest.head? = some e →
        isDecimalDigit d' = true → isDecimalDigit e = false := by
      intro d' e hd' he hdigit
      rw [List.getLast?_concat] at hd'
      obtain rfl := Option.some.inj hd'
      obtain ⟨rest, rfl⟩ := List.head?_eq_some_iff.1 he
      by_contra hother
      refine noMatch [d, e] rest rfl ⟨Nat.le_refl 2, ?_⟩
      have he' : isDecimalDigit e = true := Bool.not_eq_false _ ▸ hother
      simp [hdigit, he']
    obtain ⟨hmem, hpairwise⟩ := ih hstart'
    refine ⟨fun c => ?_, hpairwise⟩
    rw [hmem, List.length_append, List.length_singleton, List.append_assoc, List.singleton_append]
    constructor
    · rintro ⟨hc, hlong, hline, hlt⟩
      exact ⟨hc, hlong, hline, Nat.le_of_lt hlt⟩
    · rintro ⟨hc, hlong, hline, hle⟩
      refine ⟨hc, hlong, hline, ?_⟩
      rw [Cut.line, List.append_assoc] at hline
      obtain ⟨more, hbefore, hrest⟩ := exists_append_of_length_le hline hle
      cases more with
      | nil =>
        rw [List.nil_append] at hrest
        exact absurd ⟨hlong, hc.digits⟩ (noMatch c.digits c.after hrest)
      | cons e more =>
        rw [hbefore, List.length_append, List.length_cons]
        omega

/-- A search comes to an end. -/
theorem exists_finds (passed rest : List Char) : ∃ found, Finds passed rest found := by
  induction hn : rest.length using Nat.strong_induction_on generalizing passed rest with
  | _ n ih =>
    cases rest with
    | nil => exact ⟨[], .atEnd passed⟩
    | cons d rest =>
      -- the digits at hand are as long as any match
      have hlongest : ∀ longer after, d :: rest = longer ++ after → IsMatch longer →
          longer.length ≤ ((d :: rest).takeWhile isDecimalDigit).length := by
        intro longer after hcut hmatch
        rw [hcut, List.takeWhile_append_of_pos hmatch.2, List.length_append]
        omega
      have hdigits : ∀ e ∈ (d :: rest).takeWhile isDecimalDigit, isDecimalDigit e = true :=
        fun e => List.mem_takeWhile_imp
      have hcut : (d :: rest).takeWhile isDecimalDigit ++ (d :: rest).dropWhile isDecimalDigit =
          d :: rest := List.takeWhile_append_dropWhile
      by_cases hlong : 2 ≤ ((d :: rest).takeWhile isDecimalDigit).length
      · have hshorter : ((d :: rest).dropWhile isDecimalDigit).length < n := by
          have hlength := congrArg List.length hcut
          rw [List.length_append] at hlength
          omega
        obtain ⟨found, hfound⟩ :=
          ih _ hshorter (passed ++ (d :: rest).takeWhile isDecimalDigit) _ rfl
        have hhere := Finds.here ⟨hlong, hdigits⟩ (by rw [hcut]; exact hlongest) hfound
        rw [hcut] at hhere
        exact ⟨_, hhere⟩
      · have hshorter : rest.length < n := by
          rw [List.length_cons] at hn
          omega
        obtain ⟨found, hfound⟩ := ih _ hshorter (passed ++ [d]) rest rfl
        refine ⟨found, .later (fun digits after hcut hmatch => ?_) hfound⟩
        exact hlong (Nat.le_trans hmatch.1 (hlongest digits after hcut hmatch))

/-- A search finds the runs of two or more digits. -/
theorem finds_iff {line : List Char} {found : List Cut} :
    Finds [] line found ↔ found = (digitCuts line).filter (2 ≤ ·.digits.length) := by
  have honly : ∀ found, Finds [] line found →
      found = (digitCuts line).filter (2 ≤ ·.digits.length) := by
    intro found h
    obtain ⟨hmem, hpairwise⟩ := h.spec (by simp)
    refine eq_of_pairwise_key_lt hpairwise ((pairwise_digitCuts line).sublist List.filter_sublist)
      fun c => ?_
    rw [hmem, List.mem_filter, mem_digitCuts]
    simp
    tauto
  constructor
  · exact honly found
  · rintro rfl
    obtain ⟨found, hfound⟩ := exists_finds [] line
    rwa [← honly found hfound]

/-! ## Magic numbers -/

theorem holdsTriple_iff {quote : Char} {line : List Char} :
    holdsTriple quote line = true ↔ [quote, quote, quote] <:+: line := by
  induction line with
  | nil => simp [holdsTriple]
  | cons c cs ih =>
    rw [holdsTriple, Bool.or_eq_true, List.isPrefixOf_iff_prefix, ih, List.infix_cons_iff]

/-- A line of code is no comment and has no three quotes in a row. -/
theorem isCodeLine_iff {line : List Char} :
    isCodeLine line = true ↔ (trimChars line).head? ≠ some '#' ∧ ¬ HasTripleQuote line := by
  rw [head?_trimChars, HasTripleQuote, not_or, ← holdsTriple_iff, ← holdsTriple_iff]
  simp [isCodeLine, and_assoc]

/-- A character that leaves digits beside it on their own. -/
def IsApart (d : Char) : Prop :=
  isAlphanumeric d = false ∧ d ≠ '_' ∧ d ≠ '.'

theorem joinsDigits_eq_false_iff {d : Char} : joinsDigits d = false ↔ IsApart d := by
  simp [joinsDigits, IsApart, and_assoc]

/-- A cut around a magic number: on a line of code, a maximal run of two or more digits that stands
alone and is not one of the common numbers. -/
structure Cut.IsMagic (c : Cut) : Prop where
  noComment : (trimChars c.line).head? ≠ some '#'
  noString : ¬ HasTripleQuote c.line
  run : c.IsRun
  long : 2 ≤ c.digits.length
  before : ∀ d, c.before.getLast? = some d → IsApart d
  after : ∀ d, c.after.head? = some d → IsApart d
  uncommon : String.ofList c.digits ∉ ["10", "100"]

/-- Whether the digits of a cut are magic, if they are a maximal run on a line of code. -/
def Cut.isMagicRun (c : Cut) : Bool :=
  c.run.isNumber && !plainNumbers.contains c.digits

theorem Cut.isMagicRun_iff {c : Cut} : c.isMagicRun = true ↔
    2 ≤ c.digits.length ∧ (∀ d, c.before.getLast? = some d → IsApart d) ∧
      (∀ d, c.after.head? = some d → IsApart d) ∧ String.ofList c.digits ∉ ["10", "100"] := by
  have halone : ∀ d : Option Char, (!d.any joinsDigits) = true ↔ ∀ e, d = some e → IsApart e := by
    intro d
    cases d with
    | none => simp
    | some e => simp [← joinsDigits_eq_false_iff]
  have hcommon : (!plainNumbers.contains c.digits) = true ↔
      String.ofList c.digits ∉ ["10", "100"] := by
    have hten : String.ofList c.digits = "10" ↔ c.digits = ['1', '0'] := by
      rw [← String.toList_inj, String.toList_ofList]
      rfl
    have hhundred : String.ofList c.digits = "100" ↔ c.digits = ['1', '0', '0'] := by
      rw [← String.toList_inj, String.toList_ofList]
      rfl
    simp [plainNumbers, hten, hhundred]
  rw [isMagicRun, DigitRun.isNumber, Bool.and_eq_true, Bool.and_eq_true, Bool.and_eq_true, halone,
    halone, hcommon, decide_eq_true_iff, and_assoc, and_assoc]
  rfl

/-- The cuts around the magic numbers of a line. -/
def magicCuts (line : List Char) : List Cut :=
  if isCodeLine line then (digitCuts line).filter Cut.isMagicRun else []

theorem mem_magicCuts {line : List Char} {c : Cut} :
    c ∈ magicCuts line ↔ c.line = line ∧ c.IsMagic := by
  rw [magicCuts]
  split
  · next hcode =>
    rw [List.mem_filter, mem_digitCuts, Cut.isMagicRun_iff]
    constructor
    · rintro ⟨⟨hrun, rfl⟩, hlong, hbefore, hafter, huncommon⟩
      obtain ⟨hcomment, hstring⟩ := isCodeLine_iff.1 hcode
      exact ⟨rfl, hcomment, hstring, hrun, hlong, hbefore, hafter, huncommon⟩
    · rintro ⟨rfl, hmagic⟩
      exact ⟨⟨hmagic.run, rfl⟩, hmagic.long, hmagic.before, hmagic.after, hmagic.uncommon⟩
  · next hcode =>
    refine iff_of_false List.not_mem_nil ?_
    rintro ⟨rfl, hmagic⟩
    exact hcode (isCodeLine_iff.2 ⟨hmagic.noComment, hmagic.noString⟩)

theorem pairwise_magicCuts (line : List Char) :
    (magicCuts line).Pairwise fun c c' => c.before.length < c'.before.length := by
  rw [magicCuts]
  split
  · exact (pairwise_digitCuts line).sublist List.filter_sublist
  · exact .nil

/-- The smell of a magic number on a row, which are counted from zero. -/
def Cut.smell (row : Nat) (c : Cut) : Smell :=
  ⟨row + 1, .low, .magicNumber (String.ofList c.digits) (String.ofList ((trimChars c.line).take 50))⟩

theorem magicNumbersOf_eq (line : List Char) :
    magicNumbersOf line = ((digitCuts line).filter Cut.isMagicRun).map Cut.digits := by
  have hmagic : ∀ c ∈ digitCuts line,
      (!plainNumbers.contains c.run.digits && c.run.isNumber) = c.isMagicRun :=
    fun c _ => Bool.and_comm _ _
  rw [← List.filter_congr hmagic, magicNumbersOf, ← map_run_digitCuts, List.filter_map,
    List.filter_filter, List.filter_map, List.map_map]
  rfl

theorem magicSmellsOf_eq (line : List Char) (row : Nat) :
    magicSmellsOf line (row + 1) = (magicCuts line).map (Cut.smell row) := by
  rw [magicSmellsOf, magicCuts]
  split
  · rw [magicNumbersOf_eq, List.map_map]
    refine List.map_congr_left fun c hc => ?_
    have hline : c.line = line := (mem_digitCuts.1 (List.mem_of_mem_filter hc)).2
    rw [Cut.smell, hline]
    rfl
  · rfl

/-- A list of cuts with their rows lists the magic numbers of some lines, row by row and from left to
right. -/
structure ListsMagicNumbers (lines : List (List Char)) (places : List (Nat × Cut)) : Prop where
  mem_iff : ∀ row c, (row, c) ∈ places ↔ lines[row]? = some c.line ∧ c.IsMagic
  inOrder : places.Pairwise fun p q =>
    p.1 < q.1 ∨ p.1 = q.1 ∧ p.2.before.length < q.2.before.length

/-- The cuts around the magic numbers of some lines, with their rows. -/
def magicPlaces (lines : List (List Char)) : List (Nat × Cut) :=
  lines.zipIdx.flatMap fun p => (magicCuts p.1).map (p.2, ·)

theorem listsMagicNumbers_magicPlaces (lines : List (List Char)) :
    ListsMagicNumbers lines (magicPlaces lines) := by
  constructor
  · intro row c
    simp only [magicPlaces, List.mem_flatMap, List.mem_map, Prod.exists, Prod.mk.injEq,
      List.mem_zipIdx_iff_getElem?]
    constructor
    · rintro ⟨line, row', hline, c', hc, rfl, rfl⟩
      obtain ⟨rfl, hmagic⟩ := mem_magicCuts.1 hc
      exact ⟨hline, hmagic⟩
    · rintro ⟨hline, hmagic⟩
      exact ⟨c.line, row, hline, c, mem_magicCuts.2 ⟨rfl, hmagic⟩, rfl, rfl⟩
  · rw [magicPlaces, List.pairwise_flatMap]
    constructor
    · rintro ⟨line, row⟩ -
      rw [List.pairwise_map]
      exact (pairwise_magicCuts line).imp fun hlt => Or.inr ⟨rfl, hlt⟩
    · -- places on different lines are ordered by their lines
      have hrows : lines.zipIdx.Pairwise fun p q => p.2 < q.2 := by
        rw [← List.pairwise_map (f := Prod.snd) (R := (· < ·)), List.zipIdx_map_snd]
        exact List.pairwise_lt_range'
      refine hrows.imp ?_
      rintro ⟨line, row⟩ ⟨line', row'⟩ hlt p hp q hq
      obtain ⟨c, -, rfl⟩ := List.mem_map.1 hp
      obtain ⟨c', -, rfl⟩ := List.mem_map.1 hq
      exact Or.inl hlt

theorem magicSmells_eq (content : String) :
    magicSmells content =
      ((magicPlaces (linesOfChars content.toList)).take 10).map fun p => p.2.smell p.1 := by
  have hsmells : ∀ lines : List (List Char),
      ((lines.zipIdx 1).flatMap fun p => magicSmellsOf p.1 p.2) =
        (magicPlaces lines).map fun p => p.2.smell p.1 := by
    intro lines
    rw [magicPlaces, List.map_flatMap, List.zipIdx_eq_map_add, List.flatMap_map]
    refine List.flatMap_congr fun p _ => ?_
    show magicSmellsOf p.1 (1 + p.2) = _
    rw [List.map_map, Nat.add_comm]
    exact magicSmellsOf_eq p.1 p.2
  rw [magicSmells, magicSmellsAmong_eq_take, hsmells, ← List.map_take]
  rfl

/-- **The magic numbers are the first ten runs of digits that stand alone.**  On every line the scan
meets what a search for the longest matches of two or more digits finds, and there is one such list.
The smells of a text are those of its first ten magic numbers, row by row and from left to right. -/
theorem magicSmells_list_numbers_alone :
    (∀ line, ∃ found, (∀ found', Finds [] line found' ↔ found' = found) ∧
      (digitRuns line).filter (2 ≤ ·.digits.length) = found.map Cut.run) ∧
    ∀ content : String, ∃ places, ListsMagicNumbers (linesOfChars content.toList) places ∧
      magicSmells content = (places.take 10).map fun p => p.2.smell p.1 := by
  constructor
  · intro line
    refine ⟨(digitCuts line).filter (2 ≤ ·.digits.length), fun found' => finds_iff, ?_⟩
    rw [← map_run_digitCuts, List.filter_map]
    rfl
  · intro content
    exact ⟨_, listsMagicNumbers_magicPlaces _, magicSmells_eq content⟩

example : magicSmells "x = 42 + y2 + 3.14 + 99\n# 77\n" =
    [⟨1, .low, .magicNumber "42" "x = 42 + y2 + 3.14 + 99"⟩,
      ⟨1, .low, .magicNumber "99" "x = 42 + y2 + 3.14 + 99"⟩] := by
  decide

end CodeSurvey
