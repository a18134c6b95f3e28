/-
# Tokens of JSON texts

What the steps of the reader do on the words that the printer writes: a quoted text is read as the
text, and the decimal digits of an integer of 64 bits are read as the integer, whatever comes after
them.
-/
import CodeSurvey.Json.Parser
import CodeSurvey.Json.Printer
import Mathlib.Algebra.BigOperators.Group.List.Basic

namespace CodeSurvey

/-! ## Steps over characters -/

namespace Scan

variable {α β σ ι : Type}

/-- A step goes on from where the one before it stopped. -/
theorem bind_of_eq {p : Scan α} {f : α → Scan β} {cs rest : List Char} {a : α}
    (h : p cs = some (a, rest)) : (p >>= f) cs = f a rest := by
  show (p cs).bind (fun r => f r.1 r.2) = f a rest
  rw [h]
  rfl

/-- A guard whose condition holds reads nothing. -/
theorem guard_of {p : Prop} [Decidable p] (h : p) (cs : List Char) :
    (guard p : Scan Unit) cs = some ((), cs) := by
  rw [guard, if_pos h]
  rfl

/-- A character that is asked for is read if it comes next. -/
theorem char_cons (c : Char) (cs : List Char) : char c (c :: cs) = some ((), cs) := by
  show (guard (c = c) : Scan Unit) cs = some ((), cs)
  exact guard_of rfl cs

/-- So are several of them. -/
theorem chars_append (expected cs : List Char) :
    chars expected (expected ++ cs) = some ((), cs) := by
  have hbegins : expected.isPrefixOf (expected ++ cs) = true :=
    List.isPrefixOf_iff_prefix.2 (List.prefix_append expected cs)
  refine (bind_of_eq (rfl : (get : Scan (List Char)) (expected ++ cs) = some (_, _))).trans ?_
  refine (bind_of_eq (guard_of hbegins _)).trans ?_
  show some ((), (expected ++ cs).drop expected.length) = some ((), cs)
  rw [List.drop_left]

/-- A character that may be there is read if it is. -/
theorem accept_cons (c : Char) (cs : List Char) : accept [c] (c :: cs) = some (true, cs) := by
  show (if [c].isPrefixOf (c :: cs) then _ else _ : Scan Bool) (c :: cs) = some (true, cs)
  have hbegins : [c].isPrefixOf (c :: cs) = true := by simp
  rw [if_pos hbegins]
  rfl

/-- It is left out if another one comes next. -/
theorem accept_of_head_ne {c : Char} {cs : List Char} (h : cs.head? ≠ some c) :
    accept [c] cs = some (false, cs) := by
  show (if [c].isPrefixOf cs then _ else _ : Scan Bool) cs = some (false, cs)
  have hbegins : ¬ [c].isPrefixOf cs = true := by
    cases cs with
    | nil => simp
    | cons d cs =>
      intro hbegins
      have hcd : c = d := by simpa using hbegins
      exact h (congrArg some hcd.symm)
  rw [if_neg hbegins]
  rfl

/-- Characters that pass a test are taken up to one that does not. -/
theorem takeWhile_append {p : Char → Bool} {cs rest : List Char} (hcs : ∀ c ∈ cs, p c = true)
    (hrest : ∀ c ∈ rest.head?, p c = false) : takeWhile p (cs ++ rest) = some (cs, rest) := by
  show some ((cs ++ rest).takeWhile p, (cs ++ rest).dropWhile p) = some (cs, rest)
  rw [List.takeWhile_append_of_pos hcs, List.dropWhile_append_of_pos hcs]
  cases rest with
  | nil => simp
  | cons c rest =>
    have hc : p c = false := hrest c rfl
    simp [hc]

/-- A step whose every round reads the text of one item, and whose last round reads a closing
text, reads them all.  A round may ask that what comes after it satisfies a condition. -/
theorem repeatAtMost_flatMap {step : σ → Scan (σ ⊕ α)} {text : ι → List Char} {push : σ → ι → σ}
    {answer : σ → α} {follows : List Char → Prop} {last rest : List Char}
    (hlast : ∀ s, step s (last ++ rest) = some (.inr (answer s), rest)) :
    ∀ (items : List ι) (n : Nat) (s : σ), items.length < n →
      (∀ i ∈ items, ∀ s cs, follows cs → step s (text i ++ cs) = some (.inl (push s i), cs)) →
      (∀ more, more <:+ items → follows (more.flatMap text ++ (last ++ rest))) →
      repeatAtMost step n s (items.flatMap text ++ (last ++ rest)) =
        some (answer (items.foldl push s), rest)
  | [], n + 1, s, _, _, _ => bind_of_eq (hlast s)
  | i :: items, n + 1, s, hn, hitem, hfollows => by
    -- the first round leaves the texts of the other items, which the other rounds read
    have hfirst := hitem i (List.mem_cons_self ..) s _ (hfollows items (List.suffix_cons i items))
    rw [List.flatMap_cons, List.append_assoc]
    refine (bind_of_eq hfirst).trans ?_
    exact repeatAtMost_flatMap hlast items n (push s i) (by simpa using hn)
      (fun j hj => hitem j (List.mem_cons_of_mem i hj))
      (fun more hmore => hfollows more (hmore.trans (List.suffix_cons i items)))

/-- A loop has as many rounds as there are characters, so it reads all items and the end. -/
theorem loop_flatMap {step : σ → Scan (σ ⊕ α)} {text : ι → List Char} {push : σ → ι → σ}
    {answer : σ → α} {follows : List Char → Prop} {last rest : List Char} {items : List ι}
    (hlast : ∀ s, step s (last ++ rest) = some (.inr (answer s), rest))
    (hitem : ∀ i ∈ items, ∀ s cs, follows cs → step s (text i ++ cs) = some (.inl (push s i), cs))
    (hfollows : ∀ more, more <:+ items → follows (more.flatMap text ++ (last ++ rest)))
    (hne : ∀ i ∈ items, text i ≠ []) (s : σ) :
    loop step s (items.flatMap text ++ (last ++ rest)) =
      some (answer (items.foldl push s), rest) := by
  have hlength : items.length ≤ (items.flatMap text).length := by
    rw [List.length_flatMap, ← List.length_map (fun i => (text i).length)]
    refine List.length_le_sum_of_one_le _ fun n hn => ?_
    obtain ⟨i, hi, rfl⟩ := List.mem_map.1 hn
    exact List.length_pos_iff.2 (hne i hi)
  refine (bind_of_eq (rfl : (get : Scan (List Char)) _ = some (_, _))).trans ?_
  refine repeatAtMost_flatMap hlast items _ s ?_ hitem hfollows
  rw [List.length_append]
  omega

end Scan

/-! ## Strings -/

/-- Two hexadecimal digits spell a number below 32. -/
theorem digitsValue_hexDigit : ∀ n < 32,
    digitsValue 16 ['0', '0', hexDigit (n / 16), hexDigit (n % 16)] = n ∧
      ['0', '0', hexDigit (n / 16), hexDigit (n % 16)].all
        (fun c => (digitValue? 16 c).isSome) = true := by
  decide

namespace Json

open Scan (bind_of_eq guard_of)

/-- The four digits of a control character spell its number. -/
theorem hexUnit_control {n : Nat} (hn : n < 32) (cs : List Char) :
    hexUnit ('0' :: '0' :: hexDigit (n / 16) :: hexDigit (n % 16) :: cs) = some (n, cs) := by
  obtain ⟨hvalue, hdigits⟩ := digitsValue_hexDigit n hn
  refine (bind_of_eq (a := ['0', '0', hexDigit (n / 16), hexDigit (n % 16)]) rfl).trans ?_
  refine (bind_of_eq (guard_of hdigits cs)).trans ?_
  rw [hvalue]
  rfl

/-- So they stand for the character, which is half of no pair. -/
theorem unicodeEscape_control {c : Char} (hc : c.toNat < 32) (cs : List Char) :
    unicodeEscape ('0' :: '0' :: hexDigit (c.toNat / 16) :: hexDigit (c.toNat % 16) :: cs) =
      some (c, cs) := by
  refine (bind_of_eq (hexUnit_control hc cs)).trans ?_
  have hlow : ¬ ((0xD800 ≤ c.toNat && c.toNat < 0xDC00) = true) := by simp; omega
  have hhigh : ¬ (0xDC00 ≤ c.toNat ∧ c.toNat < 0xE000) := by omega
  rw [if_neg hlow]
  refine (bind_of_eq (guard_of hhigh cs)).trans ?_
  rw [Char.ofNat_toNat]
  rfl

/-- No character is left out of a quoted text. -/
theorem escapeChar_ne_nil (c : Char) : escapeChar c ≠ [] := by
  unfold escapeChar
  repeat' split
  all_goals exact List.cons_ne_nil _ _

/-- A backslash and an escape are read in one round. -/
theorem stringRound_escape {acc cs rest : List Char} {c : Char}
    (h : escape cs = some (c, rest)) :
    stringRound acc ('\\' :: cs) = some (.inl (c :: acc), rest) := by
  show (escape >>= fun d => pure (.inl (d :: acc)) : Scan (List Char ⊕ String)) cs = _
  exact bind_of_eq h

/-- A round of the reader takes one character from its escaped form. -/
theorem stringRound_escapeChar (c : Char) (acc cs : List Char) :
    stringRound acc (escapeChar c ++ cs) = some (.inl (c :: acc), cs) := by
  unfold escapeChar
  split_ifs with hquote hslash hline hreturn htab hback hfeed hcontrol
  -- the escapes of one letter, then the other control characters, then what stands for itself
  case pos | pos | pos | pos | pos | pos | pos =>
    subst c
    exact stringRound_escape rfl
  · exact stringRound_escape (unicodeEscape_control hcontrol cs)
  · show (if c = '"' then _ else if c = '\\' then _ else _ : Scan (List Char ⊕ String)) cs = _
    rw [if_neg hquote, if_neg hslash]
    exact bind_of_eq (guard_of (by omega) cs)

/-- The reader takes a quoted text for the text. -/
theorem string_quoteText (s : String) (rest : List Char) :
    string ((quoteText s).toList ++ rest) = some (s, rest) := by
  have hshape : (quoteText s).toList ++ rest =
      '"' :: (s.toList.flatMap escapeChar ++ (['"'] ++ rest)) := by
    simp [quoteText]
  have hlast : ∀ acc : List Char,
      stringRound acc (['"'] ++ rest) = some (.inr (String.ofList acc.reverse), rest) :=
    fun _ => rfl
  have hloop := Scan.loop_flatMap hlast
    (fun c (_ : c ∈ s.toList) acc cs (_ : True) => stringRound_escapeChar c acc cs)
    (fun _ _ => trivial) (fun c _ => escapeChar_ne_nil c) []
  rw [hshape]
  refine (bind_of_eq (Scan.char_cons '"' _)).trans (hloop.trans ?_)
  simp

/-- A quoted text is read for a value that is the text. -/
theorem stringValue_quoteText (strict : Bool) (s : String) (rest : List Char) :
    stringValue strict ((quoteText s).toList ++ rest) = some (.str s, rest) := by
  rw [stringValue, string_quoteText]

/-! ## Numbers -/

/-- What comes after a number does not go on with it. -/
def EndsNumber (rest : List Char) : Prop :=
  ∀ c ∈ rest.head?, isAsciiDigit c = false ∧ c ≠ '.' ∧ c ≠ 'e' ∧ c ≠ 'E'

/-- The value of digits is what the library makes of them. -/
theorem digitsValue_eq_ofDigitChars {cs : List Char} (h : ∀ c ∈ cs, isAsciiDigit c = true) :
    digitsValue 10 cs = Nat.ofDigitChars 10 cs 0 := by
  rw [digitsValue, Nat.ofDigitChars_eq_foldl]
  refine List.foldl_ext _ _ 0 fun n c hc => ?_
  have hdigit := h c hc
  have hlt : c.toNat - '0'.toNat < 10 := by
    have hrange : '0' ≤ c ∧ c ≤ '9' := by simpa [isAsciiDigit] using hdigit
    have hle : c.toNat ≤ '9'.toNat := hrange.2
    have hnine : '9'.toNat - '0'.toNat < 10 := by decide
    omega
  simp only [digitValue?, hdigit, if_true, Option.filter_some, hlt, decide_true]
  rw [Nat.mul_comm]

/-- The digits of a number are the ten that are read. -/
theorem isAsciiDigit_of_mem_toDigits {n : Nat} {c : Char} (h : c ∈ Nat.toDigits 10 n) :
    isAsciiDigit c = true :=
  Nat.isDigit_of_mem_toDigits (by decide) (by decide) h

/-- The digits of a number have its value. -/
theorem digitsValue_toDigits (n : Nat) : digitsValue 10 (Nat.toDigits 10 n) = n := by
  rw [digitsValue_eq_ofDigitChars fun _ => isAsciiDigit_of_mem_toDigits]
  exact Nat.ofDigitChars_ten_toDigits

/-- The text of a number begins with a digit. -/
theorem isAsciiDigit_of_mem_head {n : Nat} {rest : List Char} {c : Char}
    (h : c ∈ (Nat.toDigits 10 n ++ rest).head?) : isAsciiDigit c = true := by
  rw [List.head?_append_of_ne_nil _ Nat.toDigits_ne_nil] at h
  exact isAsciiDigit_of_mem_toDigits (List.mem_of_mem_head? h)

/-- The digits of a positive number begin with no zero. -/
theorem head_toDigits_ne_zero {n : Nat} (hn : 0 < n) : (Nat.toDigits 10 n).head? ≠ some '0' := by
  induction n using Nat.strongRecOn with
  | ind n ih =>
    rw [Nat.toDigits_eq_if (by decide)]
    split_ifs with hsmall
    · have hdigit : ∀ m < 10, 0 < m → m.digitChar ≠ '0' := by decide
      simpa using hdigit n hsmall hn
    · have hrest := ih (n / 10) (by omega) (by omega)
      rw [List.head?_append_of_ne_nil _ Nat.toDigits_ne_nil]
      exact hrest

/-- A zero in front stands alone. -/
theorem length_toDigits_or_head (n : Nat) :
    (Nat.toDigits 10 n).length = 1 ∨ (Nat.toDigits 10 n).head? ≠ some '0' := by
  rcases Nat.eq_zero_or_pos n with rfl | hn
  · exact .inl rfl
  · exact .inr (head_toDigits_ne_zero hn)

/-- All digits of a number are read, up to what ends it. -/
theorem wholeDigits_toDigits (n : Nat) {rest : List Char} (hrest : EndsNumber rest) :
    wholeDigits (Nat.toDigits 10 n ++ rest) = some (Nat.toDigits 10 n, rest) := by
  have htake := Scan.takeWhile_append (fun c (hc : c ∈ Nat.toDigits 10 n) =>
    isAsciiDigit_of_mem_toDigits hc) (fun c hc => (hrest c hc).1)
  refine (bind_of_eq htake).trans ?_
  refine (bind_of_eq (guard_of Nat.toDigits_ne_nil rest)).trans ?_
  exact bind_of_eq (guard_of (length_toDigits_or_head n) rest)

/-- What ends a number is no decimal point. -/
theorem fractionDigits_of_ends {rest : List Char} (hrest : EndsNumber rest) :
    fractionDigits rest = some ([], rest) := by
  have hpoint : rest.head? ≠ some '.' := fun h => (hrest '.' h).2.1 rfl
  exact bind_of_eq (Scan.accept_of_head_ne hpoint)

/-- Nor is it the mark of an exponent. -/
theorem exponent?_of_ends {rest : List Char} (hrest : EndsNumber rest) :
    exponent? rest = some (none, rest) := by
  have hmark : ¬ ((rest.head? = some 'e' || rest.head? = some 'E') = true) := by
    simp only [Bool.or_eq_true, decide_eq_true_eq, not_or]
    exact ⟨fun h => (hrest 'e' h).2.2.1 rfl, fun h => (hrest 'E' h).2.2.2 rfl⟩
  show (if (rest.head? = some 'e' || rest.head? = some 'E') = true then _ else _ :
    Scan (Option Int)) rest = _
  rw [if_neg hmark]
  rfl

/-- Digits of at most 64 bits are read for a natural number. -/
theorem number_toDigits (strict : Bool) {n : Nat} (hn : n < 2 ^ 64) {rest : List Char}
    (hrest : EndsNumber rest) :
    number strict (Nat.toDigits 10 n ++ rest) = some (.int n, rest) := by
  have hsign : (Nat.toDigits 10 n ++ rest).head? ≠ some '-' := fun h =>
    absurd (isAsciiDigit_of_mem_head h) (by decide)
  have hwhole : (decide (([] : List Char) = []) && (none : Option Int).isNone) = true := rfl
  have hbits : (!false && decide (n < Nat.pow 2 64)) = true := by simpa using hn
  refine (bind_of_eq (Scan.accept_of_head_ne hsign)).trans ?_
  refine (bind_of_eq (wholeDigits_toDigits n hrest)).trans ?_
  refine (bind_of_eq (fractionDigits_of_ends hrest)).trans ?_
  refine (bind_of_eq (exponent?_of_ends hrest)).trans ?_
  rw [List.append_nil, digitsValue_toDigits, if_pos hwhole, if_neg (by simp), if_pos hbits]
  rfl

/-- After a sign they are read for a negative one, down to the least of 64 bits. -/
theorem number_minus_toDigits (strict : Bool) {n : Nat} (hpos : 0 < n) (hn : n ≤ 2 ^ 63)
    {rest : List Char} (hrest : EndsNumber rest) :
    number strict ('-' :: (Nat.toDigits 10 n ++ rest)) = some (.int (-n), rest) := by
  have hwhole : (decide (([] : List Char) = []) && (none : Option Int).isNone) = true := rfl
  have hbits : (true && decide (0 < n) && decide (n ≤ Nat.pow 2 63)) = true := by
    simpa using ⟨hpos, hn⟩
  refine (bind_of_eq (Scan.accept_cons '-' _)).trans ?_
  refine (bind_of_eq (wholeDigits_toDigits n hrest)).trans ?_
  refine (bind_of_eq (fractionDigits_of_ends hrest)).trans ?_
  refine (bind_of_eq (exponent?_of_ends hrest)).trans ?_
  rw [List.append_nil, digitsValue_toDigits, if_pos hwhole, if_pos hbits]
  rfl

/-- A negative integer is written with a sign and the digits of its size. -/
theorem toList_toString_of_neg {n : Int} (hn : n < 0) :
    (toString n).toList = '-' :: Nat.toDigits 10 (-n).toNat := by
  show n.repr.toList = _
  rw [Int.repr_eq_if, if_neg (by omega), String.toList_append, Nat.toList_repr]
  rfl

/-- Other integers are written with their digits. -/
theorem toList_toString_of_nonneg {n : Int} (hn : 0 ≤ n) :
    (toString n).toList = Nat.toDigits 10 n.toNat := by
  show n.repr.toList = _
  rw [Int.repr_eq_if, if_pos hn, Nat.toList_repr]

/-- The decimal text of an integer begins with a sign or a digit. -/
theorem exists_toList_toString (n : Int) :
    ∃ c cs, (toString n).toList = c :: cs ∧ (c = '-' ∨ isAsciiDigit c = true) := by
  rcases Int.lt_or_le n 0 with hneg | hpos
  · exact ⟨'-', _, toList_toString_of_neg hneg, .inl rfl⟩
  · obtain ⟨c, cs, hcs⟩ := List.exists_cons_of_ne_nil (Nat.toDigits_ne_nil (b := 10) (n := n.toNat))
    refine ⟨c, cs, (toList_toString_of_nonneg hpos).trans hcs, .inr ?_⟩
    exact isAsciiDigit_of_mem_toDigits (hcs ▸ List.mem_cons_self ..)

/-- The reader takes the decimal text of an integer of 64 bits for the integer. -/
theorem number_toString (strict : Bool) {n : Int} (hlow : -2 ^ 63 ≤ n) (hhigh : n < 2 ^ 64)
    {rest : List Char} (hrest : EndsNumber rest) :
    number strict ((toString n).toList ++ rest) = some (.int n, rest) := by
  rcases Int.lt_or_le n 0 with hneg | hpos
  · have hback : -((-n).toNat : Int) = n := by omega
    rw [toList_toString_of_neg hneg, List.cons_append,
      number_minus_toDigits strict (by omega) (by omega) hrest, hback]
  · rw [toList_toString_of_nonneg hpos, number_toDigits strict (by omega) hrest,
      Int.toNat_of_nonneg hpos]

end Json

end CodeSurvey
