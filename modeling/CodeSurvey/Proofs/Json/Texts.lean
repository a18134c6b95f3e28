/-
# JSON texts stand for their values

The reader takes both layouts of a value back to the value.  One notion carries the proof: a step
`Reads` a text for an answer when it does so after any blanks and before anything that does not go
on with a number.  Brackets, commas and colons keep it, with any blanks that a layout puts between
them, so each layout is one induction over the value.

The values are those that a reader can give back: integers are of 64 bits, brackets are not too
deep, and an object names each member once.
-/
import CodeSurvey.Proofs.Json.Tokens
import Mathlib.Data.Option.Basic

namespace CodeSurvey

namespace Json

open Scan (bind_of_eq guard_of)

variable {α : Type}

/-! ## Blanks -/

/-- Whether a character may stand between two tokens. -/
def isGapChar (c : Char) : Bool := c == ' ' || c == '\n' || c == '\t' || c == '\r'

/-- Characters that may stand between two tokens. -/
def IsGap (gap : List Char) : Prop := ∀ c ∈ gap, isGapChar c = true

theorem isGap_nil : IsGap [] := List.forall_mem_nil _

/-- Blanks are passed over up to a character that is none. -/
theorem blanks_append {gap rest : List Char} (hgap : IsGap gap)
    (hrest : ∀ c ∈ rest.head?, isGapChar c = false) : blanks (gap ++ rest) = some ((), rest) :=
  bind_of_eq (Scan.takeWhile_append (p := isGapChar) hgap hrest)

/-- Nothing is passed over before another character. -/
theorem blanks_cons {c : Char} (hc : isGapChar c = false) (cs : List Char) :
    blanks (c :: cs) = some ((), c :: cs) :=
  blanks_append isGap_nil fun d hd => by
    cases hd
    exact hc

/-- Such a character is what is seen next. -/
theorem blanks_peek {f : Option Char → Scan α} {c : Char} (hc : isGapChar c = false)
    (cs : List Char) :
    (blanks >>= fun _ => Scan.peek >>= f) (c :: cs) = f (some c) (c :: cs) :=
  (bind_of_eq (blanks_cons hc cs)).trans (bind_of_eq (rfl : Scan.peek (c :: cs) = some (_, _)))

/-- A number ends before blanks if it ends before what follows them. -/
theorem endsNumber_of_gap {gap rest : List Char} (hgap : IsGap gap) (hrest : EndsNumber rest) :
    EndsNumber (gap ++ rest) := by
  cases gap with
  | nil => exact hrest
  | cons c gap =>
    intro d hd
    cases hd
    have hblank : c = ' ' ∨ c = '\n' ∨ c = '\t' ∨ c = '\r' := by
      simpa [isGapChar, or_assoc] using hgap c (List.mem_cons_self ..)
    rcases hblank with rfl | rfl | rfl | rfl <;> decide

/-! ## Reading a text -/

/-- A step reads a text for an answer: after any blanks, and before anything that does not go on
with a number.  The text itself begins with no blank and with no closing bracket. -/
structure Reads (p : Scan α) (text : List Char) (a : α) : Prop where
  opens : ∃ c cs, text = c :: cs ∧ isGapChar c = false ∧ c ≠ ']' ∧ c ≠ '\x7d'
  reads : ∀ gap rest, IsGap gap → EndsNumber rest → p (gap ++ (text ++ rest)) = some (a, rest)

/-- A text that is read for a value begins with no blank and no closing bracket. -/
theorem Reads.head {p : Scan α} {text : List Char} {a : α} (h : Reads p text a) {c : Char}
    {rest : List Char} (hc : c ∈ (text ++ rest).head?) :
    isGapChar c = false ∧ c ≠ ']' ∧ c ≠ '\x7d' := by
  obtain ⟨d, cs, rfl, hd⟩ := h.opens
  cases hc
  exact hd

/-! ## Items between brackets -/

/-- Texts with commas between them up to a closing bracket: `lead` stands before each of them and
`trail` before the bracket. -/
def listed (lead trail : List Char) (closing : Char) : List (List Char) → List Char
  | [] => [closing]
  | text :: texts =>
    lead ++ (text ++ (texts.flatMap (fun t => ',' :: (lead ++ t)) ++ (trail ++ [closing])))

/-- A round reads a comma and an item. -/
theorem itemsRound_item {closing : Char} (hclosing : closing ≠ ',') {item : Scan α}
    {lead text cs : List Char} {a : α} (hlead : IsGap lead) (h : Reads item text a)
    (hcs : EndsNumber cs) (acc : List α) :
    itemsRound closing item acc (',' :: (lead ++ text) ++ cs) = some (.inl (a :: acc), cs) := by
  have hcomma : (',' :: (lead ++ (text ++ cs))).head? ≠ some closing := by
    simpa [eq_comm] using hclosing
  rw [List.cons_append, List.append_assoc]
  refine (bind_of_eq (blanks_cons (by decide) _)).trans ?_
  refine (bind_of_eq (Scan.accept_of_head_ne hcomma)).trans ?_
  refine (bind_of_eq (Scan.char_cons ',' _)).trans ?_
  exact bind_of_eq (h.reads lead cs hlead hcs)

/-- A closing bracket ends the rounds, with the items in the order of reading. -/
theorem itemsRound_closing {closing : Char} (hclosing : isGapChar closing = false)
    (item : Scan α) {trail : List Char} (htrail : IsGap trail) (acc : List α) (rest : List Char) :
    itemsRound closing item acc (trail ++ [closing] ++ rest) = some (.inr acc.reverse, rest) := by
  rw [List.append_assoc]
  have hblanks : blanks (trail ++ ([closing] ++ rest)) = some ((), [closing] ++ rest) :=
    blanks_append htrail fun c hc => by
      cases hc
      exact hclosing
  refine (bind_of_eq hblanks).trans ?_
  exact bind_of_eq (Scan.accept_cons closing rest)

/-- Items that a step reads are read one by one up to the closing bracket. -/
theorem itemsUpTo_listed {closing : Char} (hclosing : closing = ']' ∨ closing = '\x7d')
    {item : Scan α} {lead trail : List Char} (hlead : IsGap lead) (htrail : IsGap trail)
    {text : α → List Char} {items : List α} (hitems : ∀ a ∈ items, Reads item (text a) a)
    (rest : List Char) :
    itemsUpTo closing item (listed lead trail closing (items.map text) ++ rest) =
      some (items, rest) := by
  have hgap : isGapChar closing = false := by rcases hclosing with rfl | rfl <;> rfl
  have hcomma : closing ≠ ',' := by rcases hclosing with rfl | rfl <;> decide
  have hend : ∀ cs, EndsNumber (trail ++ [closing] ++ cs) := fun cs => by
    rw [List.append_assoc]
    refine endsNumber_of_gap htrail fun c hc => ?_
    cases hc
    rcases hclosing with rfl | rfl <;> decide
  cases items with
  | nil =>
    refine (bind_of_eq (blanks_cons hgap rest)).trans ?_
    exact bind_of_eq (Scan.accept_cons closing rest)
  | cons a items =>
    obtain ⟨ha, hitems⟩ := List.forall_mem_cons.1 hitems
    -- a number before a comma, or before the end, has its last digit there
    have hfollows : ∀ more, more <:+ items → EndsNumber
        (more.flatMap (fun b => ',' :: (lead ++ text b)) ++ (trail ++ [closing] ++ rest)) := by
      rintro (_ | ⟨b, more⟩) -
      · exact hend rest
      · intro c hc
        cases hc
        decide
    have hshape : listed lead trail closing ((a :: items).map text) ++ rest =
        lead ++ (text a ++ (items.flatMap (fun b => ',' :: (lead ++ text b)) ++
          (trail ++ [closing] ++ rest))) := by
      simp [listed, List.flatMap_map]
    have hopen : (text a ++ (items.flatMap (fun b => ',' :: (lead ++ text b)) ++
        (trail ++ [closing] ++ rest))).head? ≠ some closing := fun h => by
      rcases hclosing with rfl | rfl
      · exact (ha.head h).2.1 rfl
      · exact (ha.head h).2.2 rfl
    have hloop := Scan.loop_flatMap (fun acc => itemsRound_closing hgap item htrail acc rest)
      (fun b hb acc cs hcs => itemsRound_item hcomma hlead (hitems b hb) hcs acc) hfollows
      (fun b _ => List.cons_ne_nil _ _) [a]
    rw [hshape]
    refine (bind_of_eq (blanks_append hlead fun c hc => (ha.head hc).1)).trans ?_
    refine (bind_of_eq (Scan.accept_of_head_ne hopen)).trans ?_
    refine (bind_of_eq (ha.reads [] _ isGap_nil (hfollows items (List.suffix_refl _)))).trans ?_
    refine hloop.trans ?_
    -- the loop gathers the items in reverse
    have hpush : items.foldl (fun acc b => b :: acc) [a] = items.reverse ++ [a] := by simp
    rw [hpush, List.reverse_append, List.reverse_reverse]
    rfl

/-- A key, a colon and a text that is read for a value are read as a member. -/
theorem Reads.member {p : Scan Json} {text gap : List Char} {v : Json} (hgap : IsGap gap)
    (h : Reads p text v) (key : String) :
    Reads (memberOf p) ((quoteText key).toList ++ ':' :: (gap ++ text)) (key, v) where
  opens := by
    refine ⟨'"', key.toList.flatMap escapeChar ++ '"' :: ':' :: (gap ++ text), ?_, by decide⟩
    simp [quoteText]
  reads before rest hbefore hrest := by
    have hquote : ∀ c ∈ ((quoteText key).toList ++ (':' :: (gap ++ (text ++ rest)))).head?,
        isGapChar c = false := by
      intro c hc
      have hc : '"' = c := by simpa [quoteText] using hc
      subst hc
      rfl
    have hshape : (quoteText key).toList ++ ':' :: (gap ++ text) ++ rest =
        (quoteText key).toList ++ (':' :: (gap ++ (text ++ rest))) := by
      simp
    rw [hshape]
    refine (bind_of_eq (blanks_append hbefore hquote)).trans ?_
    refine (bind_of_eq (string_quoteText key _)).trans ?_
    refine (bind_of_eq (blanks_cons (by decide) _)).trans ?_
    refine (bind_of_eq (Scan.char_cons ':' _)).trans ?_
    exact bind_of_eq (h.reads gap rest hgap hrest)

/-! ## Values -/

section Values

variable {strict : Bool} {depth : Nat}

/-- Blanks before a value are passed over. -/
theorem value_gap {gap : List Char} (hgap : IsGap gap) {c : Char} (hc : isGapChar c = false)
    (cs : List Char) :
    value strict (depth + 1) (gap ++ c :: cs) = value strict (depth + 1) (c :: cs) := by
  have hblanks : blanks (gap ++ c :: cs) = some ((), c :: cs) :=
    blanks_append hgap fun d hd => by
      cases hd
      exact hc
  rw [value, bind_of_eq hblanks, bind_of_eq (blanks_cons hc cs)]

/-- A text is read for a value if the reader takes just that text, whatever ends the value after
it. -/
theorem Reads.of_value {c : Char} {cs : List Char} {v : Json}
    (hc : isGapChar c = false ∧ c ≠ ']' ∧ c ≠ '\x7d')
    (h : ∀ rest, EndsNumber rest → value strict (depth + 1) (c :: (cs ++ rest)) = some (v, rest)) :
    Reads (value strict (depth + 1)) (c :: cs) v where
  opens := ⟨c, cs, rfl, hc⟩
  reads _ rest hgap hrest := (value_gap hgap hc.1 _).trans (h rest hrest)

/-- The word `null` is read. -/
theorem reads_null : Reads (value strict (depth + 1)) "null".toList .null := by
  have hshape : "null".toList = ['n', 'u', 'l', 'l'] := by decide
  rw [hshape]
  refine Reads.of_value (by decide) fun rest _ => ?_
  refine (blanks_peek (by decide) _).trans ?_
  exact bind_of_eq (Scan.chars_append ['n', 'u', 'l', 'l'] rest)

/-- The words for truth values are read. -/
theorem reads_bool (b : Bool) :
    Reads (value strict (depth + 1)) (if b then "true" else "false").toList (.bool b) := by
  cases b with
  | true =>
    have hshape : (if true = true then "true" else "false").toList = ['t', 'r', 'u', 'e'] := by
      decide
    rw [hshape]
    refine Reads.of_value (by decide) fun rest _ => ?_
    refine (blanks_peek (by decide) _).trans ?_
    exact bind_of_eq (Scan.chars_append ['t', 'r', 'u', 'e'] rest)
  | false =>
    have hshape : (if false = true then "true" else "false").toList =
        ['f', 'a', 'l', 's', 'e'] := by
      decide
    rw [hshape]
    refine Reads.of_value (by decide) fun rest _ => ?_
    refine (blanks_peek (by decide) _).trans ?_
    exact bind_of_eq (Scan.chars_append ['f', 'a', 'l', 's', 'e'] rest)

/-- A quoted text is read for the text. -/
theorem reads_str (s : String) :
    Reads (value strict (depth + 1)) (quoteText s).toList (.str s) := by
  have hshape : (quoteText s).toList = '"' :: (s.toList.flatMap escapeChar ++ ['"']) := by
    simp [quoteText]
  rw [hshape]
  refine Reads.of_value (by decide) fun rest _ => ?_
  refine (blanks_peek (by decide) _).trans ?_
  have hstring := stringValue_quoteText strict s rest
  rw [hshape] at hstring
  exact hstring

/-- What begins a number begins nothing else. -/
theorem ne_of_begins_number {c : Char} (hc : c = '-' ∨ isAsciiDigit c = true) {d : Char}
    (hdigit : isAsciiDigit d = false) (hsign : d ≠ '-') : c ≠ d := by
  rintro rfl
  rcases hc with hc | hc
  · exact hsign hc
  · exact absurd (hdigit.symm.trans hc) (by decide)

/-- In particular it is no blank and no closing bracket. -/
theorem opens_number {c : Char} (hc : c = '-' ∨ isAsciiDigit c = true) :
    isGapChar c = false ∧ c ≠ ']' ∧ c ≠ '\x7d' := by
  simp only [isGapChar, Bool.or_eq_false_iff, beq_eq_false_iff_ne]
  refine ⟨⟨⟨⟨?_, ?_⟩, ?_⟩, ?_⟩, ?_, ?_⟩
  all_goals exact ne_of_begins_number hc (by decide) (by decide)

/-- A digit or a sign begins a number, and no other value. -/
theorem value_number {c : Char} (hc : c = '-' ∨ isAsciiDigit c = true) (cs : List Char) :
    value strict (depth + 1) (c :: cs) = number strict (c :: cs) := by
  refine (blanks_peek (opens_number hc).1 cs).trans (congrFun ?_ (c :: cs))
  split
  case h_7 => rfl
  all_goals
    rename_i heq
    exact absurd (Option.some.inj heq) (ne_of_begins_number hc (by decide) (by decide))

/-- The digits of an integer of 64 bits are read for the integer. -/
theorem reads_int {n : Int} (hlow : -2 ^ 63 ≤ n) (hhigh : n < 2 ^ 64) :
    Reads (value strict (depth + 1)) (toString n).toList (.int n) := by
  obtain ⟨c, cs, hshape, hc⟩ := exists_toList_toString n
  rw [hshape]
  refine Reads.of_value (opens_number hc) fun rest hrest => ?_
  have hnumber := number_toString strict hlow hhigh hrest
  rw [hshape] at hnumber
  exact (value_number hc _).trans hnumber

/-- Items that are read one bracket further inside make an array. -/
theorem reads_arr {lead trail : List Char} (hlead : IsGap lead) (htrail : IsGap trail)
    {text : Json → List Char} {items : List Json}
    (hitems : ∀ v ∈ items, Reads (value strict (depth + 1)) (text v) v) :
    Reads (value strict (depth + 2)) ('[' :: listed lead trail ']' (items.map text))
      (.arr items) := by
  refine Reads.of_value (by decide) fun rest _ => ?_
  refine (blanks_peek (by decide) _).trans ?_
  refine (bind_of_eq (guard_of (Nat.succ_ne_zero depth) _)).trans ?_
  refine (bind_of_eq (Scan.char_cons '[' _)).trans ?_
  exact bind_of_eq (itemsUpTo_listed (.inl rfl) hlead htrail hitems rest)

/-- Members that are read one bracket further inside make an object. -/
theorem reads_obj {lead trail : List Char} (hlead : IsGap lead) (htrail : IsGap trail)
    {text : String × Json → List Char} {members : List (String × Json)}
    (hmembers : ∀ m ∈ members, Reads (memberOf (value strict (depth + 1))) (text m) m) :
    Reads (value strict (depth + 2)) ('\x7b' :: listed lead trail '\x7d' (members.map text))
      (.obj members) := by
  refine Reads.of_value (by decide) fun rest _ => ?_
  refine (blanks_peek (by decide) _).trans ?_
  refine (bind_of_eq (guard_of (Nat.succ_ne_zero depth) _)).trans ?_
  refine (bind_of_eq (Scan.char_cons '\x7b' _)).trans ?_
  exact bind_of_eq (itemsUpTo_listed (.inr rfl) hlead htrail hmembers rest)

end Values

/-! ## Layouts -/

/-- A value that a reader can give back, inside the given number of brackets: integers are of 64
bits, and an object names each member once. -/
inductive IsReadable : Nat → Json → Prop
  | null {depth : Nat} : IsReadable (depth + 1) .null
  | bool {depth : Nat} (b : Bool) : IsReadable (depth + 1) (.bool b)
  | int {depth : Nat} {n : Int} (hlow : -2 ^ 63 ≤ n) (hhigh : n < 2 ^ 64) :
    IsReadable (depth + 1) (.int n)
  | str {depth : Nat} (s : String) : IsReadable (depth + 1) (.str s)
  | arr {depth : Nat} {items : List Json} (hitems : ∀ v ∈ items, IsReadable (depth + 1) v) :
    IsReadable (depth + 2) (.arr items)
  | obj {depth : Nat} {members : List (String × Json)} (hkeys : (members.map (·.1)).Nodup)
    (hmembers : ∀ m ∈ members, IsReadable (depth + 1) m.2) : IsReadable (depth + 2) (.obj members)

/-- A separator stands before every text but the first. -/
theorem intercalate_cons (separator text : List Char) (texts : List (List Char)) :
    separator.intercalate (text :: texts) = text ++ texts.flatMap (separator ++ ·) := by
  induction texts generalizing text with
  | nil => simp
  | cons next texts ih =>
    rw [List.intercalate_cons_cons, ih, List.flatMap_cons, List.append_assoc, List.append_assoc]

/-- The items of an array are written one by one. -/
theorem compactItems_eq_map (items : List Json) : compactItems items = items.map compact := by
  induction items with
  | nil => rfl
  | cons v items ih => rw [compactItems, ih, List.map_cons]

/-- So are the members of an object, each after its key. -/
theorem compactMembers_eq_map (members : List (String × Json)) :
    compactMembers members = members.map fun m => quoteText m.1 ++ ":" ++ compact m.2 := by
  induction members with
  | nil => rfl
  | cons m members ih => rw [compactMembers, ih, List.map_cons]

/-- On several lines, items are written one by one as well. -/
theorem prettyItems_eq_map (level : Nat) (items : List Json) :
    prettyItems level items = items.map (prettyAt level) := by
  induction items with
  | nil => rfl
  | cons v items ih => rw [prettyItems, ih, List.map_cons]

/-- And so are members. -/
theorem prettyMembers_eq_map (level : Nat) (members : List (String × Json)) :
    prettyMembers level members =
      members.map fun m => quoteText m.1 ++ ": " ++ prettyAt level m.2 := by
  induction members with
  | nil => rfl
  | cons m members ih => rw [prettyMembers, ih, List.map_cons]

/-- Texts on one line between brackets. -/
theorem toList_compact_brackets {opening closing : String} {a z : Char}
    (hopening : opening.toList = [a]) (hclosing : closing.toList = [z]) (texts : List String) :
    (opening ++ ",".intercalate texts ++ closing).toList =
      a :: listed [] [] z (texts.map String.toList) := by
  have hcomma : ",".toList = [','] := by decide
  rw [String.toList_append, String.toList_append, String.toList_intercalate, hopening, hclosing,
    hcomma]
  cases texts with
  | nil => rfl
  | cons text texts =>
    rw [List.map_cons, intercalate_cons]
    simp [listed]

/-- The end of a line and the blanks at the beginning of the next one. -/
def newline (level : Nat) : List Char := '\n' :: List.replicate (2 * level) ' '

theorem isGap_newline (level : Nat) : IsGap (newline level) := by
  intro c hc
  rcases List.mem_cons.1 hc with rfl | hc
  · decide
  · rw [List.eq_of_mem_replicate hc]
    decide

/-- Texts on lines of their own between brackets. -/
theorem toList_enclose {opening closing : String} {a z : Char}
    (hopening : opening.toList = [a]) (hclosing : closing.toList = [z]) (level : Nat)
    (texts : List String) :
    (enclose level opening closing texts).toList =
      a :: listed (newline (level + 1)) (newline level) z (texts.map String.toList) := by
  have hcomma : ",\n".toList = [',', '\n'] := by decide
  have hline : "\n".toList = ['\n'] := by decide
  cases texts with
  | nil => simp [enclose, listed, hopening, hclosing]
  | cons text texts =>
    simp only [enclose, String.toList_append, String.toList_intercalate, hopening, hclosing,
      hcomma, hline, List.map_cons, intercalate_cons, listed]
    simp [indentText, newline, List.flatMap_map]

/-- The text of a readable value on one line is read for the value. -/
theorem reads_compact {strict : Bool} {depth : Nat} {v : Json} (h : IsReadable depth v) :
    Reads (value strict depth) v.compact.toList v := by
  induction h with
  | null => exact reads_null
  | bool b =>
    rw [compact]
    exact reads_bool b
  | int hlow hhigh =>
    rw [compact]
    exact reads_int hlow hhigh
  | str s =>
    rw [compact]
    exact reads_str s
  | arr _ ih =>
    rw [compact, compactItems_eq_map,
      toList_compact_brackets (a := '[') (z := ']') (by decide) (by decide), List.map_map]
    exact reads_arr isGap_nil isGap_nil ih
  | obj _ _ ih =>
    rw [compact, compactMembers_eq_map,
      toList_compact_brackets (a := '\x7b') (z := '\x7d') (by decide) (by decide), List.map_map]
    refine reads_obj isGap_nil isGap_nil fun m hm => ?_
    have hmember := (ih m hm).member isGap_nil m.1
    simpa using hmember

/-- So is its text on several lines, at every level. -/
theorem reads_prettyAt {strict : Bool} {depth : Nat} {v : Json} (h : IsReadable depth v)
    (level : Nat) : Reads (value strict depth) (v.prettyAt level).toList v := by
  induction h generalizing level with
  | null => exact reads_null
  | bool b =>
    rw [prettyAt]
    exact reads_bool b
  | int hlow hhigh =>
    rw [prettyAt]
    exact reads_int hlow hhigh
  | str s =>
    rw [prettyAt]
    exact reads_str s
  | arr _ ih =>
    rw [prettyAt, prettyItems_eq_map,
      toList_enclose (a := '[') (z := ']') (by decide) (by decide), List.map_map]
    exact reads_arr (isGap_newline _) (isGap_newline _) fun v hv => ih v hv _
  | obj _ _ ih =>
    rw [prettyAt, prettyMembers_eq_map,
      toList_enclose (a := '\x7b') (z := '\x7d') (by decide) (by decide), List.map_map]
    refine reads_obj (isGap_newline _) (isGap_newline _) fun m hm => ?_
    have hspace : IsGap [' '] := List.forall_mem_singleton.2 rfl
    have hmember := (ih m hm (level + 1)).member hspace m.1
    simpa using hmember

/-! ## Whole texts -/

/-- A text that is read for a value, with nothing after it, stands for the value. -/
theorem parse?_of_reads {text : String} {v : Json} (h : Reads (value true 128) text.toList v) :
    parse? text = some v := by
  have hvalue := h.reads [] [] isGap_nil fun c hc => absurd hc (Option.not_mem_none c)
  rw [List.append_nil, List.nil_append] at hvalue
  have hwhole : wholeText true 128 text.toList = some (v, []) :=
    (bind_of_eq hvalue).trans rfl
  rw [parse?, Scan.runAll, hwhole]

/-- A readable value is what its text on one line stands for. -/
theorem parse?_compact {v : Json} (h : IsReadable 128 v) : parse? v.compact = some v :=
  parse?_of_reads (reads_compact h)

/-- A readable value is what its text on several lines stands for. -/
theorem parse?_pretty {v : Json} (h : IsReadable 128 v) : parse? v.pretty = some v :=
  parse?_of_reads (reads_prettyAt h 0)

end Json

end CodeSurvey
