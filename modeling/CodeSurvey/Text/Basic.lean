/-
# Characters and lines

A class of characters is a list of runs of code points, so it is fixed by its table alone.  A blank is
a character with the Unicode property `White_Space`: trimming takes blanks away from the ends of a
text, and `textLines` cuts a text into the lines of a file.
-/

namespace CodeSurvey

/-! ## Ranges of characters -/

/-- A run of code points: `first`, `first + step`, and so on up to `last`. -/
structure CharRun where
  first : Nat
  last : Nat
  step : Nat
  deriving Repr, DecidableEq

/-- Whether the code point of a character lies on the run. -/
def CharRun.holds (r : CharRun) (c : Char) : Bool :=
  r.first ≤ c.toNat && c.toNat ≤ r.last && (c.toNat - r.first) % r.step == 0

/-- Whether a character lies in one of the closed intervals of code points. -/
def inRanges (ranges : List (Nat × Nat)) (c : Char) : Bool :=
  ranges.any fun r => r.1 ≤ c.toNat && c.toNat ≤ r.2

/-- Whether a character is an ASCII letter. -/
def isAsciiLetter (c : Char) : Bool :=
  ('a' ≤ c && c ≤ 'z') || ('A' ≤ c && c ≤ 'Z')

/-- Whether a character is one of `0` to `9`. -/
def isAsciiDigit (c : Char) : Bool :=
  '0' ≤ c && c ≤ '9'

/-! ## Blanks -/

/-- The intervals of code points with the property `White_Space`. -/
def blankRanges : List (Nat × Nat) :=
  [(0x9, 0xD), (0x20, 0x20), (0x85, 0x85), (0xA0, 0xA0), (0x1680, 0x1680), (0x2000, 0x200A),
  (0x2028, 0x2029), (0x202F, 0x202F), (0x205F, 0x205F), (0x3000, 0x3000)]

/-- Whether a character is a blank. -/
def isBlank (c : Char) : Bool :=
  inRanges blankRanges c

/-! ## Trimming -/

/-- A list of characters without its leading blanks. -/
def dropBlanks (cs : List Char) : List Char :=
  cs.dropWhile isBlank

/-- A list of characters without its trailing blanks. -/
def dropBlanksEnd (cs : List Char) : List Char :=
  (dropBlanks cs.reverse).reverse

/-- A list of characters without blanks at either end. -/
def trimChars (cs : List Char) : List Char :=
  dropBlanksEnd (dropBlanks cs)

/-! ## Cutting at a character -/

/-- The pieces of a list between the characters equal to `c`; there is always a last piece. -/
def piecesAt (c : Char) : List Char → List (List Char)
  | [] => [[]]
  | x :: xs =>
    if x = c then [] :: piecesAt c xs
    else match piecesAt c xs with
      | [] => [[x]]
      | p :: ps => (x :: p) :: ps

/-- The pieces of a text between the characters equal to `c`. -/
def splitText (c : Char) (s : String) : List String :=
  (piecesAt c s.toList).map String.ofList

/-- A list of characters without one carriage return at its end. -/
def dropReturn (cs : List Char) : List Char :=
  if cs.getLast? = some '\r' then cs.dropLast else cs

/-- The lines of a file: a line feed ends a line and takes a carriage return right before it along;
after the last line feed there is a line only if something stands there. -/
def linesOfChars (cs : List Char) : List (List Char) :=
  let pieces := piecesAt '\n' cs
  let ended := pieces.dropLast.map dropReturn
  match pieces.getLast? with
  | some (x :: xs) => ended ++ [x :: xs]
  | _ => ended

/-- The lines of a text. -/
def textLines (s : String) : List String :=
  (linesOfChars s.toList).map String.ofList

/-! ## Texts within texts -/

/-- Whether a piece of text stands somewhere in a text. -/
def isWithin (piece : List Char) : List Char → Bool
  | [] => piece.isEmpty
  | c :: cs => piece.isPrefixOf (c :: cs) || isWithin piece cs

theorem isWithin_iff_infix {piece text : List Char} :
    isWithin piece text = true ↔ piece <:+: text := by
  induction text with
  | nil => rw [isWithin, List.isEmpty_iff, List.infix_nil]
  | cons c cs ih =>
    rw [isWithin, Bool.or_eq_true, List.isPrefixOf_iff_prefix, ih, List.infix_cons_iff]

end CodeSurvey
