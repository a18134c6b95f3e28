/-
# Patterns for paths

The patterns of ignore files.  A pattern is matched against the bytes of a whole path: `?` and `*`
do not match a slash, `**` between slashes matches any number of directories, brackets list bytes,
and braces list alternatives.
-/
import CodeSurvey.Text.Scan

namespace CodeSurvey

/-- A part of a pattern. -/
inductive Glob where
  /-- The given bytes. -/
  | literal (bytes : List UInt8)
  /-- Any byte but a slash. -/
  | any
  /-- Any number of bytes, none of them a slash. -/
  | many
  /-- Nothing, or directories up to a slash. -/
  | directoriesBefore
  /-- A slash, with or without directories and a slash after it. -/
  | directoriesBetween
  /-- A slash and anything after it. -/
  | everythingBelow
  /-- One byte within one of several ranges, or outside of all. -/
  | oneOf (negated : Bool) (ranges : List (UInt8 × UInt8))
  /-- One of several sequences of parts; nothing if there are none. -/
  | alternatives (branches : List (List Glob))

namespace Glob

/-! ## Matching -/

/-- The byte of a slash. -/
def slash : UInt8 := 47

/-- The tails of a text, itself included. -/
def tails : List UInt8 → List (List UInt8)
  | [] => [[]]
  | b :: bs => (b :: bs) :: tails bs

/-- The tails of a text up to its first slash. -/
def tailsInName : List UInt8 → List (List UInt8)
  | [] => [[]]
  | b :: bs => (b :: bs) :: (if b = slash then [] else tailsInName bs)

/-- The tails of a text that follow a slash. -/
def tailsAfterSlash : List UInt8 → List (List UInt8)
  | [] => []
  | b :: bs => (if b = slash then [bs] else []) ++ tailsAfterSlash bs

/-- Whether a byte is within one of several ranges. -/
def isWithinRanges (ranges : List (UInt8 × UInt8)) (b : UInt8) : Bool :=
  ranges.any fun (low, high) => low ≤ b && b ≤ high

mutual
/-- What may be left of a text after a part of a pattern. -/
def rests : Glob → List UInt8 → List (List UInt8)
  | literal bytes, s => if bytes.isPrefixOf s then [s.drop bytes.length] else []
  | any, b :: bs => if b = slash then [] else [bs]
  | any, [] => []
  | many, s => tailsInName s
  | directoriesBefore, s => s :: tailsAfterSlash s
  | directoriesBetween, b :: bs => if b = slash then bs :: tailsAfterSlash bs else []
  | directoriesBetween, [] => []
  | everythingBelow, b :: bs => if b = slash then tails bs else []
  | everythingBelow, [] => []
  | oneOf negated ranges, b :: bs => if isWithinRanges ranges b ≠ negated then [bs] else []
  | oneOf _ _, [] => []
  | alternatives [], s => [s]
  | alternatives (b :: bs), s => restsAmong (b :: bs) s

/-- What may be left of a text after a sequence of parts. -/
def restsAfter : List Glob → List UInt8 → List (List UInt8)
  | [], s => [s]
  | g :: gs, s => ((rests g s).flatMap fun r => restsAfter gs r).eraseDups

/-- What may be left of a text after one of several sequences. -/
def restsAmong : List (List Glob) → List UInt8 → List (List UInt8)
  | [], _ => []
  | b :: bs, s => restsAfter b s ++ restsAmong bs s
end

/-- Whether a pattern matches a whole text.  Two stars alone match everything. -/
def isMatch (pattern : List Glob) (s : List UInt8) : Bool :=
  match pattern with
  | [directoriesBefore] => true
  | _ => (restsAfter pattern s).any (·.isEmpty)

/-! ## Reading -/

/-- What has been read of a pattern.  Sequences are kept in reverse. -/
structure Draft where
  /-- The parts of the innermost open sequence. -/
  current : List Glob := []
  /-- For each open brace, its finished branches and the parts before it. -/
  braces : List (List (List Glob) × List Glob) := []
  /-- The last character that was read. -/
  last : Option Char := none
  /-- Whether a bracket that is never closed was seen; brackets stand for themselves from then
  on. -/
  plainBrackets : Bool := false

/-- Adds a part. -/
def Draft.push (d : Draft) (g : Glob) : Draft :=
  { d with current := g :: d.current }

/-- Notes the last character. -/
def Draft.after (d : Draft) (c : Char) : Draft :=
  { d with last := some c }

/-- The bytes of a character. -/
def charBytes (c : Char) : List UInt8 :=
  c.toString.toUTF8.toList

/-- A character that stands for itself. -/
def ofChar (c : Char) : Glob :=
  literal (charBytes c)

/-- Whether a part matches nothing but the empty text. -/
def isVoid : Glob → Bool
  | alternatives [] => true
  | _ => false

/-- The ranges of bytes of a range of characters.  Of characters with several bytes, the inner ends
make a range and the other bytes stand alone. -/
def byteRanges (low high : Char) : List (UInt8 × UInt8) :=
  let single (b : UInt8) : UInt8 × UInt8 := (b, b)
  if low = high then (charBytes low).map single
  else
    let lows := charBytes low
    let highs := charBytes high
    (lows.dropLast.map single) ++ [(lows.getLastD 0, highs.headD 0)] ++ highs.tail.map single

/-- Why brackets list no bytes. -/
inductive BracketFault where
  /-- They are never closed. -/
  | unclosed
  /-- The ends of a range are in the wrong order. -/
  | reversed
  deriving Repr, DecidableEq

/-- Reads what stands between brackets, up to the closing one.  The last range is open if a minus
sign follows it. -/
def bracketRanges : List Char → List (Char × Char) → Bool → Bool →
    Except BracketFault (List (Char × Char) × List Char)
  | [], _, _, _ => .error .unclosed
  | c :: cs, ranges, first, isOpen =>
    if c = ']' && !first then
      .ok ((if isOpen then ('-', '-') :: ranges else ranges).reverse, cs)
    else
      match isOpen, ranges with
      | true, (low, _) :: rest =>
        if c < low then .error .reversed
        else bracketRanges cs ((low, c) :: rest) false false
      | _, _ =>
        if c = '-' && !first then bracketRanges cs ranges false true
        else bracketRanges cs ((c, c) :: ranges) false false

/-- Reads a pair of brackets after the opening one.  A bracket that is never closed stands for
itself. -/
def bracket (d : Draft) : Scan Draft := do
  let cs ← get
  let negated := cs.head? = some '!' || cs.head? = some '^'
  match bracketRanges (if negated then cs.drop 1 else cs) [] true false with
  | .error .unclosed =>
    return { d.push (ofChar '[') with last := some '[', plainBrackets := true }
  | .error .reversed => failure
  | .ok (ranges, rest) =>
    set rest
    let bytes := ranges.flatMap fun (low, high) => byteRanges low high
    return (d.push (oneOf negated bytes)).after ']'

/-- Reads one or two stars after the first.  Two stars stand for directories if they are alone
between slashes. -/
def stars (d : Draft) : Scan Draft := do
  if !(← Scan.accept ['*']) then return (d.push many).after '*'
  let plain := ((d.push many).push many).after '*'
  let next ← Scan.peek
  match d.current with
  | [] =>
    match next with
    | none => return (d.push directoriesBefore).after '*'
    | some '/' =>
      let _ ← Scan.next
      return (d.push directoriesBefore).after '/'
    | some _ => return plain
  | top :: below =>
    let afterComma := !d.braces.isEmpty && (d.last = some ',' || d.last = some '\x7b')
    if d.last ≠ some '/' && !afterComma then return plain
    let replaced (g : Glob) : Draft :=
      match top with
      | directoriesBefore => d
      | everythingBelow => d
      | _ => { d with current := g :: below }
    match next with
    | none => return (replaced everythingBelow).after '*'
    | some '/' =>
      let _ ← Scan.next
      return (replaced directoriesBetween).after '/'
    | some c =>
      if !d.braces.isEmpty && (c = ',' || c = '\x7d') then
        return (replaced everythingBelow).after '*'
      else return plain

/-- Closes the innermost brace.  Branches that match nothing but the empty text are left out. -/
def Draft.close (d : Draft) : Option Draft :=
  match d.braces with
  | [] => none
  | (branches, before) :: outer =>
    let all := (d.current.reverse :: branches).reverse
    some { d with
      current := alternatives (all.filter fun b => !b.all isVoid) :: before
      braces := outer }

/-- Reads the next part of a pattern. -/
def part (d : Draft) : Scan Draft := do
  let c ← Scan.next
  match c with
  | '?' => return (d.push any).after c
  | '*' => stars d
  | '[' => if d.plainBrackets then return (d.push (ofChar c)).after c else bracket d
  | '\x7b' => return { d with current := [], braces := ([], d.current) :: d.braces, last := some c }
  | '\x7d' =>
    match d.close with
    | some d => return d.after c
    | none => failure
  | '\\' =>
    let e ← Scan.next
    return (d.push (ofChar e)).after e
  | ',' =>
    match d.braces with
    | [] => return (d.push (ofChar c)).after c
    | (branches, before) :: outer =>
      return { d with
        current := []
        braces := (d.current.reverse :: branches, before) :: outer
        last := some c }
  | _ => return (d.push (ofChar c)).after c

/-- Reads a pattern; every brace has to be closed. -/
def pattern : Scan (List Glob) := do
  let d ← Scan.loop (fun (d : Draft) => do
    match ← Scan.peek with
    | none => pure (.inr d)
    | some _ => pure (.inl (← part d))) {}
  guard d.braces.isEmpty
  return d.current.reverse

/-- The pattern that a text stands for. -/
def parse? (cs : List Char) : Option (List Glob) :=
  Scan.runAll pattern cs

end Glob

end CodeSurvey
