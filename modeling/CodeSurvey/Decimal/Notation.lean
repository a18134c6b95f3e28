/-
# Decimal notations

How the digits of a number are laid out: as a number in a data format, which always shows that it is
not an integer, in plain positional form, or with a fixed number of places.
-/
import CodeSurvey.Decimal.Shortest

namespace CodeSurvey

/-- A number of zeros. -/
def zeros (n : Nat) : String :=
  String.ofList (List.replicate n '0')

/-- A text with a minus sign in front if asked for. -/
def signed (negative : Bool) (s : String) : String :=
  if negative then "-" ++ s else s

/-- Digits with a point after the given number of them. -/
def withPoint (digits : List Char) (whole : Nat) : String :=
  String.ofList (digits.take whole ++ '.' :: digits.drop whole)

/-- The layout of a decimal in a data format: positional from `0.00001` up to sixteen digits before
the point, with an exponent otherwise, and never without point or exponent. -/
def Decimal.dataText (d : Decimal) : String :=
  let digits := toString d.digits
  let length : Int := digits.length
  let point := d.exponent + length
  if 0 ≤ d.exponent && point ≤ 16 then digits ++ zeros d.exponent.toNat ++ ".0"
  else if 0 < point && point ≤ 16 then withPoint digits.toList point.toNat
  else if -5 < point && point ≤ 0 then "0." ++ zeros (-point).toNat ++ digits
  else
    let mantissa := if digits.length = 1 then digits else withPoint digits.toList 1
    mantissa ++ "e" ++ toString (point - 1)

/-- A number as it stands in a data format; there is no text for what is not finite. -/
def floatDataText? (x : Float) : Option String :=
  match decodeFloat x with
  | (_, .nan) | (_, .infinite) => none
  | (negative, .zero) => some (signed negative "0.0")
  | (negative, .finite m e) => some (signed negative (intervalOf m e).shortest.dataText)

/-- The layout of a decimal in positional form, without a point if it is an integer. -/
def Decimal.plainText (d : Decimal) : String :=
  let digits := toString d.digits
  let point := d.exponent + (digits.length : Int)
  if 0 ≤ d.exponent then digits ++ zeros d.exponent.toNat
  else if 0 < point then withPoint digits.toList point.toNat
  else "0." ++ zeros (-point).toNat ++ digits

/-- A number in positional form. -/
def floatPlainText (x : Float) : String :=
  match decodeFloat x with
  | (_, .nan) => "NaN"
  | (negative, .infinite) => signed negative "inf"
  | (negative, .zero) => signed negative "0"
  | (negative, .finite m e) => signed negative (intervalOf m e).shortest.plainText

/-! ## Fixed places -/

/-- A quotient rounded to the nearest integer, a half to the even neighbour. -/
def roundDiv (n d : Nat) : Nat :=
  let q := n / d
  let r := n % d
  if d < 2 * r || (d = 2 * r && q % 2 = 1) then q + 1 else q

/-- A number of units of the last place as a text with the given number of places. -/
def placesText (places units : Nat) : String :=
  let digits := toString units
  let padded := zeros (places + 1 - digits.length) ++ digits
  if places = 0 then padded else withPoint padded.toList (padded.length - places)

/-- A number with a fixed number of places. -/
def floatFixedText (places : Nat) (x : Float) : String :=
  match decodeFloat x with
  | (_, .nan) => "NaN"
  | (negative, .infinite) => signed negative "inf"
  | (negative, .zero) => signed negative (placesText places 0)
  | (negative, .finite m e) =>
    let i := intervalOf m e
    signed negative (placesText places (roundDiv (i.value * Nat.pow 10 places) i.denominator))

/-- A number rounded to the nearest hundredth, a half away from zero. -/
def roundHundredth (x : Float) : Float :=
  (x * 100).round / 100

end CodeSurvey
