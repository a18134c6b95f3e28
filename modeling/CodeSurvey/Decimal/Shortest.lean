/-
# Shortest decimals

A floating-point number is written with the fewest digits that read back to it.  The number is
decoded into a fraction, and the decimals that read back are those in the interval halfway to its
two neighbours; all comparisons are exact.
-/
namespace CodeSurvey

/-- A positive number as a fraction, with the ends of the interval of numbers that round to it.
All three have the same denominator. -/
structure Interval where
  value : Nat
  lower : Nat
  upper : Nat
  denominator : Nat
  /-- Whether the ends themselves round to the number. -/
  closed : Bool
  deriving Repr, DecidableEq

/-- A floating-point number taken apart. -/
inductive Magnitude where
  | nan
  | infinite
  | zero
  /-- The number `mantissa * 2 ^ (exponent - 1075)`. -/
  | finite (mantissa exponent : Nat)
  deriving Repr, DecidableEq

/-- The sign and the magnitude that 64 bits stand for. -/
def decodeBits (bits : Nat) : Bool × Magnitude :=
  let negative := bits / Nat.pow 2 63 % 2 = 1
  let exponent := bits / Nat.pow 2 52 % Nat.pow 2 11
  let fraction := bits % Nat.pow 2 52
  let magnitude :=
    if exponent = 2047 then (if fraction = 0 then .infinite else .nan)
    else if exponent = 0 then (if fraction = 0 then .zero else .finite fraction 1)
    else .finite (Nat.pow 2 52 + fraction) exponent
  (negative, magnitude)

/-- The sign and the magnitude of a floating-point number. -/
def decodeFloat (x : Float) : Bool × Magnitude :=
  decodeBits x.toBits.toNat

/-- The interval of a finite magnitude.  Below a power of two the gap to the neighbour is half as
wide as above it. -/
def intervalOf (mantissa exponent : Nat) : Interval :=
  let below := if mantissa = Nat.pow 2 52 && exponent > 1 then 1 else 2
  let scale := Nat.pow 2 (exponent - 1077)
  { value := 4 * mantissa * scale
    lower := (4 * mantissa - below) * scale
    upper := (4 * mantissa + 2) * scale
    denominator := Nat.pow 2 (1077 - exponent)
    closed := mantissa % 2 = 0 }

/-- The decimal number `digits * 10 ^ exponent`. -/
structure Decimal where
  digits : Nat
  exponent : Int
  deriving Repr, DecidableEq

/-- The numerator and denominator of a power of ten. -/
def powerOfTen (e : Int) : Nat × Nat :=
  (Nat.pow 10 e.toNat, Nat.pow 10 (-e).toNat)

/-- Whether a decimal rounds to the number of an interval. -/
def Interval.holds (i : Interval) (d : Decimal) : Bool :=
  let (p, q) := powerOfTen d.exponent
  let x := d.digits * p * i.denominator
  if i.closed then i.lower * q ≤ x && x ≤ i.upper * q else i.lower * q < x && x < i.upper * q

/-- Whether the number of an interval is at least a power of ten. -/
def Interval.reaches (i : Interval) (e : Int) : Bool :=
  let (p, q) := powerOfTen e
  p * i.denominator ≤ i.value * q

/-- The greatest power of ten that the number reaches, searched from an upper bound down. -/
def Interval.scaleFrom (i : Interval) (e : Int) : Nat → Int
  | 0 => e
  | n + 1 => if i.reaches e then e else i.scaleFrom (e - 1) n

/-- The greatest power of ten that the number reaches.  The search starts from the number of binary
digits, and all doubles reach `10 ^ (-324)`. -/
def Interval.scale (i : Interval) : Int :=
  i.scaleFrom ((i.value / i.denominator).log2 * 30103 / 100000 + 1) 640

/-- The nearer of the decimals around the number on a grid that round to it; of two equally near
ones the one with an even last digit. -/
def Interval.nearest? (i : Interval) (e : Int) : Option Decimal :=
  let (p, q) := powerOfTen e
  let unit := p * i.denominator
  let below := i.value * q / unit
  let remainder := i.value * q % unit
  let down : Decimal := ⟨below, e⟩
  let up : Decimal := ⟨below + 1, e⟩
  let preferUp := unit < 2 * remainder || (unit = 2 * remainder && below % 2 = 1)
  match i.holds down, i.holds up with
  | true, true => some (if preferUp then up else down)
  | true, false => some down
  | false, true => some up
  | false, false => none

/-- The first decimal that rounds to the number, with one digit, two digits, and so on. -/
def Interval.shortestFrom (i : Interval) (e : Int) : Nat → Decimal
  | 0 => ⟨i.value * (powerOfTen e).2 / ((powerOfTen e).1 * i.denominator), e⟩
  | n + 1 =>
    match i.nearest? e with
    | some d => d
    | none => i.shortestFrom (e - 1) n

/-- The shortest decimal that rounds to the number. -/
def Interval.shortest (i : Interval) : Decimal :=
  i.shortestFrom i.scale 17

end CodeSurvey
