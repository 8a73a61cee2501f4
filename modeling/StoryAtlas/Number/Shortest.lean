import StoryAtlas.Number.Binary64

/-!
# Shortest decimal text of a floating-point value

A value is written with the fewest digits that read back as the same value, and among those with
the digits nearest to it. The grids of one, two, … decimal digits are tried in turn, each at the two
neighbours of the value.
-/

namespace StoryAtlas.Number

/-- A decimal number `digits * 10 ^ exponent`. -/
structure Decimal where
  digits : Nat
  exponent : Int
  deriving DecidableEq, Repr, Inhabited

/-- `a < b` for positive fractions. -/
def Ratio.lt (a b : Ratio) : Bool :=
  a.num * b.den < b.num * a.den

/-- The distance between two fractions. -/
def Ratio.dist (a b : Ratio) : Ratio :=
  ⟨(a.num * b.den - b.num * a.den) + (b.num * a.den - a.num * b.den), a.den * b.den⟩

/-- The numbers that round to a value: those between the halfway points to its neighbours, the
halfway points included if the mantissa is even. -/
structure RoundingInterval where
  low : Ratio
  high : Ratio
  closed : Bool

/-- The interval of the positive value `mantissa * 2 ^ exponent`. Below a power of two the
neighbours lie half as far apart. -/
def RoundingInterval.of (mantissa : Nat) (exponent : Int) : RoundingInterval where
  low :=
    if mantissa = Nat.pow 2 52 ∧ -1074 < exponent then
      Ratio.scaled (4 * mantissa - 1) 2 (exponent - 2)
    else Ratio.scaled (2 * mantissa - 1) 2 (exponent - 1)
  high := Ratio.scaled (2 * mantissa + 1) 2 (exponent - 1)
  closed := mantissa % 2 = 0

/-- The fraction rounds to the value of the interval. -/
def RoundingInterval.contains (i : RoundingInterval) (r : Ratio) : Bool :=
  if i.closed then !r.lt i.low && !i.high.lt r else i.low.lt r && r.lt i.high

/-- The number of digits before the decimal point; negative numbers count the zeros behind it. -/
def magnitude (r : Ratio) : Int :=
  ((Nat.toDigits 10 (r.num * Nat.pow 10 400 / r.den)).length : Int) - 400

/-- The point of a decimal grid that is nearest to the value `r`, if one of its neighbours on the
grid rounds to it. Of two that are equally near the even one is taken. -/
def onGrid? (i : RoundingInterval) (r : Ratio) (e : Int) : Option Decimal :=
  let unit := Ratio.scaled 1 10 e
  let below := r.num * unit.den / (r.den * unit.num)
  let lower := Ratio.scaled below 10 e
  let upper := Ratio.scaled (below + 1) 10 e
  let toLower := r.dist lower
  let toUpper := r.dist upper
  match i.contains lower && below != 0, i.contains upper with
  | false, false => none
  | true, false => some ⟨below, e⟩
  | false, true => some ⟨below + 1, e⟩
  | true, true =>
    if toLower.lt toUpper || (!toUpper.lt toLower && below % 2 == 0) then some ⟨below, e⟩
    else some ⟨below + 1, e⟩

/-- The shortest decimal number that reads back as the positive value `mantissa * 2 ^ exponent`.
Seventeen digits always do. -/
def shortest (mantissa : Nat) (exponent : Int) : Decimal :=
  let r := Ratio.scaled mantissa 2 exponent
  let i := RoundingInterval.of mantissa exponent
  let size := magnitude r
  ((List.range 17).findSome? fun n : Nat => onGrid? i r (size - (n + 1))).getD ⟨0, 0⟩

/-- The significant digits without zeros at the end. -/
def Decimal.significant (d : Decimal) : List Char :=
  ((Nat.toDigits 10 d.digits).reverse.dropWhile (· == '0')).reverse

/-- The position of the decimal point, counted from the first digit. -/
def Decimal.point (d : Decimal) : Int :=
  ((Nat.toDigits 10 d.digits).length : Int) + d.exponent

/-- An exponent with its sign and at least two digits. -/
def exponentText (e : Int) : List Char :=
  let digits := Nat.toDigits 10 e.natAbs
  (if e < 0 then ['-'] else ['+']) ++ (if digits.length < 2 then '0' :: digits else digits)

/-- A positive decimal number as text: positional from 0.0001 up to below 10 ^ 16 and always with a
fractional part, with an exponent otherwise. -/
def Decimal.text (d : Decimal) : List Char :=
  let digits := d.significant
  let point := d.point
  if -4 < point ∧ point ≤ 16 then
    if point ≤ 0 then ['0', '.'] ++ List.replicate (-point).toNat '0' ++ digits
    else
      let p := point.toNat
      if digits.length ≤ p then digits ++ List.replicate (p - digits.length) '0' ++ ['.', '0']
      else digits.take p ++ '.' :: digits.drop p
  else
    digits.take 1 ++ (if digits.length = 1 then [] else '.' :: digits.drop 1) ++
      'e' :: exponentText (point - 1)

/-- The words for the values that are not numbers. -/
structure Spelling where
  nan : String
  infinity : String

/-- The text of a floating-point value. -/
def Binary64.text (words : Spelling) : Binary64 → List Char
  | nan => words.nan.toList
  | infinity negative => (if negative then ['-'] else []) ++ words.infinity.toList
  | finite negative mantissa exponent =>
    (if negative then ['-'] else []) ++
      (if mantissa = 0 then ['0', '.', '0'] else (shortest mantissa exponent).text)

end StoryAtlas.Number
