/-!
# Binary floating point with 64 bits

A finite value is `mantissa * 2 ^ exponent` with a mantissa of at most 53 bits, and is told apart
only by exact arithmetic on natural numbers. `ofDecimal` rounds a decimal number to the nearest such
value, halves to the even mantissa.
-/

namespace StoryAtlas.Number

/-- A floating-point value. In a finite one the exponent is at least -1074, and the mantissa is
below `2 ^ 53` and, unless the exponent is -1074, at least `2 ^ 52`. -/
inductive Binary64 where
  | nan
  | infinity (negative : Bool)
  | finite (negative : Bool) (mantissa : Nat) (exponent : Int)
  deriving DecidableEq, Repr, Inhabited

/-- A positive fraction of natural numbers. -/
structure Ratio where
  num : Nat
  den : Nat

/-- `n * base ^ e`. -/
def Ratio.scaled (n base : Nat) (e : Int) : Ratio :=
  if 0 ≤ e then ⟨n * Nat.pow base e.toNat, 1⟩ else ⟨n, Nat.pow base (-e).toNat⟩

/-- The fraction divided by `2 ^ e`. -/
def Ratio.halved (r : Ratio) (e : Int) : Ratio :=
  if 0 ≤ e then ⟨r.num, r.den * Nat.pow 2 e.toNat⟩ else ⟨r.num * Nat.pow 2 (-e).toNat, r.den⟩

/-- The nearest natural number, halves to the even one. -/
def Ratio.round (r : Ratio) : Nat :=
  let q := r.num / r.den
  let twice := 2 * (r.num % r.den)
  if r.den < twice ∨ (r.den = twice ∧ q % 2 = 1) then q + 1 else q

namespace Binary64

/-- Zero with a sign. -/
def zero (negative : Bool) : Binary64 :=
  finite negative 0 (-1074)

/-- The exponent at which the integral part of the fraction has 53 bits, or the least exponent
there is. -/
def exponentFor (r : Ratio) : Int :=
  let q : Int := (r.num.log2 : Int) - (r.den.log2 : Int) - 53
  let scaled := r.halved q
  let q := if scaled.num / scaled.den < Nat.pow 2 53 then q else q + 1
  max q (-1074)

/-- The value with a mantissa of at most 53 bits, where a mantissa that was rounded up to `2 ^ 53`
is halved, and an exponent that is too large gives infinity. -/
def assemble (negative : Bool) (mantissa : Nat) (exponent : Int) : Binary64 :=
  let full := mantissa == Nat.pow 2 53
  let m := if full then Nat.pow 2 52 else mantissa
  let q := if full then exponent + 1 else exponent
  if 971 < q then infinity negative else finite negative m q

/-- The value nearest to a positive fraction. -/
def ofRatio (negative : Bool) (r : Ratio) : Binary64 :=
  let q := exponentFor r
  assemble negative (r.halved q).round q

/-- The value nearest to `digits * 10 ^ e`. Numbers beyond all finite values and numbers below half
of the least one are settled by their decimal size. -/
def ofDecimal (negative : Bool) (digits : Nat) (e : Int) : Binary64 :=
  let size : Int := (Nat.toDigits 10 digits).length + e
  if digits = 0 then zero negative
  else if 310 < size then infinity negative
  else if size < -330 then zero negative
  else ofRatio negative (Ratio.scaled digits 10 e)

end Binary64

end StoryAtlas.Number
