/-!
# Doubles

The finite numbers of double precision. The size of one is a multiple of the smallest size,
`2 ^ -1074`, so that it is kept as a natural number. The leading 53 bits of a size may be any; those
behind them are zero. A product or a quotient of sizes is the exact one, rounded to the nearest
size; of two sizes that are equally near, to the one whose last bit is zero.
-/

namespace ModularRouter

/-- A finite number of double precision. -/
structure Double where
  /-- Whether a minus sign stands in front; zero has a sign as well. -/
  negative : Bool
  /-- The size, in units of `2 ^ -1074`. -/
  size : Nat
  deriving Repr, DecidableEq

namespace Double

/-- A quotient, rounded to the nearest whole number; of two that are equally near, to the even
one. -/
def nearest (numerator denominator : Nat) : Nat :=
  let quotient := numerator / denominator
  let twice := 2 * (numerator % denominator)
  if twice < denominator ∨ (twice = denominator ∧ quotient % 2 = 0) then quotient
  else quotient + 1

/-- How far the sizes near a number of units are apart. -/
def spacing (units : Nat) : Nat :=
  Nat.pow 2 (units.log2 - 52)

/-- A quotient of units, rounded to a size, as if there were no largest one. -/
def round (numerator denominator : Nat) : Nat :=
  let step := spacing (numerator / denominator)
  step * nearest numerator (step * denominator)

/-- The size of the number one. -/
def one : Nat := Nat.pow 2 1074

/-- The first size that is too large to be finite. -/
def limit : Nat := Nat.pow 2 1024 * one

/-- The size of a natural number. -/
def ofNat (value : Nat) : Nat :=
  round (value * one) 1

/-- The product of two sizes. -/
def product (left right : Nat) : Nat :=
  round (left * right) one

/-- The quotient of two sizes. -/
def quotient (left right : Nat) : Nat :=
  round (left * one) right

/-! ## Powers of ten -/

/-- The largest exponent of a power of ten that is a size. -/
def maxPower : Nat := 308

/-- A size times a power of ten, if it is finite. -/
def timesPower? (size exponent : Nat) : Option Nat :=
  if size = 0 then some 0
  else if exponent ≤ maxPower then
    let size := product size (ofNat (Nat.pow 10 exponent))
    if size < limit then some size else none
  else none

/-- A size divided by a power of ten, in as many steps as the largest power needs. -/
def overPower (size exponent : Nat) : Nat :=
  if exponent ≤ maxPower then quotient size (ofNat (Nat.pow 10 exponent))
  else if size = 0 then 0
  else overPower (quotient size (ofNat (Nat.pow 10 maxPower))) (exponent - maxPower)
termination_by exponent
decreasing_by simp only [maxPower] at *; omega

/-- The size of a significand, scaled by a power of ten, if it is finite. The significand and the
power are rounded before the result is, so that it need not be the nearest size. -/
def scaled? (significand : Nat) : (exponent : Int) → Option Nat
  | .ofNat exponent => timesPower? (ofNat significand) exponent
  | .negSucc exponent => some (overPower (ofNat significand) (exponent + 1))

end Double

end ModularRouter
