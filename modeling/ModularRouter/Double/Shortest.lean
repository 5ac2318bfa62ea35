import ModularRouter.Double.Basic

/-!
# Shortest decimals

The decimal with the fewest digits that rounds to a double, and of several the nearest one. The
multiples of a power of ten are the coarser the larger the power is, so it is the first power that
has such a multiple, from the largest one down.
-/

namespace ModularRouter.Double

/-- The number `digits * 10 ^ exponent`. -/
structure Decimal where
  /-- The digits. -/
  digits : Nat
  /-- The power of ten that they are multiplied by. -/
  exponent : Int
  deriving Repr, DecidableEq

/-- A power of ten as a fraction of units: the numerator and the denominator. -/
def unitsOfPower : Int → Nat × Nat
  | .ofNat exponent => (one * Nat.pow 10 exponent, 1)
  | .negSucc exponent => (one, Nat.pow 10 (exponent + 1))

/-- The multiple of a power of ten that rounds to a size; of the two next to the size, the nearer
one comes first. -/
def multiple? (size : Nat) (exponent : Int) : Option Decimal :=
  let (numerator, denominator) := unitsOfPower exponent
  let below := size * denominator / numerator
  let near := nearest (size * denominator) numerator
  let far := if near = below then below + 1 else below
  ([near, far].find? fun digits => round (digits * numerator) denominator = size).map
    (⟨·, exponent⟩)

/-- The exponents of the powers of ten that a multiple can round to a double for, from the largest
one down. -/
def exponents : List Int :=
  (List.range 633).map fun (steps : Nat) => 308 - (steps : Int)

/-- The shortest decimal that rounds to a size. -/
def shortest (size : Nat) : Decimal :=
  if size = 0 then ⟨0, 0⟩ else (exponents.findSome? (multiple? size)).getD ⟨0, 0⟩

end ModularRouter.Double
