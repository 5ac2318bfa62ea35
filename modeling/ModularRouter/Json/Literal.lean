import ModularRouter.Json.Basic

/-!
# Number literals

The number that a literal stands for. One without a fraction or an exponent is a whole number, if it
is in range. Any other is a double: as far as they fit, the digits make a significand below
`2 ^ 64`, and the significand is scaled by a power of ten. The result is close to the literal, but
it is not always the double that is nearest to it. A number that is too large for a double has no
value.
-/

namespace ModularRouter.Json

/-- A number taken apart as it is written. -/
structure Literal where
  /-- Whether a minus sign stands in front. -/
  negative : Bool
  /-- The digits before the point. -/
  whole : List Char
  /-- The digits after the point, if there is one. -/
  fraction : Option (List Char)
  /-- The sign and the digits of the exponent, if there is one. -/
  exponent : Option (Bool × List Char)

namespace Literal

/-- The number of a run of decimal digits. -/
def decimal (digits : List Char) : Nat :=
  Nat.ofDigitChars 10 digits 0

/-- Puts digits behind a significand as long as it stays below `2 ^ 64`. Returns the significand and
how many digits were left out. -/
def append (significand : Nat) : List Char → Nat × Nat
  | [] => (significand, 0)
  | digit :: rest =>
    let longer := Nat.ofDigitChars 10 [digit] significand
    if longer < Nat.pow 2 64 then append longer rest else (significand, rest.length + 1)

/-- The exponent as it is written. -/
def writtenExponent (literal : Literal) : Int :=
  match literal.exponent with
  | none => 0
  | some (negative, digits) => if negative then -decimal digits else decimal digits

/-- The significand and the power of ten that it is scaled by: every digit left out before the point
makes it ten times larger, every digit taken behind the point ten times smaller. -/
def scientific (literal : Literal) : Nat × Int :=
  let fraction := literal.fraction.getD []
  let (whole, leftBefore) := append 0 literal.whole
  let (significand, leftBehind) := append whole fraction
  (significand, literal.writtenExponent + leftBefore - (fraction.length - leftBehind))

/-- The double that the number is, unless it is too large for one. -/
def double? (literal : Literal) : Option Double :=
  let (significand, exponent) := literal.scientific
  (Double.scaled? significand exponent).map (⟨literal.negative, ·⟩)

/-- The whole number, if the literal has no fraction and no exponent and the number is in range.
Zero with a minus sign is none, since a whole number would lose the sign. -/
def integer? (literal : Literal) : Option Int :=
  let value := decimal literal.whole
  if literal.fraction.isSome || literal.exponent.isSome then none
  else if literal.negative then if 0 < value ∧ value ≤ Nat.pow 2 63 then some (-value) else none
  else if value < Nat.pow 2 64 then some value
  else none

/-- The value of a number taken apart. -/
def toJson (literal : Literal) : Json :=
  match literal.integer? with
  | some value => ofInt value
  | none =>
    match literal.double? with
    | some value => .number (.real value)
    | none => .unreadable

end Literal

end ModularRouter.Json
