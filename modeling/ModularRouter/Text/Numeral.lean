/-!
# Numerals in text

Unsigned numerals in a given radix, with digits of either case. `digits?` reads a run of digits,
`unsigned?` reads a bounded whole number the way type widths and array lengths are written: at
least one digit, after an optional plus sign.
-/

namespace ModularRouter.Text.Numeral

/-- The value of a decimal or hexadecimal digit of either case. -/
def digit? (c : Char) : Option Nat :=
  if '0' ≤ c ∧ c ≤ '9' then some (c.toNat - '0'.toNat)
  else if 'a' ≤ c ∧ c ≤ 'f' then some (c.toNat - 'a'.toNat + 10)
  else if 'A' ≤ c ∧ c ≤ 'F' then some (c.toNat - 'A'.toNat + 10)
  else none

/-- The value of a digit of the given radix, which is at most sixteen. -/
def digitOf? (radix : Nat) (c : Char) : Option Nat :=
  (digit? c).filter (· < radix)

/-- The number that continues `value` with the given digits; no digits leave it as it is. -/
def digitsFrom? (radix value : Nat) : List Char → Option Nat
  | [] => some value
  | c :: rest =>
    match digitOf? radix c with
    | some d => digitsFrom? radix (value * radix + d) rest
    | none => none

/-- The number a run of digits denotes, zero for the empty run. -/
def digits? (radix : Nat) (text : List Char) : Option Nat :=
  digitsFrom? radix 0 text

/-- A whole number below `bound`: at least one digit, after an optional plus sign. -/
def unsigned? (radix bound : Nat) (text : List Char) : Option Nat :=
  let run := match text with
    | '+' :: rest => rest
    | _ => text
  if run.isEmpty then none else (digits? radix run).filter (· < bound)

end ModularRouter.Text.Numeral
