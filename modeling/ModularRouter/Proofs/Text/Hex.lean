import Mathlib.Algebra.Group.Nat.Defs
import ModularRouter.Text.Hex

/-!
# Reading hexadecimal digits back

A number written with enough digits is read back from them. Which of the letters are capitals makes
no difference, so the same holds for an address whose letters carry a checksum.
-/

namespace ModularRouter.Text

namespace Numeral

/-- Digits are read one run after the other. -/
theorem digitsFrom?_append (radix value : Nat) (digits rest : List Char) :
    digitsFrom? radix value (digits ++ rest) =
      (digitsFrom? radix value digits).bind fun read => digitsFrom? radix read rest := by
  induction digits generalizing value with
  | nil => rfl
  | cons digit others ih =>
    rw [List.cons_append, digitsFrom?, digitsFrom?]
    cases digitOf? radix digit with
    | none => rfl
    | some read => exact ih _

/-- The digit of a value below sixteen has that value. -/
theorem digitOf?_digitChar {value : Nat} (small : value < 16) :
    digitOf? 16 (Nat.digitChar value) = some value := by
  have all : ∀ value < 16, digitOf? 16 (Nat.digitChar value) = some value := by decide
  exact all value small

/-- So has the capital of the digit. -/
theorem digitOf?_toUpper_digitChar {value : Nat} (small : value < 16) :
    digitOf? 16 (Nat.digitChar value).toUpper = some value := by
  have all : ∀ value < 16, digitOf? 16 (Nat.digitChar value).toUpper = some value := by decide
  exact all value small

/-- Only the values of digits count. -/
theorem digitsFrom?_congr {radix value : Nat} {digits others : List Char}
    (same : digits.map (digitOf? radix) = others.map (digitOf? radix)) :
    digitsFrom? radix value digits = digitsFrom? radix value others := by
  induction digits generalizing value others with
  | nil =>
    have none : others = [] := by simpa using same.symm
    rw [none]
  | cons digit rest ih =>
    obtain ⟨other, more, rfl, first, later⟩ := List.map_eq_cons_iff.1 same.symm
    rw [digitsFrom?, digitsFrom?, first]
    cases digitOf? radix digit with
    | none => rfl
    | some read => exact ih later.symm

end Numeral

namespace Hex

/-- A number is written with as many digits as asked for. -/
@[simp]
theorem length_ofNat (width value : Nat) : (ofNat width value).length = width := by
  induction width generalizing value with
  | zero => rfl
  | succ width ih => simp [ofNat, ih]

/-- Every digit of a number is that of a value below sixteen. -/
theorem exists_digitChar_of_mem {width value : Nat} {digit : Char}
    (mem : digit ∈ ofNat width value) : ∃ low < 16, digit = Nat.digitChar low := by
  induction width generalizing value with
  | zero => cases mem
  | succ width ih =>
    rw [ofNat, List.mem_append, List.mem_singleton] at mem
    rcases mem with front | rfl
    · exact ih front
    · exact ⟨value % 16, Nat.mod_lt _ (by decide), rfl⟩

/-- A number is read back from enough digits. -/
theorem digits?_ofNat {width value : Nat} (small : value < 16 ^ width) :
    Numeral.digits? 16 (ofNat width value) = some value := by
  induction width generalizing value with
  | zero =>
    have zero : value = 0 := by simpa using small
    rw [zero]
    rfl
  | succ width ih =>
    -- The last digit is the remainder, and the digits before it are those of the quotient.
    have front : value / 16 < 16 ^ width := by
      rw [Nat.pow_succ] at small
      omega
    have last : value % 16 < 16 := Nat.mod_lt _ (by decide)
    have read : Numeral.digitsFrom? 16 0 (ofNat width (value / 16)) = some (value / 16) := ih front
    have whole : value / 16 * 16 + value % 16 = value := by omega
    simp only [ofNat, Numeral.digits?, Numeral.digitsFrom?_append, read, Option.bind_some,
      Numeral.digitsFrom?, Numeral.digitOf?_digitChar last, whole]

/-- A number is read back from enough digits, of which any may be made capitals. -/
theorem digits?_mapIdx_ofNat {width value : Nat} (small : value < 16 ^ width)
    (keeps : Nat → Prop) [DecidablePred keeps] :
    Numeral.digits? 16 ((ofNat width value).mapIdx fun place digit =>
      if keeps place then digit else digit.toUpper) = some value := by
  rw [← digits?_ofNat small]
  apply Numeral.digitsFrom?_congr
  apply List.ext_getElem?
  intro place
  rw [List.getElem?_map, List.getElem?_map, List.getElem?_mapIdx]
  -- A digit and its capital are read as one value, so the place does not matter.
  cases found : (ofNat width value)[place]? with
  | none => rfl
  | some digit =>
    obtain ⟨low, small, rfl⟩ := exists_digitChar_of_mem (List.mem_of_getElem? found)
    simp only [Option.map_some]
    split
    · rfl
    · rw [Numeral.digitOf?_toUpper_digitChar small, Numeral.digitOf?_digitChar small]

end Hex

end ModularRouter.Text
