import Mathlib.Data.Nat.Digits.Defs
import ModularRouter.Proofs.Text.Hex

/-!
# Spelled numbers

What digits spell: a number in some radix, or bytes by two digits each. Letters may be of either
case and zeros may stand in front. Exactly the spelled numbers and bytes are read.
-/

namespace ModularRouter.Text

/-- Whether a character is a digit of the given value; a letter may be of either case. -/
def SpellsDigit (radix : Nat) (char : Char) (digit : Nat) : Prop :=
  digit < radix ∧ (char = Nat.digitChar digit ∨ char = (Nat.digitChar digit).toUpper)

/-- Whether characters are the digits of a number, the most significant first. -/
def Spells (radix : Nat) (text : List Char) (number : Nat) : Prop :=
  ∃ digits, List.Forall₂ (SpellsDigit radix) text digits ∧
    Nat.ofDigits radix digits.reverse = number

/-- Whether characters are the digits of bytes, two each. -/
inductive SpellsBytes : List Char → List UInt8 → Prop where
  /-- No characters spell no bytes. -/
  | nil : SpellsBytes [] []
  /-- Two digits spell a byte. -/
  | cons {high low : Char} {upper lower : Nat} {text : List Char} {bytes : List UInt8}
      (first : SpellsDigit 16 high upper) (second : SpellsDigit 16 low lower)
      (others : SpellsBytes text bytes) :
      SpellsBytes (high :: low :: text) (UInt8.ofNat (16 * upper + lower) :: bytes)

/-- A hexadecimal digit is read. -/
theorem SpellsDigit.digit?_eq {radix : Nat} (hexadecimal : radix ≤ 16) {char : Char} {digit : Nat}
    (spells : SpellsDigit radix char digit) : Numeral.digit? char = some digit := by
  have small : digit < 16 := Nat.lt_of_lt_of_le spells.1 hexadecimal
  have read : Numeral.digitOf? 16 char = some digit := by
    rcases spells.2 with rfl | rfl
    · exact Numeral.digitOf?_digitChar small
    · exact Numeral.digitOf?_toUpper_digitChar small
  exact (Option.filter_eq_some_iff.1 read).1

/-- A digit of a radix is read in it. -/
theorem SpellsDigit.digitOf?_eq {radix : Nat} (hexadecimal : radix ≤ 16) {char : Char} {digit : Nat}
    (spells : SpellsDigit radix char digit) : Numeral.digitOf? radix char = some digit := by
  rw [Numeral.digitOf?, spells.digit?_eq hexadecimal, Option.filter_some, decide_eq_true spells.1,
    if_pos rfl]

/-- A spelled number is read. -/
theorem Spells.digits?_eq {radix : Nat} (hexadecimal : radix ≤ 16) {text : List Char}
    {number : Nat} (spells : Spells radix text number) :
    Numeral.digits? radix text = some number := by
  obtain ⟨digits, each, rfl⟩ := spells
  -- The digits may stand behind others, which are worth more the more digits follow.
  have behind (value : Nat) : Numeral.digitsFrom? radix value text =
      some (value * radix ^ digits.length + Nat.ofDigits radix digits.reverse) := by
    induction each generalizing value with
    | nil => simp [Numeral.digitsFrom?]
    | @cons char digit text digits own _ ih =>
      simp only [Numeral.digitsFrom?, own.digitOf?_eq hexadecimal, ih, List.reverse_cons,
        Nat.ofDigits_append, List.length_reverse, Nat.ofDigits_singleton, List.length_cons,
        Nat.pow_succ]
      congr 1
      ring
  rw [Numeral.digits?, behind, Nat.zero_mul, Nat.zero_add]

/-- Spelled bytes are read. -/
theorem SpellsBytes.toBytes?_eq {text : List Char} {bytes : List UInt8}
    (spells : SpellsBytes text bytes) : Hex.toBytes? text = some bytes := by
  induction spells with
  | nil => rfl
  | cons first second _ ih =>
    simp only [Hex.toBytes?, first.digit?_eq le_rfl, second.digit?_eq le_rfl, ih]

/-- A character that is read as a hexadecimal digit is the digit of its value. -/
theorem spellsDigit_of_digit? {char : Char} {digit : Nat}
    (read : Numeral.digit? char = some digit) : SpellsDigit 16 char digit := by
  -- Only characters of the first 128 are digits, and these are looked through one by one.
  have all : ∀ code < 128, ∀ digit ∈ Numeral.digit? (Char.ofNat code),
      SpellsDigit 16 (Char.ofNat code) digit := by
    unfold SpellsDigit
    decide
  have small : char.toNat < 128 := by
    have upper {last : Char} (less : char ≤ last) : char.toNat ≤ last.toNat := less
    unfold Numeral.digit? at read
    split_ifs at read with decimal lower capital
    · exact Nat.lt_of_le_of_lt (upper decimal.2) (by decide)
    · exact Nat.lt_of_le_of_lt (upper lower.2) (by decide)
    · exact Nat.lt_of_le_of_lt (upper capital.2) (by decide)
  have back : Char.ofNat char.toNat = char := Char.ofNat_toNat char
  rw [← back] at read ⊢
  exact all char.toNat small digit read

/-- Exactly the digits of a radix are read in it. -/
theorem digitOf?_eq_some_iff {radix : Nat} (hexadecimal : radix ≤ 16) {char : Char} {digit : Nat} :
    Numeral.digitOf? radix char = some digit ↔ SpellsDigit radix char digit := by
  refine ⟨fun read => ?_, fun spells => spells.digitOf?_eq hexadecimal⟩
  obtain ⟨value, small⟩ := Option.filter_eq_some_iff.1 read
  exact ⟨of_decide_eq_true small, (spellsDigit_of_digit? value).2⟩

/-- Only digits are read. -/
theorem exists_digits_of_digitsFrom? {radix : Nat} (hexadecimal : radix ≤ 16) {text : List Char}
    {value number : Nat} (read : Numeral.digitsFrom? radix value text = some number) :
    ∃ digits, List.Forall₂ (SpellsDigit radix) text digits := by
  induction text generalizing value with
  | nil => exact ⟨[], .nil⟩
  | cons char rest ih =>
    rw [Numeral.digitsFrom?] at read
    split at read
    · next digit found =>
      obtain ⟨digits, others⟩ := ih read
      exact ⟨digit :: digits, .cons ((digitOf?_eq_some_iff hexadecimal).1 found) others⟩
    · cases read

/-- Exactly the spelled numbers are read. -/
theorem digits?_eq_some_iff {radix : Nat} (hexadecimal : radix ≤ 16) {text : List Char}
    {number : Nat} : Numeral.digits? radix text = some number ↔ Spells radix text number := by
  refine ⟨fun read => ?_, fun spells => spells.digits?_eq hexadecimal⟩
  obtain ⟨digits, each⟩ := exists_digits_of_digitsFrom? hexadecimal read
  -- What the digits spell is what is read, so it is the number.
  have whole : Spells radix text (Nat.ofDigits radix digits.reverse) := ⟨digits, each, rfl⟩
  rw [whole.digits?_eq hexadecimal, Option.some_inj] at read
  exact read ▸ whole

/-- Bytes are read only from what spells them. -/
theorem spellsBytes_of_toBytes? : {text : List Char} → {bytes : List UInt8} →
    Hex.toBytes? text = some bytes → SpellsBytes text bytes
  | [], _, read => by
    cases read
    exact .nil
  | high :: low :: rest, _, read => by
    rw [Hex.toBytes?] at read
    split at read
    · next upper lower others first second found =>
      cases read
      exact .cons (spellsDigit_of_digit? first) (spellsDigit_of_digit? second)
        (spellsBytes_of_toBytes? found)
    · cases read

/-- Exactly the spelled bytes are read. -/
theorem toBytes?_eq_some_iff {text : List Char} {bytes : List UInt8} :
    Hex.toBytes? text = some bytes ↔ SpellsBytes text bytes :=
  ⟨spellsBytes_of_toBytes?, SpellsBytes.toBytes?_eq⟩

/-- The digits of bytes spell them. -/
theorem spellsBytes_ofBytes (bytes : List UInt8) : SpellsBytes (Hex.ofBytes bytes) bytes := by
  induction bytes with
  | nil => exact .nil
  | cons byte rest ih =>
    have split : Hex.ofBytes (byte :: rest) = Nat.digitChar (byte.toNat / 16 % 16) ::
        Nat.digitChar (byte.toNat % 16) :: Hex.ofBytes rest := rfl
    have high : SpellsDigit 16 (Nat.digitChar (byte.toNat / 16 % 16)) (byte.toNat / 16 % 16) :=
      ⟨Nat.mod_lt _ (by decide), .inl rfl⟩
    have low : SpellsDigit 16 (Nat.digitChar (byte.toNat % 16)) (byte.toNat % 16) :=
      ⟨Nat.mod_lt _ (by decide), .inl rfl⟩
    have whole : UInt8.ofNat (16 * (byte.toNat / 16 % 16) + byte.toNat % 16) = byte := by
      have small := byte.toNat_lt
      have value : 16 * (byte.toNat / 16 % 16) + byte.toNat % 16 = byte.toNat := by omega
      rw [value, UInt8.ofNat_toNat]
    have both := SpellsBytes.cons high low ih
    rw [whole] at both
    rwa [split]

/-- Different bytes have different digits. -/
theorem ofBytes_inj {bytes other : List UInt8} :
    Hex.ofBytes bytes = Hex.ofBytes other ↔ bytes = other := by
  refine ⟨fun same => ?_, congrArg Hex.ofBytes⟩
  have read := (spellsBytes_ofBytes bytes).toBytes?_eq
  rw [same, (spellsBytes_ofBytes other).toBytes?_eq] at read
  exact (Option.some.inj read).symm

/-- No digit is the letter in the mark of hexadecimal numbers, in either case. -/
theorem SpellsDigit.ne_mark {radix : Nat} (hexadecimal : radix ≤ 16) {char : Char} {digit : Nat}
    (spells : SpellsDigit radix char digit) : char ≠ 'x' ∧ char ≠ 'X' := by
  have none : ∀ digit < 16, (Nat.digitChar digit ≠ 'x' ∧ Nat.digitChar digit ≠ 'X') ∧
      (Nat.digitChar digit).toUpper ≠ 'x' ∧ (Nat.digitChar digit).toUpper ≠ 'X' := by
    decide
  obtain ⟨lower, upper⟩ := none digit (Nat.lt_of_lt_of_le spells.1 hexadecimal)
  rcases spells.2 with rfl | rfl
  · exact lower
  · exact upper

/-- A spelled number has no mark. -/
theorem Spells.x_notMem {radix : Nat} (hexadecimal : radix ≤ 16) {text : List Char} {number : Nat}
    (spells : Spells radix text number) : 'x' ∉ text := by
  obtain ⟨digits, each, -⟩ := spells
  induction each with
  | nil => exact List.not_mem_nil
  | cons own _ ih =>
    rw [List.mem_cons, not_or]
    exact ⟨(own.ne_mark hexadecimal).1.symm, ih⟩

/-- Spelled bytes have no mark that could be dropped. -/
theorem SpellsBytes.dropMark_eq {text : List Char} {bytes : List UInt8}
    (spells : SpellsBytes text bytes) : Hex.dropMark text = text := by
  unfold Hex.dropMark
  split
  · cases spells with
    | cons _ second _ => exact absurd rfl (second.ne_mark le_rfl).1
  · cases spells with
    | cons _ second _ => exact absurd rfl (second.ne_mark le_rfl).2
  · rfl

end ModularRouter.Text
