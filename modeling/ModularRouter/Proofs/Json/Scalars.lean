import Mathlib.Data.List.TakeDrop
import Mathlib.Tactic.SplitIfs
import ModularRouter.Json.Decode
import ModularRouter.Json.Printer
import ModularRouter.Json.Reader
import ModularRouter.Proofs.Text.Hex

/-!
# Strings and numbers read back

The text of a string or of a natural number is read back to what was written, whatever stands behind
it. Natural numbers come back as themselves below `2 ^ 64` and as no natural numbers from there on.
-/

namespace ModularRouter.Json

namespace Reader

/-! ## Blanks -/

/-- Blanks before a text are skipped with those it starts with. -/
theorem skipBlank_replicate (count : Nat) (text : List Char) :
    skipBlank (List.replicate count ' ' ++ text) = skipBlank text := by
  induction count with
  | zero => rfl
  | succ count ih =>
    rw [List.replicate_succ, List.cons_append, skipBlank]
    exact ih

/-- A new line is skipped with its indentation. -/
theorem skipBlank_newLine (level : Nat) (text : List Char) :
    skipBlank (newLine level ++ text) = skipBlank text := by
  rw [newLine, List.cons_append, skipBlank]
  exact skipBlank_replicate _ text

/-- Whether a character is a blank. -/
def isBlank (c : Char) : Bool :=
  c = ' ' || c = '\t' || c = '\n' || c = '\r'

/-- A text that starts with no blank is left as it is. -/
theorem skipBlank_cons {c : Char} (visible : isBlank c = false) (text : List Char) :
    skipBlank (c :: text) = c :: text := by
  unfold skipBlank
  split
  all_goals first | rfl | skip
  all_goals
    next same =>
      cases same
      cases visible

/-- A digit is no blank. -/
theorem isBlank_of_isDigit {c : Char} (digit : c.isDigit = true) : isBlank c = false := by
  cases blank : isBlank c with
  | false => rfl
  | true =>
    simp only [isBlank, Bool.or_eq_true, decide_eq_true_eq] at blank
    rcases blank with ((rfl | rfl) | rfl) | rfl <;> cases digit

/-! ## Strings -/

/-- A code unit that is no half of a surrogate pair spells its character. -/
theorem spell_unit {code : Nat} (plain : code < 0xD800) (pieces : List Piece) :
    spell (.unit code :: pieces) = (spell pieces).map (Char.ofNat code :: ·) := by
  have high : isHighSurrogate code = false := by
    rw [isHighSurrogate, Bool.and_eq_false_iff]
    exact .inl (decide_eq_false (by omega))
  have low : isLowSurrogate code = false := by
    rw [isLowSurrogate, Bool.and_eq_false_iff]
    exact .inl (decide_eq_false (by omega))
  cases pieces with
  | nil => simp [spell, high, low]
  | cons piece rest => cases piece <;> simp [spell, high, low]

/-- A short escape is a piece for the character it stands for. -/
theorem stringPieces_shortEscape {escape c : Char} (short : shortEscape? escape = some c)
    (text : List Char) :
    stringPieces ('\\' :: escape :: text) =
      (stringPieces text).map fun (pieces, rest) => (.char c :: pieces, rest) := by
  have different : escape ≠ 'u' := by
    rintro rfl
    cases short
  rw [stringPieces]
  · rw [short]
    cases stringPieces text <;> rfl
  · rintro - - - - - rfl
    exact absurd rfl different

/-- An escape of four digits is a piece for the code unit they spell. -/
theorem stringPieces_codeUnit {code : Nat} (small : code < 16 ^ 4) (text : List Char) :
    stringPieces ('\\' :: 'u' :: (Text.Hex.ofNat 4 code ++ text)) =
      (stringPieces text).map fun (pieces, rest) => (.unit code :: pieces, rest) := by
  have read := Text.Hex.digits?_ofNat small
  simp only [Text.Hex.ofNat, List.nil_append, List.cons_append] at read ⊢
  rw [stringPieces, codeUnit?, read]
  cases stringPieces text <;> rfl

/-- Any other character is a piece by itself. -/
theorem stringPieces_char {c : Char} (plain : ¬ (c = '"' ∨ c = '\\')) (visible : ¬ c.toNat < 0x20)
    (text : List Char) :
    stringPieces (c :: text) =
      (stringPieces text).map fun (pieces, rest) => (.char c :: pieces, rest) := by
  rw [not_or] at plain
  rw [stringPieces, if_neg (by simp [visible, plain.2])]
  · cases stringPieces text <;> rfl
  · exact plain.1
  · exact fun _ _ _ _ _ same => absurd same plain.2
  · exact fun _ _ same => absurd same plain.2

/-- The text of a character is one piece of a string, and the piece spells the character. -/
theorem exists_piece (c : Char) :
    ∃ piece, (∀ pieces, spell (piece :: pieces) = (spell pieces).map (c :: ·)) ∧
      ∀ text, stringPieces (escapeChar c ++ text) =
        (stringPieces text).map fun (pieces, rest) => (piece :: pieces, rest) := by
  -- Everything but the controls without a short escape is spelled as itself.
  unfold escapeChar
  split_ifs with mark backspace feed line carriage tab control
  · exact ⟨.char c, fun _ => rfl, stringPieces_shortEscape (by rcases mark with rfl | rfl <;> rfl)⟩
  · exact ⟨.char c, fun _ => rfl,
      stringPieces_shortEscape (by rw [← Char.ofNat_toNat c, backspace]; rfl)⟩
  · exact ⟨.char c, fun _ => rfl,
      stringPieces_shortEscape (by rw [← Char.ofNat_toNat c, feed]; rfl)⟩
  · exact ⟨.char c, fun _ => rfl, stringPieces_shortEscape (by rw [line]; rfl)⟩
  · exact ⟨.char c, fun _ => rfl, stringPieces_shortEscape (by rw [carriage]; rfl)⟩
  · exact ⟨.char c, fun _ => rfl, stringPieces_shortEscape (by rw [tab]; rfl)⟩
  · refine ⟨.unit c.toNat, fun pieces => ?_, stringPieces_codeUnit (by omega)⟩
    rw [spell_unit (by omega), Char.ofNat_toNat]
  · exact ⟨.char c, fun _ => rfl, stringPieces_char mark control⟩

/-- A string literal is read back, and what stands behind its quote is left. -/
theorem stringLiteral_quoted (text : String) (rest : List Char) :
    stringLiteral (text.toList.flatMap escapeChar ++ '"' :: rest) = some (some text, rest) := by
  have pieces : ∀ chars : List Char, ∃ pieces, spell pieces = some chars ∧
      stringPieces (chars.flatMap escapeChar ++ '"' :: rest) = some (pieces, rest) := by
    intro chars
    induction chars with
    | nil => exact ⟨[], rfl, rfl⟩
    | cons c chars ih =>
      obtain ⟨others, spelled, read⟩ := ih
      obtain ⟨piece, spells, reads⟩ := exists_piece c
      refine ⟨piece :: others, by rw [spells, spelled, Option.map_some], ?_⟩
      rw [List.flatMap_cons, List.append_assoc, reads, read, Option.map_some]
  obtain ⟨all, spelled, read⟩ := pieces text.toList
  rw [stringLiteral, read]
  simp only [spelled, Option.map_some, String.ofList_toList]

/-! ## Numbers -/

/-- Whether a text may stand behind a value: it is empty or goes on with a comma or a new line. -/
def EndsValue (text : List Char) : Prop :=
  ∀ c ∈ text.head?, c = ',' ∨ c = '\n'

/-- The literal of a natural number. -/
def natLiteral (number : Nat) : Literal :=
  ⟨false, Nat.toDigits 10 number, none, none⟩

/-- What may stand behind a value is no digit. -/
theorem EndsValue.not_isDigit {text : List Char} (ends : EndsValue text) :
    ∀ c ∈ text.head?, c.isDigit = false := by
  intro c head
  rcases ends c head with rfl | rfl <;> rfl

/-- A run of digits ends where a value ends. -/
theorem digitRun_append {digits rest : List Char} (nonempty : digits ≠ [])
    (all : ∀ c ∈ digits, c.isDigit = true) (ends : EndsValue rest) :
    digitRun (digits ++ rest) = some (digits, rest) := by
  have behind : rest.takeWhile Char.isDigit = [] ∧ rest.dropWhile Char.isDigit = rest := by
    cases rest with
    | nil => exact ⟨rfl, rfl⟩
    | cons c rest =>
      have other : c.isDigit = false := ends.not_isDigit c rfl
      simp [other]
  rw [digitRun, List.span_eq_takeWhile_dropWhile, List.takeWhile_append_of_pos all,
    List.dropWhile_append_of_pos all, behind.1, behind.2, List.append_nil]
  cases digits with
  | nil => exact absurd rfl nonempty
  | cons first others => rfl

/-- The first character of a number is its first digit. -/
theorem head?_toDigits_append (number : Nat) (rest : List Char) :
    (Nat.toDigits 10 number ++ rest).head? = (Nat.toDigits 10 number).head? := by
  cases digits : Nat.toDigits 10 number with
  | nil => exact absurd digits Nat.toDigits_ne_nil
  | cons first others => rfl

/-- A number starts with a digit. -/
theorem isDigit_of_toDigits_append {number : Nat} {rest others : List Char} {first : Char}
    (text : Nat.toDigits 10 number ++ rest = first :: others) : first.isDigit = true := by
  have head : (Nat.toDigits 10 number).head? = some first := by
    rw [← head?_toDigits_append number rest, text, List.head?_cons]
  exact Nat.isDigit_of_mem_toDigits (by decide) (by decide) (List.mem_of_mem_head? head)

/-- Only the digits of zero start with a zero. -/
theorem eq_zero_of_head?_toDigits {number : Nat}
    (zero : (Nat.toDigits 10 number).head? = some '0') : number = 0 := by
  induction number using Nat.strongRecOn with
  | ind number ih =>
    rw [Nat.toDigits_eq_if (by decide)] at zero
    split at zero
    · next small =>
      have all : ∀ digit < 10, [Nat.digitChar digit].head? = some '0' → digit = 0 := by decide
      exact all number small zero
    · next large =>
      -- The first digit is that of the quotient, which is not zero.
      rw [head?_toDigits_append] at zero
      have quotient := ih (number / 10) (by omega) zero
      omega

/-- The digits of a natural number are all digits before a point, since only zero starts with a
zero. -/
theorem wholeDigits_toDigits (number : Nat) {rest : List Char} (ends : EndsValue rest) :
    wholeDigits (Nat.toDigits 10 number ++ rest) = some (Nat.toDigits 10 number, rest) := by
  have all : ∀ c ∈ Nat.toDigits 10 number, c.isDigit = true := fun c =>
    Nat.isDigit_of_mem_toDigits (by decide) (by decide)
  have run := digitRun_append Nat.toDigits_ne_nil all ends
  by_cases zero : (Nat.toDigits 10 number).head? = some '0'
  · rw [eq_zero_of_head?_toDigits zero, Nat.toDigits_zero, List.singleton_append]
    cases rest with
    | nil => rfl
    | cons c rest =>
      have other : c.isDigit = false := ends.not_isDigit c rfl
      simp [wholeDigits, other]
  · rw [wholeDigits, run]
    -- The first character of the text is the first digit.
    intro others same
    rw [← head?_toDigits_append number rest, same] at zero
    exact zero rfl

/-- A natural number is read back as its literal. -/
theorem number_toDigits (natural : Nat) {rest : List Char} (ends : EndsValue rest) :
    number (Nat.toDigits 10 natural ++ rest) = some ((natLiteral natural).toJson, rest) := by
  have noFraction : fractionDigits rest = some (none, rest) := by
    unfold fractionDigits
    split
    · next same => rcases ends '.' rfl with other | other <;> cases other
    · rfl
  have noExponent : exponentDigits rest = some (none, rest) := by
    unfold exponentDigits
    split
    · next same => rcases ends 'e' rfl with other | other <;> cases other
    · next same => rcases ends 'E' rfl with other | other <;> cases other
    · rfl
  have noSign : ∀ others, Nat.toDigits 10 natural ++ rest = '-' :: others → False := by
    intro others text
    cases isDigit_of_toDigits_append text
  rw [number, numberLiteral]
  · simp only [wholeDigits_toDigits natural ends, noFraction, noExponent]
    rfl
  · exact noSign

/-- A literal that is a natural number up to `2 ^ 64` gives the number if it is below a bound. -/
theorem nat?_toJson {literal : Literal} {natural bound : Nat} (small : bound ≤ Nat.pow 2 64)
    (whole : literal.integer? = if natural < Nat.pow 2 64 then some (natural : Int) else none) :
    literal.toJson.nat? bound = if natural < bound then some natural else none := by
  by_cases fits : natural < Nat.pow 2 64
  · rw [if_pos fits] at whole
    rw [Literal.toJson, whole]
    rfl
  · have large : ¬ natural < bound := fun below => fits (Nat.lt_of_lt_of_le below small)
    rw [if_neg fits] at whole
    rw [Literal.toJson, whole, if_neg large]
    dsimp only
    split <;> rfl

/-- The literal of a natural number is the number up to `2 ^ 64`. -/
theorem integer?_natLiteral (natural : Nat) :
    (natLiteral natural).integer? =
      if natural < Nat.pow 2 64 then some (natural : Int) else none := by
  have value : Literal.decimal (Nat.toDigits 10 natural) = natural := Nat.ofDigitChars_ten_toDigits
  simp [Literal.integer?, natLiteral, value]

end Reader

end ModularRouter.Json
