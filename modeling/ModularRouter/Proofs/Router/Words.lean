import ModularRouter.Proofs.Text.Hex
import ModularRouter.Proofs.Yul.Program
import ModularRouter.Router.Source

/-!
# The words of a generated source

Selectors, addresses and the names of constants are written as one word each. A selector or an
address is the word of its own number. The name of a constant is a name again, and since it has no
small letters, none of the names that the table uses for something else.
-/

namespace ModularRouter.Router

open Yul

/-! ## Characters -/

/-- What holds of all ASCII characters that can stand in a name holds of all that can. -/
theorem forall_continuesName {P : Char → Prop}
    (ascii : ∀ code < 128, Abi.continuesName (Char.ofNat code) → P (Char.ofNat code)) {c : Char}
    (continues : Abi.continuesName c) : P c := by
  -- All that continues a name is ASCII, which leaves finitely many characters to try.
  have small : c.toNat < 128 := by
    simp only [Abi.continuesName, Abi.startsName, Bool.or_eq_true, Bool.and_eq_true, beq_iff_eq,
      decide_eq_true_eq, Char.le_def, UInt32.le_iff_toNat_le] at continues
    rw [Char.toNat]
    rcases continues with (((⟨_, high⟩ | ⟨_, high⟩) | rfl) | rfl) | ⟨_, high⟩
    · exact Nat.lt_of_le_of_lt high (by decide)
    · exact Nat.lt_of_le_of_lt high (by decide)
    · decide
    · decide
    · exact Nat.lt_of_le_of_lt high (by decide)
  have same := Char.ofNat_toNat c
  rw [← same]
  rw [← same] at continues
  exact ascii _ small continues

/-- Whatever can stand in a name is part of a word. -/
theorem isWordChar_of_continuesName {c : Char} (continues : Abi.continuesName c) :
    isWordChar c :=
  forall_continuesName (P := fun c => isWordChar c) (by decide) continues

/-- A line does not end inside a name. -/
theorem not_isLineBreak_of_continuesName {c : Char} (continues : Abi.continuesName c) :
    isLineBreak c = false :=
  forall_continuesName (P := fun c => isLineBreak c = false) (by decide) continues

/-- The capital of whatever can stand in a name can stand there too and is no small letter. -/
theorem toUpper_of_continuesName {c : Char} (continues : Abi.continuesName c) :
    Abi.continuesName c.toUpper ∧ c.toUpper.isLower = false :=
  forall_continuesName (P := fun c => Abi.continuesName c.toUpper ∧ c.toUpper.isLower = false)
    (by decide) continues

/-- The capital of whatever can start a name can start a name. -/
theorem startsName_toUpper {c : Char} (starts : Abi.startsName c) : Abi.startsName c.toUpper := by
  have continues : Abi.continuesName c := by rw [Abi.continuesName, starts, Bool.true_or]
  exact forall_continuesName (P := fun c => Abi.startsName c → Abi.startsName c.toUpper)
    (by decide) continues starts

/-! ## Numbers -/

/-- The digit of a value below sixteen is part of a word, and so is its capital. -/
theorem isWordChar_digitChar {value : Nat} (small : value < 16) :
    isWordChar (Nat.digitChar value) ∧ isWordChar (Nat.digitChar value).toUpper := by
  have all : ∀ value < 16,
      isWordChar (Nat.digitChar value) ∧ isWordChar (Nat.digitChar value).toUpper := by decide
  exact all value small

/-- The text of a selector is one word. -/
theorem isWordChar_of_mem_selector {selector : Selector} :
    ∀ c ∈ selector.toText.toList, isWordChar c := by
  intro c mem
  rw [Selector.toText, Text.Hex.marked, String.toList_ofList, List.mem_cons, List.mem_cons] at mem
  rcases mem with rfl | rfl | digit
  · rfl
  · rfl
  · obtain ⟨low, small, rfl⟩ := Text.Hex.exists_digitChar_of_mem digit
    exact (isWordChar_digitChar small).1

/-- The word of a selector is read as its number. -/
theorem number?_selector (selector : Selector) :
    number? selector.toText.toList = some selector.toNat := by
  have read : Text.Numeral.digits? 16 (Text.Hex.ofNat 8 selector.toNat) = some selector.toNat :=
    Text.Hex.digits?_ofNat selector.isLt
  have nonempty : (Text.Hex.ofNat 8 selector.toNat).isEmpty = false := by
    rw [← Bool.not_eq_true, List.isEmpty_iff_length_eq_zero, Text.Hex.length_ofNat]
    decide
  rw [Selector.toText, Text.Hex.marked, String.toList_ofList, number?, nonempty, read]
  rfl

section

variable (digest : Digest) (address : Address)

/-- The digits of an address, with capitals where the digest asks for them. -/
def checkedDigits : List Char :=
  (Text.Hex.ofNat 40 address.toNat).mapIdx fun place digit =>
    if Address.digestDigit
        (digest (Text.utf8 (String.ofList (Text.Hex.ofNat 40 address.toNat)))) place < 8 then
      digit
    else digit.toUpper

/-- An address is written with its digits behind a mark. -/
theorem toList_address :
    (address.toText digest).toList = '0' :: 'x' :: checkedDigits digest address :=
  String.toList_ofList

/-- The text of an address is one word. -/
theorem isWordChar_of_mem_address :
    ∀ c ∈ (address.toText digest).toList, isWordChar c := by
  intro c mem
  rw [toList_address, List.mem_cons, List.mem_cons] at mem
  rcases mem with rfl | rfl | digit
  · rfl
  · rfl
  · rw [checkedDigits, List.mem_mapIdx] at digit
    obtain ⟨place, inside, rfl⟩ := digit
    obtain ⟨low, small, same⟩ := Text.Hex.exists_digitChar_of_mem (List.getElem_mem inside)
    obtain ⟨lower, upper⟩ := isWordChar_digitChar small
    rw [same]
    split
    · exact lower
    · exact upper

/-- The word of an address is read as its number, whatever the digest is. -/
theorem number?_address : number? (address.toText digest).toList = some address.toNat := by
  have read : Text.Numeral.digits? 16 (checkedDigits digest address) = some address.toNat :=
    Text.Hex.digits?_mapIdx_ofNat address.isLt _
  have nonempty : (checkedDigits digest address).isEmpty = false := by
    rw [← Bool.not_eq_true, List.isEmpty_iff_length_eq_zero, checkedDigits, List.length_mapIdx,
      Text.Hex.length_ofNat]
    decide
  rw [toList_address, number?, nonempty, read]
  rfl

end

/-! ## Indentation -/

/-- The indentation of a line is no token. -/
theorem tokens_pad (indent : Nat) (text : String) : tokens (pad indent ++ text) = tokens text := by
  rw [tokens, tokens, pad, String.toList_append, String.toList_ofList, lex_blanks]

/-! ## Names of constants -/

/-- A capital is its own capital. -/
theorem toUpper_of_isUpper {c : Char} (upper : c.isUpper) : c.toUpper = c := by
  have capital : c.val ≥ 'A'.val ∧ c.val ≤ 'Z'.val := of_decide_eq_true upper
  have notSmall : ¬ ('a'.val ≤ c.val ∧ c.val ≤ 'z'.val) := by
    rintro ⟨low, -⟩
    have above : 97 ≤ c.val.toNat := UInt32.le_iff_toNat_le.1 low
    have below : c.val.toNat ≤ 90 := UInt32.le_iff_toNat_le.1 capital.2
    omega
  exact dif_neg notSmall

/-- A character of a constant's name is an underscore or the capital of one of the module's name. -/
theorem mem_constantChars {inRun : Bool} {text : List Char} {c : Char}
    (mem : c ∈ constantChars inRun text) : c = '_' ∨ ∃ d ∈ text, c = d.toUpper := by
  induction text generalizing inRun with
  | nil => cases mem
  | cons d rest ih =>
    have later {inRun : Bool} (mem : c ∈ constantChars inRun rest) :
        c = '_' ∨ ∃ e ∈ d :: rest, c = e.toUpper := by
      rcases ih mem with underscore | ⟨e, inside, capital⟩
      · exact .inl underscore
      · exact .inr ⟨e, List.mem_cons_of_mem _ inside, capital⟩
    rw [constantChars] at mem
    split at mem
    · next starts =>
      rw [Bool.and_eq_true] at starts
      rcases List.mem_cons.1 mem with underscore | mem
      · exact .inl underscore
      rcases List.mem_cons.1 mem with rfl | mem
      · exact .inr ⟨c, List.mem_cons_self .., (toUpper_of_isUpper starts.1).symm⟩
      · exact later mem
    · rcases List.mem_cons.1 mem with capital | mem
      · exact .inr ⟨d, List.mem_cons_self .., capital⟩
      · exact later mem

section

variable {contract : String} (name : Abi.isName contract.toList)

/-- Every character of a name can stand in a name. -/
theorem continuesName_of_mem {name : List Char} (named : Abi.isName name) {c : Char}
    (mem : c ∈ name) : Abi.continuesName c := by
  cases name with
  | nil => cases mem
  | cons first rest =>
    rw [Abi.isName, Bool.and_eq_true] at named
    rcases List.mem_cons.1 mem with rfl | mem
    · rw [Abi.continuesName, named.1, Bool.true_or]
    · exact List.all_eq_true.1 named.2 c mem

include name in
/-- The name of a constant is made of what can stand in a name, without small letters. -/
theorem of_mem_constantName {c : Char} (mem : c ∈ (constantName contract).toList) :
    Abi.continuesName c ∧ c.isLower = false := by
  rw [constantName, String.toList_ofList] at mem
  rcases mem_constantChars mem with rfl | ⟨d, inside, rfl⟩
  · decide
  · exact toUpper_of_continuesName (continuesName_of_mem name inside)

include name in
/-- The name of the constant of a name is a name. -/
theorem isName_constantName : Abi.isName (constantName contract).toList := by
  have rest : ∀ c ∈ (constantName contract).toList, Abi.continuesName c :=
    fun c mem => (of_mem_constantName name mem).1
  obtain ⟨c, others, spelled, starts⟩ :
      ∃ c others, (constantName contract).toList = c :: others ∧ Abi.startsName c := by
    rw [constantName, String.toList_ofList]
    cases spelled : contract.toList with
    | nil => simp [spelled, Abi.isName] at name
    | cons c others =>
      rw [spelled, Abi.isName, Bool.and_eq_true] at name
      rw [constantChars]
      split
      · exact ⟨'_', _, rfl, rfl⟩
      · exact ⟨c.toUpper, _, rfl, startsName_toUpper name.1⟩
  rw [spelled] at rest ⊢
  rw [Abi.isName, starts, Bool.true_and, List.all_eq_true]
  exact fun c mem => rest c (List.mem_cons_of_mem _ mem)

end

/-- A name is one word. -/
theorem isWordChar_of_isName {name : List Char} (named : Abi.isName name) :
    ∀ c ∈ name, isWordChar c :=
  fun _ mem => isWordChar_of_continuesName (continuesName_of_mem named mem)

/-- A name is not empty. -/
theorem ne_nil_of_isName {name : List Char} (named : Abi.isName name) : name ≠ [] := by
  rintro rfl
  cases named

/-- A name is not read as a number. -/
theorem number?_of_isName {name : List Char} (named : Abi.isName name) : number? name = none := by
  unfold number?
  split
  · cases named
  · rfl

end ModularRouter.Router
