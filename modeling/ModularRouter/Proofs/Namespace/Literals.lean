import ModularRouter.Proofs.Namespace.Locals
import ModularRouter.Proofs.Text.Numeral
import ModularRouter.Proofs.Text.Search
import ModularRouter.Proofs.Text.Utf8

/-!
# Literals of slots

A number is read from decimal digits or from hexadecimal ones behind `0x`, a seed from the bytes of
a string. `numbers_read_strictly_iff` says which texts are numbers: those that have digits, and also
those that have none, which `missing_digits_are_zero` shows. `seeds_identify_bytes_iff` says which
strings have one seed: those of the same bytes, but also bytes that are no text and the text that
writes them down, as in `spelled_seed_collides`.
-/

namespace ModularRouter.Namespace

open Ast (Expression Literal SourceUnit YulExpression)
open Text (Spells SpellsBytes)

/-! ## Numbers -/

/-- Whether a text writes a word: as a decimal number, or as a hexadecimal one behind `0x`. Zeros
may stand in front, letters may be of either case and underscores do not count. -/
inductive WritesWord (word : Word) (text : String) : Prop where
  /-- A decimal number. -/
  | decimal (digits : Spells 10 (text.toList.filter (· ≠ '_')) word.toNat)
  /-- A hexadecimal number. -/
  | hexadecimal {digits : List Char} (marked : text.toList.filter (· ≠ '_') = '0' :: 'x' :: digits)
      (spells : Spells 16 digits word.toNat)

/-- A word that is written is read. -/
theorem WritesWord.word?_eq {word : Word} {text : String} (writes : WritesWord word text) :
    word? text = some word := by
  have small : word.toNat < Nat.pow 2 256 := word.isLt
  have back : BitVec.ofNat 256 word.toNat = word := BitVec.ofNat_toNat ..
  cases writes with
  | decimal digits =>
    -- A mark would bring a letter among the digits.
    have unmarked : Text.dropStart? ['0', 'x'] (text.toList.filter (· ≠ '_')) = none := by
      rw [Option.eq_none_iff_forall_ne_some]
      intro rest dropped
      refine digits.x_notMem (by decide) ?_
      rw [Text.dropStart?_eq_some_iff.1 dropped]
      simp
    simp only [word?, unmarked, digits.digits?_eq (by decide : 10 ≤ 16), Option.filter_some,
      decide_eq_true small, if_pos, Option.map_some, back]
  | @hexadecimal digits marked spells =>
    have dropped : Text.dropStart? ['0', 'x'] (text.toList.filter (· ≠ '_')) = some digits :=
      Text.dropStart?_eq_some_iff.2 marked
    simp only [word?, dropped, spells.digits?_eq le_rfl, Option.filter_some,
      decide_eq_true small, if_pos, Option.map_some, back]

/-- A word that is written is the slot of the number. -/
theorem WritesWord.slotOfNumber_eq {word : Word} {text : String} (writes : WritesWord word text) :
    slotOfNumber (some text) = .ok (.word word) := by
  simp only [slotOfNumber, Option.getD_some, writes.word?_eq]

/-- Exactly the words that are written are read. -/
theorem word?_eq_some_iff {word : Word} {text : String} :
    word? text = some word ↔ WritesWord word text := by
  refine ⟨fun read => ?_, WritesWord.word?_eq⟩
  obtain ⟨number, found, rfl⟩ := Option.map_eq_some_iff.1 read
  obtain ⟨digits, below⟩ := Option.filter_eq_some_iff.1 found
  have small : number < Nat.pow 2 256 := of_decide_eq_true below
  have value : (BitVec.ofNat 256 number).toNat = number := Nat.mod_eq_of_lt small
  split at digits
  · next rest dropped =>
    refine .hexadecimal (Text.dropStart?_eq_some_iff.1 dropped) ?_
    rw [value]
    exact (Text.digits?_eq_some_iff le_rfl).1 digits
  · refine .decimal ?_
    rw [value]
    exact (Text.digits?_eq_some_iff (by decide)).1 digits

/-- The characters of a text that count in a number. -/
def countedChars (text : String) : List Char :=
  text.toList.filter (· ≠ '_')

/-- Whether a text writes a number: in decimal digits, or in hexadecimal ones behind `0x`, at least
one in either case. Zeros may stand in front, letters may be of either case and underscores do not
count. -/
inductive WritesNumber (number : Nat) (text : String) : Prop where
  /-- A decimal number. -/
  | decimal (present : countedChars text ≠ []) (spells : Spells 10 (countedChars text) number)
  /-- A hexadecimal number. -/
  | hexadecimal {digits : List Char} (marked : countedChars text = '0' :: 'x' :: digits)
      (present : digits ≠ []) (spells : Spells 16 digits number)

/-- Whether a text is a number but for its digits: nothing at all, or the mark `0x` alone. -/
def LacksDigits (text : String) : Prop :=
  countedChars text = [] ∨ countedChars text = ['0', 'x']

/-- No digits spell zero. -/
theorem spells_nil_iff {radix number : Nat} : Spells radix [] number ↔ number = 0 := by
  constructor
  · rintro ⟨digits, each, rfl⟩
    cases each
    rfl
  · rintro rfl
    exact ⟨[], .nil, rfl⟩

/-- A number has digits. -/
theorem WritesNumber.not_lacksDigits {number : Nat} {text : String}
    (writes : WritesNumber number text) : ¬ LacksDigits text := by
  rintro (nothing | markOnly)
  · cases writes with
    | decimal present _ => exact present nothing
    | hexadecimal marked _ _ => cases nothing.symm.trans marked
  · cases writes with
    | decimal _ spells =>
      rw [markOnly] at spells
      exact spells.x_notMem (by decide) (by simp)
    | hexadecimal marked present _ =>
      cases markOnly.symm.trans marked
      exact present rfl

/-- A word is written as a number, or it is zero and written without digits. -/
theorem writesWord_iff {word : Word} {text : String} :
    WritesWord word text ↔ WritesNumber word.toNat text ∨ LacksDigits text ∧ word = 0 := by
  have zero : word.toNat = 0 ↔ word = 0 := @BitVec.toNat_inj 256 word 0
  -- Both ways of writing a word allow for no digits, which then spell zero.
  constructor
  · rintro (digits | @⟨digits, marked, spells⟩)
    · by_cases nothing : countedChars text = []
      · have spelled : Spells 10 (countedChars text) word.toNat := digits
        rw [nothing, spells_nil_iff, zero] at spelled
        exact .inr ⟨.inl nothing, spelled⟩
      · exact .inl (.decimal nothing digits)
    · by_cases nothing : digits = []
      · rw [nothing] at marked spells
        exact .inr ⟨.inr marked, zero.1 (spells_nil_iff.1 spells)⟩
      · exact .inl (.hexadecimal marked nothing spells)
  · rintro ((⟨_, spells⟩ | ⟨marked, _, spells⟩) | ⟨nothing | markOnly, rfl⟩)
    · exact .decimal spells
    · exact .hexadecimal marked spells
    · refine .decimal ?_
      have spelled : Spells 10 (countedChars text) 0 := nothing ▸ spells_nil_iff.2 rfl
      exact spelled
    · exact .hexadecimal markOnly (spells_nil_iff.2 rfl)

/-- A text is read as a word exactly when it writes a number of 256 bits, or lacks digits. -/
theorem word?_eq_some_iff_number {word : Word} {text : String} :
    word? text = some word ↔
      (∃ number, WritesNumber number text ∧ number < 2 ^ 256 ∧ word.toNat = number) ∨
        LacksDigits text ∧ word = 0 := by
  rw [word?_eq_some_iff, writesWord_iff]
  refine or_congr_left ⟨fun writes => ⟨_, writes, word.isLt, rfl⟩, ?_⟩
  rintro ⟨number, writes, -, rfl⟩
  exact writes

/-- No word is read exactly from what has digits but writes no number of 256 bits. -/
theorem word?_eq_none_iff {text : String} :
    word? text = none ↔
      ¬ LacksDigits text ∧ ∀ number, WritesNumber number text → 2 ^ 256 ≤ number := by
  rw [Option.eq_none_iff_forall_ne_some]
  constructor
  · intro unread
    refine ⟨fun lacks => ?_, fun number writes => ?_⟩
    · exact unread 0 (word?_eq_some_iff_number.2 (.inr ⟨lacks, rfl⟩))
    · by_contra small
      have below : number < 2 ^ 256 := Nat.lt_of_not_le small
      have value : (BitVec.ofNat 256 number).toNat = number := Nat.mod_eq_of_lt below
      exact unread _ (word?_eq_some_iff_number.2 (.inl ⟨number, writes, below, value⟩))
  · rintro ⟨present, large⟩ word read
    rcases word?_eq_some_iff_number.1 read with ⟨number, writes, below, -⟩ | ⟨lacks, -⟩
    · exact absurd below (Nat.not_lt.2 (large number writes))
    · exact present lacks

/-- A number literal is read as a word exactly when, but for underscores, it is one or more decimal
digits, or hexadecimal ones behind `0x`, and the number is below `2 ^ 256`, or when it lacks digits
altogether, and then the word is zero. So it is read strictly unless it lacks digits. What is
read is the slot, in assembly as in expressions, and what is not is an invalid number. -/
theorem numbers_read_strictly_iff (digest : Digest) (scope : Scope) (visible : YulVariables)
    (given bytes : Option String) (steps : Nat) :
    let text := given.getD ""
    let inExpression := scope.resolve digest (steps + 1) (.literal ⟨.number, given, bytes⟩)
    let inAssembly := scope.resolveYul digest visible (steps + 1) (.literal "number" given bytes)
    (∀ word, word? text = some word ↔
      (∃ number, WritesNumber number text ∧ number < 2 ^ 256 ∧ word.toNat = number) ∨
        LacksDigits text ∧ word = 0) ∧
    ((∀ word, word? text = some word ↔
      ∃ number, WritesNumber number text ∧ number < 2 ^ 256 ∧ word.toNat = number) ↔
        ¬ LacksDigits text) ∧
    (∀ word, word? text = some word →
      inExpression = .ok (.word word) ∧ inAssembly = .ok (.word word)) ∧
    (¬ LacksDigits text → (∀ number, WritesNumber number text → 2 ^ 256 ≤ number) →
      inExpression = .error (.invalidNumber text) ∧ inAssembly = .error (.invalidNumber text)) := by
  intro text inExpression inAssembly
  have expression : inExpression = slotOfNumber given := rfl
  have assembly : inAssembly = slotOfNumber given := rfl
  rw [expression, assembly]
  refine ⟨fun word => word?_eq_some_iff_number, ⟨fun strict lacks => ?_, fun present word => ?_⟩,
    fun word read => ?_, fun present large => ?_⟩
  · obtain ⟨number, writes, -⟩ := (strict 0).1 (word?_eq_some_iff_number.2 (.inr ⟨lacks, rfl⟩))
    exact writes.not_lacksDigits lacks
  · rw [word?_eq_some_iff_number]
    exact or_iff_left fun lacks => present lacks.1
  · have slot : slotOfNumber given = .ok (.word word) := by
      rw [slotOfNumber, read]
    exact ⟨slot, slot⟩
  · have unread : word? text = none := word?_eq_none_iff.2 ⟨present, large⟩
    have invalid : slotOfNumber given = .error (.invalidNumber text) := by
      rw [slotOfNumber, unread]
    exact ⟨invalid, invalid⟩

/-- A number without a value writes no number, and neither does the mark `0x` alone, but either is
a slot, the first of the storage. -/
theorem missing_digits_are_zero :
    (∀ number, ¬ WritesNumber number "") ∧ (∀ number, ¬ WritesNumber number "0x") ∧
      collectAssignments (fun _ => 0) [accountUnit
          [.assembly [.assignment ["first.slot"] (some (.literal "number" none none)),
            .assignment ["second.slot"] (some (.literal "number" (some "0x") none))]]] .all =
        .ok [⟨"src/Account.sol", "Account", "load", "first", .word 0⟩,
          ⟨"src/Account.sol", "Account", "load", "second", .word 0⟩] :=
  ⟨fun _ writes => writes.not_lacksDigits (.inl rfl),
    fun _ writes => writes.not_lacksDigits (.inr rfl), rfl⟩

/-! ## Strings -/

/-- The bytes of a string: those that its digits spell, or else those of its text. -/
inductive HasBytes (literal : Literal) : List UInt8 → Prop where
  /-- The digits of a string of any kind. -/
  | digits {digits : String} {bytes : List UInt8} (given : literal.hexValue = some digits)
      (spells : SpellsBytes digits.toList bytes) : HasBytes literal bytes
  /-- The text of a string without digits. -/
  | text {text : String} (without : literal.hexValue = none) (given : literal.value = some text) :
      HasBytes literal (Text.utf8 text)

/-- The bytes of a string are known. -/
theorem HasBytes.literalBytes?_eq {literal : Literal} {bytes : List UInt8}
    (has : HasBytes literal bytes) : literalBytes? literal = some bytes := by
  cases has with
  | digits given spells => simp only [literalBytes?, given, spells.dropMark_eq, spells.toBytes?_eq]
  | text without given => simp only [literalBytes?, without, given, Option.map_some]

/-- The bytes of a string whose digits may also stand behind a mark, `0x` or `0X`. -/
inductive HoldsBytes (literal : Literal) (bytes : List UInt8) : Prop where
  /-- No mark. -/
  | plain (has : HasBytes literal bytes)
  /-- Digits behind a mark. -/
  | marked {text : String} {mark : Char} {digits : List Char} (given : literal.hexValue = some text)
      (behind : text.toList = '0' :: mark :: digits) (isMark : mark = 'x' ∨ mark = 'X')
      (spells : SpellsBytes digits bytes)

/-- Exactly the bytes that a string holds are known. -/
theorem literalBytes?_eq_some_iff {literal : Literal} {bytes : List UInt8} :
    literalBytes? literal = some bytes ↔ HoldsBytes literal bytes := by
  constructor
  · intro known
    unfold literalBytes? at known
    split at known
    · next digits given =>
      have spells := Text.toBytes?_eq_some_iff.1 known
      unfold Text.Hex.dropMark at spells
      split at spells
      · next rest behind => exact .marked given behind (.inl rfl) spells
      · next rest behind => exact .marked given behind (.inr rfl) spells
      · exact .plain (.digits given spells)
    · next without =>
      obtain ⟨text, given, rfl⟩ := Option.map_eq_some_iff.1 known
      exact .plain (.text without given)
  · rintro (has | @⟨text, mark, digits, given, behind, isMark, spells⟩)
    · exact has.literalBytes?_eq
    · have dropped : Text.Hex.dropMark text.toList = digits := by
        rw [behind]
        rcases isMark with rfl | rfl
        · rfl
        · rfl
      simp only [literalBytes?, given, dropped, spells.toBytes?_eq]

/-- The bytes of a string are unknown exactly when it holds none. -/
theorem literalBytes?_eq_none_iff {literal : Literal} :
    literalBytes? literal = none ↔ ¬ ∃ bytes, HoldsBytes literal bytes := by
  rw [Option.eq_none_iff_forall_ne_some, not_exists]
  simp only [ne_eq, literalBytes?_eq_some_iff]

/-! ## Seeds -/

/-- The text that writes down bytes by their digits. -/
def spelledSeed (bytes : List UInt8) : String :=
  "hex\"" ++ String.ofList (Text.Hex.ofBytes bytes) ++ "\""

/-- Whether bytes are no text and others are those of the text that writes them down. -/
structure MistakenFor (bytes other : List UInt8) : Prop where
  /-- They are not the bytes of any text. -/
  noText : ∀ text, Text.utf8 text ≠ bytes
  /-- The others are those of the text that writes them down. -/
  spelled : other = Text.utf8 (spelledSeed bytes)

/-- The seed of the bytes of a text is the text. -/
theorem seedOfBytes_utf8 (text : String) : seedOfBytes (Text.utf8 text) = text := by
  rw [seedOfBytes, Text.ofUtf8?_eq_some_iff.2 rfl]

/-- The seed of bytes that are no text writes them down. -/
theorem seedOfBytes_eq_spelledSeed {bytes : List UInt8} (noText : ∀ text, Text.utf8 text ≠ bytes) :
    seedOfBytes bytes = spelledSeed bytes := by
  have unread : Text.ofUtf8? bytes = none := by
    rw [Option.eq_none_iff_forall_ne_some]
    exact fun text read => noText text (Text.ofUtf8?_eq_some_iff.1 read)
  rw [seedOfBytes, unread]
  rfl

/-- Different bytes are written down differently. -/
theorem spelledSeed_inj {bytes other : List UInt8} :
    spelledSeed bytes = spelledSeed other ↔ bytes = other := by
  refine ⟨fun same => ?_, congrArg spelledSeed⟩
  have chars := congrArg String.toList same
  simp only [spelledSeed, String.toList_append, String.toList_ofList,
    List.append_cancel_left_eq, List.append_cancel_right_eq] at chars
  exact Text.ofBytes_inj.1 chars

/-- The seed of bytes that are no text is that of a text exactly when the text writes them
down. -/
theorem seedOfBytes_eq_text_iff {bytes : List UInt8} (noText : ∀ text, Text.utf8 text ≠ bytes)
    (text : String) : seedOfBytes bytes = text ↔ MistakenFor bytes (Text.utf8 text) := by
  rw [seedOfBytes_eq_spelledSeed noText]
  constructor
  · rintro rfl
    exact ⟨noText, rfl⟩
  · rintro ⟨-, spelled⟩
    exact (Text.utf8_inj.1 spelled).symm

/-- The bytes of a text are not mistaken for any others. -/
theorem not_mistakenFor_utf8 (text : String) (other : List UInt8) :
    ¬ MistakenFor (Text.utf8 text) other :=
  fun mistaken => mistaken.noText text rfl

/-- Bytes have one seed when they are the same, and when those that are no text are written down by
the others. -/
theorem seedOfBytes_eq_iff {bytes other : List UInt8} :
    seedOfBytes bytes = seedOfBytes other ↔
      bytes = other ∨ MistakenFor bytes other ∨ MistakenFor other bytes := by
  -- Seeds are compared as texts: two texts, two texts that write bytes down, or one of either.
  by_cases isText : ∃ text, Text.utf8 text = bytes
  · obtain ⟨text, rfl⟩ := isText
    by_cases otherIsText : ∃ text, Text.utf8 text = other
    · obtain ⟨other, rfl⟩ := otherIsText
      simp only [seedOfBytes_utf8, Text.utf8_inj, not_mistakenFor_utf8, or_false]
    · have noText := not_exists.1 otherIsText
      have apart : Text.utf8 text ≠ other := noText text
      simp only [seedOfBytes_utf8, eq_comm (a := text), seedOfBytes_eq_text_iff noText, apart,
        not_mistakenFor_utf8, false_or]
  · have noText := not_exists.1 isText
    by_cases otherIsText : ∃ text, Text.utf8 text = other
    · obtain ⟨other, rfl⟩ := otherIsText
      have apart : bytes ≠ Text.utf8 other := Ne.symm (noText other)
      simp only [seedOfBytes_utf8, seedOfBytes_eq_text_iff noText, apart, not_mistakenFor_utf8,
        false_or, or_false]
    · have otherNoText := not_exists.1 otherIsText
      rw [seedOfBytes_eq_spelledSeed noText, seedOfBytes_eq_spelledSeed otherNoText,
        spelledSeed_inj]
      refine (or_iff_left ?_).symm
      rintro (mistaken | mistaken)
      · exact otherNoText _ mistaken.spelled.symm
      · exact noText _ mistaken.spelled.symm

/-- The encoding of a literal and others behind it. -/
def seedEncoding (reference : Option Ast.NodeId) (literal : Literal) (others : List Expression) :
    Expression :=
  .call (.member (.identifier "abi" reference) "encode") (.literal literal :: others)

/-- The hash of an encoding that starts with a string is the seed of its bytes. -/
theorem slotOfHash_seedEncoding (digest : Digest) (reference : Option Ast.NodeId)
    {literal : Literal} (string : isString literal = true) (others : List Expression) :
    slotOfHash digest [seedEncoding reference literal others] =
      match literalBytes? literal with
      | some bytes => .ok (.seed (seedOfBytes bytes))
      | none => .error .seedWithoutValue := by
  have encodes : isAbiEncode (.member (.identifier "abi" reference) "encode") = true := rfl
  cases known : literalBytes? literal with
  | some bytes => simp only [seedEncoding, slotOfHash, encodes, string, known, if_pos,
      List.head?_cons]
  | none => simp only [seedEncoding, slotOfHash, encodes, string, known, if_pos, List.head?_cons]

/-- Let two strings of any kind each be the first value of an encoding that is hashed. Either has a
seed if its bytes are known and is refused otherwise. The seeds of strings with known bytes are
equal when the bytes are, and also when the bytes of one are no text and those of the other are the
text that writes these down. -/
theorem seeds_identify_bytes_iff (digest : Digest) (first second : Literal)
    (firstString : isString first = true) (secondString : isString second = true) :
    (∀ literal ∈ [first, second], ∀ reference others,
      ((∃ seed, slotOfHash digest [seedEncoding reference literal others] = .ok (.seed seed)) ↔
        ∃ bytes, HoldsBytes literal bytes) ∧
      (slotOfHash digest [seedEncoding reference literal others] = .error .seedWithoutValue ↔
        ¬ ∃ bytes, HoldsBytes literal bytes)) ∧
    ∀ firstBytes secondBytes, HoldsBytes first firstBytes → HoldsBytes second secondBytes →
      ∀ firstReference firstOthers firstSeed secondReference secondOthers secondSeed,
        slotOfHash digest [seedEncoding firstReference first firstOthers] =
          .ok (.seed firstSeed) →
        slotOfHash digest [seedEncoding secondReference second secondOthers] =
          .ok (.seed secondSeed) →
        (firstSeed = secondSeed ↔ firstBytes = secondBytes ∨
          MistakenFor firstBytes secondBytes ∨ MistakenFor secondBytes firstBytes) := by
  have found {literal : Literal} (string : isString literal = true) {bytes : List UInt8}
      (holds : HoldsBytes literal bytes) (reference : Option Ast.NodeId)
      (others : List Expression) :
      slotOfHash digest [seedEncoding reference literal others] =
        .ok (.seed (seedOfBytes bytes)) := by
    rw [slotOfHash_seedEncoding digest reference string, literalBytes?_eq_some_iff.2 holds]
  refine ⟨fun literal mem reference others => ?_, ?_⟩
  · have string : isString literal = true := by
      rcases List.mem_cons.1 mem with rfl | later
      · exact firstString
      · exact List.mem_singleton.1 later ▸ secondString
    by_cases known : ∃ bytes, HoldsBytes literal bytes
    · obtain ⟨bytes, holds⟩ := known
      rw [found string holds]
      exact ⟨iff_of_true ⟨_, rfl⟩ ⟨bytes, holds⟩, iff_of_false nofun (not_not.2 ⟨bytes, holds⟩)⟩
    · have refused : slotOfHash digest [seedEncoding reference literal others] =
          .error .seedWithoutValue := by
        rw [slotOfHash_seedEncoding digest reference string, literalBytes?_eq_none_iff.2 known]
      rw [refused]
      exact ⟨iff_of_false nofun known, iff_of_true rfl known⟩
  · intro firstBytes secondBytes firstHolds secondHolds _ _ firstSeed _ _ secondSeed firstSlot
      secondSlot
    rw [found firstString firstHolds] at firstSlot
    rw [found secondString secondHolds] at secondSlot
    cases firstSlot
    cases secondSlot
    exact seedOfBytes_eq_iff

/-- A seed that is given as text. -/
def accountText : Literal :=
  ⟨.unicodeString, some "Account", none⟩

/-- The bytes of the text. -/
def accountDigits : Literal :=
  ⟨.hexString, none, some "0X4163636f756E74"⟩

/-- A seed is the same whether it is given as text or by the digits of its bytes. -/
theorem account_seed_from_digits :
    isString accountText = true ∧ isString accountDigits = true ∧
      slotOfHash (fun _ => 0) [seedEncoding none accountText []] = .ok (.seed "Account") ∧
      slotOfHash (fun _ => 0) [seedEncoding none accountDigits []] = .ok (.seed "Account") := by
  have seeds := seeds_identify_bytes_iff (fun _ => 0) accountText accountDigits rfl rfl
  have text : HoldsBytes accountText (Text.utf8 "Account") := .plain (.text rfl rfl)
  have digits : HoldsBytes accountDigits (Text.utf8 "Account") := literalBytes?_eq_some_iff.1 rfl
  have known : slotOfHash (fun _ => 0) [seedEncoding none accountText []] =
      .ok (.seed "Account") := rfl
  obtain ⟨seed, found⟩ := (seeds.1 accountDigits (.tail _ (.head _)) none []).1.2 ⟨_, digits⟩
  have same := (seeds.2 _ _ text digits none [] "Account" none [] seed known found).2 (.inl rfl)
  exact ⟨rfl, rfl, known, same ▸ found⟩

/-- A library that keeps its namespace at the hash of an encoding of a seed. -/
def seedLibrary (name : String) (seed : Literal) : Ast.ContractDefinition :=
  ⟨1, name, .library, [.function ⟨2, "load", some
    [.declaration [some ⟨3, "s", none, false, none⟩]
      (some (.call (.identifier "keccak256" none) [seedEncoding none seed []])),
    .assembly [.assignment ["store.slot"] (some (.identifier "s"))]]⟩]⟩

/-- Two bytes that are no text. -/
def rawSeed : Literal :=
  ⟨.hexString, none, some "ff01"⟩

/-- The text that writes them down. -/
def writtenSeed : Literal :=
  ⟨.string, some "hex\"ff01\"", none⟩

/-- Two libraries collide though the bytes of their seeds differ: those of the one are no text, and
the seed of the other is the text that writes them down. -/
theorem spelled_seed_collides :
    (∃ bytes other, HoldsBytes rawSeed bytes ∧ HoldsBytes writtenSeed other ∧ bytes ≠ other) ∧
      ensureUnique (fun _ => 0) [⟨"src/Storage.sol", [.contract (seedLibrary "Account" rawSeed),
          .contract (seedLibrary "Market" writtenSeed)]⟩] .all =
        .error (.collisions [⟨.seed "hex\"ff01\"",
          [⟨"src/Storage.sol", "Account", "load", "store", .seed "hex\"ff01\""⟩,
            ⟨"src/Storage.sol", "Market", "load", "store", .seed "hex\"ff01\""⟩]⟩]) := by
  have raw : HoldsBytes rawSeed [0xff, 0x01] := literalBytes?_eq_some_iff.1 rfl
  have written : HoldsBytes writtenSeed (Text.utf8 "hex\"ff01\"") := .plain (.text rfl rfl)
  exact ⟨⟨_, _, raw, written, by decide⟩, rfl⟩

end ModularRouter.Namespace
