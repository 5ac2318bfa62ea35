import Mathlib.Tactic.SplitIfs

/-!
# Tokens of a source

How a compiler takes a source apart before it reads it: into words and marks, without the blanks
and the remarks between them. A remark starts with two slashes and goes on to the end of its line,
so that taking a text apart can be done line by line (`tokens_lines`).
-/

namespace ModularRouter.Yul

/-- A piece of a source. -/
inductive Token where
  /-- A run of letters, digits, underscores and dollar signs. -/
  | word (chars : List Char)
  /-- Any other character. -/
  | mark (c : Char)
  deriving Repr, DecidableEq

/-- Whether a line ends with a character. -/
def isLineBreak (c : Char) : Bool :=
  ('\n' ≤ c && c ≤ '\r') || c == '\u0085' || c == '\u2028' || c == '\u2029'

/-- Whether a character stands between tokens without being one. -/
def isBlank (c : Char) : Bool :=
  c == ' ' || c == '\t' || isLineBreak c

/-- Whether a character is part of a word. -/
def isWordChar (c : Char) : Bool :=
  c.isAlphanum || c == '_' || c == '$'

/-- What is read where a source is taken apart. -/
inductive Mode where
  /-- A word whose characters so far are kept from the last to the first, or no word if there are
  none. -/
  | code (read : List Char)
  /-- A remark. -/
  | remark

/-- The word that ends, if there is one. -/
def Mode.ended : Mode → List Token
  | .code [] => []
  | .code (c :: read) => [.word (c :: read).reverse]
  | .remark => []

/-- The tokens of a text from some mode on. -/
def lex : Mode → List Char → List Token
  | mode, [] => mode.ended
  | .remark, c :: rest => lex (if isLineBreak c then .code [] else .remark) rest
  | .code read, c :: rest =>
    if isWordChar c then lex (.code (c :: read)) rest
    else
      (Mode.code read).ended ++
        if isBlank c then lex (.code []) rest
        else if c = '/' ∧ rest.head? = some '/' then lex .remark rest
        else .mark c :: lex (.code []) rest

/-- The tokens of a text. -/
def tokens (text : String) : List Token :=
  lex (.code []) text.toList

/-- Blanks are passed over. -/
theorem lex_blanks (count : Nat) (rest : List Char) :
    lex (.code []) (List.replicate count ' ' ++ rest) = lex (.code []) rest := by
  induction count with
  | zero => rfl
  | succ count ih => exact ih

/-- The characters of a word are put behind those read so far. -/
theorem lex_word (read word rest : List Char) (chars : ∀ c ∈ word, isWordChar c) :
    lex (.code read) (word ++ rest) = lex (.code (word.reverse ++ read)) rest := by
  induction word generalizing read with
  | nil => rfl
  | cons c word ih =>
    have first : isWordChar c := chars c (List.mem_cons_self ..)
    rw [List.cons_append, lex, if_pos first, ih (c :: read) fun c mem =>
      chars c (List.mem_cons_of_mem _ mem)]
    rw [List.reverse_cons, List.append_assoc, List.singleton_append]

/-- The word that is read ends before any other character. -/
theorem lex_cons_of_not_isWordChar (read : List Char) {c : Char} (rest : List Char)
    (other : isWordChar c = false) :
    lex (.code read) (c :: rest) = (Mode.code read).ended ++ lex (.code []) (c :: rest) := by
  have no : ¬ isWordChar c := by simp [other]
  rw [lex, lex, if_neg no, if_neg no]
  rfl

/-- A word ends where another character follows. -/
theorem lex_word_cons {word : List Char} {c : Char} (rest : List Char) (nonempty : word ≠ [])
    (chars : ∀ c ∈ word, isWordChar c) (other : isWordChar c = false) :
    lex (.code []) (word ++ c :: rest) = .word word :: lex (.code []) (c :: rest) := by
  have ends : (Mode.code word.reverse).ended = [.word word] := by
    cases reversed : word.reverse with
    | nil => exact absurd (List.reverse_eq_nil_iff.1 reversed) nonempty
    | cons last before => rw [Mode.ended, ← reversed, List.reverse_reverse]
  rw [lex_word [] word _ chars, List.append_nil, lex_cons_of_not_isWordChar _ _ other, ends]
  rfl

/-- A remark without line breaks takes up the rest of a line. -/
theorem lex_remark (remark : List Char) (line : ∀ c ∈ remark, isLineBreak c = false) :
    lex .remark remark = [] := by
  induction remark with
  | nil => rfl
  | cons c remark ih =>
    have first : isLineBreak c = false := line c (List.mem_cons_self ..)
    rw [lex, first]
    exact ih fun c mem => line c (List.mem_cons_of_mem _ mem)

/-- Whatever is read ends with its line. -/
theorem lex_line (mode : Mode) (line rest : List Char) :
    lex mode (line ++ '\n' :: rest) = lex mode line ++ lex (.code []) rest := by
  induction line generalizing mode with
  | nil =>
    cases mode with
    | code read => rfl
    | remark => rfl
  | cons c line ih =>
    -- A slash is the last character of its line only if no other slash follows it.
    have next : (line ++ '\n' :: rest).head? = some '/' ↔ line.head? = some '/' := by
      cases line with
      | nil => simp
      | cons d line => rfl
    cases mode with
    | remark => exact ih _
    | code read =>
      rw [List.cons_append, lex, lex]
      simp only [next, ih]
      split_ifs <;> simp

/-- The tokens of a text are those of its lines. -/
theorem tokens_lines (lines : List String) :
    tokens ("\n".intercalate lines) = lines.flatMap tokens := by
  induction lines with
  | nil => rfl
  | cons line rest ih =>
    cases rest with
    | nil => simp
    | cons next rest =>
      rw [String.intercalate_cons_cons, List.flatMap_cons, ← ih]
      simp only [tokens, String.toList_append, List.append_assoc]
      exact lex_line _ _ _

end ModularRouter.Yul
