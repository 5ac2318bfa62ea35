import ModularRouter.Json.Literal
import ModularRouter.Text.Numeral

/-!
# Reading JSON

A reader of the standard grammar: no comments, no trailing commas, no leading zeros, no raw
controls inside strings, nothing but blanks after the value. Every function takes the text it
starts at and returns what it read with the text that is left, or nothing where the text is not
well formed. Lists and objects nested deeper than a given level, halves of surrogate pairs and
numbers beyond the range of a double are read over and become `Json.unreadable`.
-/

namespace ModularRouter.Json

namespace Reader

/-- Text from its first character that is not a blank. -/
def skipBlank : List Char → List Char
  | ' ' :: rest => skipBlank rest
  | '\t' :: rest => skipBlank rest
  | '\n' :: rest => skipBlank rest
  | '\r' :: rest => skipBlank rest
  | text => text

/-! ## Strings -/

/-- A piece of a string literal: a character, or the code unit of an escape `\u`. -/
inductive Piece where
  /-- A character written as itself or by a short escape. -/
  | char (c : Char)
  /-- A code unit of UTF-16 written by its four digits. -/
  | unit (code : Nat)

/-- The code unit that four digits spell. -/
def codeUnit? (a b c d : Char) : Option Nat :=
  Text.Numeral.digits? 16 [a, b, c, d]

/-- The character that a short escape stands for. -/
def shortEscape? : Char → Option Char
  | '"' => some '"'
  | '\\' => some '\\'
  | '/' => some '/'
  | 'b' => some '\x08'
  | 'f' => some '\x0C'
  | 'n' => some '\n'
  | 'r' => some '\r'
  | 't' => some '\t'
  | _ => none

/-- The pieces of a string literal up to its closing quote. -/
def stringPieces : List Char → Option (List Piece × List Char)
  | '"' :: rest => some ([], rest)
  | '\\' :: 'u' :: a :: b :: c :: d :: rest =>
    match codeUnit? a b c d, stringPieces rest with
    | some code, some (pieces, rest) => some (.unit code :: pieces, rest)
    | _, _ => none
  | '\\' :: c :: rest =>
    match shortEscape? c, stringPieces rest with
    | some char, some (pieces, rest) => some (.char char :: pieces, rest)
    | _, _ => none
  | c :: rest =>
    if c.toNat < 0x20 ∨ c = '\\' then none
    else
      match stringPieces rest with
      | some (pieces, rest) => some (.char c :: pieces, rest)
      | none => none
  | [] => none

/-- Whether a code unit is the first half of a surrogate pair. -/
def isHighSurrogate (code : Nat) : Bool :=
  0xD800 ≤ code && code < 0xDC00

/-- Whether a code unit is the second half of a surrogate pair. -/
def isLowSurrogate (code : Nat) : Bool :=
  0xDC00 ≤ code && code < 0xE000

/-- The characters that pieces spell, unless half of a surrogate pair stands alone. -/
def spell : List Piece → Option (List Char)
  | [] => some []
  | .char c :: rest => (spell rest).map (c :: ·)
  | .unit high :: .unit low :: rest =>
    if isHighSurrogate high then
      if isLowSurrogate low then
        (spell rest).map (Char.ofNat (0x10000 + (high - 0xD800) * 0x400 + (low - 0xDC00)) :: ·)
      else none
    else if isLowSurrogate high then none
    else (spell (.unit low :: rest)).map (Char.ofNat high :: ·)
  | .unit code :: rest =>
    if isHighSurrogate code || isLowSurrogate code then none
    else (spell rest).map (Char.ofNat code :: ·)

/-- A string literal after its opening quote; no text if it spells none. -/
def stringLiteral (text : List Char) : Option (Option String × List Char) :=
  match stringPieces text with
  | some (pieces, rest) => some ((spell pieces).map String.ofList, rest)
  | none => none

/-! ## Numbers -/

/-- A run of digits that is not empty. -/
def digitRun (text : List Char) : Option (List Char × List Char) :=
  match text.span Char.isDigit with
  | ([], _) => none
  | (digits, rest) => some (digits, rest)

/-- The digits before the point: a zero alone, or a run that starts with another digit. -/
def wholeDigits : List Char → Option (List Char × List Char)
  | '0' :: rest =>
    match rest with
    | c :: _ => if c.isDigit then none else some (['0'], rest)
    | [] => some (['0'], [])
  | text => digitRun text

/-- The digits after a point, if a point comes next. -/
def fractionDigits : List Char → Option (Option (List Char) × List Char)
  | '.' :: rest => (digitRun rest).map fun (digits, rest) => (some digits, rest)
  | text => some (none, text)

/-- The sign and the digits of an exponent, if one comes next. -/
def exponentDigits (text : List Char) : Option (Option (Bool × List Char) × List Char) :=
  let signed (rest : List Char) :=
    match rest with
    | '-' :: rest => (digitRun rest).map fun (digits, rest) => (some (true, digits), rest)
    | '+' :: rest => (digitRun rest).map fun (digits, rest) => (some (false, digits), rest)
    | rest => (digitRun rest).map fun (digits, rest) => (some (false, digits), rest)
  match text with
  | 'e' :: rest => signed rest
  | 'E' :: rest => signed rest
  | text => some (none, text)

/-- A number taken apart. -/
def numberLiteral (text : List Char) : Option (Literal × List Char) :=
  let (negative, text) := match text with
    | '-' :: rest => (true, rest)
    | text => (false, text)
  match wholeDigits text with
  | none => none
  | some (whole, text) =>
    match fractionDigits text with
    | none => none
    | some (fraction, text) =>
      match exponentDigits text with
      | none => none
      | some (exponent, text) => some (⟨negative, whole, fraction, exponent⟩, text)

/-- A number. -/
def number (text : List Char) : Option (Json × List Char) :=
  (numberLiteral text).map fun (literal, text) => (literal.toJson, text)

/-! ## Values -/

/-- A list at a level that may still be nested, and nothing readable below it. -/
def listAt (depth : Nat) (items : List Json) : Json :=
  if depth = 0 then .unreadable else .arr items

/-- An object at a level that may still be nested, unless a name in it spells no text. -/
def objectAt (depth : Nat) (fields : List (Option String × Json)) : Json :=
  if depth = 0 then .unreadable
  else
    match fields.mapM fun (name, value) => name.map fun name => (name, value) with
    | some fields => .obj fields
    | none => .unreadable

mutual

/-- A value that may hold `depth` levels of lists and objects. The fuel bounds the calls. -/
def value : (fuel depth : Nat) → List Char → Option (Json × List Char)
  | 0, _, _ => none
  | fuel + 1, depth, text =>
    match text with
    | 'n' :: 'u' :: 'l' :: 'l' :: rest => some (.null, rest)
    | 't' :: 'r' :: 'u' :: 'e' :: rest => some (.bool true, rest)
    | 'f' :: 'a' :: 'l' :: 's' :: 'e' :: rest => some (.bool false, rest)
    | '"' :: rest =>
      match stringLiteral rest with
      | some (some text, rest) => some (.str text, rest)
      | some (none, rest) => some (.unreadable, rest)
      | none => none
    | '[' :: rest =>
      match skipBlank rest with
      | ']' :: rest => some (listAt depth [], rest)
      | rest =>
        match elements fuel (depth - 1) rest with
        | some (items, rest) => some (listAt depth items, rest)
        | none => none
    | '\x7b' :: rest =>
      match skipBlank rest with
      | '\x7d' :: rest => some (objectAt depth [], rest)
      | rest =>
        match members fuel (depth - 1) rest with
        | some (fields, rest) => some (objectAt depth fields, rest)
        | none => none
    | text => number text

/-- The items of a list up to its closing bracket, at least one. -/
def elements : (fuel depth : Nat) → List Char → Option (List Json × List Char)
  | 0, _, _ => none
  | fuel + 1, depth, text =>
    match value fuel depth text with
    | none => none
    | some (item, rest) =>
      match skipBlank rest with
      | ']' :: rest => some ([item], rest)
      | ',' :: rest =>
        match elements fuel depth (skipBlank rest) with
        | some (items, rest) => some (item :: items, rest)
        | none => none
      | _ => none

/-- The fields of an object up to its closing brace, at least one. -/
def members : (fuel depth : Nat) → List Char → Option (List (Option String × Json) × List Char)
  | 0, _, _ => none
  | fuel + 1, depth, text =>
    match text with
    | '"' :: rest =>
      match stringLiteral rest with
      | none => none
      | some (name, rest) =>
        match skipBlank rest with
        | ':' :: rest =>
          match value fuel depth (skipBlank rest) with
          | none => none
          | some (item, rest) =>
            match skipBlank rest with
            | '\x7d' :: rest => some ([(name, item)], rest)
            | ',' :: rest =>
              match members fuel depth (skipBlank rest) with
              | some (fields, rest) => some ((name, item) :: fields, rest)
              | none => none
            | _ => none
        | _ => none
    | _ => none

end

end Reader

/-- How many levels of lists and objects a file may nest. -/
def nestingLimit : Nat := 127

/-- The value a text spells, with at most `depth` levels of lists and objects. -/
def readNested (depth : Nat) (text : String) : Option Json :=
  let chars := text.toList
  match Reader.value (2 * chars.length + 2) depth (Reader.skipBlank chars) with
  | some (value, rest) => if (Reader.skipBlank rest).isEmpty then some value else none
  | none => none

/-- The value a text spells. -/
def read (text : String) : Option Json :=
  readNested nestingLimit text

end ModularRouter.Json
