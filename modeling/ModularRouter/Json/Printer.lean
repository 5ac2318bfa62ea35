import ModularRouter.Double.Shortest
import ModularRouter.Json.Basic
import ModularRouter.Text.Hex

/-!
# Writing JSON

Two layouts of the same text: `compact`, without any blanks, and `pretty`, one item a line and two
spaces of indentation a level. Strings escape the quote, the backslash and the controls below the
space, and nothing else.
-/

namespace ModularRouter.Json

/-- How one character is written inside a string. -/
def escapeChar (c : Char) : List Char :=
  if c = '"' ∨ c = '\\' then ['\\', c]
  else if c.toNat = 0x08 then ['\\', 'b']
  else if c.toNat = 0x0C then ['\\', 'f']
  else if c = '\n' then ['\\', 'n']
  else if c = '\r' then ['\\', 'r']
  else if c = '\t' then ['\\', 't']
  else if c.toNat < 0x20 then ['\\', 'u'] ++ Text.Hex.ofNat 4 c.toNat
  else [c]

/-- A string between quotes. -/
def quoted (text : String) : List Char :=
  '"' :: (text.toList.flatMap escapeChar ++ ['"'])

/-- A whole number. -/
def integerChars : Int → List Char
  | .ofNat value => Nat.toDigits 10 value
  | .negSucc value => '-' :: Nat.toDigits 10 (value + 1)

/-- A decimal, with an exponent only if its first digit stands at the 17th place before the point or
farther, or at the sixth place behind it or farther. -/
def decimalChars (decimal : Double.Decimal) : List Char :=
  let digits := Nat.toDigits 10 decimal.digits
  let point := digits.length + decimal.exponent
  if 0 ≤ decimal.exponent ∧ point ≤ 16 then
    digits ++ List.replicate decimal.exponent.toNat '0' ++ ['.', '0']
  else if 0 < point ∧ point ≤ 16 then
    digits.take point.toNat ++ '.' :: digits.drop point.toNat
  else if -5 < point ∧ point ≤ 0 then
    '0' :: '.' :: (List.replicate (-point).toNat '0' ++ digits)
  else
    let fraction := if digits.length ≤ 1 then [] else '.' :: digits.drop 1
    let sign := if 0 < point then ['+'] else []
    digits.take 1 ++ fraction ++ 'e' :: (sign ++ integerChars (point - 1))

/-- A double, by its shortest decimal. -/
def doubleChars (value : Double) : List Char :=
  (if value.negative then ['-'] else []) ++ decimalChars (Double.shortest value.size)

/-- A number as it is written. -/
def Number.toChars : Number → List Char
  | .integer value => integerChars value
  | .real value => doubleChars value

/-- The text of a value that is neither a list nor an object. -/
def scalarChars : Json → List Char
  | .bool true => ['t', 'r', 'u', 'e']
  | .bool false => ['f', 'a', 'l', 's', 'e']
  | .number value => value.toChars
  | .str text => quoted text
  | _ => ['n', 'u', 'l', 'l']

mutual

/-- The text of a value without blanks. -/
def compactChars : Json → List Char
  | .arr items => '[' :: (compactItems items ++ [']'])
  | .obj fields => '\x7b' :: (compactFields fields ++ ['\x7d'])
  | value => scalarChars value

/-- The items of a list between commas. -/
def compactItems : List Json → List Char
  | [] => []
  | [item] => compactChars item
  | item :: rest => compactChars item ++ ',' :: compactItems rest

/-- The fields of an object between commas. -/
def compactFields : List (String × Json) → List Char
  | [] => []
  | [(name, value)] => quoted name ++ ':' :: compactChars value
  | (name, value) :: rest => quoted name ++ ':' :: (compactChars value ++ ',' :: compactFields rest)

end

/-- A new line indented by two spaces a level. -/
def newLine (level : Nat) : List Char :=
  '\n' :: List.replicate (2 * level) ' '

mutual

/-- The text of a value that stands at the given level of indentation. -/
def prettyChars (level : Nat) : Json → List Char
  | .arr [] => ['[', ']']
  | .arr (item :: rest) =>
    '[' :: (newLine (level + 1) ++ prettyChars (level + 1) item ++ prettyItems level rest)
  | .obj [] => ['\x7b', '\x7d']
  | .obj ((name, value) :: rest) =>
    '\x7b' :: (newLine (level + 1) ++ quoted name ++ [':', ' '] ++ prettyChars (level + 1) value ++
      prettyFields level rest)
  | value => scalarChars value

/-- What follows an item of a list: the items after it and the closing bracket. -/
def prettyItems (level : Nat) : List Json → List Char
  | [] => newLine level ++ [']']
  | item :: rest =>
    ',' :: (newLine (level + 1) ++ prettyChars (level + 1) item ++ prettyItems level rest)

/-- What follows a field of an object: the fields after it and the closing brace. -/
def prettyFields (level : Nat) : List (String × Json) → List Char
  | [] => newLine level ++ ['\x7d']
  | (name, value) :: rest =>
    ',' :: (newLine (level + 1) ++ quoted name ++ [':', ' '] ++ prettyChars (level + 1) value ++
      prettyFields level rest)

end

/-- The text of a value without blanks. -/
def compact (value : Json) : String :=
  String.ofList value.compactChars

/-- The text of a value, one item a line. -/
def pretty (value : Json) : String :=
  String.ofList (prettyChars 0 value)

end ModularRouter.Json
