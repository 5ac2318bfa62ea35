import ModularRouter.Text.Unprintable

/-!
# Quoted text

Text between double quotes, written so that every character can be told from its neighbours: the
quote and the backslash behind a backslash, the usual line controls by letter, and every other
character that would not show as itself by its code point in braces.
-/

namespace ModularRouter.Text.Quoted

/-- The escape `\u` with a code point in braces, lower case without leading zeros. -/
def codePoint (c : Char) : List Char :=
  ['\\', 'u', '\x7b'] ++ Nat.toDigits 16 c.toNat ++ ['\x7d']

/-- How one character is written inside quotes. -/
def encodeChar (c : Char) : List Char :=
  if c = '"' ∨ c = '\\' then ['\\', c]
  else if c = '\n' then ['\\', 'n']
  else if c = '\r' then ['\\', 'r']
  else if c = '\t' then ['\\', 't']
  else if c.toNat = 0 then ['\\', '0']
  else if isUnprintable c then codePoint c
  else [c]

/-- The text between quotes. -/
def encode (text : String) : String :=
  String.ofList ('"' :: (text.toList.flatMap encodeChar ++ ['"']))

end ModularRouter.Text.Quoted
