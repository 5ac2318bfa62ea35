import ModularRouter.Json.Decode
import ModularRouter.Json.Reader

/-!
# Items that are given up

Where a reader stands that looked for a byte and gave up. A value of another kind has been read over
to its end, but for a list or an object, which has not been entered. What spells no value has been
read over up to the first thing that is wrong with it; where that shows only when a character is
taken, the character is behind the reader. The reader goes by the bytes of the text, so it may stand
inside a character, where nothing can be taken up.
-/

namespace ModularRouter.Json.Surplus

open Reader

/-- The text behind some of its bytes, unless that is inside a character or behind the end. -/
def dropBytes? : (count : Nat) → List Char → Option (List Char)
  | 0, text => some text
  | _ + 1, [] => none
  | count + 1, c :: rest =>
    if c.utf8Size ≤ count + 1 then dropBytes? (count + 1 - c.utf8Size) rest else none

/-- Behind a word, or behind the first character that is another one. -/
def afterWord? : (word text : List Char) → Option (List Char)
  | [], text => some text
  | _ :: _, [] => none
  | letter :: word, c :: rest =>
    if c = letter then afterWord? word rest else dropBytes? 1 (c :: rest)

/-- Behind a string, from its opening quote on, or behind what spells no text. An escape `\u` takes
four bytes at once, and behind the first half of a surrogate pair one byte is taken even if no
second half follows. -/
def afterString? : List Char → Option (List Char)
  | [] => none
  | '"' :: rest => some rest
  | '\\' :: 'u' :: a :: b :: c :: d :: rest =>
    match codeUnit? a b c d with
    | none => dropBytes? 4 (a :: b :: c :: d :: rest)
    | some code =>
      if isLowSurrogate code then some rest
      else if isHighSurrogate code then
        match rest with
        | '\\' :: 'u' :: a :: b :: c :: d :: rest =>
          match codeUnit? a b c d with
          | none => dropBytes? 4 (a :: b :: c :: d :: rest)
          | some code => if isLowSurrogate code then afterString? rest else some rest
        | '\\' :: 'u' :: rest => dropBytes? 4 rest
        | '\\' :: rest => dropBytes? 1 rest
        | rest => dropBytes? 1 rest
      else afterString? rest
  | '\\' :: 'u' :: rest => dropBytes? 4 rest
  | '\\' :: c :: rest =>
    if (shortEscape? c).isSome then afterString? rest else dropBytes? 1 (c :: rest)
  | c :: rest =>
    if c = '\\' then none else if c.toNat < 0x20 then some rest else afterString? rest

/-- Whether the exponent of a literal is left before its last digit: it is too large already, and
the number is too large with it. -/
def leavesExponent (literal : Literal) : Bool :=
  match literal.exponent with
  | some (false, digits) =>
    Nat.pow 2 31 ≤ Literal.decimal digits.dropLast && literal.scientific.1 ≠ 0
  | _ => false

/-- Behind an exponent without digits: the character that should be a digit is taken. -/
def afterBareExponent? : List Char → Option (List Char)
  | '+' :: rest => dropBytes? 1 rest
  | '-' :: rest => dropBytes? 1 rest
  | rest => dropBytes? 1 rest

/-- Behind what starts as a number, without its sign, and is none. -/
def afterBrokenNumber? (text : List Char) : Option (List Char) :=
  match wholeDigits text, text with
  | none, '0' :: _ => none
  | none, text => dropBytes? 1 text
  | some (_, '.' :: rest), _ =>
    match digitRun rest with
    | none => some rest
    | some (_, rest) => afterBareExponent? (rest.drop 1)
  | some (_, rest), _ => afterBareExponent? (rest.drop 1)

/-- Behind a number that is no byte, or behind what starts as a number and is none. -/
def afterNumber? (text : List Char) : Option (List Char) :=
  match numberLiteral text with
  | some (literal, rest) =>
    if (literal.toJson.nat? 256).isSome || leavesExponent literal then none else some rest
  | none =>
    match text with
    | '-' :: rest => afterBrokenNumber? rest
    | text => afterBrokenNumber? text

/-- Where a reader stands that looked for a byte; nowhere if it found one. -/
def after? (text : List Char) : Option (List Char) :=
  match text with
  | 'n' :: rest => afterWord? ['u', 'l', 'l'] rest
  | 't' :: rest => afterWord? ['r', 'u', 'e'] rest
  | 'f' :: rest => afterWord? ['a', 'l', 's', 'e'] rest
  | '"' :: rest => afterString? rest
  | c :: _ => if c = '-' || c.isDigit then afterNumber? text else some text
  | [] => none

end ModularRouter.Json.Surplus
