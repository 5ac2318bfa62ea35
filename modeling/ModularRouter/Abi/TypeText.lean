import ModularRouter.Text.Numeral

/-!
# Type texts

The texts that spell the type of a parameter: a name, or a list of types in parentheses, followed by
any number of array brackets. `isTypeText` reads a text once, from left to right, and keeps only how
many lists are open and what may come next.
-/

namespace ModularRouter.Abi

/-- Whether a character can start a name. -/
def startsName (c : Char) : Bool :=
  ('a' ≤ c && c ≤ 'z') || ('A' ≤ c && c ≤ 'Z') || c == '$' || c == '_'

/-- Whether a character can stand in a name after its start. -/
def continuesName (c : Char) : Bool :=
  startsName c || ('0' ≤ c && c ≤ '9')

/-- Whether a text is a name. -/
def isName : List Char → Bool
  | [] => false
  | c :: rest => startsName c && rest.all continuesName

namespace TypeText

/-- How many lists may be open at once; the innermost of so many has to be empty. -/
def maxNesting : Nat := 80

/-- Where a reader of type texts stands. -/
inductive Place where
  /-- Before the whole type. -/
  | opening
  /-- Before a type of a list, or at its end. -/
  | element
  /-- Inside a name; the characters so far are kept from the last to the first. -/
  | name (seen : List Char)
  /-- Behind the dot of a name. -/
  | dot
  /-- Inside the part of a name that follows a dot. -/
  | qualified
  /-- Inside array brackets; the digits so far are kept from the last to the first. -/
  | length (seen : List Char)
  /-- Behind a closed list or array bracket. -/
  | closed
  /-- Behind blanks that follow a type of a list. -/
  | blank

/-- Whether a list may follow the name that has been read. -/
def namesList (seen : List Char) : Bool :=
  seen.reverse == "tuple".toList

/-- Whether an array may have the length that some digits spell: any at all if there are none. -/
def isLength (digits : List Char) : Bool :=
  digits.isEmpty ||
    match Text.Numeral.digits? 10 digits with
    | some length => 0 < length && length < Nat.pow 2 64
    | none => false

/-- One step into a type, which is a list or starts with a name. No type stands in as many lists as
may be open at once. -/
def startType (depth : Nat) (c : Char) : Option (Nat × Place) :=
  if maxNesting ≤ depth then none
  else if c = '(' then some (depth + 1, .element)
  else if startsName c then some (depth, .name [c])
  else none

/-- One step out of a list. -/
def closeList : (depth : Nat) → Option (Nat × Place)
  | 0 => none
  | depth + 1 => some (depth, .closed)

/-- One step behind a type that is complete. -/
def afterType (depth : Nat) (c : Char) : Option (Nat × Place) :=
  if c = '[' then some (depth, .length [])
  else if c = ')' then closeList depth
  else if depth = 0 then none
  else if c = ',' then some (depth, .element)
  else if c = ' ' ∨ c = '\t' then some (depth, .blank)
  else none

/-- One step of the reader, with the count of open lists. -/
def step (depth : Nat) (place : Place) (c : Char) : Option (Nat × Place) :=
  match place with
  | .opening => startType depth c
  | .element =>
    if c = ')' then closeList depth
    else if c = ' ' ∨ c = '\t' then some (depth, .element)
    else startType depth c
  | .name seen =>
    if continuesName c then some (depth, .name (c :: seen))
    else if c = '.' then some (depth, .dot)
    else if c = '(' then if namesList seen then some (depth + 1, .element) else none
    else afterType depth c
  | .dot => if startsName c then some (depth, .qualified) else afterType depth c
  | .qualified => if continuesName c then some (depth, .qualified) else afterType depth c
  | .length seen =>
    if '0' ≤ c ∧ c ≤ '9' then some (depth, .length (c :: seen))
    else if c = ']' then if isLength seen.reverse then some (depth, .closed) else none
    else none
  | .closed => afterType depth c
  | .blank =>
    if c = ')' then closeList depth
    else if c = ' ' ∨ c = '\t' then some (depth, .blank)
    else none

/-- Whether a type is complete. -/
def Place.isComplete : Place → Bool
  | .name _ | .dot | .qualified | .closed => true
  | _ => false

/-- Whether the rest of a text completes the type. -/
def accepts (depth : Nat) (place : Place) : List Char → Bool
  | [] => depth == 0 && place.isComplete
  | c :: rest =>
    match step depth place c with
    | some (depth, place) => accepts depth place rest
    | none => false

end TypeText

/-- Whether a text spells a type. -/
def isTypeText (text : List Char) : Bool :=
  TypeText.accepts 0 .opening text

end ModularRouter.Abi
