import ModularRouter.Address
import ModularRouter.Association
import ModularRouter.Json.Surplus

/-!
# Deployed addresses

The registry of deployed contracts is an object with an address for each name. Its text is read
field by field, because the bytes of an address may be followed by something that is no byte, which
need not be JSON: the address ends where the closing bracket comes next after it has been given up.
-/

namespace ModularRouter.Artifact

/-- The addresses of deployed contracts by their names. -/
abbrev Deployments := List (String × Address)

namespace Deployments

open Json.Reader (skipBlank stringLiteral number)

/-- The addresses by increasing names. -/
def sorted (deployments : Deployments) : Deployments :=
  deployments.mergeSort fun a b => decide (a.1 ≤ b.1)

/-- The addresses that the fields of an object are. All fields have to be addresses; of several
fields of one name the last one counts. -/
def ofFields? (seen : Deployments) : List (String × Json) → Option Deployments
  | [] => some seen
  | (name, value) :: rest => do
    ofFields? (Association.put name (← Address.ofJson? value) seen) rest

/-- The registry that an object is. -/
def ofJson? : Json → Option Deployments
  | .obj fields => (ofFields? [] fields).map sorted
  | _ => none

/-! ## Text -/

/-- What follows a comma, if one comes next. -/
def afterComma? (text : List Char) : Option (List Char) :=
  match skipBlank text with
  | ',' :: rest => some rest
  | _ => none

/-- What follows a closing bracket, if one comes next. -/
def afterBracket? (text : List Char) : Option (List Char) :=
  match skipBlank text with
  | ']' :: rest => some rest
  | _ => none

/-- A number of bytes between commas. -/
def bytes? : (count : Nat) → List Char → Option (List UInt8 × List Char)
  | 0, text => some ([], text)
  | count + 1, text => do
    let (value, text) ← number (skipBlank text)
    let byte ← Address.byte? value
    let (rest, text) ← bytes? count (← if count = 0 then some text else afterComma? text)
    return (byte :: rest, text)

/-- What follows the end of a list of bytes, which may have a surplus item that is no byte. -/
def afterBytes? (text : List Char) : Option (List Char) :=
  match afterComma? text with
  | none => afterBracket? text
  | some rest => do afterBracket? (← Json.Surplus.after? (skipBlank rest))

/-- An address: a string, or a list of bytes. -/
def address? : List Char → Option (Address × List Char)
  | '"' :: rest => do
    let (text, rest) ← stringLiteral rest
    return (← Address.ofText? (← text), rest)
  | '[' :: rest => do
    let (bytes, rest) ← bytes? 20 rest
    return (← Address.ofBytes? bytes, ← afterBytes? rest)
  | _ => none

/-- A name and its address. -/
def entry? : List Char → Option ((String × Address) × List Char)
  | '"' :: rest => do
    let (name, rest) ← stringLiteral rest
    match skipBlank rest with
    | ':' :: rest =>
      let (address, rest) ← address? (skipBlank rest)
      return ((← name, address), rest)
    | _ => none
  | _ => none

/-- The entries of an object up to its closing brace, at least one. The fuel bounds their number. -/
def entries? : (fuel : Nat) → Deployments → List Char → Option (Deployments × List Char)
  | 0, _, _ => none
  | fuel + 1, seen, text => do
    let ((name, address), rest) ← entry? text
    let seen := Association.put name address seen
    match skipBlank rest with
    | '\x7d' :: rest => some (seen, rest)
    | ',' :: rest => entries? fuel seen (skipBlank rest)
    | _ => none

/-- The entries between braces. -/
def object? (text : List Char) : Option (Deployments × List Char) :=
  match skipBlank text with
  | '\x7b' :: rest =>
    match skipBlank rest with
    | '\x7d' :: rest => some ([], rest)
    | rest => entries? rest.length [] rest
  | _ => none

/-- The registry that a text is. -/
def read? (text : String) : Option Deployments := do
  let (deployments, rest) ← object? text.toList
  if (skipBlank rest).isEmpty then some deployments.sorted else none

end Deployments

end ModularRouter.Artifact
