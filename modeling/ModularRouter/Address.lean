import ModularRouter.Hash.Keccak
import ModularRouter.Json.Decode
import ModularRouter.Text.Hex
import ModularRouter.Text.Utf8

/-!
# Addresses

An address is read from forty hexadecimal digits or from twenty bytes. It is written in the form
with a checksum: a letter is a capital where the digest of the digits says so.
-/

namespace ModularRouter

/-- Where a contract is deployed. -/
abbrev Address := BitVec 160

namespace Address

/-- The digit at a place of a digest, the most significant first. -/
def digestDigit (word : Word) (place : Nat) : Nat :=
  word.toNat / Nat.pow 16 (63 - place) % 16

/-- The text of an address: the digits of which `digest` has an eight or more at their place are
capitals. -/
def toText (digest : Digest) (address : Address) : String :=
  let digits := Text.Hex.ofNat 40 address.toNat
  let word := digest (Text.utf8 (String.ofList digits))
  let marked := digits.mapIdx fun place digit =>
    if digestDigit word place < 8 then digit else digit.toUpper
  String.ofList ('0' :: 'x' :: marked)

/-- The address of twenty bytes. -/
def ofBytes? (bytes : List UInt8) : Option Address :=
  if bytes.length = 20 then
    some (BitVec.ofNat 160 (bytes.foldl (fun value byte => 256 * value + byte.toNat) 0))
  else none

/-- The address that forty digits of either case spell, behind a mark or not. -/
def ofText? (text : String) : Option Address := do
  ofBytes? (← Text.Hex.toBytes? (Text.Hex.dropMark text.toList))

/-- The byte that a value is. -/
def byte? (item : Json) : Option UInt8 :=
  (item.nat? 256).map UInt8.ofNat

/-- The address of a list of bytes. The twenty bytes may be followed by one item, as long as that is
no byte as well. -/
def ofItems? (items : List Json) : Option Address :=
  match items.drop 20 with
  | [] => do ofBytes? (← items.mapM byte?)
  | [surplus] => if (byte? surplus).isSome then none else do
    ofBytes? (← (items.take 20).mapM byte?)
  | _ => none

/-- An address by its text or by its bytes. -/
def ofJson? : Json → Option Address
  | .str text => ofText? text
  | .arr items => ofItems? items
  | _ => none

end Address

end ModularRouter
