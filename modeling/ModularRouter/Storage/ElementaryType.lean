import ModularRouter.Text.Blank
import ModularRouter.Text.Numeral
import ModularRouter.Text.Search

/-!
# Elementary types

The types of the language itself, by name and by the space that a value of theirs takes. A value
that packs with its neighbours takes bytes, any other takes whole words.
-/

namespace ModularRouter.Storage

/-- The size of a word in bytes. -/
def wordSize : Nat := 32

/-! ## Footprints -/

/-- The space a value takes. -/
inductive Footprint where
  /-- A value packed with its neighbours, by its size in bytes. -/
  | bytes (size : Nat)
  /-- Whole words, shared with no other value. -/
  | slots (count : Nat)
  deriving Repr, DecidableEq

namespace Footprint

/-- How many words a value takes on its own. -/
def toSlots : Footprint → Nat
  | .bytes _ => 1
  | .slots count => count

/-- The space in words for a reader. -/
def toText : Footprint → String
  | .bytes size => toString size ++ " bytes"
  | .slots 1 => "1 slot"
  | .slots count => toString count ++ " slots"

end Footprint

/-! ## Elementary types -/

/-- A type of the language itself. -/
inductive ElementaryType where
  /-- An account. -/
  | address
  /-- A truth value. -/
  | bool
  /-- A natural number of a width in bits. -/
  | uint (bits : Nat)
  /-- A number with a sign, of a width in bits. -/
  | int (bits : Nat)
  /-- A string of 1 to 32 bytes. -/
  | fixedBytes (length : Nat)
  /-- A string of any bytes. -/
  | bytes
  /-- A string of any characters. -/
  | string
  /-- A reference to a function; an external one holds an account too. -/
  | function (external : Bool)
  deriving Repr, DecidableEq

namespace ElementaryType

/-- A width in bits: a positive multiple of eight up to 256. -/
def bits? (text : List Char) : Option Nat :=
  (Text.Numeral.unsigned? 10 (Nat.pow 2 16) text).filter fun bits =>
    0 < bits && bits ≤ 256 && bits % 8 == 0

/-- A length in bytes: 1 to 32. -/
def length? (text : List Char) : Option Nat :=
  (Text.Numeral.unsigned? 10 (Nat.pow 2 8) text).filter fun length =>
    1 ≤ length && length ≤ wordSize

/-- The type of a name that carries a width or a length. -/
def sized? (name : List Char) : Option ElementaryType :=
  match Text.dropStart? "uint".toList name with
  | some digits => (bits? digits).map uint
  | none =>
    match Text.dropStart? "int".toList name with
    | some digits => (bits? digits).map int
    | none =>
      match Text.dropStart? "bytes".toList name with
      | some digits => (length? digits).map fixedBytes
      | none => none

/-- The type of a name, with white space around it or without. -/
def parse? (name : String) : Option ElementaryType :=
  let name := Text.trim name.toList
  match String.ofList name with
  | "address" => some address
  | "address payable" => some address
  | "bool" => some bool
  | "uint" => some (uint 256)
  | "int" => some (int 256)
  | "byte" => some (fixedBytes 1)
  | "bytes" => some bytes
  | "string" => some string
  | "function" => some (function false)
  | "function internal" => some (function false)
  | "function external" => some (function true)
  | _ => sized? name

/-- The one name of a type that stands in dumps. -/
def canonical : ElementaryType → String
  | .address => "address"
  | .bool => "bool"
  | .uint bits => "uint" ++ toString bits
  | .int bits => "int" ++ toString bits
  | .fixedBytes length => "bytes" ++ toString length
  | .bytes => "bytes"
  | .string => "string"
  | .function true => "function external"
  | .function false => "function"

/-- The space a value of the type takes. -/
def footprint : ElementaryType → Footprint
  | .address => .bytes 20
  | .bool => .bytes 1
  | .uint bits => .bytes (bits / 8)
  | .int bits => .bytes (bits / 8)
  | .fixedBytes length => .bytes length
  | .function true => .bytes 24
  | .function false => .bytes 8
  | .bytes => .slots 1
  | .string => .slots 1

/-- Whether the type may be the key of a mapping. -/
def isKey : ElementaryType → Bool
  | .function _ => false
  | _ => true

end ElementaryType

end ModularRouter.Storage
