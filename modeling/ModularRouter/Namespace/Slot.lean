import ModularRouter.Hash.Keccak
import ModularRouter.Text.Hex
import ModularRouter.Text.Quoted

/-!
# Slots of namespaces

A contract anchors its namespace by assigning a fixed slot to a storage pointer. The slot is either
known as a word or identified by the seed it is hashed from.
-/

namespace ModularRouter.Namespace

/-- What is known of a slot. -/
inductive Slot where
  /-- Its number. -/
  | word (value : Word)
  /-- The first value that is encoded and hashed to give its number. -/
  | seed (text : String)
  deriving Repr, DecidableEq

/-- A slot as it is shown. -/
def Slot.toText : Slot → String
  | .word value => Text.Hex.marked 64 value.toNat
  | .seed text => "keccak256(abi.encode(" ++ Text.Quoted.encode text ++ ", ...))"

/-- An assignment of a slot to a storage pointer. -/
structure SlotAssignment where
  /-- The path of the source file. -/
  sourceUnit : String
  /-- The contract it stands in, or the path of the source file if it stands in none. -/
  contract : String
  /-- The function or modifier it stands in. -/
  function : String
  /-- The pointer. -/
  target : String
  /-- The slot. -/
  slot : Slot
  deriving Repr, DecidableEq

/-- An assignment as it is shown: where it stands. -/
def SlotAssignment.toText (assignment : SlotAssignment) : String :=
  assignment.contract ++ "." ++ assignment.function ++ "() in " ++ assignment.sourceUnit

end ModularRouter.Namespace
