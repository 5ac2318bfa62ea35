import ModularRouter.Hash.Keccak
import ModularRouter.Text.Hex
import ModularRouter.Text.Utf8

/-!
# Functions behind a router

A call names the function it wants by a selector, the first four bytes of the digest of the
function's signature.
-/

namespace ModularRouter.Router

/-- The number by which a call names a function. -/
abbrev Selector := BitVec 32

namespace Selector

/-- The selector of a function with a signature. -/
def ofSignature (digest : Digest) (signature : String) : Selector :=
  BitVec.ofNat 32 ((digest (Text.utf8 signature)).toNat / Nat.pow 2 224)

/-- The eight digits of a selector behind the mark `0x`. -/
def toText (selector : Selector) : String :=
  Text.Hex.marked 8 selector.toNat

/-- The selector of a text of eight digits behind the mark `0x`. -/
def ofText? (text : String) : Option Selector :=
  match text.toList with
  | '0' :: 'x' :: digits =>
    if digits.length = 8 then (Text.Numeral.digits? 16 digits).map (BitVec.ofNat 32) else none
  | _ => none

end Selector

/-- A function of a module contract. -/
structure Function where
  /-- The name of the contract that declares it. -/
  contract : String
  /-- Its name. -/
  name : String
  /-- Its name and the types of its parameters. -/
  signature : String
  /-- The number by which a call names it. -/
  selector : Selector
  deriving Repr, DecidableEq

/-- A function as it is shown: its contract and its signature. -/
def Function.toText (function : Function) : String :=
  function.contract ++ "." ++ function.signature

end ModularRouter.Router
