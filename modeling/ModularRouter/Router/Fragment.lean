import ModularRouter.Abi.Parameter
import ModularRouter.Address
import ModularRouter.Router.Filter
import ModularRouter.Router.Function

/-!
# Fragments of an interface description

An interface description lists what a contract offers, one fragment after the other. The functions
among them that a filter accepts are what a module brings behind the router. Whatever is no function
is passed over, and so is a function that the filter rejects, however its parameters are written.
-/

namespace ModularRouter.Router

/-- What is wrong with a fragment. -/
inductive FragmentFault where
  /-- It is no object. -/
  | notObject
  /-- Its type is no text. -/
  | typeNotText
  /-- It is a function without a name. -/
  | unnamed
  /-- It is a function of which no parameters are given. -/
  | withoutInputs (function : String)
  /-- It is a function with parameters that cannot be understood. What their decoder says of them is
  not kept. -/
  | invalidInputs (function : String)
  deriving Repr, DecidableEq

/-- What is said about a fragment. Behind parameters that cannot be understood a colon and the reason
that their decoder gives would follow; both are left out. -/
def FragmentFault.message : FragmentFault → String
  | .notObject => "fragment is not an object"
  | .typeNotText => "fragment type is not a string"
  | .unnamed => "function has no name"
  | .withoutInputs function => "function " ++ function ++ " has no inputs"
  | .invalidInputs function => "function " ++ function ++ " has invalid inputs"

/-- The first fragment of a description with something wrong. -/
structure InvalidFragment where
  /-- The contract described. -/
  contract : String
  /-- The place of the fragment in the description, from zero. -/
  index : Nat
  /-- What is wrong. -/
  fault : FragmentFault
  deriving Repr, DecidableEq

/-- What is said about a description with a fragment that cannot be used. -/
def InvalidFragment.message (invalid : InvalidFragment) : String :=
  "invalid ABI fragment #" ++ toString invalid.index ++ " of " ++ invalid.contract ++ ": " ++
    invalid.fault.message

/-- A module contract: what it offers and where it is deployed. -/
structure ModuleContract where
  /-- Its name. -/
  name : String
  /-- Where it is deployed. -/
  address : Address
  /-- The fragments of its interface description. -/
  abi : List Json
  deriving Repr

/-- Whether a fragment is a function, which it also is if it does not say what it is. -/
def isFunction (fragment : Json) : Except FragmentFault Bool :=
  match fragment.field? "type" with
  | none => .ok true
  | some (.str kind) => .ok (kind == "function")
  | some _ => .error .typeNotText

/-- The name of a function. -/
def functionName (fragment : Json) : Except FragmentFault String :=
  match fragment.field? "name" with
  | some (.str name) => if name.isEmpty then .error .unnamed else .ok name
  | _ => .error .unnamed

/-- The function of a contract that a fragment describes, if there is one and the filter
accepts it. -/
def functionOfFragment (digest : Digest) (filter : Filter) (contract : String) (fragment : Json) :
    Except FragmentFault (Option Function) := do
  if !fragment.isObject then
    .error .notObject
  else if !(← isFunction fragment) then
    .ok none
  else
    let name ← functionName fragment
    match fragment.field? "inputs" with
    | none => .error (.withoutInputs name)
    | some inputs =>
      if !filter.accepts name then
        .ok none
      else
        match Abi.parametersOfJson? inputs with
        | none => .error (.invalidInputs name)
        | some inputs =>
          let signature := Abi.signature name inputs
          .ok (some ⟨contract, name, signature, .ofSignature digest signature⟩)

/-- The functions that the fragments from a place on describe. -/
def functionsFrom (digest : Digest) (filter : Filter) (contract : String) :
    (index : Nat) → List Json → Except InvalidFragment (List Function)
  | _, [] => .ok []
  | index, fragment :: rest =>
    match functionOfFragment digest filter contract fragment with
    | .error fault => .error ⟨contract, index, fault⟩
    | .ok function => do
      let functions ← functionsFrom digest filter contract (index + 1) rest
      .ok (function.toList ++ functions)

/-- The functions of a description that a filter accepts, in its order. -/
def functionsOfAbi (digest : Digest) (filter : Filter) (contract : String) (abi : List Json) :
    Except InvalidFragment (List Function) :=
  functionsFrom digest filter contract 0 abi

/-- The functions of several module contracts, one contract after the other. -/
def functionsOfContracts (digest : Digest) (filter : Filter) :
    List ModuleContract → Except InvalidFragment (List Function)
  | [] => .ok []
  | contract :: rest => do
    let functions ← functionsOfAbi digest filter contract.name contract.abi
    let others ← functionsOfContracts digest filter rest
    .ok (functions ++ others)

end ModularRouter.Router
