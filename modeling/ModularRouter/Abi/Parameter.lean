import ModularRouter.Abi.TypeText
import ModularRouter.Json.Decode
import ModularRouter.Text.Search

/-!
# Parameters

The parameters of a function of an interface description and their canonical types, which the
signature of the function is made of. Parameters are read from objects only.
-/

namespace ModularRouter.Abi

/-- A parameter; one with components is a tuple or an array of tuples. -/
inductive Parameter where
  /-- The type as it is written, and the parameters that a tuple is made of. -/
  | mk (name typeText : String) (components : List Parameter)
  deriving Repr

namespace Parameter

mutual

/-- The type as it stands in a signature: a tuple is spelled out by its components. -/
def canonical : Parameter → List Char
  | .mk _ typeText [] => typeText.toList
  | .mk _ typeText (component :: rest) =>
    '(' :: (canonicalList (component :: rest) ++ [')'] ++ typeText.toList.drop "tuple".length)

/-- The types of a list of parameters between commas. -/
def canonicalList : List Parameter → List Char
  | [] => []
  | [parameter] => parameter.canonical
  | parameter :: rest => parameter.canonical ++ (',' :: canonicalList rest)

end

/-- Whether the written type fits the components. -/
def isWellTyped (typeText : String) (components : List Parameter) : Bool :=
  if components.isEmpty then isTypeText typeText.toList
  else "tuple".toList.isPrefixOf typeText.toList

/-- The name of a parameter, empty if it has none. -/
def nameOfJson? (json : Json) : Option String :=
  match json.defaulted? "name" with
  | some none => some ""
  | some (some part) => part.1.text?.filter fun name => name.isEmpty || isName name.toList
  | none => none

/-- The parameter that an object describes. Marks that belong to events alone are refused. -/
def ofJson? (json : Json) : Option Parameter := do
  let name ← nameOfJson? json
  let typeText ← json.requiredText? "type"
  let _ ← json.optionalText? "internalType"
  match json.optional? "indexed" with
  | some none =>
    let components ← (← json.defaultedList? "components").mapM fun ⟨part, _⟩ => ofJson? part
    if isWellTyped typeText components then some (.mk name typeText components) else none
  | _ => none
termination_by json.size

end Parameter

/-- The parameters that a list describes. -/
def parametersOfJson? (json : Json) : Option (List Parameter) := do
  (← json.parts?).mapM fun part => Parameter.ofJson? part.1

/-- The signature of a function: its name and the types of its parameters. -/
def signature (name : String) (inputs : List Parameter) : String :=
  String.ofList (name.toList ++ ('(' :: (Parameter.canonicalList inputs ++ [')'])))

end ModularRouter.Abi
