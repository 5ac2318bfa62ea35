import ModularRouter.Router.Fragment

/-!
# Module fixtures

Interface descriptions made of functions whose parameters have no names.
-/

namespace ModularRouter.Fixture

/-- A parameter of a type. -/
def parameterFragment (type : String) : Json :=
  .obj [("name", .str ""), ("type", .str type), ("internalType", .str type)]

/-- A function with parameters of some types. -/
def functionFragment (name : String) (inputs : List String) : Json :=
  .obj [("type", .str "function"), ("name", .str name),
    ("inputs", .arr (inputs.map parameterFragment)), ("outputs", .arr []),
    ("stateMutability", .str "nonpayable")]

/-- A module contract with one function for each name and list of types. -/
def moduleContract (name : String) (address : Address) (functions : List (String × List String)) :
    Router.ModuleContract :=
  ⟨name, address, functions.map fun (function, inputs) => functionFragment function inputs⟩

end ModularRouter.Fixture
