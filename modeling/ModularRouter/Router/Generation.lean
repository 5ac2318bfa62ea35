import ModularRouter.Router.Source

/-!
# Generating a router

From module contracts to the source of the router over them: their functions are collected, checked
for collisions, sorted by their selectors and put into a dispatch tree, which is then written out.
-/

namespace ModularRouter.Router

/-- How a router is generated. -/
structure Settings where
  /-- The name of the router. -/
  routerName : String := "Router"
  /-- How many functions a leaf of the tree holds at most. -/
  maxLeafSize : Nat := DispatchTree.defaultLeafSize
  /-- Which functions are put behind the router. -/
  filter : Filter := .standard
  /-- What the source is filled into. -/
  template : Template := .standard

/-- Functions by increasing selectors; those of one selector keep their order. -/
def sortBySelector (functions : List Function) : List Function :=
  functions.mergeSort fun a b => a.selector ≤ b.selector

/-- The functions of the contracts, unless two of them collide. -/
def collect (digest : Digest) (filter : Filter) (contracts : List ModuleContract) :
    Except RouterError (List Function) :=
  match functionsOfContracts digest filter contracts with
  | .error fragment => .error (.invalidFragment fragment)
  | .ok functions =>
    match collisions functions with
    | [] => .ok functions
    | collisions => .error (.selectorCollisions collisions)

/-- The dispatch tree over the functions of the contracts. -/
def dispatchTree (digest : Digest) (settings : Settings) (contracts : List ModuleContract) :
    Except RouterError DispatchTree :=
  if contracts.isEmpty then .error .noContracts
  else do
    let functions ← collect digest settings.filter contracts
    DispatchTree.build settings.maxLeafSize (sortBySelector functions)

/-- The source of the router over the contracts. -/
def generate (digest : Digest) (settings : Settings) (contracts : List ModuleContract) :
    Except RouterError String := do
  let tree ← dispatchTree digest settings contracts
  source digest settings.template settings.routerName contracts tree

end ModularRouter.Router
