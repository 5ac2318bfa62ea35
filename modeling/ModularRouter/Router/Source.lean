import ModularRouter.Router.DispatchTree
import ModularRouter.Router.Template

/-!
# The source of a router

The text of a router over a dispatch tree: a constant for the address of every module and a table of
nested comparisons. The left side of a branch stands in a block of its own and always ends in
`leave`, so the right side needs none.
-/

namespace ModularRouter.Router

/-- The name of the constant of a module, from the characters of the module's name: an underscore
goes before every run of capitals, and all letters become capitals. -/
def constantChars : (inRun : Bool) → List Char → List Char
  | _, [] => []
  | inRun, c :: rest =>
    if c.isUpper && !inRun then '_' :: c :: constantChars true rest
    else c.toUpper :: constantChars c.isUpper rest

/-- The name of the constant that holds the address of a module. -/
def constantName (contract : String) : String :=
  String.ofList (constantChars false contract.toList)

/-- The first contract that would get the constant of one before it. -/
def duplicate? (declared : List String) : List ModuleContract → Option ModuleContract
  | [] => none
  | contract :: rest =>
    let constant := constantName contract.name
    if constant ∈ declared then some contract else duplicate? (constant :: declared) rest

/-- The first function that belongs to none of the contracts. -/
def orphan? (contracts : List ModuleContract) (tree : DispatchTree) : Option Function :=
  tree.functions.find? fun function =>
    !contracts.any fun contract => contract.name == function.contract

/-- The blanks before a line that is indented by some steps. -/
def pad (indent : Nat) : String :=
  String.ofList (List.replicate (4 * indent) ' ')

/-- The line that declares the constant of a module. -/
def constantLine (digest : Digest) (indent : Nat) (contract : ModuleContract) : String :=
  pad indent ++ "address constant " ++ constantName contract.name ++ " = " ++
    contract.address.toText digest ++ ";"

/-- The line of a function in a leaf. -/
def caseLine (indent : Nat) (function : Function) : String :=
  pad indent ++ "case " ++ function.selector.toText ++ " \x7b result := " ++
    constantName function.contract ++ " \x7d // " ++ function.contract ++ "." ++ function.name ++
    "()"

/-- The lines of a table. -/
def tableLines (indent : Nat) : DispatchTree → List String
  | .leaf functions =>
    (pad indent ++ "switch sig") ::
      (functions.map (caseLine indent) ++ [pad indent ++ "leave"])
  | .branch left right =>
    (pad indent ++ "if lt(sig, " ++ (right.min?.getD 0).toText ++ ") \x7b") ::
      (tableLines (indent + 1) left ++ (pad indent ++ "\x7d") :: tableLines indent right)

/-- The block of constants. -/
def constantsBlock (digest : Digest) (indent : Nat) (contracts : List ModuleContract) : String :=
  "\n".intercalate (contracts.map (constantLine digest indent))

/-- The block of the table. -/
def tableBlock (indent : Nat) (tree : DispatchTree) : String :=
  "\n".intercalate (tableLines indent tree)

/-- The source of the router of a name over a tree. -/
def source (digest : Digest) (template : Template) (routerName : String)
    (contracts : List ModuleContract) (tree : DispatchTree) : Except RouterError String :=
  if contracts.isEmpty then .error .noContracts
  else
    match duplicate? [] contracts with
    | some contract => .error (.duplicateModule contract.name (constantName contract.name))
    | none =>
      match orphan? contracts tree with
      | some function => .error (.unknownModule function.contract function.selector)
      | none =>
        .ok (template.fill routerName
          (constantsBlock digest template.constantsIndent contracts)
          (tableBlock template.dispatchIndent tree))

end ModularRouter.Router
