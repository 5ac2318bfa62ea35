/-!
# Selections

Which contracts an analysis looks at: those whose source path starts with one of some texts and
whose name is one of some names. An empty list restricts nothing.
-/

namespace ModularRouter.Storage

/-- Which contracts are looked at. -/
structure Selection where
  /-- What source paths start with. -/
  sources : List String
  /-- The names of contracts. -/
  contracts : List String
  deriving Repr, DecidableEq

namespace Selection

/-- Every contract. -/
def all : Selection := ⟨[], []⟩

/-- Whether the files of a path are looked at. -/
def matchesSource (selection : Selection) (path : String) : Bool :=
  selection.sources.isEmpty ||
    selection.sources.any fun source => source.toList.isPrefixOf path.toList

/-- Whether a contract is looked at. -/
def matchesContract (selection : Selection) (path contract : String) : Bool :=
  selection.matchesSource path &&
    (selection.contracts.isEmpty || selection.contracts.contains contract)

/-- Whether the functions of a file that belong to no contract are looked at: a restriction to
names of contracts leaves them out. -/
def matchesFreeFunctions (selection : Selection) (path : String) : Bool :=
  selection.contracts.isEmpty && selection.matchesSource path

end Selection

end ModularRouter.Storage
