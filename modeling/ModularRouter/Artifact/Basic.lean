import ModularRouter.Artifact.Deployments
import ModularRouter.Ast.Decode
import ModularRouter.Router.Fragment

/-!
# Artifacts

What a compiler leaves of a contract: its interface description and, if it was asked for it, the
syntax tree of its source file. Together with the registry of deployed addresses artifacts make the
module contracts of a router.
-/

namespace ModularRouter

open Ast (SourceUnit)

/-- A compiled contract. -/
structure Artifact where
  /-- The name of the contract. -/
  contractName : String
  /-- The path of its source file. -/
  sourceName : Option String
  /-- Its interface description. -/
  abi : List Json
  /-- The syntax tree of its source file. -/
  ast : Option SourceUnit
  deriving Repr

namespace Artifact

/-- A value that is kept as it is, if all of it can be read. -/
def keep? (json : Json) : Option Json :=
  if json.isReadable then some json.normalize else none

/-- The artifact that a value describes. -/
def ofJson? (json : Json) : Option Artifact := do
  let ⟨record, _⟩ ← json.record? ["contractName", "sourceName", "abi", "ast"]
  let abi ← record.defaultedList? "abi"
  let ast ← record.optional? "ast"
  return {
    contractName := ← record.requiredText? "contractName"
    sourceName := ← record.optionalText? "sourceName"
    abi := ← abi.mapM fun part => keep? part.1
    ast := ← Json.readOptional ast fun part => SourceUnit.ofJson part.1 }

/-- The artifact that a text describes. -/
def read? (text : String) : Option Artifact := do
  ofJson? (← Json.read text)

/-- The source files of artifacts, each path once. -/
def sourceUnits (artifacts : List Artifact) : List SourceUnit :=
  (artifacts.filterMap Artifact.ast).eraseDupsBy fun a b => a.path == b.path

/-! ## Module contracts -/

/-- A module without an address. -/
structure MissingDeployment where
  /-- The name of the module. -/
  contract : String
  deriving Repr, DecidableEq

/-- What is said about a module without an address. -/
def MissingDeployment.message (missing : MissingDeployment) : String :=
  "no deployed address for module " ++ missing.contract

/-- The module contract of an artifact. -/
def moduleContract (deployments : Deployments) (artifact : Artifact) :
    Except MissingDeployment Router.ModuleContract :=
  match deployments.lookup artifact.contractName with
  | some address => .ok ⟨artifact.contractName, address, artifact.abi⟩
  | none => .error ⟨artifact.contractName⟩

/-- The module contracts of artifacts. -/
def moduleContracts (artifacts : List Artifact) (deployments : Deployments) :
    Except MissingDeployment (List Router.ModuleContract) :=
  artifacts.mapM (moduleContract deployments)

end Artifact

end ModularRouter
