import ModularRouter.Grouping
import ModularRouter.Namespace.Scope
import ModularRouter.Storage.Selection

/-!
# Checking namespaces

The slot assignments of a project, in the order they are written: of every selected contract those
of its functions and then of its modifiers, and of every selected file those of its functions that
belong to no contract. Two contracts that assign one slot would overwrite each other.
-/

namespace ModularRouter.Namespace

open Ast (DeclarationIndex SourceUnit ContractDefinition Statement)
open Storage (Selection)

/-- A target whose slot is not known. -/
structure UnverifiableSlot where
  /-- The path of the source file. -/
  sourceUnit : String
  /-- The contract it stands in, or the path of the source file if it stands in none. -/
  contract : String
  /-- The function or modifier it stands in. -/
  function : String
  /-- Why the slot is not known. -/
  cause : UnknownSlot
  deriving Repr, DecidableEq

/-- What is said about a target whose slot is not known. -/
def UnverifiableSlot.message (unverifiable : UnverifiableSlot) : String :=
  unverifiable.sourceUnit ++ ": cannot verify slot assignment in " ++ unverifiable.contract ++
    "." ++ unverifiable.function ++ ": " ++ unverifiable.cause.message

/-! ## Routines -/

/-- A function or modifier with a body. -/
structure Routine where
  /-- Its name. -/
  name : String
  /-- Its statements. -/
  body : List Statement

/-- The routines of a contract: its functions, then its modifiers. -/
def contractRoutines (contract : ContractDefinition) : List Routine :=
  (contract.functions.filterMap fun function => function.body.map (Routine.mk function.name)) ++
    contract.modifiers.filterMap fun modifier => modifier.body.map (Routine.mk modifier.name)

/-- The routines of a file that belong to no contract. -/
def freeRoutines (unit : SourceUnit) : List Routine :=
  unit.functions.filterMap fun function => function.body.map (Routine.mk function.name)

/-- What a routine sees. -/
def Scope.ofRoutine (index : DeclarationIndex) (unit : SourceUnit)
    (contract : Option ContractDefinition) (routine : Routine) : Scope :=
  ⟨index, unit, contract, routine.name, localsOf routine.body⟩

/-! ## Assignments -/

/-- The assignment at a target. -/
def assignment (digest : Digest) (scope : Scope) (target : SlotTarget) :
    Except UnverifiableSlot SlotAssignment :=
  match scope.targetSlot digest target with
  | .ok slot => .ok ⟨scope.unit.path, scope.owner, scope.routine, target.pointer, slot⟩
  | .error cause => .error ⟨scope.unit.path, scope.owner, scope.routine, cause⟩

/-- The assignments of a routine. -/
def routineAssignments (digest : Digest) (index : DeclarationIndex) (unit : SourceUnit)
    (contract : Option ContractDefinition) (routine : Routine) :
    Except UnverifiableSlot (List SlotAssignment) :=
  (targets routine.body).mapM (assignment digest (.ofRoutine index unit contract routine))

/-- The routines of a file that are looked at, each with its contract if it has one. -/
def selectedRoutines (selection : Selection) (unit : SourceUnit) :
    List (Option ContractDefinition × Routine) :=
  let contracts := unit.contracts.filter fun contract =>
    selection.matchesContract unit.path contract.name
  let free := if selection.matchesFreeFunctions unit.path then freeRoutines unit else []
  (contracts.flatMap fun contract =>
    (contractRoutines contract).map fun routine => (some contract, routine)) ++
      free.map fun routine => (none, routine)

/-- The assignments of a file. -/
def unitAssignments (digest : Digest) (index : DeclarationIndex) (selection : Selection)
    (unit : SourceUnit) : Except UnverifiableSlot (List SlotAssignment) := do
  let assignments ← (selectedRoutines selection unit).mapM fun (contract, routine) =>
    routineAssignments digest index unit contract routine
  .ok assignments.flatten

/-- The assignments of a project. -/
def collectAssignments (digest : Digest) (units : List SourceUnit) (selection : Selection) :
    Except UnverifiableSlot (List SlotAssignment) := do
  let assignments ← units.mapM (unitAssignments digest (.ofUnits units) selection)
  .ok assignments.flatten

/-! ## Collisions -/

/-- A slot and the assignments that share it. -/
structure SlotCollision where
  /-- The slot. -/
  slot : Slot
  /-- All assignments of the slot, in the order they were given. -/
  assignments : List SlotAssignment
  deriving Repr, DecidableEq

namespace SlotCollision

/-- The contracts that assign the slot, each once. -/
def contractNames (collision : SlotCollision) : List String :=
  (collision.assignments.map SlotAssignment.contract).eraseDups

/-- A collision as it is shown. -/
def toText (collision : SlotCollision) : String :=
  "slot " ++ collision.slot.toText ++ " is assigned by " ++
    ", ".intercalate (collision.assignments.map SlotAssignment.toText)

end SlotCollision

/-- The slots that more than one contract assigns, in the order in which they first occur. -/
def slotCollisions (assignments : List SlotAssignment) : List SlotCollision :=
  ((groupByKey SlotAssignment.slot assignments).map fun (slot, group) =>
    SlotCollision.mk slot group).filter fun collision => collision.contractNames.length > 1

/-- Why the namespaces of a project are not known to be apart. -/
inductive NamespaceError where
  /-- The slot of a target is not known. -/
  | unverifiable (slot : UnverifiableSlot)
  /-- Contracts share slots. -/
  | collisions (collisions : List SlotCollision)
  deriving Repr, DecidableEq

/-- What is said when namespaces are not known to be apart. -/
def NamespaceError.message : NamespaceError → String
  | .unverifiable slot => "storage error: " ++ slot.message
  | .collisions shared =>
    "storage slot collisions: " ++ "; ".intercalate (shared.map SlotCollision.toText)

/-- The assignments of a project, if no two contracts share a slot. -/
def ensureUnique (digest : Digest) (units : List SourceUnit) (selection : Selection) :
    Except NamespaceError (List SlotAssignment) :=
  match collectAssignments digest units selection with
  | .error slot => .error (.unverifiable slot)
  | .ok assignments =>
    match slotCollisions assignments with
    | [] => .ok assignments
    | collisions => .error (.collisions collisions)

end ModularRouter.Namespace
