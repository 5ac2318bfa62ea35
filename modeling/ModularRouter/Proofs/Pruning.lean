import ModularRouter.Namespace.Collection
import ModularRouter.Proofs.Ast.Pruning
import ModularRouter.Proofs.Results
import ModularRouter.Storage.Extraction

/-!
# Analyses without unknown nodes

Both analyses find the same in a project and in the project without unknown nodes, errors included:
no layout is made of an unknown node (`extract_map_pruned`), and an unknown statement has no targets
and declares nothing that targets see (`collectAssignments_map_pruned`).
-/

namespace ModularRouter.Storage

open Ast (SourceUnit ContractDefinition DeclarationIndex)
open Results (mapM_map_eq)

/-- The contracts that are looked at are no unknown nodes. -/
theorem selectedContracts_pruned (selection : Selection) (unit : SourceUnit) :
    selectedContracts selection unit.pruned =
      (selectedContracts selection unit).map ContractDefinition.pruned := by
  unfold selectedContracts
  rw [SourceUnit.contracts_pruned, List.filter_map]
  rfl

/-- A contract has the same layout without unknown nodes. -/
theorem contractLayout_pruned (site : Site) (contract : ContractDefinition) :
    site.contractLayout contract.pruned = site.contractLayout contract := by
  unfold Site.contractLayout
  rw [ContractDefinition.structs_pruned]
  rfl

/-- A file has the same layouts without unknown nodes. -/
theorem unitLayouts_pruned (index : DeclarationIndex) (selection : Selection) (unit : SourceUnit) :
    unitLayouts index selection unit.pruned = unitLayouts index selection unit := by
  unfold unitLayouts
  rw [selectedContracts_pruned, mapM_map_eq (contractLayout_pruned _)]
  rfl

/-- A project has the same dump without unknown nodes. -/
theorem extract_map_pruned (units : List SourceUnit) (selection : Selection) :
    extract (units.map SourceUnit.pruned) selection = extract units selection := by
  unfold extract
  rw [DeclarationIndex.ofUnits_pruned, mapM_map_eq (unitLayouts_pruned _ selection)]

end ModularRouter.Storage

namespace ModularRouter.Namespace

open Ast (SourceUnit ContractDefinition FunctionDefinition ModifierDefinition DeclarationIndex
  Statement YulStatement YulExpression Expression)
open Results (mapM_congr mapM_map_eq)
open Storage (Selection)

/-! ## Targets -/

/-- The variables visible behind a statement do not depend on what is inside it. -/
theorem declare_pruned (visible : YulVariables) (statement : YulStatement) :
    declare visible statement.pruned = declare visible statement := by
  cases statement <;> rfl

/-- Unknown statements declare nothing. -/
theorem declareAll_prunedBlock (visible : YulVariables) (block : List YulStatement) :
    declareAll visible (YulStatement.prunedBlock block) = declareAll visible block := by
  unfold declareAll
  induction block generalizing visible with
  | nil => rfl
  | cons statement rest ih =>
    rw [YulStatement.prunedBlock, List.foldl_cons, ← ih]
    cases known : statement.isKnown with
    | true => rw [if_pos rfl, List.foldl_cons, declare_pruned]
    | false =>
      rw [YulStatement.eq_other_of_isKnown known, if_neg Bool.false_ne_true]
      rfl

mutual

/-- A statement of assembly has the same targets without unknown statements. -/
theorem statementTargets_pruned (visible : YulVariables) : (statement : YulStatement) →
    statementTargets visible statement.pruned = statementTargets visible statement
  | .assignment _ _ | .declaration _ _ | .other => rfl
  | .block body => blockTargets_prunedBlock visible body
  | .ifThen body => blockTargets_prunedBlock visible body
  | .switch cases => casesTargets_prunedCases visible cases
  | .forLoop init body post => by
    simp only [YulStatement.pruned, statementTargets, declareAll_prunedBlock,
      blockTargets_prunedBlock _ init, blockTargets_prunedBlock _ body,
      blockTargets_prunedBlock _ post]

/-- A block of assembly has the same targets without unknown statements. -/
theorem blockTargets_prunedBlock (visible : YulVariables) : (block : List YulStatement) →
    blockTargets visible (YulStatement.prunedBlock block) = blockTargets visible block
  | [] => rfl
  | statement :: rest => by
    rw [YulStatement.prunedBlock, blockTargets]
    cases known : statement.isKnown with
    | true =>
      rw [if_pos rfl, blockTargets, statementTargets_pruned visible statement, declare_pruned,
        blockTargets_prunedBlock _ rest]
    | false =>
      rw [YulStatement.eq_other_of_isKnown known, if_neg Bool.false_ne_true,
        blockTargets_prunedBlock visible rest]
      rfl

/-- The cases of a switch have the same targets without unknown statements. -/
theorem casesTargets_prunedCases (visible : YulVariables) : (cases : List (List YulStatement)) →
    casesTargets visible (YulStatement.prunedCases cases) = casesTargets visible cases
  | [] => rfl
  | block :: rest => by
    rw [YulStatement.prunedCases, casesTargets, casesTargets,
      blockTargets_prunedBlock visible block, casesTargets_prunedCases visible rest]

end

/-- A body has the same blocks of assembly, without unknown statements in these. -/
theorem assemblies_prunedBody (body : List Statement) :
    assemblies (Statement.prunedBody body) =
      (assemblies body).map YulStatement.prunedBlock := by
  refine Statement.filterMap_nestedList_prunedBody ⟨rfl, fun statement => ?_⟩ body
  cases statement <;> rfl

/-- A body has the same targets without unknown statements. -/
theorem targets_prunedBody (body : List Statement) :
    targets (Statement.prunedBody body) = targets body := by
  unfold targets
  rw [assemblies_prunedBody, List.flatMap_map]
  simp only [blockTargets_prunedBlock]

/-! ## Scopes -/

/-- A body declares the same local variables without unknown statements. -/
theorem localsOf_prunedBody (body : List Statement) :
    localsOf (Statement.prunedBody body) = localsOf body := by
  refine congrArg List.reverse ((Statement.filterMap_nestedList_prunedBody
    ⟨rfl, fun statement => ?_⟩ body).trans (List.map_id _))
  rw [Option.map_id]
  cases statement <;> rfl

/-- A routine without unknown statements. -/
def Routine.pruned (routine : Routine) : Routine :=
  { routine with body := Statement.prunedBody routine.body }

namespace Scope

/-- What a routine sees, without unknown nodes. -/
def pruned (scope : Scope) : Scope :=
  { scope with unit := scope.unit.pruned, contract := scope.contract.map ContractDefinition.pruned }

section

variable (scope : Scope)

/-- The scope of a routine without unknown nodes is the one without unknown nodes. -/
theorem ofRoutine_pruned (index : DeclarationIndex) (unit : SourceUnit)
    (contract : Option ContractDefinition) (routine : Routine) :
    ofRoutine index unit.pruned (contract.map ContractDefinition.pruned) routine.pruned =
      (ofRoutine index unit contract routine).pruned := by
  unfold ofRoutine
  rw [show localsOf routine.pruned.body = localsOf routine.body from localsOf_prunedBody _]
  rfl

/-- Assignments are counted for the same without unknown nodes. -/
theorem owner_pruned : scope.pruned.owner = scope.owner := by
  rcases scope with ⟨index, unit, _ | contract, routine, locals⟩ <;> rfl

/-- A name has the same value without unknown nodes. -/
theorem named?_pruned (name : String) : scope.pruned.named? name = scope.named? name := by
  have constant : scope.pruned.constantNamed? name = scope.constantNamed? name := by
    rcases scope with ⟨index, unit, _ | contract, routine, locals⟩
    · simp only [constantNamed?, pruned, SourceUnit.fileVariables_pruned, Option.map_none]
    · simp only [constantNamed?, pruned, SourceUnit.fileVariables_pruned, Option.map_some,
        Option.bind_some, ContractDefinition.stateVariables_pruned]
  unfold named?
  rw [constant]
  rfl

/-- An expression is the same slot without unknown nodes. -/
theorem resolve_pruned (digest : Digest) (steps : Nat) (value : Expression) :
    scope.pruned.resolve digest steps value = scope.resolve digest steps value := by
  induction steps generalizing value with
  | zero => rfl
  | succ steps ih =>
    cases value with
    | identifier name reference =>
      have same : scope.pruned.constantValue? reference = scope.constantValue? reference := rfl
      rw [resolve, resolve, same, named?_pruned]
      cases (scope.constantValue? reference).or (scope.named? name) with
      | none => rfl
      | some value => exact ih value
    | literal _ | call _ _ | member _ _ | other => rfl

/-- An expression of assembly is the same slot without unknown nodes. -/
theorem resolveYul_pruned (digest : Digest) (visible : YulVariables) (steps : Nat)
    (value : YulExpression) :
    scope.pruned.resolveYul digest visible steps value =
      scope.resolveYul digest visible steps value := by
  induction steps generalizing value with
  | zero => rfl
  | succ steps ih =>
    cases value with
    | identifier name =>
      rw [resolveYul, resolveYul, named?_pruned]
      simp only [ih, resolve_pruned]
    | literal _ _ _ | call _ _ => rfl

end

end Scope

/-! ## Assignments -/

/-- A target is assigned the same without unknown nodes. -/
theorem assignment_pruned (digest : Digest) (scope : Scope) (target : SlotTarget) :
    assignment digest scope.pruned target = assignment digest scope target := by
  have slot : scope.pruned.targetSlot digest target = scope.targetSlot digest target := by
    unfold Scope.targetSlot
    simp only [Scope.resolveYul_pruned]
  unfold assignment
  rw [slot, Scope.owner_pruned]
  rfl

/-- A routine makes the same assignments without unknown nodes. -/
theorem routineAssignments_pruned (digest : Digest) (index : DeclarationIndex) (unit : SourceUnit)
    (contract : Option ContractDefinition) (routine : Routine) :
    routineAssignments digest index unit.pruned (contract.map ContractDefinition.pruned)
        routine.pruned =
      routineAssignments digest index unit contract routine := by
  have same : targets routine.pruned.body = targets routine.body := targets_prunedBody routine.body
  unfold routineAssignments
  rw [same, Scope.ofRoutine_pruned]
  exact mapM_congr fun target _ => assignment_pruned digest _ target

/-- Where bodies are pruned, so are the routines that have them. -/
theorem filterMap_routine_pruned {α : Type} {name : α → String}
    {body : α → Option (List Statement)} (pruned : α → α)
    (names : ∀ item, name (pruned item) = name item)
    (bodies : ∀ item, body (pruned item) = (body item).map Statement.prunedBody)
    (items : List α) :
    (items.map pruned).filterMap (fun item => (body item).map (Routine.mk (name item))) =
      (items.filterMap fun item => (body item).map (Routine.mk (name item))).map
        Routine.pruned := by
  rw [List.filterMap_map, List.map_filterMap]
  congr 1
  funext item
  rw [Function.comp_apply, names, bodies]
  cases body item <;> rfl

/-- The routines of a contract are no unknown nodes. -/
theorem contractRoutines_pruned (contract : ContractDefinition) :
    contractRoutines contract.pruned = (contractRoutines contract).map Routine.pruned := by
  unfold contractRoutines
  rw [ContractDefinition.functions_pruned, ContractDefinition.modifiers_pruned, List.map_append,
    filterMap_routine_pruned FunctionDefinition.pruned (fun _ => rfl) (fun _ => rfl),
    filterMap_routine_pruned ModifierDefinition.pruned (fun _ => rfl) (fun _ => rfl)]

/-- The routines of a file that belong to no contract are no unknown nodes. -/
theorem freeRoutines_pruned (unit : SourceUnit) :
    freeRoutines unit.pruned = (freeRoutines unit).map Routine.pruned := by
  unfold freeRoutines
  rw [SourceUnit.functions_pruned,
    filterMap_routine_pruned FunctionDefinition.pruned (fun _ => rfl) (fun _ => rfl)]

/-- The routines that are looked at are no unknown nodes. -/
theorem selectedRoutines_pruned (selection : Selection) (unit : SourceUnit) :
    selectedRoutines selection unit.pruned = (selectedRoutines selection unit).map
      fun (contract, routine) => (contract.map ContractDefinition.pruned, routine.pruned) := by
  have ofContract (contract : ContractDefinition) :
      ((contractRoutines contract).map fun routine => (some contract, routine)).map
          (fun (contract, routine) => (contract.map ContractDefinition.pruned, routine.pruned)) =
        (contractRoutines contract.pruned).map fun routine => (some contract.pruned, routine) := by
    rw [contractRoutines_pruned, List.map_map, List.map_map]
    rfl
  have free : (if selection.matchesFreeFunctions unit.path then freeRoutines unit.pruned else []) =
      (if selection.matchesFreeFunctions unit.path then freeRoutines unit else []).map
        Routine.pruned := by
    rw [freeRoutines_pruned, apply_ite (List.map Routine.pruned), List.map_nil]
  have path : unit.pruned.path = unit.path := rfl
  simp only [selectedRoutines, path, free, SourceUnit.contracts_pruned, List.filter_map,
    List.flatMap_map, List.map_append, List.map_flatMap, ofContract, List.map_map]
  rfl

/-- A file makes the same assignments without unknown nodes. -/
theorem unitAssignments_pruned (digest : Digest) (index : DeclarationIndex) (selection : Selection)
    (unit : SourceUnit) :
    unitAssignments digest index selection unit.pruned =
      unitAssignments digest index selection unit := by
  unfold unitAssignments
  rw [selectedRoutines_pruned,
    mapM_map_eq fun pair => routineAssignments_pruned digest index unit pair.1 pair.2]

/-- A project makes the same assignments without unknown nodes. -/
theorem collectAssignments_map_pruned (digest : Digest) (units : List SourceUnit)
    (selection : Selection) :
    collectAssignments digest (units.map SourceUnit.pruned) selection =
      collectAssignments digest units selection := by
  unfold collectAssignments
  rw [DeclarationIndex.ofUnits_pruned,
    mapM_map_eq (unitAssignments_pruned digest _ selection)]

end ModularRouter.Namespace
