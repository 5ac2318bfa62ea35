import ModularRouter.Ast.Declaration
import ModularRouter.Proofs.Ast.Nesting

/-!
# Source units without unknown nodes

A node of an unknown kind is `other`. `pruned` takes such nodes out of all lists in which they
stand, at any depth; one that stands on its own, as the body of a loop may, stays. What is declared
is declared as before, and what is found among the statements of a body is found as before
(`Statement.filterMap_nestedList_prunedBody`).
-/

namespace ModularRouter.Ast

/-- Whether one item is the only one of its type that is unknown once it is pruned. -/
structure OnlyUnknown {α : Type} (isKnown : α → Bool) (pruned : α → α) (other : α) : Prop where
  eq_other : ∀ item, isKnown (pruned item) = false → item = other

namespace OnlyUnknown

variable {α β : Type} {isKnown : α → Bool} {pruned : α → α} {other : α}

/-- What is found among items is found among those that are known. -/
theorem filterMap_filter (only : OnlyUnknown isKnown pruned other) {find : α → Option β}
    (change : β → β) (nothing : find other = none)
    (same : ∀ item, find (pruned item) = (find item).map change) (items : List α) :
    ((items.map pruned).filter isKnown).filterMap find = (items.filterMap find).map change := by
  induction items with
  | nil => rfl
  | cons item items ih =>
    rw [List.map_cons, List.filter_cons, List.filterMap_cons]
    cases known : isKnown (pruned item) with
    | false => rw [only.eq_other item known, nothing, if_neg Bool.false_ne_true, ih]
    | true =>
      rw [if_pos rfl, List.filterMap_cons, same, ih]
      cases find item <;> rfl

/-- What stays as it is when items are pruned is found among those that are known. -/
theorem filterMap_filter_eq (only : OnlyUnknown isKnown pruned other) {find : α → Option β}
    (nothing : find other = none) (same : ∀ item, find (pruned item) = find item)
    (items : List α) :
    ((items.map pruned).filter isKnown).filterMap find = items.filterMap find := by
  have kept : ∀ item, find (pruned item) = (find item).map id := by
    intro item
    rw [same, Option.map_id]
    rfl
  have found := only.filterMap_filter id nothing kept items
  rwa [List.map_id] at found

/-- What items make is made by those that are known. -/
theorem flatMap_filter (only : OnlyUnknown isKnown pruned other) {make : α → List β}
    (nothing : make other = []) (same : ∀ item, make (pruned item) = make item)
    (items : List α) :
    ((items.map pruned).filter isKnown).flatMap make = items.flatMap make := by
  induction items with
  | nil => rfl
  | cons item items ih =>
    rw [List.map_cons, List.filter_cons, List.flatMap_cons]
    cases known : isKnown (pruned item) with
    | false =>
      rw [only.eq_other item known, nothing, if_neg Bool.false_ne_true, ih, List.nil_append]
    | true => rw [if_pos rfl, List.flatMap_cons, same, ih]

end OnlyUnknown

/-! ## Assembly -/

namespace YulStatement

/-- Whether a statement of assembly is of a known kind. -/
def isKnown : YulStatement → Bool
  | .other => false
  | _ => true

mutual

/-- A statement of assembly without unknown statements in its blocks. -/
def pruned : YulStatement → YulStatement
  | .assignment targets value => .assignment targets value
  | .declaration names value => .declaration names value
  | .block body => .block (prunedBlock body)
  | .ifThen body => .ifThen (prunedBlock body)
  | .switch cases => .switch (prunedCases cases)
  | .forLoop init body post => .forLoop (prunedBlock init) (prunedBlock body) (prunedBlock post)
  | .other => .other

/-- A block of assembly without unknown statements. -/
def prunedBlock : List YulStatement → List YulStatement
  | [] => []
  | statement :: rest =>
    if isKnown statement then pruned statement :: prunedBlock rest else prunedBlock rest

/-- The blocks of cases without unknown statements. -/
def prunedCases : List (List YulStatement) → List (List YulStatement)
  | [] => []
  | body :: rest => prunedBlock body :: prunedCases rest

end

/-- A statement stays known or unknown. -/
@[simp]
theorem isKnown_pruned (statement : YulStatement) :
    statement.pruned.isKnown = statement.isKnown := by
  cases statement <;> rfl

/-- An unknown statement is `other`. -/
theorem eq_other_of_isKnown {statement : YulStatement} (unknown : statement.isKnown = false) :
    statement = .other := by
  cases statement with
  | other => rfl
  | _ => cases unknown

/-- A block keeps its known statements. -/
theorem prunedBlock_eq (body : List YulStatement) :
    prunedBlock body = (body.map pruned).filter isKnown := by
  induction body with
  | nil => rfl
  | cons statement rest ih =>
    rw [prunedBlock, List.map_cons, List.filter_cons, isKnown_pruned, ih]

/-- Every case keeps its known statements. -/
theorem prunedCases_eq (cases : List (List YulStatement)) :
    prunedCases cases = cases.map prunedBlock := by
  induction cases with
  | nil => rfl
  | cons body rest ih => rw [prunedCases, List.map_cons, ih]

end YulStatement

/-! ## Statements -/

namespace Statement

/-- Whether a statement is of a known kind. -/
def isKnown : Statement → Bool
  | .other => false
  | _ => true

mutual

/-- A statement without unknown statements in its blocks. -/
def pruned : Statement → Statement
  | .block body => .block (prunedBody body)
  | .uncheckedBlock body => .uncheckedBlock (prunedBody body)
  | .declaration declared value => .declaration declared value
  | .assembly body => .assembly (YulStatement.prunedBlock body)
  | .ifThen body alternative => .ifThen (pruned body) (prunedOption alternative)
  | .forLoop init body => .forLoop (prunedOption init) (pruned body)
  | .whileLoop body => .whileLoop (pruned body)
  | .doWhileLoop body => .doWhileLoop (pruned body)
  | .tryCatch clauses => .tryCatch (prunedClauses clauses)
  | .other => .other

/-- A block without unknown statements. -/
def prunedBody : List Statement → List Statement
  | [] => []
  | statement :: rest =>
    if isKnown statement then pruned statement :: prunedBody rest else prunedBody rest

/-- A statement that may be absent, without unknown statements in its blocks. -/
def prunedOption : Option Statement → Option Statement
  | none => none
  | some statement => some (pruned statement)

/-- The blocks of clauses without unknown statements. -/
def prunedClauses : List (List Statement) → List (List Statement)
  | [] => []
  | clause :: rest => prunedBody clause :: prunedClauses rest

end

/-- A statement stays known or unknown. -/
@[simp]
theorem isKnown_pruned (statement : Statement) : statement.pruned.isKnown = statement.isKnown := by
  cases statement <;> rfl

/-- An unknown statement is `other`. -/
theorem eq_other_of_isKnown {statement : Statement} (unknown : statement.isKnown = false) :
    statement = .other := by
  cases statement with
  | other => rfl
  | _ => cases unknown

/-- A block keeps its known statements. -/
theorem prunedBody_eq (body : List Statement) :
    prunedBody body = (body.map pruned).filter isKnown := by
  induction body with
  | nil => rfl
  | cons statement rest ih =>
    rw [prunedBody, List.map_cons, List.filter_cons, isKnown_pruned, ih]

/-- An absent statement stays absent. -/
theorem prunedOption_eq (statement : Option Statement) :
    prunedOption statement = statement.map pruned := by
  cases statement <;> rfl

/-- Every clause keeps its known statements. -/
theorem prunedClauses_eq (clauses : List (List Statement)) :
    prunedClauses clauses = clauses.map prunedBody := by
  induction clauses with
  | nil => rfl
  | cons clause rest ih => rw [prunedClauses, List.map_cons, ih]

/-- A search among statements that finds nothing in an unknown one, and in one without unknown
statements what it finds in the statement, changed in a certain way. -/
structure Overlooks {β : Type} (find : Statement → Option β) (change : β → β) : Prop where
  nothing : find .other = none
  same : ∀ statement, find (pruned statement) = (find statement).map change

section

variable {β : Type} {find : Statement → Option β} {change : β → β}

/-- What is found in a statement and behind it is found without unknown statements too. -/
theorem Overlooks.filterMap_cons (overlooks : Overlooks find change) (statement : Statement)
    (body rest : List Statement)
    (later : rest.filterMap find = (body.filterMap find).map change) :
    (pruned statement :: rest).filterMap find =
      ((statement :: body).filterMap find).map change := by
  rw [List.filterMap_cons, List.filterMap_cons, overlooks.same, later]
  cases find statement <;> rfl

mutual

/-- What is found in a statement, at any depth, is found without unknown statements too. -/
theorem filterMap_nested_pruned (overlooks : Overlooks find change) : (statement : Statement) →
    (nested (pruned statement)).filterMap find = ((nested statement).filterMap find).map change
  | .block body =>
    overlooks.filterMap_cons (.block body) _ _ (filterMap_nestedList_prunedBody overlooks body)
  | .uncheckedBlock body =>
    overlooks.filterMap_cons (.uncheckedBlock body) _ _
      (filterMap_nestedList_prunedBody overlooks body)
  | .declaration declared value =>
    overlooks.filterMap_cons (.declaration declared value) [] [] rfl
  | .assembly body => overlooks.filterMap_cons (.assembly body) [] [] rfl
  | .other => overlooks.filterMap_cons .other [] [] rfl
  | .ifThen body alternative => by
    refine overlooks.filterMap_cons (.ifThen body alternative) _ _ ?_
    rw [List.filterMap_append, List.filterMap_append, List.map_append,
      filterMap_nested_pruned overlooks body, filterMap_nestedOption_pruned overlooks alternative]
  | .forLoop init body => by
    refine overlooks.filterMap_cons (.forLoop init body) _ _ ?_
    rw [List.filterMap_append, List.filterMap_append, List.map_append,
      filterMap_nestedOption_pruned overlooks init, filterMap_nested_pruned overlooks body]
  | .whileLoop body =>
    overlooks.filterMap_cons (.whileLoop body) _ _ (filterMap_nested_pruned overlooks body)
  | .doWhileLoop body =>
    overlooks.filterMap_cons (.doWhileLoop body) _ _ (filterMap_nested_pruned overlooks body)
  | .tryCatch clauses =>
    overlooks.filterMap_cons (.tryCatch clauses) _ _
      (filterMap_nestedClauses_pruned overlooks clauses)

/-- What is found in a body, at any depth, is found without unknown statements too. -/
theorem filterMap_nestedList_prunedBody (overlooks : Overlooks find change) :
    (body : List Statement) →
      (nestedList (prunedBody body)).filterMap find = ((nestedList body).filterMap find).map change
  | [] => rfl
  | statement :: rest => by
    have later := filterMap_nestedList_prunedBody overlooks rest
    rw [prunedBody, nestedList, List.filterMap_append, List.map_append, ← later]
    cases known : isKnown statement with
    | true =>
      rw [if_pos rfl, nestedList, List.filterMap_append,
        filterMap_nested_pruned overlooks statement]
    | false =>
      -- An unknown statement has nothing inside it.
      have alone : (nested .other).filterMap find = [] := by
        rw [nested_eq_cons, List.filterMap_cons, overlooks.nothing]
        rfl
      rw [eq_other_of_isKnown known, if_neg Bool.false_ne_true, alone, List.map_nil,
        List.nil_append]

/-- What is found in a statement that may be absent is found without unknown statements too. -/
theorem filterMap_nestedOption_pruned (overlooks : Overlooks find change) :
    (statement : Option Statement) →
      (nestedOption (prunedOption statement)).filterMap find =
        ((nestedOption statement).filterMap find).map change
  | none => rfl
  | some statement => filterMap_nested_pruned overlooks statement

/-- What is found in the clauses of a call is found without unknown statements too. -/
theorem filterMap_nestedClauses_pruned (overlooks : Overlooks find change) :
    (clauses : List (List Statement)) →
      (nestedClauses (prunedClauses clauses)).filterMap find =
        ((nestedClauses clauses).filterMap find).map change
  | [] => rfl
  | clause :: rest => by
    rw [prunedClauses, nestedClauses, nestedClauses, List.filterMap_append, List.filterMap_append,
      List.map_append, filterMap_nestedList_prunedBody overlooks clause,
      filterMap_nestedClauses_pruned overlooks rest]

end

end

end Statement

/-! ## Declarations -/

/-- A function without unknown statements. -/
def FunctionDefinition.pruned (definition : FunctionDefinition) : FunctionDefinition :=
  { definition with body := definition.body.map Statement.prunedBody }

/-- A modifier without unknown statements. -/
def ModifierDefinition.pruned (definition : ModifierDefinition) : ModifierDefinition :=
  { definition with body := definition.body.map Statement.prunedBody }

namespace ContractPart

/-- Whether a node of a contract is of a known kind. -/
def isKnown : ContractPart → Bool
  | .other => false
  | _ => true

/-- A node of a contract without unknown nodes inside it. -/
def pruned : ContractPart → ContractPart
  | .function definition => .function definition.pruned
  | .modifier definition => .modifier definition.pruned
  | part => part

/-- Only `other` is an unknown node of a contract. -/
theorem onlyUnknown : OnlyUnknown isKnown pruned .other := by
  refine ⟨fun part unknown => ?_⟩
  cases part with
  | other => rfl
  | _ => cases unknown

end ContractPart

namespace ContractDefinition

/-- A contract without unknown nodes. -/
def pruned (contract : ContractDefinition) : ContractDefinition :=
  { contract with parts := (contract.parts.map ContractPart.pruned).filter ContractPart.isKnown }

section

variable (contract : ContractDefinition)

/-- The structs of a contract are no unknown nodes. -/
theorem structs_pruned : contract.pruned.structs = contract.structs := by
  refine ContractPart.onlyUnknown.filterMap_filter_eq rfl (fun part => ?_) contract.parts
  cases part <;> rfl

/-- The state variables of a contract are no unknown nodes. -/
theorem stateVariables_pruned : contract.pruned.stateVariables = contract.stateVariables := by
  refine ContractPart.onlyUnknown.filterMap_filter_eq rfl (fun part => ?_) contract.parts
  cases part <;> rfl

/-- The functions of a contract are no unknown nodes. -/
theorem functions_pruned :
    contract.pruned.functions = contract.functions.map FunctionDefinition.pruned := by
  refine ContractPart.onlyUnknown.filterMap_filter _ rfl (fun part => ?_) contract.parts
  cases part <;> rfl

/-- The modifiers of a contract are no unknown nodes. -/
theorem modifiers_pruned :
    contract.pruned.modifiers = contract.modifiers.map ModifierDefinition.pruned := by
  refine ContractPart.onlyUnknown.filterMap_filter _ rfl (fun part => ?_) contract.parts
  cases part <;> rfl

end

end ContractDefinition

namespace UnitPart

/-- Whether a node of a source file is of a known kind. -/
def isKnown : UnitPart → Bool
  | .other => false
  | _ => true

/-- A node of a source file without unknown nodes inside it. -/
def pruned : UnitPart → UnitPart
  | .contract definition => .contract definition.pruned
  | .function definition => .function definition.pruned
  | part => part

/-- Only `other` is an unknown node of a source file. -/
theorem onlyUnknown : OnlyUnknown isKnown pruned .other := by
  refine ⟨fun part unknown => ?_⟩
  cases part with
  | other => rfl
  | _ => cases unknown

end UnitPart

namespace SourceUnit

/-- A source file without unknown nodes. -/
def pruned (unit : SourceUnit) : SourceUnit :=
  { unit with parts := (unit.parts.map UnitPart.pruned).filter UnitPart.isKnown }

section

variable (unit : SourceUnit)

/-- The contracts of a file are no unknown nodes. -/
theorem contracts_pruned :
    unit.pruned.contracts = unit.contracts.map ContractDefinition.pruned := by
  refine UnitPart.onlyUnknown.filterMap_filter _ rfl (fun part => ?_) unit.parts
  cases part <;> rfl

/-- The functions of a file that belong to no contract are no unknown nodes. -/
theorem functions_pruned :
    unit.pruned.functions = unit.functions.map FunctionDefinition.pruned := by
  refine UnitPart.onlyUnknown.filterMap_filter _ rfl (fun part => ?_) unit.parts
  cases part <;> rfl

/-- The variables of a file that belong to no contract are no unknown nodes. -/
theorem fileVariables_pruned : unit.pruned.fileVariables = unit.fileVariables := by
  refine UnitPart.onlyUnknown.filterMap_filter_eq rfl (fun part => ?_) unit.parts
  cases part <;> rfl

end

end SourceUnit

namespace DeclarationIndex

/-- The nodes of a contract declare what they do without unknown nodes. -/
theorem flatMap_ofContractPart_pruned (contract : ContractDefinition) :
    contract.pruned.parts.flatMap ofContractPart = contract.parts.flatMap ofContractPart := by
  refine ContractPart.onlyUnknown.flatMap_filter rfl (fun part => ?_) contract.parts
  cases part <;> rfl

/-- The nodes of a file declare what they do without unknown nodes. -/
theorem flatMap_ofUnitPart_pruned (unit : SourceUnit) :
    unit.pruned.parts.flatMap ofUnitPart = unit.parts.flatMap ofUnitPart := by
  refine UnitPart.onlyUnknown.flatMap_filter rfl (fun part => ?_) unit.parts
  cases part with
  | contract definition =>
    exact congrArg ((definition.id, .contract) :: ·) (flatMap_ofContractPart_pruned definition)
  | _ => rfl

/-- A project has the same declarations without unknown nodes. -/
theorem ofUnits_pruned (units : List SourceUnit) :
    ofUnits (units.map SourceUnit.pruned) = ofUnits units := by
  unfold ofUnits declarations
  rw [List.flatMap_map]
  simp only [flatMap_ofUnitPart_pruned]

end DeclarationIndex

end ModularRouter.Ast
