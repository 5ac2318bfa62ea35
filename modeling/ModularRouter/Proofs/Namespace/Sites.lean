import Mathlib.Data.List.Forall2
import ModularRouter.Namespace.Collection
import ModularRouter.Proofs.Ast.Nesting
import ModularRouter.Proofs.Results
import ModularRouter.Proofs.Text.Search

/-!
# Every assigned slot is found

`Node.children` tells for each kind of statement, of the language and of assembly, what stands
directly inside it, and `visit` goes through all that stands inside, each node before those inside
it. The slots that are assigned on the way are the sites of a project, `slotSites`. The assignments
that are collected are those of the sites, one for one and in their order:
`assignments_collected_iff`.
-/

namespace ModularRouter.Namespace

open Ast (DeclarationIndex SourceUnit ContractDefinition Statement YulExpression YulStatement)
open Results (mapM_congr mapM_flatMap mapM_eq_ok_iff exists_mapM_eq_ok exists_mem_of_mapM_eq_ok
  exists_of_mem_of_mapM_eq_ok)

/-! ## Nodes -/

/-- A statement of a routine. -/
inductive Node where
  /-- A statement of the language. -/
  | plain (statement : Statement)
  /-- A statement of assembly before which some variables are visible. -/
  | assembly (visible : YulVariables) (statement : YulStatement)

/-- The statements of a block of assembly, each with the variables that are visible before it. -/
def blockNodes (visible : YulVariables) : List YulStatement → List Node
  | [] => []
  | statement :: rest => .assembly visible statement :: blockNodes (declare visible statement) rest

namespace Node

/-- What stands directly inside a node, in the order in which it is written. What the head of a loop
of assembly declares is visible in the body and behind it. -/
def children : Node → List Node
  | .plain (.assembly block) => blockNodes [] block
  | .plain statement => statement.children.map .plain
  | .assembly visible (.block body) => blockNodes visible body
  | .assembly visible (.ifThen body) => blockNodes visible body
  | .assembly visible (.switch cases) => cases.flatMap (blockNodes visible)
  | .assembly visible (.forLoop init body post) =>
    blockNodes visible init ++ blockNodes (declareAll visible init) body ++
      blockNodes (declareAll visible init) post
  | .assembly _ (.assignment _ _) | .assembly _ (.declaration _ _) | .assembly _ .other => []

/-- The size of a node without the variables. -/
noncomputable def size : Node → Nat
  | .plain statement => sizeOf statement
  | .assembly _ statement => sizeOf statement

/-- The statements of a block of assembly are smaller than the block. -/
theorem sum_size_blockNodes_lt (visible : YulVariables) (block : List YulStatement) :
    ((blockNodes visible block).map size).sum < sizeOf block := by
  induction block generalizing visible with
  | nil => simp [blockNodes]
  | cons statement rest ih =>
    have later := ih (declare visible statement)
    simp only [blockNodes, List.map_cons, List.sum_cons, size, List.cons.sizeOf_spec]
    omega

/-- The statements of the cases of a switch are smaller than the list of cases. -/
theorem sum_size_cases_lt (visible : YulVariables) (cases : List (List YulStatement)) :
    ((cases.flatMap (blockNodes visible)).map size).sum < sizeOf cases := by
  induction cases with
  | nil => simp
  | cons block rest ih =>
    have own := sum_size_blockNodes_lt visible block
    simp only [List.flatMap_cons, List.map_append, List.sum_append, List.cons.sizeOf_spec]
    omega

/-- A statement of the language has what stands directly inside it. -/
theorem children_plain {statement : Statement} (other : ∀ block, statement ≠ .assembly block) :
    (plain statement).children = statement.children.map plain := by
  cases statement with
  | assembly block => exact absurd rfl (other block)
  | _ => rfl

/-- What stands directly inside a node is smaller than the node. -/
theorem sum_size_children_lt (node : Node) : (node.children.map size).sum < node.size := by
  cases node with
  | plain statement =>
    by_cases assembly : ∃ block, statement = .assembly block
    · obtain ⟨block, rfl⟩ := assembly
      have inside := sum_size_blockNodes_lt [] block
      simp only [children, size, Statement.assembly.sizeOf_spec]
      omega
    · rw [children_plain (not_exists.1 assembly), List.map_map]
      exact statement.sum_sizeOf_children_lt
  | assembly visible statement =>
    cases statement with
    | block body | ifThen body =>
      have inside := sum_size_blockNodes_lt visible body
      simp only [children, size, YulStatement.block.sizeOf_spec, YulStatement.ifThen.sizeOf_spec]
      omega
    | switch cases =>
      have inside := sum_size_cases_lt visible cases
      simp only [children, size, YulStatement.switch.sizeOf_spec]
      omega
    | forLoop init body post =>
      have head := sum_size_blockNodes_lt visible init
      have inside := sum_size_blockNodes_lt (declareAll visible init) body
      have behind := sum_size_blockNodes_lt (declareAll visible init) post
      simp only [children, size, List.map_append, List.sum_append,
        YulStatement.forLoop.sizeOf_spec]
      omega
    | assignment _ _ | declaration _ _ | other =>
      simp only [children, size, List.map_nil, List.sum_nil, YulStatement.assignment.sizeOf_spec,
        YulStatement.declaration.sizeOf_spec, YulStatement.other.sizeOf_spec]
      omega

end Node

/-- Some nodes and all that stands inside them, each node before what stands inside it. -/
def visit : List Node → List Node
  | [] => []
  | node :: rest => node :: (visit node.children ++ visit rest)
termination_by nodes => (nodes.map Node.size).sum
decreasing_by
  all_goals
    have inside := node.sum_size_children_lt
    simp only [List.map_cons, List.sum_cons]
    omega

/-- Whether a node stands inside another one, at whatever depth, or is that node. -/
inductive Inside (outer : Node) : Node → Prop where
  /-- A node is inside itself. -/
  | here : Inside outer outer
  /-- What stands directly inside a node is inside wherever the node is. -/
  | deeper {node inner : Node} (inside : Inside outer node) (mem : inner ∈ node.children) :
      Inside outer inner

/-- What is inside something directly inside a node is inside the node. -/
theorem Inside.of_mem_children {outer node inner : Node} (mem : node ∈ outer.children)
    (inside : Inside node inner) : Inside outer inner := by
  induction inside with
  | here => exact .deeper .here mem
  | deeper _ next ih => exact .deeper ih next

/-- What is inside a node is the node or inside something directly inside it. -/
theorem Inside.eq_or_exists_child {outer inner : Node} (inside : Inside outer inner) :
    inner = outer ∨ ∃ child ∈ outer.children, Inside child inner := by
  induction inside with
  | here => exact .inl rfl
  | @deeper node inner _ next ih =>
    rcases ih with rfl | ⟨child, mem, deep⟩
    · exact .inr ⟨inner, next, .here⟩
    · exact .inr ⟨child, mem, .deeper deep next⟩

/-- Exactly the nodes that stand inside the given ones are visited. -/
theorem mem_visit_iff {nodes : List Node} {node : Node} :
    node ∈ visit nodes ↔ ∃ outer ∈ nodes, Inside outer node := by
  induction nodes using visit.induct with
  | case1 => simp [visit]
  | case2 first rest inside behind =>
    rw [visit, List.mem_cons, List.mem_append, inside, behind]
    constructor
    · rintro (rfl | ⟨outer, mem, deep⟩ | ⟨outer, mem, deep⟩)
      · exact ⟨node, List.mem_cons_self, .here⟩
      · exact ⟨first, List.mem_cons_self, deep.of_mem_children mem⟩
      · exact ⟨outer, List.mem_cons_of_mem _ mem, deep⟩
    · rintro ⟨outer, mem, deep⟩
      rcases List.mem_cons.1 mem with rfl | later
      · exact deep.eq_or_exists_child.imp_right .inl
      · exact .inr (.inr ⟨outer, later, deep⟩)

/-! ## Sites -/

/-- A name that is assigned in a routine, and where it stands. -/
structure SlotSite where
  /-- The source file. -/
  unit : SourceUnit
  /-- The contract, unless the routine stands outside of all. -/
  contract : Option ContractDefinition
  /-- The function or modifier. -/
  routine : Routine
  /-- The assembly variables visible there. -/
  visible : YulVariables
  /-- The name. -/
  name : String
  /-- What is assigned to it. -/
  value : Option YulExpression

/-- Whether a name is the slot of a pointer. -/
def isSlotName (name : String) : Bool :=
  ".slot".toList.isSuffixOf name.toList

/-- The slots that a node of a routine assigns itself. -/
def Node.sites (unit : SourceUnit) (contract : Option ContractDefinition) (routine : Routine) :
    Node → List SlotSite
  | .assembly visible (.assignment names value) =>
    (names.filter isSlotName).map fun name => ⟨unit, contract, routine, visible, name, value⟩
  | _ => []

/-- The slots that a routine assigns. -/
def routineSites (unit : SourceUnit) (contract : Option ContractDefinition) (routine : Routine) :
    List SlotSite :=
  (visit (routine.body.map .plain)).flatMap (Node.sites unit contract routine)

/-- The slots that a function or modifier assigns, none if it has no body. -/
def bodySites (unit : SourceUnit) (contract : Option ContractDefinition) (name : String) :
    Option (List Statement) → List SlotSite
  | some body => routineSites unit contract ⟨name, body⟩
  | none => []

/-- The slots that a contract assigns: those of its functions, then those of its modifiers. -/
def contractSites (unit : SourceUnit) (contract : ContractDefinition) : List SlotSite :=
  (contract.functions.flatMap fun function =>
      bodySites unit (some contract) function.name function.body) ++
    contract.modifiers.flatMap fun modifier =>
      bodySites unit (some contract) modifier.name modifier.body

/-- The slots that the functions of a file assign that belong to no contract. -/
def freeSites (unit : SourceUnit) : List SlotSite :=
  unit.functions.flatMap fun function => bodySites unit none function.name function.body

/-- The slots that a project assigns in its selected contracts and, if no contracts are selected by
name, in the functions of its selected files that belong to no contract. -/
def slotSites (units : List SourceUnit) (selection : Storage.Selection) : List SlotSite :=
  units.flatMap fun unit =>
    ((unit.contracts.filter fun contract =>
        selection.matchesContract unit.path contract.name).flatMap (contractSites unit)) ++
      if selection.matchesFreeFunctions unit.path then freeSites unit else []

/-- The slots of the routines that have a body are those of all of them. -/
theorem flatMap_filterMap_routine {α : Type} (unit : SourceUnit)
    (contract : Option ContractDefinition) (name : α → String)
    (body : α → Option (List Statement)) (items : List α) :
    ((items.filterMap fun item => (body item).map (Routine.mk (name item))).map
        fun routine => (contract, routine)).flatMap
      (fun (contract, routine) => routineSites unit contract routine) =
    items.flatMap fun item => bodySites unit contract (name item) (body item) := by
  induction items with
  | nil => rfl
  | cons item rest ih =>
    rw [List.flatMap_cons, ← ih, List.filterMap_cons]
    cases body item <;> rfl

/-- The slots of a project are those of the routines that are looked at. -/
theorem slotSites_eq (units : List SourceUnit) (selection : Storage.Selection) :
    slotSites units selection = units.flatMap fun unit =>
      (selectedRoutines selection unit).flatMap fun (contract, routine) =>
        routineSites unit contract routine := by
  have ofContract (unit : SourceUnit) (contract : ContractDefinition) :
      ((contractRoutines contract).map fun routine => (some contract, routine)).flatMap
        (fun (contract, routine) => routineSites unit contract routine) =
      contractSites unit contract := by
    rw [contractRoutines, List.map_append, List.flatMap_append, flatMap_filterMap_routine,
      flatMap_filterMap_routine, contractSites]
  rw [slotSites]
  congr 1
  funext unit
  rw [selectedRoutines, List.flatMap_append, List.flatMap_assoc]
  simp only [ofContract]
  congr 1
  split
  · exact (flatMap_filterMap_routine unit none _ _ unit.functions).symm
  · rfl

/-- A site is where a slot is assigned inside a statement of a selected routine, at whatever
depth. -/
theorem mem_slotSites_iff {units : List SourceUnit} {selection : Storage.Selection}
    {site : SlotSite} :
    site ∈ slotSites units selection ↔
      ∃ unit ∈ units, ∃ contract routine, (contract, routine) ∈ selectedRoutines selection unit ∧
        ∃ statement ∈ routine.body, ∃ node, Inside (.plain statement) node ∧
          site ∈ node.sites unit contract routine := by
  simp only [slotSites_eq, routineSites, List.mem_flatMap, Prod.exists, mem_visit_iff, List.mem_map]
  constructor
  · rintro ⟨unit, inProject, contract, routine, selected, node, ⟨_, ⟨statement, mem, rfl⟩, inside⟩,
      own⟩
    exact ⟨unit, inProject, contract, routine, selected, statement, mem, node, inside, own⟩
  · rintro ⟨unit, inProject, contract, routine, selected, statement, mem, node, inside, own⟩
    exact ⟨unit, inProject, contract, routine, selected, node, ⟨_, ⟨statement, mem, rfl⟩, inside⟩,
      own⟩

namespace SlotSite

/-- What the routine sees. -/
def scope (site : SlotSite) (index : DeclarationIndex) : Scope :=
  .ofRoutine index site.unit site.contract site.routine

/-- What an assignment is counted for: the contract, or else the file. -/
def label (site : SlotSite) : String :=
  match site.contract with
  | some contract => contract.name
  | none => site.unit.path

/-- Whether a slot is what the assigned value resolves to. -/
def Resolves (digest : Digest) (index : DeclarationIndex) (site : SlotSite) (slot : Slot) : Prop :=
  ∃ value, site.value = some value ∧
    (site.scope index).resolveYul digest site.visible (Scope.maxIndirections + 1) value = .ok slot

/-- Whether an assignment tells where a site stands and which pointer it is about. -/
structure Records (site : SlotSite) (assignment : SlotAssignment) : Prop where
  /-- It tells the file. -/
  sourceUnit : assignment.sourceUnit = site.unit.path
  /-- It tells the contract, or else the file. -/
  contract : assignment.contract = site.label
  /-- It tells the function or modifier. -/
  function : assignment.function = site.routine.name
  /-- The assigned name is the slot of the pointer. -/
  pointer : site.name = assignment.target ++ ".slot"

end SlotSite

/-! ## Names of slots -/

/-- The pointer of which a name is the slot. -/
theorem pointerOfSlot?_eq_some_iff {name pointer : String} :
    pointerOfSlot? name = some pointer ↔ name = pointer ++ ".slot" := by
  rw [pointerOfSlot?, Option.map_eq_some_iff, ← String.toList_inj, String.toList_append]
  constructor
  · rintro ⟨rest, dropped, rfl⟩
    rw [Text.dropEnd?_eq_some_iff.1 dropped, @String.toList_ofList rest]
  · exact fun same =>
      ⟨pointer.toList, Text.dropEnd?_eq_some_iff.2 same, String.ofList_toList⟩

/-- A name is the slot of some pointer if it ends as such names do. -/
theorem isSome_pointerOfSlot? (name : String) : (pointerOfSlot? name).isSome = isSlotName name := by
  rw [Bool.eq_iff_iff, Option.isSome_iff_exists, isSlotName, List.isSuffixOf_iff_suffix]
  constructor
  · rintro ⟨pointer, found⟩
    rw [pointerOfSlot?_eq_some_iff.1 found, String.toList_append]
    exact List.suffix_append ..
  · rintro ⟨rest, split⟩
    refine ⟨String.ofList rest, pointerOfSlot?_eq_some_iff.2 ?_⟩
    rw [← String.toList_inj, String.toList_append, @String.toList_ofList rest, split]

/-- The pointer of a site. -/
def SlotSite.pointer (site : SlotSite) : String :=
  (pointerOfSlot? site.name).getD ""

/-- The pointers of some names are those of the names that are slots. -/
theorem filterMap_pointerOfSlot? (names : List String) :
    names.filterMap pointerOfSlot? =
      (names.filter isSlotName).map fun name => (pointerOfSlot? name).getD "" := by
  induction names with
  | nil => rfl
  | cons name rest ih =>
    rw [List.filterMap_cons, List.filter_cons, ← isSome_pointerOfSlot?]
    cases found : pointerOfSlot? name with
    | none => exact ih
    | some pointer =>
      rw [Option.isSome_some, if_pos rfl, List.map_cons, found, ← ih]
      rfl

/-! ## The same targets -/

/-- The targets in a node. -/
def Node.targets : Node → List SlotTarget
  | .plain statement => Namespace.targets [statement]
  | .assembly visible statement => statementTargets visible statement

/-- The targets of a node itself, without those inside it. -/
def Node.ownTargets : Node → List SlotTarget
  | .assembly visible (.assignment names value) =>
    (names.filterMap pointerOfSlot?).map fun pointer => ⟨pointer, value, visible⟩
  | _ => []

/-- The targets of a block of assembly are those of its statements. -/
theorem blockTargets_eq_flatMap (visible : YulVariables) (block : List YulStatement) :
    blockTargets visible block = (blockNodes visible block).flatMap Node.targets := by
  induction block generalizing visible with
  | nil => rfl
  | cons statement rest ih =>
    rw [blockTargets, blockNodes, List.flatMap_cons, ih]
    rfl

/-- The targets of the cases of a switch are those of their statements. -/
theorem casesTargets_eq_flatMap (visible : YulVariables) (cases : List (List YulStatement)) :
    casesTargets visible cases =
      (cases.flatMap (blockNodes visible)).flatMap Node.targets := by
  induction cases with
  | nil => rfl
  | cons block rest ih =>
    rw [casesTargets, List.flatMap_cons, List.flatMap_append, ih, blockTargets_eq_flatMap]

/-- The targets of a body are those of its statements. -/
theorem targets_eq_flatMap (body : List Statement) :
    targets body = (body.map Node.plain).flatMap Node.targets := by
  induction body with
  | nil => rfl
  | cons statement rest ih =>
    rw [List.map_cons, List.flatMap_cons, ← ih, Node.targets, targets, targets, targets, assemblies,
      assemblies, assemblies, ← List.flatMap_append, ← List.filterMap_append,
      ← Statement.nestedList_append, List.singleton_append]

/-- The targets of a statement that is no assembly are those of the statements directly inside
it. -/
theorem targets_singleton {statement : Statement} (other : ∀ block, statement ≠ .assembly block) :
    targets [statement] = targets statement.children := by
  rw [targets, targets, assemblies, assemblies, Statement.nestedList_singleton,
    Statement.nested_eq_cons, List.filterMap_cons_none]
  cases statement with
  | assembly block => exact absurd rfl (other block)
  | _ => rfl

/-- The targets in a node are its own and those in the nodes directly inside it. -/
theorem Node.targets_eq_append (node : Node) :
    node.targets = node.ownTargets ++ node.children.flatMap Node.targets := by
  cases node with
  | plain statement =>
    by_cases assembly : ∃ block, statement = .assembly block
    · obtain ⟨block, rfl⟩ := assembly
      rw [Node.children, ← blockTargets_eq_flatMap]
      exact List.append_nil _
    · rw [children_plain (not_exists.1 assembly), ← targets_eq_flatMap]
      exact targets_singleton (not_exists.1 assembly)
  | assembly visible statement =>
    cases statement with
    | block body | ifThen body => exact blockTargets_eq_flatMap visible body
    | switch cases => exact casesTargets_eq_flatMap visible cases
    | forLoop init body post =>
      rw [Node.children, List.flatMap_append, List.flatMap_append, ← blockTargets_eq_flatMap,
        ← blockTargets_eq_flatMap, ← blockTargets_eq_flatMap]
      rfl
    | assignment names value => exact (List.append_nil _).symm
    | declaration _ _ | other => rfl

/-- The targets in some nodes are those that the nodes inside them have themselves. -/
theorem flatMap_ownTargets_visit (nodes : List Node) :
    (visit nodes).flatMap Node.ownTargets = nodes.flatMap Node.targets := by
  induction nodes using visit.induct with
  | case1 => rw [visit]; rfl
  | case2 node rest inside behind =>
    -- A node comes before those inside it, as its own targets come before theirs.
    rw [visit, List.flatMap_cons, List.flatMap_append, inside, behind, ← List.append_assoc,
      ← node.targets_eq_append, List.flatMap_cons]

namespace SlotSite

/-- The target at a site. -/
def target (site : SlotSite) : SlotTarget :=
  ⟨site.pointer, site.value, site.visible⟩

/-- The assignment at a site. -/
def assignment (digest : Digest) (index : DeclarationIndex) (site : SlotSite) :
    Except UnverifiableSlot SlotAssignment :=
  Namespace.assignment digest (site.scope index) site.target

end SlotSite

section

variable {digest : Digest} {index : DeclarationIndex} {unit : SourceUnit}
  {contract : Option ContractDefinition} {routine : Routine}

/-- The targets of a node itself are at the sites of the node. -/
theorem map_target_sites (node : Node) :
    (node.sites unit contract routine).map SlotSite.target = node.ownTargets := by
  cases node with
  | plain statement => rfl
  | assembly visible statement =>
    cases statement with
    | assignment names value =>
      rw [Node.sites, Node.ownTargets, filterMap_pointerOfSlot?, List.map_map, List.map_map]
      rfl
    | _ => rfl

/-- The targets of a routine are at its sites. -/
theorem map_target_routineSites :
    (routineSites unit contract routine).map SlotSite.target = targets routine.body := by
  rw [routineSites, List.map_flatMap, targets_eq_flatMap, ← flatMap_ownTargets_visit]
  simp only [map_target_sites]

/-- What stands at a site of a routine is in the routine. -/
theorem of_mem_routineSites {site : SlotSite} (mem : site ∈ routineSites unit contract routine) :
    site.unit = unit ∧ site.contract = contract ∧ site.routine = routine ∧
      isSlotName site.name = true := by
  obtain ⟨node, -, own⟩ := List.mem_flatMap.1 mem
  unfold Node.sites at own
  split at own
  · obtain ⟨name, slot, rfl⟩ := List.mem_map.1 own
    exact ⟨rfl, rfl, rfl, (List.mem_filter.1 slot).2⟩
  · cases own

/-- The assignments of a routine are those at its sites. -/
theorem routineAssignments_eq :
    routineAssignments digest index unit contract routine =
      (routineSites unit contract routine).mapM (SlotSite.assignment digest index) := by
  rw [routineAssignments, ← map_target_routineSites, List.mapM_map]
  -- The scope of a site is made from the site alone, and all sites of a routine share it.
  refine mapM_congr fun site mem => ?_
  obtain ⟨rfl, rfl, rfl, -⟩ := of_mem_routineSites mem
  rfl

end

/-- The assignments of a project are those at its sites. -/
theorem collectAssignments_eq (digest : Digest) (units : List SourceUnit)
    (selection : Storage.Selection) :
    collectAssignments digest units selection =
      (slotSites units selection).mapM (SlotSite.assignment digest (.ofUnits units)) := by
  have unitEq (unit : SourceUnit) : unitAssignments digest (.ofUnits units) selection unit =
      ((selectedRoutines selection unit).flatMap fun (contract, routine) =>
        routineSites unit contract routine).mapM
          (SlotSite.assignment digest (.ofUnits units)) := by
    simp only [mapM_flatMap, ← routineAssignments_eq]
    rfl
  simp only [slotSites_eq, mapM_flatMap, collectAssignments]
  simp only [← mapM_flatMap, ← unitEq]

/-- Every site assigns the slot of a pointer. -/
theorem isSlotName_of_mem_slotSites {units : List SourceUnit} {selection : Storage.Selection}
    {site : SlotSite} (mem : site ∈ slotSites units selection) : isSlotName site.name = true := by
  rw [slotSites_eq] at mem
  obtain ⟨unit, -, inUnit⟩ := List.mem_flatMap.1 mem
  obtain ⟨⟨contract, routine⟩, -, inRoutine⟩ := List.mem_flatMap.1 inUnit
  exact (of_mem_routineSites inRoutine).2.2.2

/-- A name that is a slot is that of the pointer of the site. -/
theorem SlotSite.name_eq {site : SlotSite} (slotName : isSlotName site.name = true) :
    site.name = site.pointer ++ ".slot" := by
  rw [← isSome_pointerOfSlot?, Option.isSome_iff_exists] at slotName
  obtain ⟨pointer, found⟩ := slotName
  rw [SlotSite.pointer, found]
  exact pointerOfSlot?_eq_some_iff.1 found

/-- What a site resolves to is the slot of its target. -/
theorem SlotSite.resolves_iff {digest : Digest} {index : DeclarationIndex} {site : SlotSite}
    {slot : Slot} :
    site.Resolves digest index slot ↔
      (site.scope index).targetSlot digest site.target = .ok slot := by
  rw [Resolves, Scope.targetSlot, target]
  cases site.value <;> simp

/-- The assignment at a site tells where the site stands, which pointer it is about and what the
assigned value resolves to. -/
theorem SlotSite.assignment_eq_ok_iff {digest : Digest} {index : DeclarationIndex} {site : SlotSite}
    (slotName : isSlotName site.name = true) {recorded : SlotAssignment} :
    site.assignment digest index = .ok recorded ↔
      site.Records recorded ∧ site.Resolves digest index recorded.slot := by
  rw [resolves_iff, SlotSite.assignment, Namespace.assignment]
  constructor
  · intro done
    split at done
    · next slot found =>
      cases done
      exact ⟨⟨rfl, rfl, rfl, name_eq slotName⟩, found⟩
    · cases done
  · rintro ⟨⟨sourceUnit, contract, function, pointer⟩, found⟩
    rw [found]
    have same : site.pointer = recorded.target := by
      rw [SlotSite.pointer, pointerOfSlot?_eq_some_iff.2 pointer, Option.getD_some]
    cases recorded
    cases sourceUnit
    cases contract
    cases function
    cases same
    rfl

/-- The collected assignments are one for each site, with what it resolves to. -/
theorem collectAssignments_eq_ok_iff {digest : Digest} {units : List SourceUnit}
    {selection : Storage.Selection} {assignments : List SlotAssignment} :
    collectAssignments digest units selection = .ok assignments ↔
      List.Forall₂ (fun site recorded => site.Records recorded ∧
          site.Resolves digest (.ofUnits units) recorded.slot)
        (slotSites units selection) assignments := by
  rw [collectAssignments_eq, mapM_eq_ok_iff]
  have slotNames : ∀ site ∈ slotSites units selection, isSlotName site.name = true :=
    fun _ mem => isSlotName_of_mem_slotSites mem
  constructor
  · intro done
    refine ((List.forall₂_and_left _ _).2 ⟨slotNames, done⟩).imp ?_
    exact fun _ _ step => (SlotSite.assignment_eq_ok_iff step.1).1 step.2
  · intro found
    refine ((List.forall₂_and_left _ _).2 ⟨slotNames, found⟩).imp ?_
    exact fun _ _ step => (SlotSite.assignment_eq_ok_iff step.1).2 step.2

/-- Every site has an assignment among those that are collected. -/
theorem exists_recorded_of_mem {digest : Digest} {units : List SourceUnit}
    {selection : Storage.Selection} {assignments : List SlotAssignment}
    (collected : collectAssignments digest units selection = .ok assignments) {site : SlotSite}
    (mem : site ∈ slotSites units selection) :
    ∃ recorded ∈ assignments, site.Records recorded ∧
      site.Resolves digest (.ofUnits units) recorded.slot := by
  rw [collectAssignments_eq] at collected
  obtain ⟨recorded, inside, step⟩ := exists_mem_of_mapM_eq_ok collected mem
  exact ⟨recorded, inside,
    (SlotSite.assignment_eq_ok_iff (isSlotName_of_mem_slotSites mem)).1 step⟩

/-- Every collected assignment is made at a site. -/
theorem exists_site_of_mem {digest : Digest} {units : List SourceUnit}
    {selection : Storage.Selection} {assignments : List SlotAssignment}
    (collected : collectAssignments digest units selection = .ok assignments)
    {recorded : SlotAssignment} (mem : recorded ∈ assignments) :
    ∃ site ∈ slotSites units selection, site.Records recorded ∧
      site.Resolves digest (.ofUnits units) recorded.slot := by
  rw [collectAssignments_eq] at collected
  obtain ⟨site, inside, step⟩ := exists_of_mem_of_mapM_eq_ok collected mem
  exact ⟨site, inside, (SlotSite.assignment_eq_ok_iff (isSlotName_of_mem_slotSites inside)).1 step⟩

/-- The assignments are collected if every site resolves. -/
theorem exists_collected {digest : Digest} {units : List SourceUnit} {selection : Storage.Selection}
    (resolvable : ∀ site ∈ slotSites units selection,
      ∃ slot, site.Resolves digest (.ofUnits units) slot) :
    ∃ assignments, collectAssignments digest units selection = .ok assignments := by
  rw [collectAssignments_eq]
  refine exists_mapM_eq_ok fun site mem => ?_
  obtain ⟨slot, resolved⟩ := resolvable site mem
  have slotName := isSlotName_of_mem_slotSites mem
  refine ⟨⟨site.unit.path, site.label, site.routine.name, site.pointer, slot⟩, ?_⟩
  exact (SlotSite.assignment_eq_ok_iff slotName).2
    ⟨⟨rfl, rfl, rfl, SlotSite.name_eq slotName⟩, resolved⟩

/-- The assignments of a project are collected exactly when everything that is assigned to the slot
of a pointer resolves, at whatever depth of the selected routines it stands. There is then one
assignment for each of these places, in the order in which they are visited: file by file, of each
selected contract the functions and then the modifiers, and then the functions that belong to no
contract, which are left out where contracts are selected by name. It tells the file, the contract
or else the file, the routine, the pointer and the slot that the value resolves to. -/
theorem assignments_collected_iff (digest : Digest) (units : List SourceUnit)
    (selection : Storage.Selection) :
    ((∃ assignments, collectAssignments digest units selection = .ok assignments) ↔
        ∀ site ∈ slotSites units selection, ∃ slot, site.Resolves digest (.ofUnits units) slot) ∧
      ∀ assignments, collectAssignments digest units selection = .ok assignments ↔
        List.Forall₂ (fun site recorded => site.Records recorded ∧
            site.Resolves digest (.ofUnits units) recorded.slot)
          (slotSites units selection) assignments := by
  refine ⟨⟨?_, exists_collected⟩, fun assignments => collectAssignments_eq_ok_iff⟩
  rintro ⟨assignments, collected⟩ site mem
  obtain ⟨recorded, -, -, resolved⟩ := exists_recorded_of_mem collected mem
  exact ⟨recorded.slot, resolved⟩

end ModularRouter.Namespace
