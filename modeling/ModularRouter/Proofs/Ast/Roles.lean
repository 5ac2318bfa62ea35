import ModularRouter.Ast.Decode
import ModularRouter.Proofs.Ast.Pruning
import ModularRouter.Proofs.Json.Values

/-!
# Roles of JSON values

What a value of a tree is read as is its `Role`. `Role.names` lists the fields of a node of some
kind in their order, and `Role.fields` those that hold nodes in turn. `Role.read` is what is read of
a value but for nodes of unknown kinds in lists. It is told by the kind of the node and the object
that it is (`read_eq`): by what is read of the fields with nodes, kind by kind, and otherwise by the
values of other fields.
-/

namespace ModularRouter.Ast

/-! ## Roles -/

/-- What a value of a tree is read as. -/
inductive Role where
  /-- A list of values. -/
  | list (role : Role)
  /-- A source file. -/
  | unit
  /-- A node of a source file. -/
  | unitPart
  /-- A node of a contract. -/
  | contractPart
  /-- A block. -/
  | block
  /-- A statement. -/
  | statement
  /-- A clause of an external call. -/
  | clause
  /-- A block of assembly. -/
  | yulBlock
  /-- A statement of assembly. -/
  | yulStatement
  /-- A case of a switch. -/
  | yulCase

namespace Role

/-- The known kinds of what may be of an unknown kind too, and the fields of each. -/
def kinds? : Role → Option (List (String × List String))
  | .unitPart => some unitPartKinds
  | .contractPart => some contractPartKinds
  | .statement => some statementKinds
  | .yulStatement => some yulStatementKinds
  | _ => none

/-- Whether a value is a node of an unknown kind. It says its kind in a text and is an object, whose
other fields may hold anything, or a list of nothing else. -/
structure IsUnknown (role : Role) (node : Json) : Prop where
  /-- Nothing in the node is beyond reading. -/
  readable : node.isReadable = true
  /-- It is an object or holds nothing but its kind. -/
  isRecord : ∃ record, node.object? ["nodeType"] = some record
  /-- Its kind is none of the known ones. -/
  fresh : ∃ kinds kind, role.kinds? = some kinds ∧ node.tag? "nodeType" = some (.str kind) ∧
    kind ∉ kinds.map Prod.fst

/-- What a node says it is; a value that is of one kind only is of a kind without a name. -/
def kind? : Role → Json → Option String
  | .unitPart, json => (json.tag? "nodeType").bind Json.text?
  | .contractPart, json =>
    (json.tag? "nodeType").bind (Json.innerKind? (contractPartKinds.map Prod.fst))
  | .statement, json =>
    (json.tag? "nodeType").bind (Json.innerKind? (statementKinds.map Prod.fst))
  | .yulStatement, json =>
    (json.tag? "nodeType").bind (Json.innerKind? (yulStatementKinds.map Prod.fst))
  | _, _ => some ""

/-- Whether a value may be read at all: a node of a file only if nothing in it is beyond reading. -/
def accepts : Role → Json → Bool
  | .unitPart, json => json.isReadable
  | _, _ => true

/-- The names of the fields of a node of some kind, in their order. -/
def names (kind : String) : Role → List String
  | .list _ => []
  | .unit => ["absolutePath", "nodes"]
  | .unitPart => "nodeType" :: (unitPartKinds.lookup kind).getD []
  | .contractPart => "nodeType" :: (contractPartKinds.lookup kind).getD []
  | .block => blockFields
  | .statement => "nodeType" :: (statementKinds.lookup kind).getD []
  | .clause => ["block"]
  | .yulBlock => blockFields
  | .yulStatement => "nodeType" :: (yulStatementKinds.lookup kind).getD []
  | .yulCase => ["body"]

/-- The fields of a node of some kind that hold nodes in turn, and what these are. -/
def fields (kind : String) : Role → List (String × Role)
  | .list _ => []
  | .unit => [("nodes", .list .unitPart)]
  | .unitPart =>
    match kind with
    | "ContractDefinition" => [("nodes", .list .contractPart)]
    | "FunctionDefinition" => [("body", .block)]
    | _ => []
  | .contractPart =>
    match kind with
    | "FunctionDefinition" => [("body", .block)]
    | "ModifierDefinition" => [("body", .block)]
    | _ => []
  | .block => [("statements", .list .statement)]
  | .statement =>
    match kind with
    | "Block" => [("statements", .list .statement)]
    | "UncheckedBlock" => [("statements", .list .statement)]
    | "InlineAssembly" => [("AST", .yulBlock)]
    | "IfStatement" => [("trueBody", .statement), ("falseBody", .statement)]
    | "ForStatement" => [("initializationExpression", .statement), ("body", .statement)]
    | "WhileStatement" => [("body", .statement)]
    | "DoWhileStatement" => [("body", .statement)]
    | "TryStatement" => [("clauses", .list .clause)]
    | _ => []
  | .clause => [("block", .block)]
  | .yulBlock => [("statements", .list .yulStatement)]
  | .yulStatement =>
    match kind with
    | "YulBlock" => [("statements", .list .yulStatement)]
    | "YulIf" => [("body", .yulBlock)]
    | "YulSwitch" => [("cases", .list .yulCase)]
    | "YulForLoop" => [("pre", .yulBlock), ("body", .yulBlock), ("post", .yulBlock)]
    | _ => []
  | .yulCase => [("body", .yulBlock)]

end Role

/-! ## Readings -/

namespace Role

/-- The type of what is read. -/
@[reducible]
def Reading : Role → Type
  | .list role => List role.Reading
  | .unit => SourceUnit
  | .unitPart => UnitPart
  | .contractPart => ContractPart
  | .statement => Statement
  | .block | .clause => List Statement
  | .yulStatement => YulStatement
  | .yulBlock | .yulCase => List YulStatement

/-- Whether what is read is of a known kind. -/
def isKnown : (role : Role) → role.Reading → Bool
  | .unitPart => UnitPart.isKnown
  | .contractPart => ContractPart.isKnown
  | .statement => Statement.isKnown
  | .yulStatement => YulStatement.isKnown
  | .list _ | .unit | .block | .clause | .yulBlock | .yulCase => fun _ => true

/-- What is read of a value, without unknown nodes in lists. -/
def read : (role : Role) → Json → Option role.Reading
  | .list role, json =>
    json.items?.bind fun items => (items.mapM role.read).map (List.filter role.isKnown)
  | .unit, json => (SourceUnit.ofJson json).map SourceUnit.pruned
  | .unitPart, json => (UnitPart.ofJson json).map UnitPart.pruned
  | .contractPart, json => (ContractPart.ofJson json).map ContractPart.pruned
  | .block, json => (block? json).map Statement.prunedBody
  | .statement, json => (Statement.ofJson json).map Statement.pruned
  | .clause, json => (clause? json).map Statement.prunedBody
  | .yulBlock, json => (yulBlock? json).map YulStatement.prunedBlock
  | .yulStatement, json => (YulStatement.ofJson json).map YulStatement.pruned
  | .yulCase, json => (yulCase? json).map YulStatement.prunedBlock

/-- What is read of the value of a field that has to be there. -/
def required (role : Role) (name : String) (json : Json) : Option role.Reading :=
  (json.value? name).bind role.read

/-- What is read of the value of a field that may be absent or `null`. -/
def optional (role : Role) (name : String) (json : Json) : Option (Option role.Reading) :=
  (json.optionalValue? name).bind fun value => Json.readOptional value role.read

/-- What is read of a list that is empty when the field is absent. -/
def listed (role : Role) (name : String) (json : Json) : Option (List role.Reading) :=
  (json.defaultedValue? name).bind fun
    | some value => (Role.list role).read value
    | none => some []

end Role

/-! ## Readings of fields -/

/-- Readings that are changed one by one are changed together. -/
theorem mapM_map_reading {α β : Type} (reader : Json → Option α) (change : α → β)
    (items : List Json) :
    (items.mapM fun item => (reader item).map change) =
      (items.mapM reader).map (List.map change) := by
  induction items with
  | nil => rfl
  | cons item items ih =>
    rw [List.mapM_cons, List.mapM_cons, ih]
    cases reader item with
    | none => rfl
    | some _ => cases items.mapM reader <;> rfl

section

variable {α : Type} {role : Role} {reader : Json → Option α} {item : α → role.Reading}

/-- What is read of a required field, by a reader that tells more. -/
theorem required_eq (each : ∀ json, role.read json = (reader json).map item) (name : String)
    (json : Json) :
    role.required name json =
      ((json.required? name).bind fun part => reader part.1).map item := by
  rw [Role.required, Json.required?_bind, Option.map_bind]
  congr 1
  funext value
  exact each value

/-- What is read of an optional field, by a reader that tells more. -/
theorem optional_eq (each : ∀ json, role.read json = (reader json).map item) (name : String)
    (json : Json) :
    role.optional name json =
      ((json.optional? name).bind fun value =>
        Json.readOptional value fun part => reader part.1).map (Option.map item) := by
  rw [Role.optional, ← Json.map_optional?, Option.bind_map, Option.map_bind]
  congr 1
  funext value
  cases value with
  | none => rfl
  | some part =>
    have own := each part.1
    simp only [Function.comp_apply, Option.map_some, Json.readOptional, own, Option.map_map]
    rfl

/-- What is read of a list, by a reader that tells more. -/
theorem listed_eq {all : List α → List role.Reading}
    (each : ∀ json, role.read json = (reader json).map item)
    (kept : ∀ items, all items = (items.map item).filter role.isKnown) (name : String)
    (json : Json) :
    role.listed name json =
      ((json.defaultedList? name).bind fun parts =>
        parts.mapM fun part => reader part.1).map all := by
  rw [Role.listed, Json.defaultedList?_mapM, Option.map_bind]
  congr 1
  funext value
  cases value with
  | none => exact congrArg some (kept []).symm
  | some value =>
    have own : role.read = fun json => (reader json).map item := funext each
    have whole : all = List.filter role.isKnown ∘ List.map item := funext kept
    simp only [Function.comp_apply, Role.read]
    cases value.items? with
    | none => rfl
    | some items =>
      rw [Option.bind_some, Option.bind_some, own, mapM_map_reading, Option.map_map, whole]

end

/-! ## Readings of nodes -/

/-- What is read of a node of some kind, from the object that it is. -/
def Role.readKind (kind : String) : (role : Role) → Json → Option role.Reading
  | .list _, _ => none
  | .unit, record => do
    let parts ← Role.unitPart.listed "nodes" record
    return { path := ← record.requiredText? "absolutePath", parts }
  | .unitPart, node => (UnitPart.ofKind? kind node).map UnitPart.pruned
  | .contractPart, node => (ContractPart.ofKind? kind node).map ContractPart.pruned
  | .block, record => Role.statement.listed "statements" record
  | .statement, node => (Statement.ofKind? kind node).map Statement.pruned
  | .clause, record => Role.block.required "block" record
  | .yulBlock, record => Role.yulStatement.listed "statements" record
  | .yulStatement, node => (YulStatement.ofKind? kind node).map YulStatement.pruned
  | .yulCase, record => Role.yulBlock.required "body" record

section

variable (json : Json)

/-- What is read of a block of assembly is read of its statements. -/
theorem read_yulBlock :
    Role.read .yulBlock json =
      (json.object? blockFields).bind (Role.yulStatement.listed "statements") := by
  rw [← Json.record?_bind, Role.read, yulBlock?, Option.bind_eq_bind, Option.map_bind]
  congr 1
  funext ⟨record, _⟩
  show _ = Role.yulStatement.listed "statements" record
  rw [listed_eq (fun _ => rfl) YulStatement.prunedBlock_eq]
  rfl

/-- What is read of a case is read of its block. -/
theorem read_yulCase :
    Role.read .yulCase json = (json.object? ["body"]).bind (Role.yulBlock.required "body") := by
  rw [← Json.record?_bind, Role.read, yulCase?, Option.bind_eq_bind, Option.map_bind]
  congr 1
  funext ⟨record, _⟩
  show _ = Role.yulBlock.required "body" record
  rw [required_eq fun _ => rfl]
  rfl

/-- What is read of a block is read of its statements. -/
theorem read_block :
    Role.read .block json =
      (json.object? blockFields).bind (Role.statement.listed "statements") := by
  rw [← Json.record?_bind, Role.read, block?, Option.bind_eq_bind, Option.map_bind]
  congr 1
  funext ⟨record, _⟩
  show _ = Role.statement.listed "statements" record
  rw [listed_eq (fun _ => rfl) Statement.prunedBody_eq]
  rfl

/-- What is read of a clause is read of its block. -/
theorem read_clause :
    Role.read .clause json = (json.object? ["block"]).bind (Role.block.required "block") := by
  rw [← Json.record?_bind, Role.read, clause?, Option.bind_eq_bind, Option.map_bind]
  congr 1
  funext ⟨record, _⟩
  show _ = Role.block.required "block" record
  rw [required_eq fun _ => rfl]
  rfl

/-- A source file is read by its nodes. -/
theorem map_pruned_sourceUnit :
    (SourceUnit.ofRecord json).map SourceUnit.pruned = Role.unit.readKind "" json := by
  rw [Role.readKind, listed_eq (fun _ => rfl) (fun _ => rfl), SourceUnit.ofRecord]
  cases json.defaultedList? "nodes" <;> cases json.requiredText? "absolutePath" <;>
    simp [Option.map_eq_bind, Option.bind_assoc, SourceUnit.pruned, Role.isKnown]

/-- A source file is read as the object that it is. -/
theorem read_unit :
    Role.unit.read json =
      (json.object? ["absolutePath", "nodes"]).bind (Role.unit.readKind "") := by
  show (SourceUnit.ofJson json).map SourceUnit.pruned = _
  rw [← Json.record?_bind, SourceUnit.ofJson, Option.bind_eq_bind, Option.map_bind]
  congr 1
  funext ⟨record, _⟩
  exact map_pruned_sourceUnit record

/-- A node inside another one is read as what it says it is and the object that it is. -/
theorem map_node?_bind {α β : Type} (kinds : List (String × List String))
    (reader : String → Json → Option α) (change : α → β) :
    ((node? kinds json).bind fun node => reader node.1 node.2.1).map change =
      ((json.tag? "nodeType").bind (Json.innerKind? (kinds.map Prod.fst))).bind fun kind =>
        (json.object? ("nodeType" :: (kinds.lookup kind).getD [])).bind fun node =>
          (reader kind node).map change := by
  rw [node?, Json.innerNode?, Json.node?_bind, Option.map_bind]
  simp only [Function.comp_def, Option.map_bind]

/-- A node is read as what it says it is and the object that it is. -/
theorem read_eq {role : Role} (isNode : ∀ inner, role ≠ .list inner) :
    role.read json =
      if role.accepts json then
        (role.kind? json).bind fun kind =>
          (json.object? (role.names kind)).bind (role.readKind kind)
      else none := by
  cases role with
  | list inner => exact absurd rfl (isNode inner)
  | unit => exact read_unit json
  | unitPart =>
    show (UnitPart.ofJson json).map UnitPart.pruned = if json.isReadable then _ else none
    rw [UnitPart.ofJson]
    cases json.isReadable with
    | false => rfl
    | true =>
      show ((json.outerNode? "nodeType" unitPartKinds).bind fun node =>
        UnitPart.ofKind? node.1 node.2.1).map UnitPart.pruned = _
      rw [Json.outerNode?, Json.node?_bind, Option.map_bind]
      simp only [Function.comp_def, Option.map_bind]
      rfl
  | contractPart => exact map_node?_bind json contractPartKinds ContractPart.ofKind? _
  | block => exact read_block json
  | statement =>
    show (Statement.ofJson json).map Statement.pruned = _
    rw [Statement.ofJson]
    exact map_node?_bind json statementKinds Statement.ofKind? _
  | clause => exact read_clause json
  | yulBlock => exact read_yulBlock json
  | yulStatement =>
    show (YulStatement.ofJson json).map YulStatement.pruned = _
    rw [YulStatement.ofJson]
    exact map_node?_bind json yulStatementKinds YulStatement.ofKind? _
  | yulCase => exact read_yulCase json

end

/-! ## Kinds -/

section

variable (node : Json)

/-- The cases of a switch are all kept. -/
theorem prunedCases_eq_filter (cases : List (List YulStatement)) :
    YulStatement.prunedCases cases =
      (cases.map YulStatement.prunedBlock).filter Role.yulCase.isKnown := by
  rw [YulStatement.prunedCases_eq]
  exact (List.filter_eq_self.2 fun _ _ => rfl).symm

/-- The clauses of a call are all kept. -/
theorem prunedClauses_eq_filter (clauses : List (List Statement)) :
    Statement.prunedClauses clauses =
      (clauses.map Statement.prunedBody).filter Role.clause.isKnown := by
  rw [Statement.prunedClauses_eq]
  exact (List.filter_eq_self.2 fun _ _ => rfl).symm

/-- A statement of assembly with blocks inside it is read by these. -/
theorem readKind_yulStatement (kind : String) :
    Role.yulStatement.readKind kind node =
      match kind with
      | "YulBlock" => (Role.yulBlock.read node).map .block
      | "YulIf" => (Role.yulBlock.required "body" node).map .ifThen
      | "YulSwitch" => (Role.yulCase.listed "cases" node).map .switch
      | "YulForLoop" => do
        return .forLoop (← Role.yulBlock.required "pre" node)
          (← Role.yulBlock.required "body" node) (← Role.yulBlock.required "post" node)
      | kind => Role.yulStatement.readKind kind node := by
  -- One case for each kind, in the order in which they are listed above.
  split
  · rw [Role.readKind, Role.read, YulStatement.ofKind?]
    cases yulBlock? node <;> rfl
  · rw [required_eq fun _ => rfl, Role.readKind, YulStatement.ofKind?]
    cases node.required? "body" <;>
      simp [Option.map_eq_bind, Option.bind_assoc, YulStatement.pruned]
  · rw [listed_eq (fun _ => rfl) prunedCases_eq_filter, Role.readKind, YulStatement.ofKind?]
    cases node.defaultedList? "cases" <;>
      simp [Option.map_eq_bind, Option.bind_assoc, YulStatement.pruned]
  · rw [required_eq fun _ => rfl, required_eq fun _ => rfl, required_eq fun _ => rfl,
      Role.readKind, YulStatement.ofKind?]
    cases node.required? "pre" <;> cases node.required? "body" <;>
      cases node.required? "post" <;>
      simp [Option.map_eq_bind, Option.bind_assoc, YulStatement.pruned]
  · rfl

/-- A statement with statements inside it is read by these. -/
theorem readKind_statement (kind : String) :
    Role.statement.readKind kind node =
      match kind with
      | "Block" => (Role.block.read node).map .block
      | "UncheckedBlock" => (Role.block.read node).map .uncheckedBlock
      | "InlineAssembly" => (Role.yulBlock.required "AST" node).map .assembly
      | "IfStatement" => do
        return .ifThen (← Role.statement.required "trueBody" node)
          (← Role.statement.optional "falseBody" node)
      | "ForStatement" => do
        return .forLoop (← Role.statement.optional "initializationExpression" node)
          (← Role.statement.required "body" node)
      | "WhileStatement" => (Role.statement.required "body" node).map .whileLoop
      | "DoWhileStatement" => (Role.statement.required "body" node).map .doWhileLoop
      | "TryStatement" => (Role.clause.listed "clauses" node).map .tryCatch
      | kind => Role.statement.readKind kind node := by
  -- One case for each kind, in the order in which they are listed above.
  split
  · rw [Role.readKind, Role.read, Statement.ofKind?]
    cases block? node <;> rfl
  · rw [Role.readKind, Role.read, Statement.ofKind?]
    cases block? node <;> rfl
  · rw [required_eq fun _ => rfl, Role.readKind, Statement.ofKind?]
    cases node.required? "AST" <;>
      simp [Option.map_eq_bind, Option.bind_assoc, Statement.pruned]
  · rw [required_eq fun _ => rfl, optional_eq fun _ => rfl, Role.readKind, Statement.ofKind?]
    cases node.required? "trueBody" <;> cases node.optional? "falseBody" <;>
      simp [Option.map_eq_bind, Option.bind_assoc, Statement.pruned, Statement.prunedOption_eq]
  · rw [required_eq fun _ => rfl, optional_eq fun _ => rfl, Role.readKind, Statement.ofKind?]
    cases node.required? "body" <;> cases node.optional? "initializationExpression" <;>
      simp [Option.map_eq_bind, Option.bind_assoc, Statement.pruned, Statement.prunedOption_eq]
  · rw [required_eq fun _ => rfl, Role.readKind, Statement.ofKind?]
    cases node.required? "body" <;>
      simp [Option.map_eq_bind, Option.bind_assoc, Statement.pruned]
  · rw [required_eq fun _ => rfl, Role.readKind, Statement.ofKind?]
    cases node.required? "body" <;>
      simp [Option.map_eq_bind, Option.bind_assoc, Statement.pruned]
  · rw [listed_eq (fun _ => rfl) prunedClauses_eq_filter, Role.readKind, Statement.ofKind?]
    cases node.defaultedList? "clauses" <;>
      simp [Option.map_eq_bind, Option.bind_assoc, Statement.pruned]
  · rfl

/-- A function is read by its body. -/
theorem map_pruned_functionDefinition :
    (FunctionDefinition.ofRecord node).map FunctionDefinition.pruned = do
      return {
        id := ← node.requiredInt64? "id"
        name := ← node.requiredText? "name"
        body := ← Role.block.optional "body" node } := by
  rw [optional_eq fun _ => rfl, FunctionDefinition.ofRecord, body?]
  simp [Option.map_eq_bind, Option.bind_assoc, FunctionDefinition.pruned]

/-- A modifier is read by its body. -/
theorem map_pruned_modifierDefinition :
    (ModifierDefinition.ofRecord node).map ModifierDefinition.pruned = do
      return {
        name := ← node.requiredText? "name"
        body := ← Role.block.optional "body" node } := by
  rw [optional_eq fun _ => rfl, ModifierDefinition.ofRecord, body?]
  simp [Option.map_eq_bind, Option.bind_assoc, ModifierDefinition.pruned]

/-- A contract is read by its nodes. -/
theorem map_pruned_contractDefinition :
    (ContractDefinition.ofRecord node).map ContractDefinition.pruned = do
      let kind ← (node.value? "contractKind").bind ContractKind.ofJson
      let parts ← Role.contractPart.listed "nodes" node
      return {
        id := ← node.requiredInt64? "id"
        name := ← node.requiredText? "name"
        kind, parts } := by
  rw [listed_eq (fun _ => rfl) (fun _ => rfl), ← Json.required?_bind, ContractDefinition.ofRecord]
  cases node.required? "contractKind" <;> cases node.defaultedList? "nodes" <;>
    cases node.requiredInt64? "id" <;> cases node.requiredText? "name" <;>
    simp [Option.map_eq_bind, Option.bind_assoc, ContractDefinition.pruned, Role.isKnown]

/-- A contract among the nodes of a file is read as one. -/
theorem readKind_unitPart_contract :
    Role.unitPart.readKind "ContractDefinition" node =
      ((ContractDefinition.ofRecord node).map ContractDefinition.pruned).map .contract := by
  rw [Role.readKind, UnitPart.ofKind?]
  cases ContractDefinition.ofRecord node <;> rfl

/-- A function among the nodes of a file is read as one. -/
theorem readKind_unitPart_function :
    Role.unitPart.readKind "FunctionDefinition" node =
      ((FunctionDefinition.ofRecord node).map FunctionDefinition.pruned).map .function := by
  rw [Role.readKind, UnitPart.ofKind?]
  cases FunctionDefinition.ofRecord node <;> rfl

/-- A function of a contract is read as one. -/
theorem readKind_contractPart_function :
    Role.contractPart.readKind "FunctionDefinition" node =
      ((FunctionDefinition.ofRecord node).map FunctionDefinition.pruned).map .function := by
  rw [Role.readKind, ContractPart.ofKind?]
  cases FunctionDefinition.ofRecord node <;> rfl

/-- A modifier of a contract is read as one. -/
theorem readKind_contractPart_modifier :
    Role.contractPart.readKind "ModifierDefinition" node =
      ((ModifierDefinition.ofRecord node).map ModifierDefinition.pruned).map .modifier := by
  rw [Role.readKind, ContractPart.ofKind?]
  cases ModifierDefinition.ofRecord node <;> rfl

end

/-! ## Unknown nodes -/

/-- What is read of a node of an unknown kind. -/
def Role.other? : (role : Role) → Option role.Reading
  | .unitPart => some .other
  | .contractPart => some .other
  | .statement => some .other
  | .yulStatement => some .other
  | .list _ | .unit | .block | .clause | .yulBlock | .yulCase => none

/-- A node of a kind that is not listed is read as one of an unknown kind. -/
theorem readKind_of_notMem {role : Role} {kinds : List (String × List String)} {kind : String}
    (listed : role.kinds? = some kinds) (fresh : kind ∉ kinds.map Prod.fst) (node : Json) :
    role.readKind kind node = role.other? := by
  -- Of each reader only the last branch is left, as the kind is none of those before.
  cases role with
  | unitPart =>
    cases listed
    rw [Role.readKind, UnitPart.ofKind?]
    · rfl
    all_goals exact fun known => fresh (known ▸ by decide)
  | contractPart =>
    cases listed
    rw [Role.readKind, ContractPart.ofKind?]
    · rfl
    all_goals exact fun known => fresh (known ▸ by decide)
  | statement =>
    cases listed
    rw [Role.readKind, Statement.ofKind?]
    · rfl
    all_goals exact fun known => fresh (known ▸ by decide)
  | yulStatement =>
    cases listed
    rw [Role.readKind, YulStatement.ofKind?]
    · rfl
    all_goals exact fun known => fresh (known ▸ by decide)
  | _ => cases listed

/-- A value with nothing in it beyond reading may be read. -/
theorem Role.accepts_of_isReadable (role : Role) {json : Json} (readable : json.isReadable = true) :
    role.accepts json = true := by
  cases role with
  | unitPart => exact readable
  | _ => rfl

/-- A node of an unknown kind is read as one. -/
theorem read_of_isUnknown {role : Role} {node : Json} (unknown : role.IsUnknown node) :
    role.read node = role.other? := by
  obtain ⟨readable, ⟨record, isRecord⟩, kinds, kind, listed, named, fresh⟩ := unknown
  have unlisted : kinds.lookup kind = none := by
    rw [List.lookup_eq_none_iff]
    rintro ⟨known, names⟩ h
    refine bne_iff_ne.2 ?_
    rintro rfl
    exact fresh (List.mem_map_of_mem h)
  have own : role.kind? node = some kind ∧ role.names kind = ["nodeType"] ∧
      ∀ inner, role ≠ .list inner := by
    cases role with
    | unitPart | contractPart | statement | yulStatement =>
      cases listed
      exact ⟨by rw [Role.kind?, named]; rfl, by rw [Role.names, unlisted]; rfl, nofun⟩
    | _ => cases listed
  obtain ⟨kindIs, names, isNode⟩ := own
  rw [read_eq node isNode, if_pos (role.accepts_of_isReadable readable), kindIs, Option.bind_some,
    names, isRecord, Option.bind_some, readKind_of_notMem listed fresh]

/-- What is read of a node of an unknown kind is left out of lists. -/
theorem Role.IsUnknown.exists_other {role : Role} {node : Json} (unknown : role.IsUnknown node) :
    ∃ reading, role.read node = some reading ∧ role.isKnown reading = false := by
  have other := read_of_isUnknown unknown
  obtain ⟨-, -, kinds, kind, listed, -⟩ := unknown
  rw [other]
  cases role with
  | unitPart | contractPart | statement | yulStatement => exact ⟨_, rfl, rfl⟩
  | _ => cases listed

/-! ## Files -/

/-- A list of source files is read but for unknown nodes. -/
theorem read_list_unit (json : Json) :
    (Role.list .unit).read json = (unitsOfJson json).map (List.map SourceUnit.pruned) := by
  have own : Role.unit.read = fun json => (SourceUnit.ofJson json).map SourceUnit.pruned := rfl
  show (json.items?.bind fun items => (items.mapM Role.unit.read).map (List.filter _)) =
    (json.parts?.bind fun parts => parts.mapM fun part => SourceUnit.ofJson part.1).map _
  rw [Json.parts?_mapM, own, Option.map_bind]
  congr 1
  funext items
  rw [mapM_map_reading, Option.map_map]
  exact congrArg (Option.map · _) (funext fun units => List.filter_eq_self.2 fun _ _ => rfl)

end ModularRouter.Ast
