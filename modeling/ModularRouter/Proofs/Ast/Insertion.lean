import Mathlib.Logic.Relation
import ModularRouter.Proofs.Ast.Roles

/-!
# Nodes put into JSON

One step of `Inserted` puts a node of an unknown kind into a list of nodes, at any depth. What is
read of a value is the same before and after such a step, but for unknown nodes in lists
(`readAlike_of_inserted`).
-/

namespace ModularRouter.Ast

/-- Whether one value is another one with one node more, which is of an unknown kind and stands in a
list of nodes, at any depth. What stands inside a node of an unknown kind does not matter either. -/
inductive Inserted : Role → Json → Json → Prop where
  /-- The node is put between the items of a list. -/
  | here {role : Role} {before after : List Json} {node : Json} (unknown : role.IsUnknown node) :
      Inserted (.list role) (.arr (before ++ after)) (.arr (before ++ node :: after))
  /-- The node is put into an item of a list. -/
  | item {role : Role} {before after : List Json} {old new : Json}
      (inside : Inserted role old new) :
      Inserted (.list role) (.arr (before ++ old :: after)) (.arr (before ++ new :: after))
  /-- The node is put into the value of a field, be it of an object or of a list. -/
  | field {role inner : Role} {hole : Json.Hole} {kind name : String} {old new : Json}
      (known : role.kind? (hole.fill old) = some kind)
      (named : hole.name? (role.names kind) = some name)
      (holds : (name, inner) ∈ role.fields kind) (inside : Inserted inner old new) :
      Inserted role (hole.fill old) (hole.fill new)
  /-- A node of an unknown kind is changed into another one. -/
  | unknown {role : Role} {old new : Json} (before : role.IsUnknown old)
      (after : role.IsUnknown new) : Inserted role old new

/-! ## Values that are read alike -/

/-- Whether two values are read alike in a role and can stand for each other in a field. -/
structure ReadAlike (role : Role) (old new : Json) : Prop where
  -- An optional field with `null` counts as absent.
  oldGiven : old ≠ .null
  newGiven : new ≠ .null
  -- A node of a file is read only if all of it is readable, unknown nodes inside it included.
  readable : new.isReadable = old.isReadable
  same : role.read new = role.read old

/-! ## One field replaced -/

section

variable {role inner : Role} {before after : List (String × Json)} {name other : String}
  {old new : Json}

/-- What is read of other required fields does not depend on a field. -/
theorem required_withField_of_ne (role : Role) (different : other ≠ name) :
    role.required other (.withField before name new after) =
      role.required other (.withField before name old after) := by
  rw [Role.required, Role.required, Json.value?_withField_of_ne different]

/-- What is read of other optional fields does not depend on a field. -/
theorem optional_withField_of_ne (role : Role) (different : other ≠ name) :
    role.optional other (.withField before name new after) =
      role.optional other (.withField before name old after) := by
  rw [Role.optional, Role.optional, Json.optionalValue?_withField_of_ne different]

/-- The text of another field does not depend on a field. -/
theorem requiredText?_withField_of_ne (different : other ≠ name) :
    (Json.withField before name new after).requiredText? other =
      (Json.withField before name old after).requiredText? other := by
  rw [Json.requiredText?_eq, Json.requiredText?_eq, Json.value?_withField_of_ne different]

/-- The number of another field does not depend on a field. -/
theorem requiredInt64?_withField_of_ne (different : other ≠ name) :
    (Json.withField before name new after).requiredInt64? other =
      (Json.withField before name old after).requiredInt64? other := by
  rw [Json.requiredInt64?_eq, Json.requiredInt64?_eq, Json.value?_withField_of_ne different]

/-- A required field with a value that is read alike is read alike. -/
theorem required_withField (alike : ReadAlike inner old new) :
    inner.required name (.withField before name new after) =
      inner.required name (.withField before name old after) :=
  Json.value?_withField_bind alike.same

/-- A list with items that are read alike is read alike. -/
theorem listed_withField (alike : ReadAlike (.list inner) old new) :
    inner.listed name (.withField before name new after) =
      inner.listed name (.withField before name old after) :=
  Json.defaultedValue?_withField_bind alike.same

/-- An optional field with a value that is read alike is read alike. -/
theorem optional_withField (alike : ReadAlike inner old new) :
    inner.optional name (.withField before name new after) =
      inner.optional name (.withField before name old after) := by
  have read : Json.readOptional (some new) inner.read = Json.readOptional (some old) inner.read :=
    congrArg (Option.map some) alike.same
  exact Json.optionalValue?_withField_bind alike.newGiven alike.oldGiven read

/-- A function is read alike where its body is. -/
theorem map_pruned_functionDefinition_withField (alike : ReadAlike .block old new) :
    (FunctionDefinition.ofRecord (.withField before "body" new after)).map
        FunctionDefinition.pruned =
      (FunctionDefinition.ofRecord (.withField before "body" old after)).map
        FunctionDefinition.pruned := by
  rw [map_pruned_functionDefinition, map_pruned_functionDefinition,
    optional_withField alike,
    requiredInt64?_withField_of_ne (by decide : "id" ≠ "body"),
    requiredText?_withField_of_ne (by decide : "name" ≠ "body")]

/-- A modifier is read alike where its body is. -/
theorem map_pruned_modifierDefinition_withField (alike : ReadAlike .block old new) :
    (ModifierDefinition.ofRecord (.withField before "body" new after)).map
        ModifierDefinition.pruned =
      (ModifierDefinition.ofRecord (.withField before "body" old after)).map
        ModifierDefinition.pruned := by
  rw [map_pruned_modifierDefinition, map_pruned_modifierDefinition,
    optional_withField alike,
    requiredText?_withField_of_ne (by decide : "name" ≠ "body")]

/-- A contract is read alike where its nodes are. -/
theorem map_pruned_contractDefinition_withField
    (alike : ReadAlike (.list .contractPart) old new) :
    (ContractDefinition.ofRecord (.withField before "nodes" new after)).map
        ContractDefinition.pruned =
      (ContractDefinition.ofRecord (.withField before "nodes" old after)).map
        ContractDefinition.pruned := by
  rw [map_pruned_contractDefinition, map_pruned_contractDefinition, listed_withField alike,
    Json.value?_withField_of_ne (by decide : "contractKind" ≠ "nodes"),
    requiredInt64?_withField_of_ne (by decide : "id" ≠ "nodes"),
    requiredText?_withField_of_ne (by decide : "name" ≠ "nodes")]

/-- A block is read alike where its statements are. -/
theorem read_block_withField (alike : ReadAlike (.list .statement) old new) :
    Role.block.read (.withField before "statements" new after) =
      Role.block.read (.withField before "statements" old after) := by
  rw [read_block, read_block, Json.object?_withField, Json.object?_withField, Option.bind_some,
    Option.bind_some, listed_withField alike]

/-- A block of assembly is read alike where its statements are. -/
theorem read_yulBlock_withField (alike : ReadAlike (.list .yulStatement) old new) :
    Role.yulBlock.read (.withField before "statements" new after) =
      Role.yulBlock.read (.withField before "statements" old after) := by
  rw [read_yulBlock, read_yulBlock, Json.object?_withField, Json.object?_withField, Option.bind_some,
    Option.bind_some, listed_withField alike]

/-! ## Kinds -/

section

variable {kind : String}

/-- A node of a file is read alike where a field of it is. -/
theorem readKind_unitPart_withField (alike : ReadAlike inner old new)
    (holds : (name, inner) ∈ Role.unitPart.fields kind) :
    Role.unitPart.readKind kind (.withField before name new after) =
      Role.unitPart.readKind kind (.withField before name old after) := by
  unfold Role.fields at holds
  dsimp only at holds
  split at holds
  · cases List.mem_singleton.1 holds
    rw [readKind_unitPart_contract, readKind_unitPart_contract,
      map_pruned_contractDefinition_withField alike]
  · cases List.mem_singleton.1 holds
    rw [readKind_unitPart_function, readKind_unitPart_function,
      map_pruned_functionDefinition_withField alike]
  · cases holds

/-- A node of a contract is read alike where a field of it is. -/
theorem readKind_contractPart_withField (alike : ReadAlike inner old new)
    (holds : (name, inner) ∈ Role.contractPart.fields kind) :
    Role.contractPart.readKind kind (.withField before name new after) =
      Role.contractPart.readKind kind (.withField before name old after) := by
  unfold Role.fields at holds
  dsimp only at holds
  split at holds
  · cases List.mem_singleton.1 holds
    rw [readKind_contractPart_function, readKind_contractPart_function,
      map_pruned_functionDefinition_withField alike]
  · cases List.mem_singleton.1 holds
    rw [readKind_contractPart_modifier, readKind_contractPart_modifier,
      map_pruned_modifierDefinition_withField alike]
  · cases holds

/-- A statement is read alike where a field of it is. -/
theorem readKind_statement_withField (alike : ReadAlike inner old new)
    (holds : (name, inner) ∈ Role.statement.fields kind) :
    Role.statement.readKind kind (.withField before name new after) =
      Role.statement.readKind kind (.withField before name old after) := by
  unfold Role.fields at holds
  dsimp only at holds
  rw [readKind_statement, readKind_statement]
  -- What a kind says about the reading of its fields is looked up once the kind is known.
  split at holds <;> try dsimp only
  · cases List.mem_singleton.1 holds
    rw [read_block_withField alike]
  · cases List.mem_singleton.1 holds
    rw [read_block_withField alike]
  · cases List.mem_singleton.1 holds
    rw [required_withField alike]
  · rcases List.mem_cons.1 holds with body | rest
    · cases body
      rw [required_withField alike,
        optional_withField_of_ne _ (by decide : "falseBody" ≠ "trueBody")]
    · cases List.mem_singleton.1 rest
      rw [optional_withField alike,
        required_withField_of_ne _ (by decide : "trueBody" ≠ "falseBody")]
  · rcases List.mem_cons.1 holds with init | rest
    · cases init
      rw [optional_withField alike,
        required_withField_of_ne _ (by decide : "body" ≠ "initializationExpression")]
    · cases List.mem_singleton.1 rest
      rw [required_withField alike,
        optional_withField_of_ne _ (by decide : "initializationExpression" ≠ "body")]
  · cases List.mem_singleton.1 holds
    rw [required_withField alike]
  · cases List.mem_singleton.1 holds
    rw [required_withField alike]
  · cases List.mem_singleton.1 holds
    rw [listed_withField alike]
  · cases holds

/-- A statement of assembly is read alike where a field of it is. -/
theorem readKind_yulStatement_withField (alike : ReadAlike inner old new)
    (holds : (name, inner) ∈ Role.yulStatement.fields kind) :
    Role.yulStatement.readKind kind (.withField before name new after) =
      Role.yulStatement.readKind kind (.withField before name old after) := by
  unfold Role.fields at holds
  dsimp only at holds
  rw [readKind_yulStatement, readKind_yulStatement]
  split at holds <;> try dsimp only
  · cases List.mem_singleton.1 holds
    rw [read_yulBlock_withField alike]
  · cases List.mem_singleton.1 holds
    rw [required_withField alike]
  · cases List.mem_singleton.1 holds
    rw [listed_withField alike]
  · rcases List.mem_cons.1 holds with init | rest
    · cases init
      rw [required_withField alike, required_withField_of_ne _ (by decide : "body" ≠ "pre"),
        required_withField_of_ne _ (by decide : "post" ≠ "pre")]
    · rcases List.mem_cons.1 rest with body | rest
      · cases body
        rw [required_withField alike, required_withField_of_ne _ (by decide : "pre" ≠ "body"),
          required_withField_of_ne _ (by decide : "post" ≠ "body")]
      · cases List.mem_singleton.1 rest
        rw [required_withField alike, required_withField_of_ne _ (by decide : "pre" ≠ "post"),
          required_withField_of_ne _ (by decide : "body" ≠ "post")]
  · cases holds

/-- An object is read alike where a field of it is. -/
theorem readKind_withField (alike : ReadAlike inner old new)
    (holds : (name, inner) ∈ role.fields kind) :
    role.readKind kind (.withField before name new after) =
      role.readKind kind (.withField before name old after) := by
  cases role with
  | list _ => cases holds
  | unit =>
    cases List.mem_singleton.1 holds
    rw [Role.readKind, Role.readKind, listed_withField alike,
      requiredText?_withField_of_ne (by decide : "absolutePath" ≠ "nodes")]
  | unitPart => exact readKind_unitPart_withField alike holds
  | contractPart => exact readKind_contractPart_withField alike holds
  | block =>
    cases List.mem_singleton.1 holds
    exact listed_withField alike
  | statement => exact readKind_statement_withField alike holds
  | clause =>
    cases List.mem_singleton.1 holds
    exact required_withField alike
  | yulBlock =>
    cases List.mem_singleton.1 holds
    exact listed_withField alike
  | yulStatement => exact readKind_yulStatement_withField alike holds
  | yulCase =>
    cases List.mem_singleton.1 holds
    exact required_withField alike

end

end

/-! ## One value replaced -/

section

variable {role inner : Role} {hole : Json.Hole} {kind name : String} {old new : Json}

/-- The kind of a node stands in none of the fields that hold nodes. -/
theorem nodeType_ne_of_mem_fields (holds : (name, inner) ∈ role.fields kind) :
    "nodeType" ≠ name := by
  have other : (role.fields kind).all (fun field => "nodeType" ≠ field.1) = true := by
    cases role <;> unfold Role.fields <;> first | rfl | (dsimp only; split <;> rfl)
  exact of_decide_eq_true (List.all_eq_true.1 other _ holds)

/-- What a node says it is does not depend on a value in a field that holds nodes. -/
theorem kind?_fill (named : hole.name? (role.names kind) = some name)
    (holds : (name, inner) ∈ role.fields kind) :
    role.kind? (hole.fill new) = role.kind? (hole.fill old) := by
  have different := nodeType_ne_of_mem_fields holds
  cases role with
  | unitPart | contractPart | statement | yulStatement =>
    rw [Role.kind?, Role.kind?, Json.tag?_fill_of_ne named different]
  | _ => rfl

/-- Whether a node may be read does not depend on a value that is as readable as another one. -/
theorem accepts_fill (readable : new.isReadable = old.isReadable) :
    role.accepts (hole.fill new) = role.accepts (hole.fill old) := by
  cases role with
  | unitPart => exact Json.isReadable_fill readable
  | _ => rfl

/-- A struct is no `null`. -/
theorem fill_ne_null (value : Json) : hole.fill value ≠ .null := by
  cases hole <;> nofun

/-- A value is read alike where a field of it is. -/
theorem ReadAlike.fill (alike : ReadAlike inner old new)
    (known : role.kind? (hole.fill old) = some kind)
    (named : hole.name? (role.names kind) = some name)
    (holds : (name, inner) ∈ role.fields kind) :
    ReadAlike role (hole.fill old) (hole.fill new) := by
  refine ⟨fill_ne_null old, fill_ne_null new, Json.isReadable_fill alike.readable, ?_⟩
  have isNode : ∀ inner, role ≠ .list inner := by
    rintro inner rfl
    cases holds
  have sameKind : role.kind? (hole.fill new) = some kind := (kind?_fill named holds).trans known
  rw [read_eq _ isNode, read_eq _ isNode, accepts_fill alike.readable, known, sameKind,
    Option.bind_some, Option.bind_some]
  rcases Json.object?_fill named with tooLong | ⟨before, after, isObject⟩
  · rw [tooLong, tooLong]
  · rw [isObject, isObject, Option.bind_some, Option.bind_some, readKind_withField alike holds]

end

/-! ## Steps -/

section

variable {role : Role} {before after : List Json} {old new node : Json}

/-- A list is read alike where an item of it is. -/
theorem ReadAlike.item (alike : ReadAlike role old new) :
    ReadAlike (.list role) (.arr (before ++ old :: after)) (.arr (before ++ new :: after)) := by
  refine ⟨nofun, nofun, ?_, ?_⟩
  · simp only [Json.isReadable, Json.allReadable_append, Json.allReadable, alike.readable]
  · simp only [Role.read, Json.items?, Option.bind_some, List.mapM_append, List.mapM_cons,
      alike.same]

/-- A list is read alike without a node of an unknown kind. -/
theorem readAlike_insert (unknown : role.IsUnknown node) :
    ReadAlike (.list role) (.arr (before ++ after)) (.arr (before ++ node :: after)) := by
  refine ⟨nofun, nofun, ?_, ?_⟩
  · simp only [Json.isReadable, Json.allReadable_append, Json.allReadable, unknown.readable,
      Bool.true_and]
  · obtain ⟨reading, read, other⟩ := unknown.exists_other
    simp only [Role.read, Json.items?, Option.bind_some, List.mapM_append, List.mapM_cons, read]
    cases before.mapM role.read <;> cases after.mapM role.read <;>
      simp [List.filter_append, other]

/-- A node of an unknown kind is no `null`. -/
theorem Role.IsUnknown.ne_null (unknown : role.IsUnknown node) : node ≠ .null := by
  rintro rfl
  obtain ⟨kinds, kind, -, named, -⟩ := unknown.fresh
  cases named

/-- Nodes of unknown kinds are read alike. -/
theorem readAlike_of_isUnknown (unknown : role.IsUnknown old) (another : role.IsUnknown new) :
    ReadAlike role old new :=
  ⟨unknown.ne_null, another.ne_null, another.readable.trans unknown.readable.symm,
    (read_of_isUnknown another).trans (read_of_isUnknown unknown).symm⟩

/-- A value is read alike before and after a step. -/
theorem readAlike_of_inserted (inserted : Inserted role old new) : ReadAlike role old new := by
  induction inserted with
  | here unknown => exact readAlike_insert unknown
  | item _ alike => exact alike.item
  | field known named holds _ alike => exact alike.fill known named holds
  | unknown before after => exact readAlike_of_isUnknown before after

/-- What is read of a value is the same after any number of steps. -/
theorem read_eq_of_reflTransGen (steps : Relation.ReflTransGen (Inserted role) old new) :
    role.read new = role.read old := by
  induction steps with
  | refl => rfl
  | tail _ step same => exact (readAlike_of_inserted step).same.trans same

end

end ModularRouter.Ast
