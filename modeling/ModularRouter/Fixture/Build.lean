import ModularRouter.Fixture.Numbering
import ModularRouter.Fixture.TypeSketch
import ModularRouter.Grouping
import ModularRouter.Json.Basic
import ModularRouter.Text.Hex

/-!
# Writing out projects

The source units that a compiler would write for a description, node by node. Nodes get their
numbers in the order in which they are made here.
-/

namespace ModularRouter.Fixture

/-! ## Nodes -/

/-- A node of a kind without a number. -/
def node (kind : String) (fields : List (String × Json)) : Json :=
  .obj (("nodeType", .str kind) :: fields)

/-- A node of a kind with a number. -/
def numberedNode (kind : String) (id : Int) (fields : List (String × Json)) : Json :=
  node kind (("id", .ofInt id) :: fields)

/-- A node with the next number. -/
def freshNode (kind : String) (fields : List (String × Json)) : Numbered Json := do
  return numberedNode kind (← Numbering.next) fields

/-- A block. -/
def block (statements : List Json) : Numbered Json :=
  freshNode "Block" [("statements", .arr statements)]

/-- A literal. -/
def literal (kind value : String) : Numbered Json :=
  freshNode "Literal" [("kind", .str kind), ("value", .str value)]

/-- A name, with the declaration it refers to if there is one. -/
def identifier (name : String) : Numbered Json := do
  let reference ← Numbering.declared? name
  freshNode "Identifier" [("name", .str name),
    ("referencedDeclaration", (reference.map Json.ofNat).getD .null)]

/-- A call. -/
def call (callee : Json) (arguments : List Json) : Numbered Json :=
  freshNode "FunctionCall" [("expression", callee), ("arguments", .arr arguments)]

/-! ## Types -/

/-- The length of an array, absent if nothing is written. -/
def arrayLength (length : String) : Numbered Json :=
  if length.isEmpty then return .null else literal "number" length

/-- A type. -/
def typeName : TypeSketch → Numbered Json
  | .mapping key value => do
    let id ← Numbering.next
    let key ← typeName key
    let value ← typeName value
    return numberedNode "Mapping" id [("keyType", key), ("valueType", value)]
  | .array base length => do
    let id ← Numbering.next
    let length ← arrayLength length
    let base ← typeName base
    return numberedNode "ArrayTypeName" id [("baseType", base), ("length", length)]
  | .function visibility => freshNode "FunctionTypeName" [("visibility", .str visibility)]
  | .elementary name => freshNode "ElementaryTypeName" [("name", .str name)]
  | .user name => do
    let id ← Numbering.next
    let reference ← Numbering.reference name
    let path ← freshNode "IdentifierPath" [("name", .str name)]
    return numberedNode "UserDefinedTypeName" id
      [("referencedDeclaration", .ofInt reference), ("pathNode", path)]

/-- A type by its text. -/
def typeOfText (text : String) : Numbered Json := do
  typeName (← TypeSketch.ofText text)

/-- A local variable or a member. -/
def variableNode (name type : String) : Numbered Json := do
  let id ← Numbering.next
  let type ← typeOfText type
  return numberedNode "VariableDeclaration" id [("name", .str name), ("constant", .bool false),
    ("stateVariable", .bool false), ("typeName", type)]

/-! ## Slots -/

/-- The expression that computes a slot. -/
def expression : SlotSource → Numbered Json
  | .yulLiteral value | .yulLet value | .literal value => literal "number" value
  | .keccak text => do
    let keccak ← identifier "keccak256"
    call keccak [← literal "string" text]
  | .encodedSeed seed => do
    let abi ← identifier "abi"
    let encode ← freshNode "MemberAccess" [("expression", abi), ("memberName", .str "encode")]
    let seed ← literal "string" seed
    let id ← identifier "id"
    let encoded ← call encode [seed, id]
    call (← identifier "keccak256") [encoded]
  | .keccakBytes bytes => do
    let keccak ← identifier "keccak256"
    let literal ← freshNode "Literal" [("kind", .str "string"), ("value", .null),
      ("hexValue", .str (String.ofList (Text.Hex.ofBytes bytes)))]
    call keccak [literal]
  | .constant name => identifier name
  | .call function => do call (← identifier function) []

/-- A name in assembly. -/
def yulIdentifier (name : String) : Json :=
  node "YulIdentifier" [("name", .str name)]

/-- A number in assembly. -/
def yulNumber (value : String) : Json :=
  node "YulLiteral" [("kind", .str "number"), ("value", .str value)]

/-- A block of assembly. -/
def yulBlock (statements : List Json) : Json :=
  node "YulBlock" [("statements", .arr statements)]

/-- Assigns the slot of the storage pointer. -/
def yulAssign (value : Json) : Json :=
  node "YulAssignment" [("variableNames", .arr [yulIdentifier "store.slot"]), ("value", value)]

/-- Declares an assembly variable. -/
def yulLet (name : String) (value : Json) : Json :=
  node "YulVariableDeclaration" [
    ("variables", .arr [node "YulTypedName" [("name", .str name), ("type", .str "")]]),
    ("value", value)]

/-- The ways by which a slot is assigned. -/
structure SlotParts where
  /-- The statements before the assembly. -/
  statements : List Json
  /-- What the assembly declares. -/
  declarations : List Json
  /-- What the assembly assigns. -/
  assignments : List Json

/-- The parts that assign a slot. -/
def slotParts (slot : SlotSource) : Numbered SlotParts :=
  match slot with
  | .yulLiteral value => return ⟨[], [], [yulAssign (yulNumber value)]⟩
  | .yulLet value =>
    return ⟨[], [yulLet "s" (yulNumber value)], [yulAssign (yulIdentifier "s")]⟩
  | .constant name => return ⟨[], [], [yulAssign (yulIdentifier name)]⟩
  | _ => do
    let declaration ← variableNode "s" "bytes32"
    let id ← Numbering.next
    let value ← expression slot
    let statement := numberedNode "VariableDeclarationStatement" id
      [("declarations", .arr [declaration]), ("initialValue", value)]
    return ⟨[statement], [], [yulAssign (yulIdentifier "s")]⟩

/-- The assembly that assigns a slot. -/
def yulStatements (nesting : Option Nesting) (parts : SlotParts) : List Json :=
  let statements := parts.declarations ++ parts.assignments
  match nesting with
  | some .yulSwitch =>
    [node "YulSwitch" [("expression", yulIdentifier "x"),
      ("cases", .arr [
        node "YulCase" [("value", yulNumber "0"), ("body", yulBlock [])],
        node "YulCase" [("value", .str "default"), ("body", yulBlock statements)]])]]
  | some .yulForLoop =>
    [node "YulForLoop" [("pre", yulBlock parts.declarations), ("condition", yulNumber "1"),
      ("post", yulBlock []), ("body", yulBlock parts.assignments)]]
  | _ => statements

/-- A clause of an external call. -/
def clause (statements : List Json) : Numbered Json := do
  let id ← Numbering.next
  let block ← block statements
  return numberedNode "TryCatchClause" id [("errorName", .str ""), ("block", block)]

/-- A loop of a kind under a condition. -/
def conditionalLoop (kind : String) (condition : Json) (statements : List Json) :
    Numbered Json := do
  let id ← Numbering.next
  let body ← block statements
  return numberedNode kind id [("condition", condition), ("body", body)]

/-- A counting loop over some statements and the assembly; the first of the statements, if there is
one, is its head. -/
def countingLoop (statements : List Json) (assembly : Json) : Numbered Json := do
  let id ← Numbering.next
  let body ← block (statements.drop 1 ++ [assembly])
  return numberedNode "ForStatement" id
    [("initializationExpression", statements.head?.getD .null), ("body", body)]

/-- An external call that assigns the slot in its second clause. -/
def externalCall (statements : List Json) : Numbered Json := do
  let id ← Numbering.next
  let function ← identifier "f"
  let first ← clause []
  let second ← clause statements
  return numberedNode "TryStatement" id
    [("externalCall", function), ("clauses", .arr [first, second])]

/-- The statements of a routine that assigns a slot. The condition of a loop is made whether there
is a loop or not. -/
def slotStatements (slot : SlotSource) (nesting : Option Nesting) : Numbered (List Json) := do
  let parts ← slotParts slot
  let assembly ← freshNode "InlineAssembly" [("AST", yulBlock (yulStatements nesting parts)),
    ("externalReferences", .arr [])]
  let condition ← literal "bool" "true"
  let statements := parts.statements ++ [assembly]
  match nesting with
  | some .forLoop => return [← countingLoop parts.statements assembly]
  | some .whileLoop => return [← conditionalLoop "WhileStatement" condition statements]
  | some .doWhileLoop => return [← conditionalLoop "DoWhileStatement" condition statements]
  | some .tryCatch => return [← externalCall statements]
  | _ => return statements

/-- A function or modifier that assigns a slot. -/
def routine (kind name : String) (slot : SlotSource) (nesting : Option Nesting) :
    Numbered Json := do
  let id ← Numbering.next
  let statements ← slotStatements slot nesting
  let body ← block statements
  return numberedNode kind id [("name", .str name), ("body", body)]

/-! ## Items and units -/

/-- An item of a contract. -/
def item : Item → Numbered Json
  | .struct name members => do
    let id ← Numbering.reference name
    let members ← members.mapM fun (type, member) => variableNode member type
    return numberedNode "StructDefinition" id [("name", .str name), ("members", .arr members)]
  | .enum name members => do
    let id ← Numbering.reference name
    let members ← members.mapM fun member => freshNode "EnumValue" [("name", .str member)]
    return numberedNode "EnumDefinition" id [("name", .str name), ("members", .arr members)]
  | .valueType name underlying => do
    let id ← Numbering.reference name
    let type ← typeOfText underlying
    return numberedNode "UserDefinedValueTypeDefinition" id
      [("name", .str name), ("underlyingType", type)]
  | .constant name value => do
    let id ← Numbering.reference name
    let type ← typeOfText "bytes32"
    let value ← expression value
    return numberedNode "VariableDeclaration" id [("name", .str name), ("constant", .bool true),
      ("stateVariable", .bool true), ("typeName", type), ("value", value)]
  | .function name slot nesting => routine "FunctionDefinition" name slot nesting
  | .modifier name slot => routine "ModifierDefinition" name slot none

/-- Numbers what an item declares. -/
def declareItem : Item → Numbered Unit
  | .struct name _ | .enum name _ | .valueType name _ | .constant name _ => Numbering.declare name
  | .function _ _ _ | .modifier _ _ => return

/-- Numbers a contract and what it declares. -/
def declareContract (contract : ContractFixture) : Numbered Unit := do
  Numbering.declare contract.name
  contract.items.forM declareItem

/-- A contract. -/
def contractNode (contract : ContractFixture) : Numbered Json := do
  let id ← Numbering.reference contract.name
  let items ← contract.items.mapM item
  return numberedNode "ContractDefinition" id [("name", .str contract.name),
    ("contractKind", .str contract.kind), ("abstract", .bool false), ("nodes", .arr items)]

/-- The nodes of a project with the paths of their source files. -/
def nodes (project : Project) : Numbered (List (String × Json)) := do
  project.contracts.forM declareContract
  let contracts ← project.contracts.mapM fun contract => do
    return (contract.path, ← contractNode contract)
  let functions ← project.freeFunctions.mapM fun function => do
    return (function.path, ← routine "FunctionDefinition" function.name function.slot none)
  return contracts ++ functions

/-- The source file of a path. -/
def unitNode (path : String) (nodes : List Json) : Json :=
  node "SourceUnit" [("absolutePath", .str path), ("nodes", .arr nodes)]

/-- The source files of a project, in the order in which their paths first occur. -/
def units (project : Project) : Except FixtureError (List Json) := do
  let (nodes, _) ← (nodes project).run Numbering.start
  return (groupByKey Prod.fst nodes).map fun (path, group) => unitNode path (group.map Prod.snd)

end ModularRouter.Fixture
