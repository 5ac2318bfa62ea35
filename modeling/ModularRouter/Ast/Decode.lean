import ModularRouter.Ast.Basic
import ModularRouter.Json.Decode

/-!
# Reading source units

Source units come from the compiler as JSON. A node says what it is in its field `nodeType`. Nodes
of an unknown kind are `other` where the tree allows any node, and are refused where it asks for a
type name or for an expression of the assembly language. A node of a known kind has to be well
formed. A node inside another one may give its kind by its place among the kinds that may stand
there, and any struct or node may be written as the list of the values of its fields. Kinds and
fields are therefore listed in a fixed order.
-/

namespace ModularRouter.Ast

/-- A node inside another one, of one of the kinds that may stand there or of none of them. -/
def node? (kinds : List (String × List String)) (json : Json) : Option (String × json.Record) :=
  json.innerNode? "nodeType" kinds

/-- The name of a struct that has only a name. -/
def nameOf? (json : Json) : Option String := do
  let ⟨record, _⟩ ← json.record? ["name"]
  record.requiredText? "name"

/-! ## Expressions and type names -/

/-- A kind of literal by its name. -/
def LiteralKind.ofJson (json : Json) : Option LiteralKind :=
  match json.innerName? with
  | some "number" => some .number
  | some "string" => some .string
  | some "hexString" => some .hexString
  | some "unicodeString" => some .unicodeString
  | some "bool" => some .bool
  | _ => none

/-- The literal that an object describes. -/
def Literal.ofRecord (json : Json) : Option Literal := do
  let kind ← json.required? "kind"
  return {
    kind := ← LiteralKind.ofJson kind.1
    value := ← json.optionalText? "value"
    hexValue := ← json.optionalText? "hexValue" }

/-- The kinds of expressions and their fields. -/
def expressionKinds : List (String × List String) :=
  [("Literal", ["kind", "value", "hexValue"]), ("Identifier", ["name", "referencedDeclaration"]),
    ("FunctionCall", ["expression", "arguments"]), ("MemberAccess", ["expression", "memberName"])]

/-- An expression. -/
def Expression.ofJson (json : Json) : Option Expression := do
  let (kind, ⟨node, _⟩) ← node? expressionKinds json
  match kind with
  | "Literal" => return .literal (← Literal.ofRecord node)
  | "Identifier" =>
    let reference ← node.optional? "referencedDeclaration"
    return .identifier (← node.requiredText? "name")
      (← Json.readOptional reference fun part => part.1.int64?)
  | "FunctionCall" =>
    let ⟨callee, _⟩ ← node.required? "expression"
    let arguments ← node.defaultedList? "arguments"
    return .call (← ofJson callee) (← arguments.mapM fun ⟨argument, _⟩ => ofJson argument)
  | "MemberAccess" =>
    let ⟨object, _⟩ ← node.required? "expression"
    return .member (← ofJson object) (← node.requiredText? "memberName")
  | _ => return .other
termination_by json.size

/-- The name an identifier path is written with. -/
def pathName? (json : Json) : Option (Option String) := do
  let path ← json.optional? "pathNode"
  Json.readOptional path fun part => nameOf? part.1

/-- The kinds of type names and their fields. -/
def typeNameKinds : List (String × List String) :=
  [("ElementaryTypeName", ["name"]), ("Mapping", ["keyType", "valueType"]),
    ("ArrayTypeName", ["baseType", "length"]),
    ("UserDefinedTypeName", ["referencedDeclaration", "pathNode", "name"]),
    ("FunctionTypeName", ["visibility"])]

/-- The name of a type. -/
def TypeName.ofJson (json : Json) : Option TypeName := do
  let (kind, ⟨node, _⟩) ← node? typeNameKinds json
  match kind with
  | "ElementaryTypeName" => return .elementary (← node.requiredText? "name")
  | "Mapping" =>
    let ⟨key, _⟩ ← node.required? "keyType"
    let ⟨value, _⟩ ← node.required? "valueType"
    return .mapping (← ofJson key) (← ofJson value)
  | "ArrayTypeName" =>
    let ⟨base, _⟩ ← node.required? "baseType"
    let length ← node.optional? "length"
    return .array (← ofJson base)
      (← Json.readOptional length fun part => Expression.ofJson part.1)
  | "UserDefinedTypeName" =>
    return .user (← node.requiredInt64? "referencedDeclaration") (← pathName? node)
      (← node.optionalText? "name")
  | "FunctionTypeName" => return .function (← node.requiredText? "visibility")
  | _ => none
termination_by json.size

/-- A truth value that is false when the field is absent. -/
def flag? (name : String) (json : Json) : Option Bool := do
  match ← json.defaulted? name with
  | some part => part.1.bool?
  | none => return false

/-- The fields of a declaration of a variable, a constant or a member. -/
def VariableDeclaration.fields : List String :=
  ["id", "name", "typeName", "constant", "value"]

/-- A declaration of a variable, a constant or a member. -/
def VariableDeclaration.ofJson (json : Json) : Option VariableDeclaration := do
  let ⟨record, _⟩ ← json.record? fields
  let typeName ← record.optional? "typeName"
  let value ← record.optional? "value"
  return {
    id := ← record.requiredInt64? "id"
    name := ← record.requiredText? "name"
    typeName := ← Json.readOptional typeName fun part => TypeName.ofJson part.1
    constant := ← flag? "constant" record
    value := ← Json.readOptional value fun part => Expression.ofJson part.1 }

/-! ## Assembly -/

/-- The kinds of expressions of the assembly language and their fields. -/
def yulExpressionKinds : List (String × List String) :=
  [("YulLiteral", ["kind", "value", "hexValue"]), ("YulIdentifier", ["name"]),
    ("YulFunctionCall", ["functionName", "arguments"])]

/-- An expression of the assembly language. -/
def YulExpression.ofJson (json : Json) : Option YulExpression := do
  let (kind, ⟨node, _⟩) ← node? yulExpressionKinds json
  match kind with
  | "YulLiteral" =>
    return .literal (← node.requiredText? "kind") (← node.optionalText? "value")
      (← node.optionalText? "hexValue")
  | "YulIdentifier" => return .identifier (← node.requiredText? "name")
  | "YulFunctionCall" =>
    let function ← node.required? "functionName"
    let arguments ← node.defaultedList? "arguments"
    return .call (← nameOf? function.1)
      (← arguments.mapM fun ⟨argument, _⟩ => ofJson argument)
  | _ => none
termination_by json.size

/-- The optional value of an assignment or a declaration. -/
def yulValue? (json : Json) : Option (Option YulExpression) := do
  Json.readOptional (← json.optional? "value") fun part => YulExpression.ofJson part.1

/-- The names in a required list of named nodes. -/
def names? (field : String) (json : Json) : Option (List String) := do
  (← json.requiredList? field).mapM fun part => nameOf? part.1

/-- The fields of a block, of assembly or not. -/
def blockFields : List String :=
  ["statements"]

/-- The kinds of statements of the assembly language and their fields. -/
def yulStatementKinds : List (String × List String) :=
  [("YulAssignment", ["variableNames", "value"]),
    ("YulVariableDeclaration", ["variables", "value"]), ("YulBlock", blockFields),
    ("YulIf", ["body"]), ("YulSwitch", ["cases"]), ("YulForLoop", ["pre", "body", "post"])]

mutual

/-- The statement of the assembly language that an object of some kind describes. -/
def YulStatement.ofKind? (kind : String) (node : Json) : Option YulStatement := do
  match kind with
  | "YulAssignment" => return .assignment (← names? "variableNames" node) (← yulValue? node)
  | "YulVariableDeclaration" => return .declaration (← names? "variables" node) (← yulValue? node)
  | "YulBlock" => return .block (← yulBlock? node)
  | "YulIf" =>
    let ⟨body, _⟩ ← node.required? "body"
    return .ifThen (← yulBlock? body)
  | "YulSwitch" =>
    let cases ← node.defaultedList? "cases"
    return .switch (← cases.mapM fun ⟨case, _⟩ => yulCase? case)
  | "YulForLoop" =>
    let ⟨init, _⟩ ← node.required? "pre"
    let ⟨body, _⟩ ← node.required? "body"
    let ⟨post, _⟩ ← node.required? "post"
    return .forLoop (← yulBlock? init) (← yulBlock? body) (← yulBlock? post)
  | _ => return .other
termination_by 3 * node.size + 1

/-- A statement of the assembly language. -/
def YulStatement.ofJson (json : Json) : Option YulStatement := do
  let (kind, ⟨node, _⟩) ← node? yulStatementKinds json
  YulStatement.ofKind? kind node
termination_by 3 * json.size + 2

/-- A block of the assembly language. -/
def yulBlock? (json : Json) : Option (List YulStatement) := do
  let ⟨record, _⟩ ← json.record? blockFields
  let statements ← record.defaultedList? "statements"
  statements.mapM fun ⟨statement, _⟩ => YulStatement.ofJson statement
termination_by 3 * json.size

/-- The block of a case of a switch. -/
def yulCase? (json : Json) : Option (List YulStatement) := do
  let ⟨record, _⟩ ← json.record? ["body"]
  let ⟨body, _⟩ ← record.required? "body"
  yulBlock? body
termination_by 3 * json.size

end

/-! ## Statements -/

/-- The declarations of a statement; a component of the value may be skipped. -/
def declarations? (json : Json) : Option (List (Option VariableDeclaration)) := do
  (← json.defaultedList? "declarations").mapM fun part =>
    match part.1 with
    | .null => some none
    | declaration => (VariableDeclaration.ofJson declaration).map some

/-- The kinds of statements and their fields. -/
def statementKinds : List (String × List String) :=
  [("Block", blockFields), ("UncheckedBlock", blockFields),
    ("VariableDeclarationStatement", ["declarations", "initialValue"]),
    ("InlineAssembly", ["AST"]), ("IfStatement", ["trueBody", "falseBody"]),
    ("ForStatement", ["initializationExpression", "body"]), ("WhileStatement", ["body"]),
    ("DoWhileStatement", ["body"]), ("TryStatement", ["clauses"])]

mutual

/-- The statement that an object of some kind describes. -/
def Statement.ofKind? (kind : String) (node : Json) : Option Statement := do
  match kind with
  | "Block" => return .block (← block? node)
  | "UncheckedBlock" => return .uncheckedBlock (← block? node)
  | "VariableDeclarationStatement" =>
    let value ← node.optional? "initialValue"
    return .declaration (← declarations? node)
      (← Json.readOptional value fun part => Expression.ofJson part.1)
  | "InlineAssembly" =>
    let body ← node.required? "AST"
    return .assembly (← yulBlock? body.1)
  | "IfStatement" =>
    let ⟨body, _⟩ ← node.required? "trueBody"
    let alternative ← node.optional? "falseBody"
    return .ifThen (← Statement.ofJson body)
      (← Json.readOptional alternative fun ⟨statement, _⟩ => Statement.ofJson statement)
  | "ForStatement" =>
    let init ← node.optional? "initializationExpression"
    let ⟨body, _⟩ ← node.required? "body"
    return .forLoop (← Json.readOptional init fun ⟨statement, _⟩ => Statement.ofJson statement)
      (← Statement.ofJson body)
  | "WhileStatement" =>
    let ⟨body, _⟩ ← node.required? "body"
    return .whileLoop (← Statement.ofJson body)
  | "DoWhileStatement" =>
    let ⟨body, _⟩ ← node.required? "body"
    return .doWhileLoop (← Statement.ofJson body)
  | "TryStatement" =>
    let clauses ← node.defaultedList? "clauses"
    return .tryCatch (← clauses.mapM fun ⟨clause, _⟩ => clause? clause)
  | _ => return .other
termination_by 3 * node.size + 1

/-- A statement. -/
def Statement.ofJson (json : Json) : Option Statement := do
  let (kind, ⟨node, _⟩) ← node? statementKinds json
  Statement.ofKind? kind node
termination_by 3 * json.size + 2

/-- A block. -/
def block? (json : Json) : Option (List Statement) := do
  let ⟨record, _⟩ ← json.record? blockFields
  let statements ← record.defaultedList? "statements"
  statements.mapM fun ⟨statement, _⟩ => Statement.ofJson statement
termination_by 3 * json.size

/-- The block of a clause of an external call. -/
def clause? (json : Json) : Option (List Statement) := do
  let ⟨record, _⟩ ← json.record? ["block"]
  let ⟨block, _⟩ ← record.required? "block"
  block? block
termination_by 3 * json.size

end

/-- The optional body of a function or a modifier. -/
def body? (json : Json) : Option (Option (List Statement)) := do
  Json.readOptional (← json.optional? "body") fun part => block? part.1

/-! ## Declarations -/

/-- The fields of a function. -/
def FunctionDefinition.fields : List String :=
  ["id", "name", "body"]

/-- The function that an object describes. -/
def FunctionDefinition.ofRecord (json : Json) : Option FunctionDefinition := do
  return {
    id := ← json.requiredInt64? "id"
    name := ← json.requiredText? "name"
    body := ← body? json }

/-- The modifier that an object describes. -/
def ModifierDefinition.ofRecord (json : Json) : Option ModifierDefinition := do
  return { name := ← json.requiredText? "name", body := ← body? json }

/-- The fields of a struct. -/
def StructDefinition.fields : List String :=
  ["id", "name", "members"]

/-- The struct that an object describes. -/
def StructDefinition.ofRecord (json : Json) : Option StructDefinition := do
  let members ← json.defaultedList? "members"
  return {
    id := ← json.requiredInt64? "id"
    name := ← json.requiredText? "name"
    members := ← members.mapM fun part => VariableDeclaration.ofJson part.1 }

/-- The fields of an enumeration. -/
def EnumDefinition.fields : List String :=
  ["id", "name", "members"]

/-- The enumeration that an object describes. -/
def EnumDefinition.ofRecord (json : Json) : Option EnumDefinition := do
  let members ← json.defaultedList? "members"
  return {
    id := ← json.requiredInt64? "id"
    name := ← json.requiredText? "name"
    members := ← members.mapM fun part => nameOf? part.1 }

/-- The fields of a value type. -/
def ValueTypeDefinition.fields : List String :=
  ["id", "name", "underlyingType"]

/-- The value type that an object describes. -/
def ValueTypeDefinition.ofRecord (json : Json) : Option ValueTypeDefinition := do
  let underlying ← json.required? "underlyingType"
  return {
    id := ← json.requiredInt64? "id"
    name := ← json.requiredText? "name"
    underlying := ← TypeName.ofJson underlying.1 }

/-- What a contract definition defines, by its name. -/
def ContractKind.ofJson (json : Json) : Option ContractKind :=
  match json.innerName? with
  | some "contract" => some .contract
  | some "interface" => some .interface
  | some "library" => some .library
  | _ => none

/-- The kinds of nodes of a contract and their fields. -/
def contractPartKinds : List (String × List String) :=
  [("StructDefinition", StructDefinition.fields), ("EnumDefinition", EnumDefinition.fields),
    ("UserDefinedValueTypeDefinition", ValueTypeDefinition.fields),
    ("VariableDeclaration", VariableDeclaration.fields),
    ("FunctionDefinition", FunctionDefinition.fields), ("ModifierDefinition", ["name", "body"])]

/-- The node of a contract that an object of some kind describes. -/
def ContractPart.ofKind? (kind : String) (node : Json) : Option ContractPart := do
  match kind with
  | "StructDefinition" => return .structure (← StructDefinition.ofRecord node)
  | "EnumDefinition" => return .enumeration (← EnumDefinition.ofRecord node)
  | "UserDefinedValueTypeDefinition" => return .valueType (← ValueTypeDefinition.ofRecord node)
  | "VariableDeclaration" => return .variable (← VariableDeclaration.ofJson node)
  | "FunctionDefinition" => return .function (← FunctionDefinition.ofRecord node)
  | "ModifierDefinition" => return .modifier (← ModifierDefinition.ofRecord node)
  | _ => return .other

/-- A node of a contract. -/
def ContractPart.ofJson (json : Json) : Option ContractPart := do
  let (kind, ⟨node, _⟩) ← node? contractPartKinds json
  ofKind? kind node

/-- The contract, interface or library that an object describes. -/
def ContractDefinition.ofRecord (json : Json) : Option ContractDefinition := do
  let kind ← json.required? "contractKind"
  let parts ← json.defaultedList? "nodes"
  return {
    id := ← json.requiredInt64? "id"
    name := ← json.requiredText? "name"
    kind := ← ContractKind.ofJson kind.1
    parts := ← parts.mapM fun part => ContractPart.ofJson part.1 }

/-- The kinds of nodes of a source file and their fields. -/
def unitPartKinds : List (String × List String) :=
  [("ContractDefinition", ["id", "name", "contractKind", "nodes"]),
    ("FunctionDefinition", FunctionDefinition.fields),
    ("StructDefinition", StructDefinition.fields), ("EnumDefinition", EnumDefinition.fields),
    ("UserDefinedValueTypeDefinition", ValueTypeDefinition.fields),
    ("VariableDeclaration", VariableDeclaration.fields)]

/-- The node of a source file that an object of some kind describes. -/
def UnitPart.ofKind? (kind : String) (node : Json) : Option UnitPart := do
  match kind with
  | "ContractDefinition" => return .contract (← ContractDefinition.ofRecord node)
  | "FunctionDefinition" => return .function (← FunctionDefinition.ofRecord node)
  | "StructDefinition" => return .structure (← StructDefinition.ofRecord node)
  | "EnumDefinition" => return .enumeration (← EnumDefinition.ofRecord node)
  | "UserDefinedValueTypeDefinition" => return .valueType (← ValueTypeDefinition.ofRecord node)
  | "VariableDeclaration" => return .variable (← VariableDeclaration.ofJson node)
  | _ => return .other

/-- A node of a source file, which is read as a whole: every part of it has to be readable. -/
def UnitPart.ofJson (json : Json) : Option UnitPart := do
  guard json.isReadable
  let (kind, ⟨node, _⟩) ← json.outerNode? "nodeType" unitPartKinds
  ofKind? kind node

/-- The source file that an object describes. -/
def SourceUnit.ofRecord (json : Json) : Option SourceUnit := do
  let parts ← json.defaultedList? "nodes"
  return {
    path := ← json.requiredText? "absolutePath"
    parts := ← parts.mapM fun part => UnitPart.ofJson part.1 }

/-- A source file. -/
def SourceUnit.ofJson (json : Json) : Option SourceUnit := do
  let ⟨record, _⟩ ← json.record? ["absolutePath", "nodes"]
  ofRecord record

/-- A list of source files. -/
def unitsOfJson (json : Json) : Option (List SourceUnit) := do
  (← json.parts?).mapM fun part => SourceUnit.ofJson part.1

end ModularRouter.Ast
