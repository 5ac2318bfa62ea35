/-!
# Source units

The part of a compiler's syntax tree that decides where state is stored: the declarations of types,
constants, functions and modifiers, the statements that lead to inline assembly, and the assembly.
Every other node is `other` and says nothing.
-/

namespace ModularRouter.Ast

/-- Identifies a declaration within one compilation. -/
abbrev NodeId := Int

/-! ## Expressions and type names -/

/-- What a literal spells. -/
inductive LiteralKind where
  /-- A number. -/
  | number
  /-- A string of printable characters. -/
  | string
  /-- A string given by its bytes. -/
  | hexString
  /-- A string of any characters. -/
  | unicodeString
  /-- A truth value. -/
  | bool
  deriving Repr, DecidableEq

/-- A literal; the text is absent where the bytes are no valid text. -/
structure Literal where
  /-- What the literal spells. -/
  kind : LiteralKind
  /-- The literal as text. -/
  value : Option String
  /-- The bytes of the literal as pairs of hexadecimal digits. -/
  hexValue : Option String
  deriving Repr, DecidableEq

/-- An expression. -/
inductive Expression where
  /-- A literal. -/
  | literal (literal : Literal)
  /-- A name and the declaration it refers to, if the compiler knows one. -/
  | identifier (name : String) (reference : Option NodeId)
  /-- A call. -/
  | call (callee : Expression) (arguments : List Expression)
  /-- A member of the value of an expression. -/
  | member (object : Expression) (name : String)
  /-- Any other expression. -/
  | other
  deriving Repr

/-- The name of a type. -/
inductive TypeName where
  /-- A type of the language itself. -/
  | elementary (name : String)
  /-- A mapping from keys to values. -/
  | mapping (key value : TypeName)
  /-- An array, of fixed length if one is given. -/
  | array (base : TypeName) (length : Option Expression)
  /-- A reference to a declaration, by the path or the name it is written with. -/
  | user (reference : NodeId) (path name : Option String)
  /-- A function. -/
  | function (visibility : String)
  deriving Repr

/-- The name a reference to a declaration is shown by. -/
def displayName (reference : NodeId) (path name : Option String) : String :=
  match path, name with
  | some path, _ => path
  | none, some name => name
  | none, none => "#" ++ toString reference

/-- A variable, a constant or a member of a struct. -/
structure VariableDeclaration where
  /-- The declaration. -/
  id : NodeId
  /-- Its name. -/
  name : String
  /-- Its type. -/
  typeName : Option TypeName
  /-- Whether its value is fixed when the source is compiled. -/
  constant : Bool
  /-- Its initializer. -/
  value : Option Expression
  deriving Repr

/-! ## Assembly -/

/-- An expression of the assembly language. -/
inductive YulExpression where
  /-- A literal. -/
  | literal (kind : String) (value hexValue : Option String)
  /-- A name. -/
  | identifier (name : String)
  /-- A call. -/
  | call (function : String) (arguments : List YulExpression)
  deriving Repr

/-- A statement of the assembly language. A block is the list of its statements. -/
inductive YulStatement where
  /-- Assigns to the targets. -/
  | assignment (targets : List String) (value : Option YulExpression)
  /-- Declares variables. -/
  | declaration (names : List String) (value : Option YulExpression)
  /-- A block inside a block. -/
  | block (body : List YulStatement)
  /-- A block run under a condition. -/
  | ifThen (body : List YulStatement)
  /-- The blocks of the cases of a switch. -/
  | switch (cases : List (List YulStatement))
  /-- A loop; what `init` declares is visible in `body` and `post`. -/
  | forLoop (init body post : List YulStatement)
  /-- Any other statement. -/
  | other
  deriving Repr

/-! ## Statements -/

/-- A statement. A block is the list of its statements. -/
inductive Statement where
  /-- A block. -/
  | block (body : List Statement)
  /-- A block whose arithmetic is not checked. -/
  | uncheckedBlock (body : List Statement)
  /-- Declares variables; an absent one skips a component of the value. -/
  | declaration (declared : List (Option VariableDeclaration)) (value : Option Expression)
  /-- Inline assembly. -/
  | assembly (body : List YulStatement)
  /-- A conditional statement. -/
  | ifThen (body : Statement) (alternative : Option Statement)
  /-- A counting loop. -/
  | forLoop (init : Option Statement) (body : Statement)
  /-- A loop that tests before its body. -/
  | whileLoop (body : Statement)
  /-- A loop that tests after its body. -/
  | doWhileLoop (body : Statement)
  /-- The blocks of the clauses of an external call. -/
  | tryCatch (clauses : List (List Statement))
  /-- Any other statement. -/
  | other
  deriving Repr

/-! ## Declarations -/

/-- A function. -/
structure FunctionDefinition where
  /-- The declaration. -/
  id : NodeId
  /-- Its name. -/
  name : String
  /-- Its statements, if it has a body. -/
  body : Option (List Statement)
  deriving Repr

/-- A modifier of functions. -/
structure ModifierDefinition where
  /-- Its name. -/
  name : String
  /-- Its statements, if it has a body. -/
  body : Option (List Statement)
  deriving Repr

/-- A struct. -/
structure StructDefinition where
  /-- The declaration. -/
  id : NodeId
  /-- Its name. -/
  name : String
  /-- Its members in the order they are declared. -/
  members : List VariableDeclaration
  deriving Repr

/-- An enumeration. -/
structure EnumDefinition where
  /-- The declaration. -/
  id : NodeId
  /-- Its name. -/
  name : String
  /-- The names of its members. -/
  members : List String
  deriving Repr

/-- A value type that wraps an elementary one. -/
structure ValueTypeDefinition where
  /-- The declaration. -/
  id : NodeId
  /-- Its name. -/
  name : String
  /-- The type it wraps. -/
  underlying : TypeName
  deriving Repr

/-- What a contract definition defines. -/
inductive ContractKind where
  /-- A contract. -/
  | contract
  /-- An interface, which has no code and no storage. -/
  | interface
  /-- A library. -/
  | library
  deriving Repr, DecidableEq

/-- A node of a contract. -/
inductive ContractPart where
  /-- A struct. -/
  | structure (definition : StructDefinition)
  /-- An enumeration. -/
  | enumeration (definition : EnumDefinition)
  /-- A value type. -/
  | valueType (definition : ValueTypeDefinition)
  /-- A state variable or a constant. -/
  | variable (declaration : VariableDeclaration)
  /-- A function. -/
  | function (definition : FunctionDefinition)
  /-- A modifier. -/
  | modifier (definition : ModifierDefinition)
  /-- Any other node. -/
  | other
  deriving Repr

/-- A contract, an interface or a library. -/
structure ContractDefinition where
  /-- The declaration. -/
  id : NodeId
  /-- Its name. -/
  name : String
  /-- What is defined. -/
  kind : ContractKind
  /-- Its nodes in the order they are written. -/
  parts : List ContractPart
  deriving Repr

namespace ContractDefinition

/-- The structs of a contract. -/
def structs (contract : ContractDefinition) : List StructDefinition :=
  contract.parts.filterMap fun
    | .structure definition => some definition
    | _ => none

/-- The functions of a contract. -/
def functions (contract : ContractDefinition) : List FunctionDefinition :=
  contract.parts.filterMap fun
    | .function definition => some definition
    | _ => none

/-- The modifiers of a contract. -/
def modifiers (contract : ContractDefinition) : List ModifierDefinition :=
  contract.parts.filterMap fun
    | .modifier definition => some definition
    | _ => none

/-- The state variables and constants of a contract. -/
def stateVariables (contract : ContractDefinition) : List VariableDeclaration :=
  contract.parts.filterMap fun
    | .variable declaration => some declaration
    | _ => none

end ContractDefinition

/-- A node of a source file. -/
inductive UnitPart where
  /-- A contract, an interface or a library. -/
  | contract (definition : ContractDefinition)
  /-- A function outside of all contracts. -/
  | function (definition : FunctionDefinition)
  /-- A struct. -/
  | structure (definition : StructDefinition)
  /-- An enumeration. -/
  | enumeration (definition : EnumDefinition)
  /-- A value type. -/
  | valueType (definition : ValueTypeDefinition)
  /-- A constant. -/
  | variable (declaration : VariableDeclaration)
  /-- Any other node. -/
  | other
  deriving Repr

/-- A source file. -/
structure SourceUnit where
  /-- The path of the file. -/
  path : String
  /-- Its nodes in the order they are written. -/
  parts : List UnitPart
  deriving Repr

namespace SourceUnit

/-- The contracts of a file. -/
def contracts (unit : SourceUnit) : List ContractDefinition :=
  unit.parts.filterMap fun
    | .contract definition => some definition
    | _ => none

/-- The functions of a file that belong to no contract. -/
def functions (unit : SourceUnit) : List FunctionDefinition :=
  unit.parts.filterMap fun
    | .function definition => some definition
    | _ => none

/-- The variables of a file that belong to no contract. -/
def fileVariables (unit : SourceUnit) : List VariableDeclaration :=
  unit.parts.filterMap fun
    | .variable declaration => some declaration
    | _ => none

end SourceUnit

end ModularRouter.Ast
