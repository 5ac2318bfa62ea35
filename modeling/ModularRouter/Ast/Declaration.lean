import ModularRouter.Ast.Basic

/-!
# Declarations

What a reference in a source unit can refer to, by the number of the declaration. Of two
declarations with one number the later one counts.
-/

namespace ModularRouter.Ast

/-- What a reference can refer to. -/
inductive Declaration where
  /-- A contract, an interface or a library. -/
  | contract
  /-- A struct. -/
  | structure (definition : StructDefinition)
  /-- An enumeration. -/
  | enumeration (definition : EnumDefinition)
  /-- A value type. -/
  | valueType (definition : ValueTypeDefinition)
  /-- A constant. -/
  | constant (declaration : VariableDeclaration)
  deriving Repr

/-- The declarations of a project, the latest first. -/
structure DeclarationIndex where
  /-- The declarations by their numbers. -/
  entries : List (NodeId × Declaration)
  deriving Repr

namespace DeclarationIndex

/-- A constant; other variables cannot be referred to. -/
def ofVariable (declaration : VariableDeclaration) : List (NodeId × Declaration) :=
  if declaration.constant then [(declaration.id, .constant declaration)] else []

/-- What a node of a contract declares. -/
def ofContractPart : ContractPart → List (NodeId × Declaration)
  | .structure definition => [(definition.id, .structure definition)]
  | .enumeration definition => [(definition.id, .enumeration definition)]
  | .valueType definition => [(definition.id, .valueType definition)]
  | .variable declaration => ofVariable declaration
  | _ => []

/-- What a node of a source file declares. -/
def ofUnitPart : UnitPart → List (NodeId × Declaration)
  | .contract definition =>
    (definition.id, .contract) :: definition.parts.flatMap ofContractPart
  | .structure definition => [(definition.id, .structure definition)]
  | .enumeration definition => [(definition.id, .enumeration definition)]
  | .valueType definition => [(definition.id, .valueType definition)]
  | .variable declaration => ofVariable declaration
  | _ => []

/-- The declarations of a project, in the order they are written. -/
def declarations (units : List SourceUnit) : List (NodeId × Declaration) :=
  units.flatMap fun unit => unit.parts.flatMap ofUnitPart

/-- The index of a project. -/
def ofUnits (units : List SourceUnit) : DeclarationIndex :=
  ⟨(declarations units).reverse⟩

/-- The declaration of a number. -/
def get? (index : DeclarationIndex) (id : NodeId) : Option Declaration :=
  index.entries.lookup id

/-- How many declarations there are. -/
def size (index : DeclarationIndex) : Nat :=
  index.entries.length

end DeclarationIndex

end ModularRouter.Ast
