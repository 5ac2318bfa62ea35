import ModularRouter.Ast.Declaration
import ModularRouter.Storage.Layout
import ModularRouter.Storage.Selection

/-!
# Extracting layouts

The dump of a project, taken from its source units: for every contract and library the shapes of
the structs it declares. A struct may refer to itself behind a mapping or an array; inside itself
it is cut short to its name and its count of words.
-/

namespace ModularRouter.Storage

open Ast (NodeId Expression TypeName VariableDeclaration StructDefinition Declaration
  DeclarationIndex SourceUnit ContractDefinition)

/-- Why the shape of a member cannot be told. -/
inductive ExtractionError where
  /-- A type refers to nothing known. -/
  | unknownTypeReference (sourceUnit subject reference : String)
  /-- The key of a mapping is no value type. -/
  | invalidMappingKey (sourceUnit subject key : String)
  deriving Repr, DecidableEq

/-- What is said about a member whose shape cannot be told. -/
def ExtractionError.message : ExtractionError → String
  | .unknownTypeReference sourceUnit subject reference =>
    sourceUnit ++ ": type of " ++ subject ++ " references unknown declaration " ++ reference
  | .invalidMappingKey sourceUnit subject key =>
    sourceUnit ++ ": mapping " ++ subject ++ " has invalid key type " ++ key

/-! ## Lengths of arrays -/

/-- A whole number as it is written in a source: decimal, or hexadecimal behind `0x`, with
underscores anywhere. -/
def integerLiteral? (text : String) : Option Nat :=
  let digits := text.toList.filter (· ≠ '_')
  match Text.dropStart? ['0', 'x'] digits with
  | some digits => Text.Numeral.unsigned? 16 (Nat.pow 2 64) digits
  | none => Text.Numeral.unsigned? 10 (Nat.pow 2 64) digits

/-- The value of a number literal or of a chain of constants that ends in one. At most `steps`
constants are followed. -/
def constantLength? (index : DeclarationIndex) : (steps : Nat) → Expression → Option Nat
  | _, .literal literal =>
    if literal.kind = .number then literal.value.bind integerLiteral? else none
  | steps + 1, .identifier _ (some reference) =>
    match index.get? reference with
    | some (.constant declaration) => declaration.value.bind (constantLength? index steps)
    | _ => none
  | _, _ => none

/-- The length of an array; a chain longer than the count of declarations is circular. -/
def arrayLength? (index : DeclarationIndex) (length : Expression) : Option Nat :=
  constantLength? index index.size length

/-! ## Shapes of types -/

/-- Where shapes are asked for. -/
structure Site where
  /-- The declarations of the project. -/
  index : DeclarationIndex
  /-- The path of the source file. -/
  path : String

/-- A reference as it stands in the type of a variable. -/
structure Reference where
  /-- The variable. -/
  subject : String
  /-- The declaration referred to. -/
  id : NodeId
  /-- The name it is written with. -/
  name : String

/-- The structs that surround a type. -/
structure Surroundings where
  /-- The structs that are being resolved, the innermost first. -/
  structs : List NodeId
  /-- Whether the count of words of a struct inside itself is being measured. -/
  sizing : Bool

namespace Site

/-- The type of a variable refers to nothing known. -/
def unknown (site : Site) (subject reference : String) : ExtractionError :=
  .unknownTypeReference site.path subject reference

/-- The key that a shape makes: a value of an elementary type but for functions, or the number
behind an enumeration. -/
def mappingKey (site : Site) (subject : String) (key : Shape) : Except ExtractionError Builtin :=
  let invalid := .error (.invalidMappingKey site.path subject key.typeLabel)
  match key with
  | .builtin value =>
    match value.elementaryType? with
    | some type => if type.isKey then .ok value else invalid
    | none => invalid
  | .enum _ _ members => .ok (Builtin.ofType (.uint (8 * enumSize members)))
  | _ => invalid

/-- The shape of the type of a variable; references are left to `follow`. -/
def typeShape (site : Site) (follow : Reference → Except ExtractionError Shape)
    (subject : String) : TypeName → Except ExtractionError Shape
  | .elementary name =>
    match ElementaryType.parse? name with
    | some type => .ok (.builtin (.ofType type))
    | none => .error (site.unknown subject name)
  | .function visibility => .ok (.builtin (.ofType (.function (visibility == "external"))))
  | .mapping key value => do
    let key ← site.mappingKey subject (← typeShape site follow subject key)
    let value ← typeShape site follow subject value
    .ok (.mapping none key value)
  | .array base none => do
    let value ← typeShape site follow subject base
    .ok (.array none value none)
  | .array base (some length) => do
    let value ← typeShape site follow subject base
    match arrayLength? site.index length with
    | some length => .ok (.array none value (some length))
    | none => .error (site.unknown subject "non-constant array length")
  | .user reference path name => follow ⟨subject, reference, Ast.displayName reference path name⟩

/-- The shape of a member under its name; references are left to `follow`. -/
def memberShape (site : Site) (follow : Reference → Except ExtractionError Shape)
    (member : VariableDeclaration) : Except ExtractionError Shape :=
  match member.typeName with
  | some typeName => do
    let shape ← site.typeShape follow member.name typeName
    .ok (shape.named member.name)
  | none => .error (site.unknown member.name "missing type name")

/-- The shapes of the members of a struct; references are left to `follow`. -/
def membersShape (site : Site) (follow : Reference → Except ExtractionError Shape)
    (definition : StructDefinition) : Except ExtractionError (List Shape) :=
  definition.members.mapM (site.memberShape follow)

/-- The shape behind a reference inside some structs. At most `steps` references are followed one
from inside the other; only a value type that wraps itself needs more than `stepLimit`. -/
def follow (site : Site) : (steps : Nat) → Surroundings → Reference →
    Except ExtractionError Shape
  | 0, _, reference => .error (site.unknown reference.subject reference.name)
  | steps + 1, surroundings, reference =>
    match site.index.get? reference.id with
    | some (.structure definition) =>
      let inside (sizing : Bool) : Except ExtractionError (List Shape) :=
        site.membersShape (follow site steps ⟨definition.id :: surroundings.structs, sizing⟩)
          definition
      if definition.id ∈ surroundings.structs then
        if surroundings.sizing then .ok (.struct definition.name none [] none)
        else do
          let members ← inside true
          .ok (.struct definition.name none [] (some (max 1 (packing members).slots)))
      else do
        let members ← inside surroundings.sizing
        .ok (.struct definition.name none members none)
    | some (.enumeration definition) => .ok (.enum definition.name none definition.members)
    | some .contract => .ok (.builtin (.ofType .address))
    | some (.valueType definition) =>
      site.typeShape (follow site steps surroundings) reference.subject definition.underlying
    | _ => .error (site.unknown reference.subject reference.name)

/-- How many references can be followed one from inside the other: every struct is entered once
while shapes are found and once more while one is measured, and between two of them every value
type is passed at most once. -/
def stepLimit (site : Site) : Nat :=
  2 * (site.index.size + 1) * (site.index.size + 1)

/-- The layout of a struct. -/
def structLayout (site : Site) (definition : StructDefinition) :
    Except ExtractionError StructLayout := do
  let members ← site.membersShape (site.follow site.stepLimit ⟨[definition.id], false⟩) definition
  .ok ⟨definition.name, members⟩

/-- The layout of a contract, unless it declares no struct. -/
def contractLayout (site : Site) (contract : ContractDefinition) :
    Except ExtractionError (Option Layout) := do
  let structs ← contract.structs.mapM site.structLayout
  let kind := if contract.kind = .library then LayoutKind.library else .contract
  .ok (if structs.isEmpty then none else some ⟨kind, contract.name, structs⟩)

end Site

/-! ## Dumps of projects -/

/-- The contracts and libraries of a file that are looked at. -/
def selectedContracts (selection : Selection) (unit : SourceUnit) : List ContractDefinition :=
  unit.contracts.filter fun contract =>
    contract.kind ≠ .interface && selection.matchesContract unit.path contract.name

/-- The layouts of a file. -/
def unitLayouts (index : DeclarationIndex) (selection : Selection) (unit : SourceUnit) :
    Except ExtractionError (List Layout) := do
  let layouts ← (selectedContracts selection unit).mapM (Site.contractLayout ⟨index, unit.path⟩)
  .ok (layouts.filterMap id)

/-- The dump of a project. -/
def extract (units : List SourceUnit) (selection : Selection) : Except ExtractionError Dump := do
  let layouts ← units.mapM (unitLayouts (.ofUnits units) selection)
  .ok (Dump.ofLayouts layouts.flatten)

end ModularRouter.Storage
