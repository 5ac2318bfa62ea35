import ModularRouter.Storage.Extraction

/-!
# A resolver with a state

`Site.follow` hands the structs around a type down from reference to reference. `Resolver.resolve`
keeps them in a state instead: it puts a struct on a stack, resolves its members and takes the
struct off again, and it sets a flag while it measures a struct inside itself. It does not count the
references that it follows either, so it may go on forever: it has an answer only if its calls may
be nested deep enough. Every change of the state is made by `Resolving.between`, which takes it back
when the answer is an error too.
-/

namespace ModularRouter.Storage

open Ast (TypeName Expression VariableDeclaration StructDefinition DeclarationIndex)

/-! ## Steps of a resolver -/

/-- A step of a resolver. It may change the structs around what is resolved, and it has no answer
if calls would have to be nested deeper than they may be. -/
abbrev Resolving : Type → Type := ExceptT ExtractionError (StateT Surroundings Option)

namespace Resolving

variable {α : Type}

/-- The step of a call that is nested too deep. -/
def tooDeep : Resolving α :=
  liftM (none : Option α)

/-- A step that gives an answer, be it an error. -/
def give (answer : Except ExtractionError α) : Resolving α :=
  ExceptT.mk (pure answer)

/-- A step that is made between two changes of the state. The second one is made even if the answer
is an error. -/
abbrev between (enter leave : Surroundings → Surroundings) (step : Resolving α) : Resolving α := do
  modify enter
  let answer ← (Except.ok <$> step.run : StateT Surroundings Option _)
  modify leave
  give answer

end Resolving

/-! ## The resolver -/

namespace Resolver

/-- The length of an array. Constants are followed without being counted, perhaps forever. -/
def length? (index : DeclarationIndex) (length : Expression) : Nat → Option (Option Nat)
  | 0 => none
  | depth + 1 =>
    match length with
    | .literal literal =>
      some (if literal.kind = .number then literal.value.bind integerLiteral? else none)
    | .identifier _ (some reference) =>
      match index.get? reference with
      | some (.constant declaration) =>
        match declaration.value with
        | some value => length? index value depth
        | none => some none
      | _ => some none
    | _ => some none

mutual

/-- The shapes of the members of a struct, which is on the stack meanwhile. -/
def members (site : Site) (definition : StructDefinition) : Nat → Resolving (List Shape)
  | 0 => .tooDeep
  | depth + 1 =>
    Resolving.between
      (fun state => { state with structs := definition.id :: state.structs })
      (fun state => { state with structs := state.structs.tail })
      (definition.members.mapM fun declaration => member site declaration depth)

/-- The count of words of a struct inside itself, unless one is being measured. -/
def words (site : Site) (definition : StructDefinition) : Nat → Resolving (Option Nat)
  | 0 => .tooDeep
  | depth + 1 => do
    if (← get).sizing then return none
    else
      let shapes ← Resolving.between
        (fun state => { state with sizing := true })
        (fun state => { state with sizing := false })
        (members site definition depth)
      return some (max 1 (packing shapes).slots)

/-- The shape of a member under its name. -/
def member (site : Site) (declaration : VariableDeclaration) : Nat → Resolving Shape
  | 0 => .tooDeep
  | depth + 1 =>
    match declaration.typeName with
    | some typeName => do
      let shape ← resolve site declaration.name typeName depth
      return shape.named declaration.name
    | none => throw (site.unknown declaration.name "missing type name")

/-- The shape of the type of a variable. -/
def resolve (site : Site) (subject : String) (type : TypeName) : Nat → Resolving Shape
  | 0 => .tooDeep
  | depth + 1 =>
    match type with
    | .elementary name =>
      match ElementaryType.parse? name with
      | some type => return .builtin (.ofType type)
      | none => throw (site.unknown subject name)
    | .function visibility => return .builtin (.ofType (.function (visibility == "external")))
    | .mapping key value => do
      let shape ← resolve site subject key depth
      let key ← Resolving.give (site.mappingKey subject shape)
      let value ← resolve site subject value depth
      return .mapping none key value
    | .array base none => do
      let value ← resolve site subject base depth
      return .array none value none
    | .array base (some length) => do
      let value ← resolve site subject base depth
      match ← length? site.index length depth with
      | some length => return .array none value (some length)
      | none => throw (site.unknown subject "non-constant array length")
    | .user reference path name =>
      match site.index.get? reference with
      | some (.structure definition) => do
        if definition.id ∈ (← get).structs then
          return .struct definition.name none [] (← words site definition depth)
        else return .struct definition.name none (← members site definition depth) none
      | some (.enumeration definition) => return .enum definition.name none definition.members
      | some .contract => return .builtin (.ofType .address)
      | some (.valueType definition) => resolve site subject definition.underlying depth
      | _ => throw (site.unknown subject (Ast.displayName reference path name))

end

/-- The layout of a struct. -/
def structLayout (site : Site) (definition : StructDefinition) (depth : Nat) :
    Resolving StructLayout := do
  let members ← members site definition depth
  return ⟨definition.name, members⟩

end Resolver

end ModularRouter.Storage
