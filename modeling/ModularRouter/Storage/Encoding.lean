import ModularRouter.Json.Decode
import ModularRouter.Json.Printer
import ModularRouter.Json.Reader
import ModularRouter.Storage.Layout
import ModularRouter.Storage.Mutation

/-!
# Recorded dumps

Dumps are kept as JSON, one object a layout. A shape says in its field `type` which kind it is;
absent names, places and lengths are left out. `toJson` and `ofJson?` go from values to JSON and
back, `Dump.write` and `Dump.read?` from values to text and back. Differences are kept the same way.
What is written are objects; what is read may have lists of the values of their fields instead.
-/

namespace ModularRouter.Storage

/-- A field with the text of an optional value, unless it is absent. -/
def textField (name : String) (value : Option String) : List (String × Json) :=
  match value with
  | some text => [(name, .str text)]
  | none => []

/-- A field with an optional number, unless it is absent. -/
def natField (name : String) (value : Option Nat) : List (String × Json) :=
  match value with
  | some number => [(name, .ofNat number)]
  | none => []

/-- The bound of counts of words. -/
def slotBound : Nat := Nat.pow 2 64

/-- The bound of counts of bytes. -/
def byteBound : Nat := Nat.pow 2 8

namespace Builtin

/-- The fields of a value of an elementary type. -/
def toFields (value : Builtin) : List (String × Json) :=
  ("valueType", .str value.valueType) ::
    (textField "name" value.name ++ natField "slot" value.slot ++
      natField "offset" value.offset ++ natField "size" value.size)

/-- The names of the fields of a value of an elementary type. -/
def fields : List String :=
  ["valueType", "name", "slot", "offset", "size"]

/-- A value of an elementary type. -/
def ofJson? (json : Json) : Option Builtin := do
  let ⟨record, _⟩ ← json.record? fields
  return {
    valueType := ← record.requiredText? "valueType"
    name := ← record.optionalText? "name"
    slot := ← record.optionalNat? "slot" slotBound
    offset := ← record.optionalNat? "offset" byteBound
    size := ← record.optionalNat? "size" byteBound }

end Builtin

namespace Shape

mutual

/-- The object that records a shape. -/
def toJson : Shape → Json
  | .builtin value => .obj (("type", .str "builtin") :: value.toFields)
  | .struct structName name members slots =>
    .obj (("type", .str "struct") :: ("structName", .str structName) ::
      (textField "name" name ++ ("members", .arr (listToJson members)) :: natField "slots" slots))
  | .mapping name key value =>
    .obj (("type", .str "mapping") ::
      (textField "name" name ++ [("key", .obj key.toFields), ("value", value.toJson)]))
  | .array name value length =>
    .obj (("type", .str "array") ::
      (textField "name" name ++ ("value", value.toJson) :: natField "length" length))
  | .enum enumName name members =>
    .obj (("type", .str "enum") :: ("enumName", .str enumName) ::
      (textField "name" name ++ [("members", .arr (members.map .str))]))

/-- The objects that record the shapes of a list. -/
def listToJson : List Shape → List Json
  | [] => []
  | shape :: rest => shape.toJson :: listToJson rest

end

/-- The kinds of shapes and the names of their fields. -/
def kinds : List (String × List String) :=
  [("builtin", Builtin.fields), ("struct", ["structName", "name", "members", "slots"]),
    ("mapping", ["name", "key", "value"]), ("array", ["name", "value", "length"]),
    ("enum", ["enumName", "name", "members"])]

/-- The shape of a kind that an object records. A shape inside another one may give its kind by its
place among the kinds. -/
def ofKind? (kind : String) (json : Json) : Option Shape := do
  let inner (part : json.Part) : Option Shape := do
    let (kind, node) ← part.1.innerNode? "type" kinds
    ofKind? kind node.1
  match kind with
  | "builtin" => return .builtin (← Builtin.ofJson? json)
  | "struct" =>
    let members ← json.requiredList? "members"
    return .struct (← json.requiredText? "structName") (← json.optionalText? "name")
      (← members.mapM inner) (← json.optionalNat? "slots" slotBound)
  | "mapping" =>
    let key ← json.required? "key"
    let value ← json.required? "value"
    return .mapping (← json.optionalText? "name") (← Builtin.ofJson? key.1) (← inner value)
  | "array" =>
    let value ← json.required? "value"
    return .array (← json.optionalText? "name") (← inner value)
      (← json.optionalNat? "length" slotBound)
  | "enum" =>
    let members ← json.requiredList? "members"
    return .enum (← json.requiredText? "enumName") (← json.optionalText? "name")
      (← members.mapM fun part => part.1.text?)
  | _ => none
termination_by json.size
decreasing_by exact Nat.lt_of_le_of_lt node.2 part.2

/-- The shape that a value records. It is read as a whole, so every part of the value has to be
readable. -/
def ofJson? (json : Json) : Option Shape := do
  guard json.isReadable
  let (kind, node) ← json.outerNode? "type" kinds
  ofKind? kind node.1

end Shape

namespace StructLayout

/-- The object that records a struct. -/
def toJson (layout : StructLayout) : Json :=
  .obj [("name", .str layout.name), ("members", .arr (Shape.listToJson layout.members))]

/-- The struct that a value records. -/
def ofJson? (json : Json) : Option StructLayout := do
  let ⟨record, _⟩ ← json.record? ["name", "members"]
  let members ← record.requiredList? "members"
  return {
    name := ← record.requiredText? "name"
    members := ← members.mapM fun part => Shape.ofJson? part.1 }

end StructLayout

/-- What declares a layout, by its word. -/
def LayoutKind.ofJson? (json : Json) : Option LayoutKind :=
  match json.name? with
  | some "contract" => some .contract
  | some "library" => some .library
  | _ => none

namespace Layout

/-- The object that records a layout. -/
def toJson (layout : Layout) : Json :=
  .obj [("kind", .str layout.kind.toText), ("name", .str layout.name),
    ("structs", .arr (layout.structs.map StructLayout.toJson))]

/-- The layout that a value records. -/
def ofJson? (json : Json) : Option Layout := do
  let ⟨record, _⟩ ← json.record? ["kind", "name", "structs"]
  let kind ← record.required? "kind"
  let structs ← record.requiredList? "structs"
  return {
    kind := ← LayoutKind.ofJson? kind.1
    name := ← record.requiredText? "name"
    structs := ← structs.mapM fun part => StructLayout.ofJson? part.1 }

end Layout

namespace Dump

/-- The list that records a dump. -/
def toJson (dump : Dump) : Json :=
  .arr (dump.layouts.map Layout.toJson)

/-- The dump that a list records, with all its layouts, also those of one name. -/
def ofJson? (json : Json) : Option Dump := do
  return ⟨← (← json.parts?).mapM fun part => Layout.ofJson? part.1⟩

/-- The text that records a dump. -/
def write (dump : Dump) : String :=
  dump.toJson.pretty

/-- The dump that a text records. -/
def read? (text : String) : Option Dump := do
  ofJson? (← Json.read text)

end Dump

namespace Mutation

/-- The object that records a difference. -/
def toJson (mutation : Mutation) : Json :=
  .obj [("type", .str mutation.severity.toText), ("kind", .str mutation.kind.toText),
    ("message", .str mutation.message)]

/-- The difference that a value records. -/
def ofJson? (json : Json) : Option Mutation := do
  let ⟨record, _⟩ ← json.record? ["type", "kind", "message"]
  let severity ← record.required? "type"
  let kind ← record.required? "kind"
  return {
    severity := ← Severity.ofText? (← severity.1.name?)
    kind := ← MutationKind.ofText? (← kind.1.name?)
    message := ← record.requiredText? "message" }

end Mutation

end ModularRouter.Storage
