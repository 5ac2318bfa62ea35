import ModularRouter.Storage.Packing

/-!
# Layouts and dumps

A layout lists the structs that a contract or a library declares. A dump is the layouts of a whole
project; it is what is recorded with a deployment.
-/

namespace ModularRouter.Storage

/-- What declares a layout. -/
inductive LayoutKind where
  /-- A contract. -/
  | contract
  /-- A library. -/
  | library
  deriving Repr, DecidableEq

/-- What declares a layout, in a word. -/
def LayoutKind.toText : LayoutKind → String
  | .contract => "contract"
  | .library => "library"

/-- A struct and its members in the order they are declared. -/
structure StructLayout where
  /-- The name of the struct. -/
  name : String
  /-- Its members. -/
  members : List Shape
  deriving Repr, DecidableEq

namespace StructLayout

/-- The first member of a name, with its index. -/
def member? (layout : StructLayout) (name : String) : Option (Nat × Shape) :=
  let found := layout.members.findIdx fun member => member.name? == some name
  (layout.members[found]?).map fun member => (found, member)

/-- Records in a value of an elementary type where it stands. -/
def recordPosition (member : Shape) (position : Position) : Shape :=
  match member with
  | .builtin value =>
    .builtin { value with slot := some position.slot, offset := some position.offset }
  | member => member

/-- The struct with the place of each member of an elementary type recorded. -/
def withPositions (layout : StructLayout) : StructLayout where
  name := layout.name
  members := List.zipWith recordPosition layout.members (packing layout.members).positions

end StructLayout

/-- The structs of a contract or a library in the order they are declared. -/
structure Layout where
  /-- What declares them. -/
  kind : LayoutKind
  /-- The name of the contract or library. -/
  name : String
  /-- The structs. -/
  structs : List StructLayout
  deriving Repr, DecidableEq

namespace Layout

/-- The first struct of a name. -/
def getStruct? (layout : Layout) (name : String) : Option StructLayout :=
  layout.structs.find? fun struct => struct.name == name

/-- The layout with the place of each direct member of an elementary type recorded. -/
def withPositions (layout : Layout) : Layout :=
  { layout with structs := layout.structs.map StructLayout.withPositions }

end Layout

/-- The layouts of a project. -/
structure Dump where
  /-- The layouts, in the order they were added. -/
  layouts : List Layout
  deriving Repr, DecidableEq

namespace Dump

/-- The dump without layouts. -/
def empty : Dump := ⟨[]⟩

/-- Puts a layout in place of the first one of its name, or after all others. -/
def insertInto (layout : Layout) : List Layout → List Layout
  | [] => [layout]
  | first :: rest =>
    if first.name = layout.name then layout :: rest else first :: insertInto layout rest

/-- The dump with a layout in place of the first one of its name, or after all others. -/
def insert (dump : Dump) (layout : Layout) : Dump :=
  ⟨insertInto layout dump.layouts⟩

/-- The dump of layouts inserted one after the other. -/
def ofLayouts (layouts : List Layout) : Dump :=
  layouts.foldl insert empty

/-- The first layout of a name. -/
def get? (dump : Dump) (name : String) : Option Layout :=
  dump.layouts.find? fun layout => layout.name == name

/-- The dump of the layouts with the places of their members recorded. -/
def withPositions (dump : Dump) : Dump :=
  ofLayouts (dump.layouts.map Layout.withPositions)

end Dump

end ModularRouter.Storage
