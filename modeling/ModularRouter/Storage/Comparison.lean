import ModularRouter.Storage.Layout
import ModularRouter.Storage.Mutation

/-!
# Comparing dumps

Storage outlives the code that uses it, so a layout may only grow at its end. `compare?` walks the
dump of the previous deployment and the current one side by side: layouts and structs are paired
by name, members of a struct by index. Every difference is graded by whether a value that both
dumps hold would still be read where and how it was written.
-/

namespace ModularRouter.Storage

namespace Comparison

/-- A safe difference. -/
def log (kind : MutationKind) (message : String) : Mutation := ⟨.log, kind, message⟩

/-- A difference that deserves a look. -/
def warn (kind : MutationKind) (message : String) : Mutation := ⟨.warn, kind, message⟩

/-- A breaking difference. -/
def error (kind : MutationKind) (message : String) : Mutation := ⟨.error, kind, message⟩

/-- The name of a member, or its index. -/
def memberName (member : Shape) (index : Nat) : String :=
  match member.name? with
  | some name => name
  | none => "#" ++ toString index

/-- The length of an array. -/
def lengthText : Option Nat → String
  | some length => toString length
  | none => "dynamic"

/-- Whether a shape is a struct nested in itself that was recorded without its count of words. -/
def isUnmeasured : Shape → Bool
  | .struct _ _ [] none => true
  | _ => false

/-- A value of an elementary type against the one in its place. -/
def builtinChanges (path : String) (old new : Builtin) : List Mutation :=
  if old.valueType = new.valueType then []
  else
    let message := path ++ " type changed from " ++ old.valueType ++ " to " ++ new.valueType
    if old.footprint = new.footprint then [warn .update message]
    else
      [error .update (message ++ ", size changed from " ++ old.footprint.toText ++ " to " ++
        new.footprint.toText)]

/-- The key of a mapping against the one in its place. -/
def keyChanges (path : String) (old new : Builtin) : List Mutation :=
  if old.valueType = new.valueType then []
  else
    let message := path ++ " key type changed from " ++ old.valueType ++ " to " ++ new.valueType
    if old.footprint = new.footprint then [warn .update message] else [error .update message]

/-- The name of the type of a value against the one in its place. -/
def typeRename (path what old new : String) : List Mutation :=
  if old = new then []
  else [log .update (path ++ " " ++ what ++ " type renamed from " ++ old ++ " to " ++ new)]

/-- The members of an enumeration against those of the one in its place. -/
def enumMemberChanges (path : String) (old new : List String) : List Mutation :=
  if old = new then []
  else if old.isPrefixOf new ∧ enumSize old = enumSize new then
    [log .update (path ++ " enum members appended: " ++
      ", ".intercalate (new.drop old.length))]
  else
    [error .update (path ++ " enum members changed from [" ++ ", ".intercalate old ++ "] to [" ++
      ", ".intercalate new ++ "]")]

/-- The name of a member against the one at its index. A name that stood at another index before
means that members were moved. -/
def renameChanges (path : String) (index : Nat) (declared : List Shape) (old new : Shape) :
    List Mutation :=
  match old.name?, new.name? with
  | some before, some now =>
    if before = now then []
    else
      match declared.findIdx? fun member => member.name? == some now with
      | some previous =>
        [error .update (path ++ "." ++ before ++ " replaced by " ++ now ++
          ", previously declared at index " ++ toString previous ++ " instead of " ++
          toString index)]
      | none => [log .update (path ++ "." ++ before ++ " renamed to " ++ now)]
  | _, _ => []

/-- The place of a member against the one it had. -/
def positionChanges (path : String) (old new : Position) : List Mutation :=
  if old = new then []
  else
    [error .update (path ++ " moved from slot " ++ toString old.slot ++ " offset " ++
      toString old.offset ++ " to slot " ++ toString new.slot ++ " offset " ++
      toString new.offset)]

/-- The members that only one of two structs has, from an index on. -/
def unpairedMembers (mutation : String → Shape → Mutation) (path : String) :
    (index : Nat) → List Shape → List Mutation
  | _, [] => []
  | index, member :: rest =>
    mutation (path ++ "." ++ memberName member index) member ::
      unpairedMembers mutation path (index + 1) rest

/-- Members that the previous struct does not have. -/
def addedMembers : String → Nat → List Shape → List Mutation :=
  unpairedMembers fun path member => log .add (path ++ " added as " ++ member.typeLabel)

/-- Members that the current struct does not have. -/
def removedMembers : String → Nat → List Shape → List Mutation :=
  unpairedMembers fun path _ => warn .del (path ++ " removed")

/-- How far the comparison of two structs has come. -/
structure Progress where
  /-- The path of the struct. -/
  path : String
  /-- All members of the previous struct. -/
  declared : List Shape
  /-- The index of the members to compare next. -/
  index : Nat
  /-- The end of the members of the previous struct before that index. -/
  old : Position
  /-- The end of the members of the current struct before that index. -/
  new : Position

/-- The start of the comparison of two structs. -/
def Progress.start (path : String) (declared : List Shape) : Progress :=
  ⟨path, declared, 0, .start, .start⟩

/-- The comparison after the members at its index. -/
def Progress.advance (progress : Progress) (old new : Shape) : Progress :=
  { progress with
    index := progress.index + 1
    old := progress.old.next old.footprint
    new := progress.new.next new.footprint }

mutual

/-- The shape of a value against the one in its place. -/
def shapeChanges (path : String) : (old new : Shape) → List Mutation
  | .builtin old, .builtin new => builtinChanges path old new
  | .struct oldName _ oldMembers _, .struct newName _ newMembers _ =>
    typeRename path "struct" oldName newName ++
      memberChanges (.start path oldMembers) oldMembers newMembers
  | .mapping _ oldKey oldValue, .mapping _ newKey newValue =>
    keyChanges path oldKey newKey ++ shapeChanges (path ++ "[]") oldValue newValue
  | .array _ oldValue oldLength, .array _ newValue newLength =>
    if oldLength ≠ newLength then
      [error .update (path ++ " length changed from " ++ lengthText oldLength ++ " to " ++
        lengthText newLength)]
    else if oldValue.footprint ≠ newValue.footprint ∧ isUnmeasured oldValue = false ∧
        isUnmeasured newValue = false then
      [error .update (path ++ " element size changed from " ++ oldValue.footprint.toText ++
        " to " ++ newValue.footprint.toText)]
    else shapeChanges (path ++ "[]") oldValue newValue
  | .enum oldName _ oldMembers, .enum newName _ newMembers =>
    typeRename path "enum" oldName newName ++ enumMemberChanges path oldMembers newMembers
  | old, new =>
    [error .update (path ++ " changed from " ++ old.variant ++ " " ++ old.typeLabel ++ " to " ++
      new.variant ++ " " ++ new.typeLabel)]

/-- The members of a struct against those of the one in its place, index by index. -/
def memberChanges (progress : Progress) : (old new : List Shape) → List Mutation
  | old :: oldRest, new :: newRest =>
    let path := progress.path ++ "." ++ memberName new progress.index
    renameChanges progress.path progress.index progress.declared old new ++
      positionChanges path (progress.old.fit old.footprint) (progress.new.fit new.footprint) ++
      shapeChanges path old new ++ memberChanges (progress.advance old new) oldRest newRest
  | [], added => addedMembers progress.path progress.index added
  | removed, [] => removedMembers progress.path progress.index removed

end

/-- A struct against the one of its name. -/
def structChanges (layoutName : String) (old new : StructLayout) : List Mutation :=
  memberChanges (.start (layoutName ++ "." ++ new.name) old.members) old.members new.members

/-- A layout against the one of its name: its structs in order, then the structs that are gone. -/
def layoutChanges (old new : Layout) : List Mutation :=
  (if old.kind = new.kind then []
    else [log .update ("namespace " ++ new.name ++ " changed from " ++ old.kind.toText ++ " to " ++
      new.kind.toText)]) ++
  new.structs.flatMap (fun struct =>
    match old.getStruct? struct.name with
    | some previous => structChanges new.name previous struct
    | none => [log .add ("struct " ++ new.name ++ "." ++ struct.name ++ " added")]) ++
  old.structs.flatMap (fun struct =>
    match new.getStruct? struct.name with
    | some _ => []
    | none => [warn .del ("struct " ++ old.name ++ "." ++ struct.name ++ " removed")])

end Comparison

open Comparison in
/-- A dump against the previous one: its layouts in order, then the layouts that are gone. -/
def compare (previous current : Dump) : List Mutation :=
  current.layouts.flatMap (fun layout =>
    match previous.get? layout.name with
    | some old => layoutChanges old layout
    | none =>
      [log .add ("namespace " ++ layout.name ++ " (" ++ layout.kind.toText ++ ") added")]) ++
  previous.layouts.flatMap (fun old =>
    match current.get? old.name with
    | some _ => []
    | none => [warn .del ("namespace " ++ old.name ++ " removed")])

/-- A dump against the previous one, if there is one; a first deployment has nothing to break. -/
def compare? (previous : Option Dump) (current : Dump) : List Mutation :=
  match previous with
  | some previous => compare previous current
  | none => []

end ModularRouter.Storage
