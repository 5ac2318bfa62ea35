import ModularRouter.Storage.Layout

/-!
# Places of values

A value inside a struct is found step by step: to a member by its index, to an element of an array
by its index, to the value of a mapping by its key. `Located.follow?` walks such a path and says at
every step where the value stands relative to the one around it. Elements of an array and values of
a mapping are told from the base of the array or the mapping, wherever that base is.
-/

namespace ModularRouter.Storage

/-- One step from a value to a value inside it. -/
inductive Step where
  /-- To the member of a struct at an index. -/
  | member (index : Nat)
  /-- To the element of an array at an index. -/
  | element (index : Nat)
  /-- To the value of a mapping at some key. -/
  | key
  deriving Repr, DecidableEq

/-- Where the element of an array at an index stands. Elements that pack fill a word before the
next one; others follow each other by whole words. -/
def elementPosition (element : Footprint) (index : Nat) : Position :=
  match element with
  | .bytes size => ⟨index / perSlot size, index % perSlot size * size⟩
  | .slots count => ⟨index * count, 0⟩

namespace Shape

/-- The shape that a step leads to. -/
def part? : Shape → Step → Option Shape
  | .struct _ _ members _, .member index => members[index]?
  | .array _ value _, .element _ => some value
  | .mapping _ _ value, .key => some value
  | _, _ => none

/-- The shape that a path leads to. -/
def at? (shape : Shape) : List Step → Option Shape
  | [] => some shape
  | step :: rest =>
    match shape.part? step with
    | some part => part.at? rest
    | none => none

/-- A path that begins with a step goes on from the part that the step leads to. -/
theorem at?_cons {shape part : Shape} {step : Step} (inside : shape.part? step = some part)
    (rest : List Step) : shape.at? (step :: rest) = part.at? rest := by
  rw [at?, inside]

/-- A path that ends with a step leads to a part of what the path before it leads to. -/
theorem exists_of_at?_concat {shape part : Shape} {path : List Step} {step : Step}
    (found : shape.at? (path ++ [step]) = some part) :
    ∃ outer, shape.at? path = some outer ∧ outer.part? step = some part := by
  induction path generalizing shape with
  | nil =>
    cases inside : shape.part? step with
    | none => simp [at?, inside] at found
    | some own =>
      rw [List.nil_append, at?_cons inside] at found
      exact ⟨shape, rfl, inside.trans found⟩
  | cons first rest ih =>
    cases inside : shape.part? first with
    | none => simp [at?, inside] at found
    | some own =>
      rw [List.cons_append, at?_cons inside] at found
      rw [at?_cons inside]
      exact ih found

/-- Only a mapping has a value behind a key. -/
theorem eq_mapping_of_part? {shape value : Shape} (inside : shape.part? .key = some value) :
    ∃ name key, shape = .mapping name key value := by
  cases shape with
  | mapping name key value =>
    cases inside
    exact ⟨_, _, rfl⟩
  | builtin | struct | array | enum => cases inside

/-- Only an array has elements. -/
theorem eq_array_of_part? {shape value : Shape} {index : Nat}
    (inside : shape.part? (.element index) = some value) :
    ∃ name length, shape = .array name value length := by
  cases shape with
  | array name value length =>
    cases inside
    exact ⟨_, _, rfl⟩
  | builtin | struct | mapping | enum => cases inside

/-- Where a step leads, relative to the value it starts from. A step to an element that an array of
fixed length does not have leads nowhere. -/
def position? : Shape → Step → Option Position
  | .struct _ _ members _, .member index => (packing members).positions[index]?
  | .array _ value none, .element index => some (elementPosition value.footprint index)
  | .array _ value (some length), .element index =>
    if index < length then some (elementPosition value.footprint index) else none
  | .mapping .., .key => some .start
  | _, _ => none

/-- The space from one element of an array to the next. -/
def stride? : Shape → Option Footprint
  | .array _ value _ => some value.footprint
  | _ => none

mutual

/-- Whether all elementary types inside a shape are known and no struct inside it is without
members. -/
def isExpanded : Shape → Bool
  | .builtin value => value.elementaryType?.isSome
  | .struct _ _ members _ => !members.isEmpty && areExpanded members
  | .mapping _ key value => key.elementaryType?.isSome && value.isExpanded
  | .array _ value _ => value.isExpanded
  | .enum .. => true

/-- Whether all elementary types inside some shapes are known and no struct inside them is without
members. -/
def areExpanded : List Shape → Bool
  | [] => true
  | shape :: rest => shape.isExpanded && areExpanded rest

end

/-- Shapes are expanded together when each of them is. -/
theorem areExpanded_iff (shapes : List Shape) :
    areExpanded shapes = true ↔ ∀ shape ∈ shapes, shape.isExpanded = true := by
  induction shapes with
  | nil => simp [areExpanded]
  | cons shape rest ih => simp [areExpanded, ih]

end Shape

/-- Whether all elementary types inside a dump are known and no struct inside a value of it is
without members. -/
def Dump.IsExpanded (dump : Dump) : Prop :=
  ∀ layout ∈ dump.layouts, ∀ struct ∈ layout.structs, Shape.areExpanded struct.members = true

instance (dump : Dump) : Decidable dump.IsExpanded := by
  unfold Dump.IsExpanded
  infer_instance

/-- A value inside another one. -/
structure Located where
  /-- Where it stands, relative to the value around it. -/
  position : Position
  /-- Its shape. -/
  shape : Shape
  deriving Repr, DecidableEq

namespace Located

/-- The value that a path leads to. -/
def follow? (value : Located) : List Step → Option Located
  | [] => some value
  | step :: rest =>
    match value.shape.position? step, value.shape.part? step with
    | some position, some shape => follow? ⟨position, shape⟩ rest
    | _, _ => none

end Located

namespace StructLayout

/-- The shape of a struct of a layout. -/
def shape (layout : StructLayout) : Shape :=
  .struct layout.name none layout.members none

/-- The value that a path from a struct leads to. -/
def locate? (layout : StructLayout) (path : List Step) : Option Located :=
  Located.follow? ⟨.start, layout.shape⟩ path

end StructLayout

end ModularRouter.Storage
