import ModularRouter.Storage.Shape

/-!
# Packing

Where the members of a struct stand. Values that take bytes are packed into a word from its first
byte on while they fit; everything else starts and ends at the boundary of a word. The space that
a shape takes and the packing of its members are found together, from the inside out.

Words are counted in 64 bits. A sum beyond the greatest count starts again with zero (`wrap`); the
words of an array are brought down to the greatest count (`arraySlots`).
-/

namespace ModularRouter.Storage

/-- The greatest count of words; longer arrays count as this many. -/
def maxSlots : Nat := Nat.pow 2 64 - 1

/-- What is left of a sum of counts of words: behind the greatest count they start again with
zero. -/
def wrap (count : Nat) : Nat := count % Nat.pow 2 64

/-- A place relative to the start of a struct. -/
structure Position where
  /-- The word. -/
  slot : Nat
  /-- The byte in that word. -/
  offset : Nat
  deriving Repr, DecidableEq

namespace Position

/-- The start of a struct. -/
def start : Position := ⟨0, 0⟩

/-- The start of the next word. -/
def nextWord (position : Position) : Position :=
  ⟨wrap (position.slot + 1), 0⟩

/-- Where a value of the given space goes when everything before the position is taken. -/
def fit (position : Position) : Footprint → Position
  | .bytes size => if wordSize < position.offset + size then position.nextWord else position
  | .slots _ => if 0 < position.offset then position.nextWord else position

/-- The end of a value of the given space at a position. -/
def after (position : Position) : Footprint → Position
  | .bytes size => ⟨position.slot, position.offset + size⟩
  | .slots count => ⟨wrap (position.slot + count), 0⟩

/-- The end of a value that is placed as soon after the position as it fits. -/
def next (position : Position) (footprint : Footprint) : Position :=
  (position.fit footprint).after footprint

/-- How many words a struct takes that ends at the position. -/
def slots (position : Position) : Nat :=
  wrap (position.slot + if 0 < position.offset then 1 else 0)

end Position

/-- The members of a struct in their places. -/
structure Packing where
  /-- The place of each member. -/
  positions : List Position
  /-- How many words the struct takes. -/
  slots : Nat
  deriving Repr, DecidableEq

namespace Packing

/-- The places of values put one after the other from a position on. -/
def positionsFrom (position : Position) : List Footprint → List Position
  | [] => []
  | footprint :: rest =>
    position.fit footprint :: positionsFrom (position.next footprint) rest

/-- The end of values put one after the other from a position on. -/
def endFrom (position : Position) : List Footprint → Position
  | [] => position
  | footprint :: rest => endFrom (position.next footprint) rest

/-- Puts values one after the other from the start of a struct. -/
def ofFootprints (footprints : List Footprint) : Packing where
  positions := positionsFrom .start footprints
  slots := (endFrom .start footprints).slots

end Packing

/-- How many values of a size up to a word share a word. -/
def perSlot (size : Nat) : Nat :=
  wordSize / min (max size 1) wordSize

/-- How many words an array of fixed length takes. -/
def arraySlots (element : Footprint) (length : Nat) : Nat :=
  match element with
  | .bytes size => (length + perSlot size - 1) / perSlot size
  | .slots count => min (count * length) maxSlots

/-- The size of an enumeration: the fewest bytes that tell its members apart. -/
def enumSize (members : List String) : Nat :=
  if members.length ≤ 256 then 1 else 2

namespace Shape

mutual

/-- The space a value of a shape takes. -/
def footprint : Shape → Footprint
  | .builtin value => value.footprint
  | .struct _ _ [] (some slots) => .slots slots
  | .struct _ _ members _ => .slots (max 1 (Packing.ofFootprints (footprints members)).slots)
  | .mapping .. => .slots 1
  | .array _ _ none => .slots 1
  | .array _ value (some length) => .slots (arraySlots value.footprint length)
  | .enum _ _ members => .bytes (enumSize members)

/-- The space each value of a list of shapes takes. -/
def footprints : List Shape → List Footprint
  | [] => []
  | shape :: rest => shape.footprint :: footprints rest

end

/-- The spaces of a list of shapes are those of its items. -/
theorem footprints_eq_map (shapes : List Shape) :
    footprints shapes = shapes.map footprint := by
  induction shapes with
  | nil => rfl
  | cons shape rest ih => rw [footprints, ih, List.map_cons]

end Shape

/-- The members of a struct in their places. -/
def packing (members : List Shape) : Packing :=
  Packing.ofFootprints (members.map Shape.footprint)

end ModularRouter.Storage
