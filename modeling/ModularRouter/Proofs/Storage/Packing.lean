import ModularRouter.Storage.Packing

/-!
# Positions of packed values

What `Packing.positionsFrom` and `Packing.endFrom` do value by value, and the space of a struct as
that of its members.
-/

namespace ModularRouter.Storage.Packing

/-- The first value goes where it fits. -/
@[simp]
theorem positionsFrom_cons_zero (position : Position) (footprint : Footprint)
    (rest : List Footprint) :
    (positionsFrom position (footprint :: rest))[0]? = some (position.fit footprint) := rfl

/-- The values after the first one go from the end of it on. -/
@[simp]
theorem positionsFrom_cons_succ (position : Position) (footprint : Footprint)
    (rest : List Footprint) (index : Nat) :
    (positionsFrom position (footprint :: rest))[index + 1]? =
      (positionsFrom (position.next footprint) rest)[index]? := rfl

/-- Every value has one position. -/
@[simp]
theorem length_positionsFrom (position : Position) (footprints : List Footprint) :
    (positionsFrom position footprints).length = footprints.length := by
  induction footprints generalizing position with
  | nil => rfl
  | cons footprint rest ih => simp [positionsFrom, ih]

/-- Every member has one position. -/
@[simp]
theorem length_positions (members : List Shape) :
    (packing members).positions.length = members.length := by
  simp [packing, ofFootprints]

end ModularRouter.Storage.Packing

namespace ModularRouter.Storage

/-- A struct takes the space of its members, unless it is recorded as a count of words. -/
theorem footprint_struct (structName : String) (name : Option String) {members : List Shape}
    {slots : Option Nat} (known : members ≠ [] ∨ slots = none) :
    (Shape.struct structName name members slots).footprint =
      .slots (max 1 (packing members).slots) := by
  rw [packing, ← Shape.footprints_eq_map]
  cases members with
  | cons first rest => rfl
  | nil =>
    cases known.resolve_left (· rfl)
    rfl

end ModularRouter.Storage
