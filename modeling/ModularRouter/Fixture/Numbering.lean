import ModularRouter.Fixture.Basic

/-!
# Numbering nodes

A compiler numbers the nodes of a syntax tree in the order it makes them. Declarations are numbered
before all other nodes, so that they can be referred to; of several declarations of one name the
first counts.
-/

namespace ModularRouter.Fixture

/-- The numbers that have been given. -/
structure Numbering where
  /-- The last number. -/
  last : Nat
  /-- The numbers of declarations by their names. -/
  declared : List (String × Nat)
  deriving Repr, DecidableEq

/-- A piece of a syntax tree whose nodes are numbered while it is made. -/
abbrev Numbered := StateT Numbering (Except FixtureError)

namespace Numbering

/-- Before any node is numbered. -/
def start : Numbering := ⟨0, []⟩

/-- The next number. -/
def next : Numbered Nat := fun numbering =>
  .ok (numbering.last + 1, { numbering with last := numbering.last + 1 })

/-- Numbers a declaration. -/
def declare (name : String) : Numbered Unit := do
  let id ← next
  modify fun numbering => { numbering with declared := numbering.declared ++ [(name, id)] }

/-- The number of the declaration of a name, if there is one. -/
def declared? (name : String) : Numbered (Option Nat) := do
  return (← get).declared.lookup name

/-- The number of the declaration of a name, or one that no node has. -/
def reference (name : String) : Numbered Int := do
  match ← declared? name with
  | some id => return id
  | none => return -(← next : Nat)

end Numbering

end ModularRouter.Fixture
