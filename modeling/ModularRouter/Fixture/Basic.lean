/-!
# Fixtures

Short descriptions of projects, to be written out as a compiler would write them. A project lists
contracts with what they declare, in the order they are added, and functions outside of all
contracts. Types are written as in a source.
-/

namespace ModularRouter.Fixture

/-- Why a description cannot be written out. -/
inductive FixtureError where
  /-- Something is declared before any contract. -/
  | noContract
  /-- A mapping lacks the arrow between its key and its value. -/
  | mappingWithoutArrow
  /-- An array lacks its opening bracket. -/
  | arrayWithoutBracket
  deriving Repr, DecidableEq

/-- What is said about a description that cannot be written out. -/
def FixtureError.message : FixtureError → String
  | .noContract => "declare a contract before its items"
  | .mappingWithoutArrow => "mapping fixture has a =>"
  | .arrayWithoutBracket => "array fixture has a ["

/-- Where the slot of a storage pointer comes from, or the value of a constant. -/
inductive SlotSource where
  /-- A number, assigned in assembly. -/
  | yulLiteral (value : String)
  /-- A number, assigned in assembly through an assembly variable. -/
  | yulLet (value : String)
  /-- A number, assigned through a local variable. -/
  | literal (value : String)
  /-- The hash of a string. -/
  | keccak (text : String)
  /-- The hash of an encoding that starts with a seed. -/
  | encodedSeed (seed : String)
  /-- The hash of a string given by its bytes. -/
  | keccakBytes (bytes : List UInt8)
  /-- A constant, assigned in assembly. -/
  | constant (name : String)
  /-- The result of a function. -/
  | call (function : String)
  deriving Repr, DecidableEq

/-- What an assignment of a slot stands in. -/
inductive Nesting where
  /-- The body of a counting loop that declares the slot. -/
  | forLoop
  /-- The body of a loop that tests first. -/
  | whileLoop
  /-- The body of a loop that tests last. -/
  | doWhileLoop
  /-- The second clause of an external call. -/
  | tryCatch
  /-- A case of a switch of assembly. -/
  | yulSwitch
  /-- The body of a loop of assembly. -/
  | yulForLoop
  deriving Repr, DecidableEq

/-- Something that a contract declares. -/
inductive Item where
  /-- A struct, with the types and names of its members. -/
  | struct (name : String) (members : List (String × String))
  /-- An enumeration. -/
  | enum (name : String) (members : List String)
  /-- A value type that wraps another type. -/
  | valueType (name underlying : String)
  /-- A constant. -/
  | constant (name : String) (value : SlotSource)
  /-- A function that assigns a slot. -/
  | function (name : String) (slot : SlotSource) (nesting : Option Nesting)
  /-- A modifier that assigns a slot. -/
  | modifier (name : String) (slot : SlotSource)
  deriving Repr, DecidableEq

/-- A contract. -/
structure ContractFixture where
  /-- The path of its source file. -/
  path : String
  /-- Its name. -/
  name : String
  /-- Whether it is a contract, an interface or a library, in a word. -/
  kind : String
  /-- What it declares. -/
  items : List Item
  deriving Repr, DecidableEq

/-- A function outside of all contracts. -/
structure FreeFunction where
  /-- The path of its source file. -/
  path : String
  /-- Its name. -/
  name : String
  /-- The slot it assigns. -/
  slot : SlotSource
  deriving Repr, DecidableEq

/-- A project. -/
structure Project where
  /-- Its contracts. -/
  contracts : List ContractFixture
  /-- Its functions outside of all contracts. -/
  freeFunctions : List FreeFunction
  deriving Repr, DecidableEq

namespace Project

/-- The project without anything. -/
def empty : Project := ⟨[], []⟩

/-- Adds a contract without items. -/
def declare (project : Project) (path name kind : String) : Project :=
  { project with contracts := project.contracts ++ [⟨path, name, kind, []⟩] }

/-- Adds an item to the contract declared last. -/
def addItem (project : Project) (item : Item) : Except FixtureError Project :=
  match project.contracts.getLast? with
  | none => .error .noContract
  | some last =>
    let contract := { last with items := last.items ++ [item] }
    .ok { project with contracts := project.contracts.dropLast ++ [contract] }

/-- Adds a function outside of all contracts. -/
def addFreeFunction (project : Project) (function : FreeFunction) : Project :=
  { project with freeFunctions := project.freeFunctions ++ [function] }

end Project

end ModularRouter.Fixture
