import ModularRouter.Association
import ModularRouter.Double.Basic

/-!
# JSON values

A value keeps the fields of an object in the order they were written, repeated names included.
Text can be well formed and still spell no value: half of a surrogate pair, a number beyond the
range of a double, a nesting that is too deep. Such a part is `unreadable`; it does no harm where
nobody looks at it.
-/

namespace ModularRouter

namespace Json

/-- A number: a whole one between `-2 ^ 63` and `2 ^ 64 - 1`, or a double. -/
inductive Number where
  /-- A whole number written without a fraction or an exponent. -/
  | integer (value : Int)
  /-- Any other number. -/
  | real (value : Double)
  deriving Repr, DecidableEq

end Json

/-- A JSON value. -/
inductive Json where
  /-- The value `null`. -/
  | null
  /-- A truth value. -/
  | bool (value : Bool)
  /-- A number. -/
  | number (value : Json.Number)
  /-- A string. -/
  | str (text : String)
  /-- A list of values. -/
  | arr (items : List Json)
  /-- The fields of an object, in the order they were written. -/
  | obj (fields : List (String × Json))
  /-- Well formed text that spells no value. -/
  | unreadable
  deriving Repr, Inhabited

namespace Json

/-- A whole number. -/
def ofInt (value : Int) : Json :=
  .number (.integer value)

/-- A natural number. -/
def ofNat (value : Nat) : Json :=
  ofInt value

/-- A string, or `null` in place of an absent one. -/
def ofText? (text : Option String) : Json :=
  match text with
  | some text => .str text
  | none => .null

mutual

/-- Whether every part of a value is readable. -/
def isReadable : Json → Bool
  | .arr items => allReadable items
  | .obj fields => allFieldsReadable fields
  | .unreadable => false
  | _ => true

/-- Whether every value of a list is readable. -/
def allReadable : List Json → Bool
  | [] => true
  | item :: rest => isReadable item && allReadable rest

/-- Whether the value of every field is readable. -/
def allFieldsReadable : List (String × Json) → Bool
  | [] => true
  | (_, value) :: rest => isReadable value && allFieldsReadable rest

end

mutual

/-- A value in which every object has each name once, with the value it was given last. -/
def normalize : Json → Json
  | .arr items => .arr (normalizeItems items)
  | .obj fields => .obj (normalizeFields [] fields)
  | value => value

/-- Normalizes every value of a list. -/
def normalizeItems : List Json → List Json
  | [] => []
  | item :: rest => normalize item :: normalizeItems rest

/-- Puts the normalized fields one after the other into those seen before. -/
def normalizeFields (seen : List (String × Json)) : List (String × Json) → List (String × Json)
  | [] => seen
  | (name, value) :: rest => normalizeFields (Association.put name (normalize value) seen) rest

end

/-- The value of a field of an object without repeated names. -/
def field? (name : String) : Json → Option Json
  | .obj fields => fields.lookup name
  | _ => none

/-- The text of a string. -/
def text? : Json → Option String
  | .str text => some text
  | _ => none

end Json

end ModularRouter
