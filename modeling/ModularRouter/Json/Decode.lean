import ModularRouter.Json.Basic

/-!
# Taking JSON apart

The rules by which typed values are read from JSON. A struct is an object, or else the list of the
values of its fields in their order; `record?` makes the one of the other, so that all readers of
fields are told for objects. A field is required, optional (absent or `null`) or has a default
(absent, but not `null`). Fields of an object that are not asked for may hold anything; one that is
asked for may not be given twice. A node is a struct that says what it is: in a field of an object,
or as the first value of a list (`node?`).

What is taken out of a value is a `Part` of it, which carries the proof that it is smaller, so that
readers of nested types can follow it. The `size` of a value counts no names, as a list has none.
-/

namespace ModularRouter.Json

/-! ## Sizes -/

mutual

/-- How many values a value is made of. -/
def size : Json → Nat
  | .arr items => sizeOfItems items + 1
  | .obj fields => sizeOfFields fields + 1
  | _ => 1

/-- How many values the values of a list are made of. -/
def sizeOfItems : List Json → Nat
  | [] => 0
  | item :: rest => item.size + sizeOfItems rest

/-- How many values the values of some fields are made of. -/
def sizeOfFields : List (String × Json) → Nat
  | [] => 0
  | (_, value) :: rest => value.size + sizeOfFields rest

end

/-- An item of a list is smaller than the list. -/
theorem size_item_lt {items : List Json} {item : Json} (h : item ∈ items) :
    item.size < (Json.arr items).size := by
  refine Nat.lt_succ_of_le ?_
  induction items with
  | nil => cases h
  | cons first rest ih =>
    rw [sizeOfItems]
    cases h with
    | head => omega
    | tail _ h => have := ih h; omega

/-- The value of a field of an object is smaller than the object. -/
theorem size_field_lt {fields : List (String × Json)} {field : String × Json}
    (h : field ∈ fields) : field.2.size < (Json.obj fields).size := by
  refine Nat.lt_succ_of_le ?_
  induction fields with
  | nil => cases h
  | cons first rest ih =>
    rw [sizeOfFields]
    cases h with
    | head => omega
    | tail _ h => have := ih h; omega

/-- Values are no larger for having names. -/
theorem size_zip_le (names : List String) (items : List Json) :
    (Json.obj (names.zip items)).size ≤ (Json.arr items).size := by
  refine Nat.succ_le_succ ?_
  induction names generalizing items with
  | nil => exact Nat.zero_le _
  | cons name names ih =>
    cases items with
    | nil => exact Nat.le_refl _
    | cons item items =>
      rw [List.zip_cons_cons, sizeOfFields, sizeOfItems]
      have := ih items
      omega

/-! ## Parts -/

/-- A value that stands inside another one. -/
abbrev Part (whole : Json) := {part : Json // part.size < whole.size}

/-- A value written as an object. -/
abbrev Record (whole : Json) := {record : Json // record.size ≤ whole.size}

/-- The items of a list. -/
def parts? : (json : Json) → Option (List json.Part)
  | .arr items => some (items.attach.map fun ⟨item, h⟩ => ⟨item, size_item_lt h⟩)
  | _ => none

/-- A struct as an object, by the names of its fields in their order. A list may leave out the last
fields but holds nothing beyond them. -/
def record? (names : List String) : (json : Json) → Option json.Record
  | .obj fields => some ⟨.obj fields, Nat.le_refl _⟩
  | .arr items =>
    if items.length ≤ names.length then some ⟨.obj (names.zip items), size_zip_le names items⟩
    else none
  | _ => none

/-- The values of the fields of a name in an object, in the order they were written. -/
def named? (name : String) : (json : Json) → Option (List json.Part)
  | .obj fields =>
    some (fields.attach.filterMap fun ⟨field, h⟩ =>
      if field.1 = name then some ⟨field.2, size_field_lt h⟩ else none)
  | _ => none

/-- Whether a value is an object. -/
def isObject : Json → Bool
  | .obj _ => true
  | _ => false

/-- The value of a field that has to be there. -/
def required? (name : String) (json : Json) : Option json.Part :=
  match json.named? name with
  | some [part] => some part
  | _ => none

/-- The value of a field that may be absent; the answer is nothing if it is given twice. -/
def defaulted? (name : String) (json : Json) : Option (Option json.Part) :=
  match json.named? name with
  | some [] => some none
  | some [part] => some (some part)
  | _ => none

/-- The value of a field that may be absent or `null`. -/
def optional? (name : String) (json : Json) : Option (Option json.Part) :=
  match json.defaulted? name with
  | some (some ⟨.null, _⟩) => some none
  | answer => answer

/-- The parts of a part of a value are parts of the value. -/
def Part.widen {whole : Json} (outer : whole.Part) (inner : outer.1.Part) : whole.Part :=
  ⟨inner.1, Nat.lt_trans inner.2 outer.2⟩

/-- The items of a list, as parts of the value that holds the list. -/
def Part.items? {whole : Json} (part : whole.Part) : Option (List whole.Part) :=
  part.1.parts?.map fun items => items.map part.widen

/-- The items of a required list. -/
def requiredList? (name : String) (json : Json) : Option (List json.Part) :=
  match json.required? name with
  | some part => part.items?
  | none => none

/-- The items of a list that is empty when the field is absent. -/
def defaultedList? (name : String) (json : Json) : Option (List json.Part) :=
  match json.defaulted? name with
  | some (some part) => part.items?
  | some none => some []
  | none => none

/-- Reads an optional value with the given reader. -/
def readOptional {α β : Type} (value : Option α) (reader : α → Option β) : Option (Option β) :=
  match value with
  | some value => (reader value).map some
  | none => some none

/-- A truth value. -/
def bool? : Json → Option Bool
  | .bool value => some value
  | _ => none

/-- A natural number below a bound. -/
def nat? (bound : Nat) : Json → Option Nat
  | .number (.integer (.ofNat value)) => if value < bound then some value else none
  | _ => none

/-- A whole number of 64 bits with a sign. -/
def int64? : Json → Option Int
  | .number (.integer value) => if value < Nat.pow 2 63 then some value else none
  | _ => none

/-- One of a set of names: the name itself, or the only name of an object with a `null` value. -/
def name? : Json → Option String
  | .str name => some name
  | .obj [(name, .null)] => some name
  | _ => none

/-- One of a set of names inside an object that says what it is: here the value may also be an empty
object. -/
def innerName? : Json → Option String
  | .obj [(name, .obj [])] => some name
  | json => json.name?

/-- The text of a required field. -/
def requiredText? (name : String) (json : Json) : Option String := do
  let part ← json.required? name
  part.1.text?

/-- The text of an optional field. -/
def optionalText? (name : String) (json : Json) : Option (Option String) := do
  readOptional (← json.optional? name) fun part => part.1.text?

/-- The number of an optional field, below a bound. -/
def optionalNat? (name : String) (bound : Nat) (json : Json) : Option (Option Nat) := do
  readOptional (← json.optional? name) fun part => part.1.nat? bound

/-- The number of a required field, of 64 bits with a sign. -/
def requiredInt64? (name : String) (json : Json) : Option Int := do
  let part ← json.required? name
  part.1.int64?

/-! ## Nodes -/

/-- The value that says what a node is. -/
def tag? (name : String) : Json → Option Json
  | .arr (first :: _) => some first
  | json => (json.required? name).map Subtype.val

/-- What a value says that a node inside another one is: the name of one of some kinds, or its place
among them. A place beyond them all gives the empty name. -/
def innerKind? (kinds : List String) : Json → Option String
  | .str kind => some kind
  | .number (.integer (.ofNat place)) => some (kinds[place]?.getD "")
  | _ => none

/-- What a node is, and the node as an object. The kinds come with the names of their fields; a node
of another kind has none but the one that says what it is. -/
def node? (name : String) (kinds : List (String × List String)) (kind? : Json → Option String)
    (json : Json) : Option (String × json.Record) := do
  let kind ← kind? (← json.tag? name)
  return (kind, ← json.record? (name :: (kinds.lookup kind).getD []))

/-- A node that is read on its own. -/
def outerNode? (name : String) (kinds : List (String × List String)) :
    (json : Json) → Option (String × json.Record) :=
  node? name kinds text?

/-- A node that is read as a part of another one. -/
def innerNode? (name : String) (kinds : List (String × List String)) :
    (json : Json) → Option (String × json.Record) :=
  node? name kinds (innerKind? (kinds.map Prod.fst))

end ModularRouter.Json
