import ModularRouter.Fixture.Basic
import ModularRouter.Storage.ElementaryType
import ModularRouter.Text.Blank
import ModularRouter.Text.Search

/-!
# Written types

The types of a description, taken apart from the way they are written in a source.
-/

namespace ModularRouter.Fixture

/-- A type as it is written. -/
inductive TypeSketch where
  /-- A mapping. -/
  | mapping (key value : TypeSketch)
  /-- An array, with the text of its length if it has one. -/
  | array (base : TypeSketch) (length : String)
  /-- A function. -/
  | function (visibility : String)
  /-- A type of the language itself. -/
  | elementary (name : String)
  /-- A declared type. -/
  | user (name : String)
  deriving Repr

namespace TypeSketch

/-- What stands between the parentheses of a mapping. -/
def mappingBody? (text : List Char) : Option (List Char) :=
  (Text.dropStart? "mapping(".toList text).bind (Text.dropEnd? [')'])

/-- The type of a function, by what follows the word for it. -/
def ofVisibility (text : List Char) : TypeSketch :=
  let visibility := Text.trim text
  .function (if visibility.isEmpty then "internal" else String.ofList visibility)

/-- The type that a text without mappings and arrays at its top spells. -/
def ofPlain (text : List Char) : TypeSketch :=
  match Text.dropStart? "function".toList text with
  | some visibility => ofVisibility visibility
  | none =>
    let name := String.ofList text
    if (Storage.ElementaryType.parse? name).isSome then .elementary name else .user name

/-- The type that a text spells, with at most `steps` types inside one another. -/
def ofChars : (steps : Nat) → List Char → Except FixtureError TypeSketch
  | 0, text => .ok (ofPlain text)
  | steps + 1, text =>
    let text := Text.trim text
    match mappingBody? text with
    | some body =>
      match Text.splitOnce? ['=', '>'] body with
      | none => .error .mappingWithoutArrow
      | some (key, value) => do
        let key ← ofChars steps key
        let value ← ofChars steps value
        .ok (.mapping key value)
    | none =>
      match Text.dropEnd? [']'] text with
      | none => .ok (ofPlain text)
      | some front =>
        match Text.splitLast? '[' front with
        | none => .error .arrayWithoutBracket
        | some (base, length) => do
          let base ← ofChars steps base
          .ok (.array base (String.ofList length))

/-- The type that a text spells. Every type is shorter than the one it stands in. -/
def ofText (text : String) : Except FixtureError TypeSketch :=
  ofChars (text.toList.length + 1) text.toList

end TypeSketch

end ModularRouter.Fixture
