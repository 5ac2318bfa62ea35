import ModularRouter.Storage.ElementaryType

/-!
# Shapes of values

The shape of what a variable or a member holds, down to elementary types. Shapes are what is
recorded with a deployment and compared with the next one.
-/

namespace ModularRouter.Storage

/-- A value of an elementary type; the type is kept by name, known or not. -/
structure Builtin where
  /-- The name of the type. -/
  valueType : String
  /-- The name of the variable. -/
  name : Option String := none
  /-- The word it starts in, counted from the start of its struct. -/
  slot : Option Nat := none
  /-- The byte it starts at in that word. -/
  offset : Option Nat := none
  /-- Its size in bytes. -/
  size : Option Nat := none
  deriving Repr, DecidableEq

namespace Builtin

/-- A value of a known type. -/
def ofType (type : ElementaryType) : Builtin where
  valueType := type.canonical
  size := match type.footprint with
    | .bytes size => some size
    | .slots _ => some wordSize

/-- The type, if it is a known one. -/
def elementaryType? (value : Builtin) : Option ElementaryType :=
  ElementaryType.parse? value.valueType

/-- The space the value takes: that of its type, or for an unknown type the recorded size brought
between one byte and a word. -/
def footprint (value : Builtin) : Footprint :=
  match value.elementaryType? with
  | some type => type.footprint
  | none => .bytes (min (max (value.size.getD wordSize) 1) wordSize)

end Builtin

/-- The shape of a value. -/
inductive Shape where
  /-- A value of an elementary type. -/
  | builtin (value : Builtin)
  /-- A struct. One nested in itself leaves its members out and carries its count of words. -/
  | struct (structName : String) (name : Option String) (members : List Shape)
      (slots : Option Nat)
  /-- A mapping. -/
  | mapping (name : Option String) (key : Builtin) (value : Shape)
  /-- An array, of fixed length if one is given. -/
  | array (name : Option String) (value : Shape) (length : Option Nat)
  /-- An enumeration. -/
  | enum (enumName : String) (name : Option String) (members : List String)
  deriving Repr

namespace Shape

/-- The name of the variable. -/
def name? : Shape → Option String
  | .builtin value => value.name
  | .struct _ name _ _ => name
  | .mapping name _ _ => name
  | .array name _ _ => name
  | .enum _ name _ => name

/-- The shape under the name of a variable. -/
def named (name : String) : Shape → Shape
  | .builtin value => .builtin { value with name := some name }
  | .struct structName _ members slots => .struct structName (some name) members slots
  | .mapping _ key value => .mapping (some name) key value
  | .array _ value length => .array (some name) value length
  | .enum enumName _ members => .enum enumName (some name) members

/-- The word that says which kind of shape it is. -/
def variant : Shape → String
  | .builtin _ => "builtin"
  | .struct .. => "struct"
  | .mapping .. => "mapping"
  | .array .. => "array"
  | .enum .. => "enum"

/-- The type as it would be written in a source, `mapping(address => uint256)` for instance. -/
def typeLabel : Shape → String
  | .builtin value => value.valueType
  | .struct structName _ _ _ => "struct " ++ structName
  | .mapping _ key value => "mapping(" ++ key.valueType ++ " => " ++ value.typeLabel ++ ")"
  | .array _ value (some length) => value.typeLabel ++ "[" ++ toString length ++ "]"
  | .array _ value none => value.typeLabel ++ "[]"
  | .enum enumName _ _ => "enum " ++ enumName

/-- The type and the name of the variable, if it has one. -/
def toText (shape : Shape) : String :=
  match shape.name? with
  | some name => shape.typeLabel ++ " " ++ name
  | none => shape.typeLabel

mutual

/-- Equality of shapes can be decided. -/
def decEq : (a b : Shape) → Decidable (a = b)
  | .builtin a, .builtin b => decidable_of_iff (a = b) (by simp)
  | .struct a b members c, .struct a' b' members' c' =>
    match decEqList members members' with
    | isTrue h => decidable_of_iff (a = a' ∧ b = b' ∧ c = c') (by simp [h])
    | isFalse h => isFalse (by simp [h])
  | .mapping a b value, .mapping a' b' value' =>
    match decEq value value' with
    | isTrue h => decidable_of_iff (a = a' ∧ b = b') (by simp [h])
    | isFalse h => isFalse (by simp [h])
  | .array a value b, .array a' value' b' =>
    match decEq value value' with
    | isTrue h => decidable_of_iff (a = a' ∧ b = b') (by simp [h])
    | isFalse h => isFalse (by simp [h])
  | .enum a b c, .enum a' b' c' => decidable_of_iff (a = a' ∧ b = b' ∧ c = c') (by simp)
  | .builtin _, .struct .. | .builtin _, .mapping .. | .builtin _, .array ..
  | .builtin _, .enum .. | .struct .., .builtin _ | .struct .., .mapping ..
  | .struct .., .array .. | .struct .., .enum .. | .mapping .., .builtin _
  | .mapping .., .struct .. | .mapping .., .array .. | .mapping .., .enum ..
  | .array .., .builtin _ | .array .., .struct .. | .array .., .mapping ..
  | .array .., .enum .. | .enum .., .builtin _ | .enum .., .struct ..
  | .enum .., .mapping .. | .enum .., .array .. =>
    isFalse (by simp)

/-- Equality of lists of shapes can be decided. -/
def decEqList : (a b : List Shape) → Decidable (a = b)
  | [], [] => isTrue rfl
  | [], _ :: _ => isFalse (by simp)
  | _ :: _, [] => isFalse (by simp)
  | a :: as, b :: bs =>
    match decEq a b, decEqList as bs with
    | isTrue h, isTrue hs => isTrue (by rw [h, hs])
    | isFalse h, _ => isFalse (by simp [h])
    | _, isFalse hs => isFalse (by simp [hs])

end

instance : DecidableEq Shape := decEq

end Shape

end ModularRouter.Storage
