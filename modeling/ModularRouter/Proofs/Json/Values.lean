import ModularRouter.Proofs.Json.Fields

/-!
# Values of fields

What the readers of fields find in an object, as values without the proofs that they are parts of
it. All of them look at what `defaultedValue?` finds. So if the value of a field is replaced, what
is found in other fields stays as it is (`defaultedValue?_withField_of_ne`), and a reader that does
not tell the two values apart does not tell the objects apart (`defaultedValue?_withField_bind`).

The same goes for a struct that is written as a list: whatever value stands in a `Hole` of it, it is
an object with that value in a field (`object?_fill`).
-/

namespace ModularRouter.Json

/-! ## Values -/

/-- The value of a field that may be absent. -/
def defaultedValue? (name : String) (json : Json) : Option (Option Json) :=
  (json.defaulted? name).map (Option.map Subtype.val)

/-- The value of a field that has to be there. -/
def value? (name : String) (json : Json) : Option Json :=
  (json.defaultedValue? name).bind id

/-- A value, unless it is `null`. -/
def present? : Option Json → Option Json
  | some .null => none
  | value => value

/-- The value of a field that may be absent or `null`. -/
def optionalValue? (name : String) (json : Json) : Option (Option Json) :=
  (json.defaultedValue? name).map present?

/-- The values in a list. -/
def items? : Json → Option (List Json)
  | .arr items => some items
  | _ => none

/-- A struct as an object, by the names of its fields. -/
def object? (names : List String) (json : Json) : Option Json :=
  (json.record? names).map Subtype.val

section

variable {α : Type} (name : String) (json : Json)

/-- A required field has the value that is found. -/
theorem map_required? : (json.required? name).map Subtype.val = json.value? name := by
  rw [required?, value?, defaultedValue?, defaulted?]
  rcases json.named? name with _ | _ | ⟨part, _ | _⟩ <;> rfl

/-- An optional field has the value that is found. -/
theorem map_optional? :
    (json.optional? name).map (Option.map Subtype.val) = json.optionalValue? name := by
  rw [optional?, optionalValue?, defaultedValue?]
  rcases json.defaulted? name with _ | _ | ⟨value, smaller⟩
  · rfl
  · rfl
  · cases value <;> rfl

/-- The text of a required field is told by its value. -/
theorem requiredText?_eq : json.requiredText? name = (json.value? name).bind text? := by
  rw [requiredText?, ← map_required?]
  cases json.required? name <;> rfl

/-- The number of a required field is told by its value. -/
theorem requiredInt64?_eq : json.requiredInt64? name = (json.value? name).bind int64? := by
  rw [requiredInt64?, ← map_required?]
  cases json.required? name <;> rfl

/-- A required field is read as its value. -/
theorem required?_bind (reader : Json → Option α) :
    ((json.required? name).bind fun part => reader part.1) = (json.value? name).bind reader := by
  rw [← map_required?, Option.bind_map]
  rfl

/-- A list is the object with its values under the names of the fields, unless it is too long. -/
theorem object?_arr (names : List String) (items : List Json) :
    (Json.arr items).object? names =
      if items.length ≤ names.length then some (.obj (names.zip items)) else none := by
  rw [object?, record?]
  split <;> rfl

/-- A struct is read as the object that it is. -/
theorem record?_bind (names : List String) (reader : Json → Option α) :
    ((json.record? names).bind fun record => reader record.1) =
      (json.object? names).bind reader := by
  rw [object?, Option.bind_map]
  rfl

/-- A node is read as what it says it is and the object that it is. -/
theorem node?_bind (kinds : List (String × List String)) (kind? : Json → Option String)
    (reader : String → Json → Option α) :
    ((json.node? name kinds kind?).bind fun node => reader node.1 node.2.1) =
      ((json.tag? name).bind kind?).bind fun kind =>
        (json.object? (name :: (kinds.lookup kind).getD [])).bind (reader kind) := by
  simp only [node?, Option.bind_eq_bind, Option.bind_assoc, ← record?_bind]
  rfl

/-- The parts of a list are its items. -/
theorem map_parts? : json.parts?.map (List.map Subtype.val) = json.items? := by
  cases json with
  | arr items =>
    obtain ⟨parts, found, values⟩ := exists_parts?_arr items
    rw [found, Option.map_some, values]
    rfl
  | _ => rfl

/-- A list is read item by item. -/
theorem parts?_mapM (reader : Json → Option α) :
    (json.parts?.bind fun parts => parts.mapM fun part => reader part.1) =
      json.items?.bind (List.mapM reader) := by
  rw [← map_parts?, Option.bind_map]
  congr 1
  funext parts
  exact mapM_val_eq rfl reader

/-- A list that may be absent is read item by item. -/
theorem defaultedList?_mapM (reader : Json → Option α) :
    ((json.defaultedList? name).bind fun parts => parts.mapM fun part => reader part.1) =
      (json.defaultedValue? name).bind fun
        | some value => value.items?.bind (List.mapM reader)
        | none => some [] := by
  rw [defaultedList?, defaultedValue?]
  rcases json.defaulted? name with _ | _ | part
  · rfl
  · rfl
  · simp only [Option.map_some, Option.bind_some]
    rw [Part.items?, ← parts?_mapM, Option.bind_map]
    congr 1
    funext parts
    exact List.mapM_map ..

end

/-! ## One field among others -/

/-- An object with a field among others. -/
def withField (before : List (String × Json)) (name : String) (value : Json)
    (after : List (String × Json)) : Json :=
  .obj (before ++ (name, value) :: after)

section

variable {α : Type} {before after : List (String × Json)} {name : String} {old new : Json}

/-- What is found in an object under a name. -/
theorem defaultedValue?_obj (name : String) (fields : List (String × Json)) :
    (Json.obj fields).defaultedValue? name =
      match fieldValues name fields with
      | [] => some none
      | [value] => some (some value)
      | _ => none := by
  obtain ⟨parts, found, values⟩ := exists_named?_obj name fields
  rw [defaultedValue?, defaulted?, found, ← values]
  rcases parts with _ | ⟨part, _ | _⟩ <;> rfl

/-- What is found in the other fields of an object does not depend on one of them. -/
theorem defaultedValue?_withField_of_ne {other : String} (different : other ≠ name) :
    (withField before name new after).defaultedValue? other =
      (withField before name old after).defaultedValue? other := by
  have same (value : Json) : fieldValues other (before ++ (name, value) :: after) =
      fieldValues other before ++ fieldValues other after := by
    rw [fieldValues_append, fieldValues_cons, if_neg different.symm]
  unfold withField
  rw [defaultedValue?_obj, defaultedValue?_obj, same, same]

/-- A reader that does not tell two values of a field apart does not tell the objects apart. -/
theorem defaultedValue?_withField_bind {reader : Option Json → Option α}
    (same : reader (some new) = reader (some old)) :
    ((withField before name new after).defaultedValue? name).bind reader =
      ((withField before name old after).defaultedValue? name).bind reader := by
  have values (value : Json) : fieldValues name (before ++ (name, value) :: after) =
      fieldValues name before ++ value :: fieldValues name after := by
    rw [fieldValues_append, fieldValues_cons, if_pos rfl]
  unfold withField
  rw [defaultedValue?_obj, defaultedValue?_obj, values, values]
  -- The field is found if the name stands nowhere else.
  rcases fieldValues name before with _ | ⟨first, _ | _⟩
  · cases fieldValues name after with
    | nil => exact same
    | cons _ _ => rfl
  · rfl
  · rfl

/-- What is required in other fields does not depend on one of them. -/
theorem value?_withField_of_ne {other : String} (different : other ≠ name) :
    (withField before name new after).value? other =
      (withField before name old after).value? other := by
  rw [value?, value?, defaultedValue?_withField_of_ne different]

/-- What is optional in other fields does not depend on one of them. -/
theorem optionalValue?_withField_of_ne {other : String} (different : other ≠ name) :
    (withField before name new after).optionalValue? other =
      (withField before name old after).optionalValue? other := by
  rw [optionalValue?, optionalValue?, defaultedValue?_withField_of_ne different]

/-- A reader that does not tell two values of a required field apart does not tell the objects
apart. -/
theorem value?_withField_bind {reader : Json → Option α} (same : reader new = reader old) :
    ((withField before name new after).value? name).bind reader =
      ((withField before name old after).value? name).bind reader := by
  rw [value?, value?, Option.bind_assoc, Option.bind_assoc]
  exact defaultedValue?_withField_bind same

/-- An object with a field among others is a struct as it is. -/
theorem object?_withField (names : List String) (value : Json) :
    (withField before name value after).object? names = some (withField before name value after) :=
  rfl

/-- A value other than `null` is present. -/
theorem present?_some {value : Json} (given : value ≠ .null) :
    present? (some value) = some value := by
  cases value with
  | null => exact absurd rfl given
  | _ => rfl

/-- A reader that does not tell two values of an optional field apart does not tell the objects
apart. -/
theorem optionalValue?_withField_bind {reader : Option Json → Option α} (newGiven : new ≠ .null)
    (oldGiven : old ≠ .null) (same : reader (some new) = reader (some old)) :
    ((withField before name new after).optionalValue? name).bind reader =
      ((withField before name old after).optionalValue? name).bind reader := by
  have present : (reader ∘ present?) (some new) = (reader ∘ present?) (some old) := by
    rw [Function.comp_apply, Function.comp_apply, present?_some newGiven, present?_some oldGiven,
      same]
  rw [optionalValue?, optionalValue?, Option.bind_map, Option.bind_map]
  exact defaultedValue?_withField_bind present

end

/-! ## Holes -/

/-- A struct with one value left open. -/
inductive Hole where
  /-- The value of a field of an object. -/
  | field (before : List (String × Json)) (name : String) (after : List (String × Json))
  /-- An entry of a list. -/
  | entry (before after : List Json)

namespace Hole

/-- The struct with a value in the hole. -/
def fill : Hole → Json → Json
  | .field before name after, value => .withField before name value after
  | .entry before after, value => .arr (before ++ value :: after)

/-- The name of the field that is left open, by the names of the fields in their order. -/
def name? (names : List String) : Hole → Option String
  | .field _ name _ => some name
  | .entry before _ => names[before.length]?

end Hole

section

variable {hole : Hole} {names : List String} {name : String} {old new : Json}

/-- The values around a hole keep their names. -/
theorem zip_append_cons {before : List Json} (named : names[before.length]? = some name)
    (value : Json) (after : List Json) :
    names.zip (before ++ value :: after) =
      (names.take before.length).zip before ++
        (name, value) :: (names.drop (before.length + 1)).zip after := by
  induction before generalizing names with
  | nil =>
    cases names with
    | nil => cases named
    | cons first names =>
      cases named
      rfl
  | cons item before ih =>
    cases names with
    | nil => cases named
    | cons first names => exact congrArg ((first, item) :: ·) (ih named)

/-- Whatever value stands in a hole, the struct is an object with that value in a field, unless it
is a list that is too long. -/
theorem object?_fill (named : hole.name? names = some name) :
    (∀ value, (hole.fill value).object? names = none) ∨
      ∃ before after, ∀ value,
        (hole.fill value).object? names = some (withField before name value after) := by
  cases hole with
  | field before _ after =>
    cases named
    exact .inr ⟨before, after, object?_withField names⟩
  | entry before after =>
    have length (value : Json) :
        (before ++ value :: after).length = before.length + after.length + 1 := by
      rw [List.length_append, List.length_cons, Nat.add_assoc]
    by_cases fits : before.length + after.length + 1 ≤ names.length
    · refine .inr ⟨(names.take before.length).zip before,
        (names.drop (before.length + 1)).zip after, fun value => ?_⟩
      rw [Hole.fill, object?_arr, length, if_pos fits, zip_append_cons named, withField]
    · refine .inl fun value => ?_
      rw [Hole.fill, object?_arr, length, if_neg fits]

/-- What a node says it is does not depend on a value in another field. -/
theorem tag?_fill_of_ne {tag : String} (named : hole.name? (tag :: names) = some name)
    (different : tag ≠ name) : (hole.fill new).tag? tag = (hole.fill old).tag? tag := by
  cases hole with
  | field before _ after =>
    cases named
    show ((withField before name new after).required? tag).map Subtype.val =
      ((withField before name old after).required? tag).map Subtype.val
    rw [map_required?, map_required?, value?_withField_of_ne different]
  | entry before after =>
    cases before with
    | nil => exact absurd (Option.some.inj named) different
    | cons first before => rfl

/-- A struct is as readable with one value in a hole as with another one that is as readable. -/
theorem isReadable_fill (readable : new.isReadable = old.isReadable) :
    (hole.fill new).isReadable = (hole.fill old).isReadable := by
  cases hole with
  | field before name after =>
    simp only [Hole.fill, withField, isReadable, allFieldsReadable_append, allFieldsReadable,
      readable]
  | entry before after =>
    simp only [Hole.fill, isReadable, allReadable_append, allReadable, readable]

end

end ModularRouter.Json
