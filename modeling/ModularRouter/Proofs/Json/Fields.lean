import ModularRouter.Json.Decode

/-!
# Taking objects apart

What the readers of fields find in an object, told from the values that its fields of a name have.
-/

namespace ModularRouter.Json

/-- The values that the fields of a name have. -/
def fieldValues (name : String) (fields : List (String × Json)) : List Json :=
  fields.filterMap fun field => if field.1 = name then some field.2 else none

/-- The first field has the name or it has not. -/
@[simp]
theorem fieldValues_cons (name other : String) (value : Json) (fields : List (String × Json)) :
    fieldValues name ((other, value) :: fields) =
      if other = name then value :: fieldValues name fields else fieldValues name fields := by
  unfold fieldValues
  rw [List.filterMap_cons]
  by_cases same : other = name
  · rw [if_pos same, if_pos same]
  · rw [if_neg same, if_neg same]

/-- No fields have no values. -/
@[simp]
theorem fieldValues_nil (name : String) : fieldValues name [] = [] := rfl

/-- The values of two runs of fields are those of the one and then those of the other. -/
@[simp]
theorem fieldValues_append (name : String) (fields others : List (String × Json)) :
    fieldValues name (fields ++ others) = fieldValues name fields ++ fieldValues name others :=
  List.filterMap_append

/-- Two runs of items are readable when each of them is. -/
theorem allReadable_append (items others : List Json) :
    allReadable (items ++ others) = (allReadable items && allReadable others) := by
  induction items with
  | nil => rfl
  | cons item items ih => rw [List.cons_append, allReadable, allReadable, ih, Bool.and_assoc]

/-- Two runs of fields are readable when each of them is. -/
theorem allFieldsReadable_append (fields others : List (String × Json)) :
    allFieldsReadable (fields ++ others) =
      (allFieldsReadable fields && allFieldsReadable others) := by
  induction fields with
  | nil => rfl
  | cons field fields ih =>
    rw [List.cons_append, allFieldsReadable, allFieldsReadable, ih, Bool.and_assoc]

/-- Items that a reader gives back, each if it fits, are given back if they all fit. -/
theorem mapM_map_eq_ite {α : Type} {write : α → Json} {reader : Json → Option α} {fits : α → Bool}
    (each : ∀ item, reader (write item) = if fits item then some item else none) (items : List α) :
    (items.map write).mapM reader = if items.all fits then some items else none := by
  induction items with
  | nil => rfl
  | cons item items ih =>
    rw [List.map_cons, List.mapM_cons, each, ih, List.all_cons]
    cases fits item <;> cases items.all fits <;> rfl

/-- The parts of a list are its items. -/
theorem exists_parts?_arr (items : List Json) :
    ∃ parts, (Json.arr items).parts? = some parts ∧ parts.map Subtype.val = items := by
  refine ⟨_, rfl, ?_⟩
  rw [List.map_map]
  exact List.attach_map_subtype_val items

/-- What is found under a name in an object. -/
theorem exists_named?_obj (name : String) (fields : List (String × Json)) :
    ∃ parts, (Json.obj fields).named? name = some parts ∧
      parts.map Subtype.val = fieldValues name fields := by
  have values : ∀ field : {field // field ∈ fields},
      (if field.1.1 = name then some (⟨field.1.2, size_field_lt field.2⟩ : Part (.obj fields))
        else none).map Subtype.val = if field.1.1 = name then some field.1.2 else none := by
    intro field
    split <;> rfl
  refine ⟨_, rfl, ?_⟩
  rw [List.map_filterMap]
  simp only [values]
  rw [fieldValues]
  -- The proofs that come with the fields are not looked at.
  conv => rhs; rw [← List.attach_map_subtype_val fields, List.filterMap_map]
  rfl

/-- An object is a struct as it is. -/
theorem record?_obj (names : List String) (fields : List (String × Json)) :
    (Json.obj fields).record? names = some ⟨.obj fields, Nat.le_refl _⟩ := rfl

section

variable {name : String} {fields : List (String × Json)} {value : Json}

/-- A field that has to be there is found if it is given once. -/
theorem exists_required?_obj (once : fieldValues name fields = [value]) :
    ∃ part, (Json.obj fields).required? name = some part ∧ part.1 = value := by
  obtain ⟨parts, found, values⟩ := exists_named?_obj name fields
  rw [once] at values
  obtain ⟨part, rfl, same⟩ := List.map_eq_singleton_iff.1 values
  exact ⟨part, by rw [required?, found], same⟩

/-- An object is a node of the kind that is read from a field that is given once. -/
theorem node?_obj (once : fieldValues name fields = [value]) (kinds : List (String × List String))
    (kind? : Json → Option String) :
    (Json.obj fields).node? name kinds kind? =
      (kind? value).map fun kind => (kind, ⟨.obj fields, Nat.le_refl _⟩) := by
  obtain ⟨part, found, rfl⟩ := exists_required?_obj once
  have tag : (Json.obj fields).tag? name = some part.1 := congrArg (Option.map Subtype.val) found
  rw [node?, tag, Option.bind_eq_bind, Option.bind_some]
  cases kind? part.1 <;> rfl

/-- A field that may be absent is found if it is given once. -/
theorem exists_defaulted?_obj (once : fieldValues name fields = [value]) :
    ∃ part, (Json.obj fields).defaulted? name = some (some part) ∧ part.1 = value := by
  obtain ⟨parts, found, values⟩ := exists_named?_obj name fields
  rw [once] at values
  obtain ⟨part, rfl, same⟩ := List.map_eq_singleton_iff.1 values
  exact ⟨part, by rw [defaulted?, found], same⟩

/-- An optional field that is not given is absent. -/
theorem optional?_obj_of_eq_nil (absent : fieldValues name fields = []) :
    (Json.obj fields).optional? name = some none := by
  obtain ⟨parts, found, values⟩ := exists_named?_obj name fields
  rw [absent, List.map_eq_nil_iff] at values
  rw [optional?, defaulted?, found, values]

/-- An optional field is found if it is given once and is not `null`. -/
theorem exists_optional?_obj (once : fieldValues name fields = [value]) (given : value ≠ .null) :
    ∃ part, (Json.obj fields).optional? name = some (some part) ∧ part.1 = value := by
  obtain ⟨part, found, rfl⟩ := exists_defaulted?_obj once
  refine ⟨part, ?_, rfl⟩
  rw [optional?, found]
  split
  · next same =>
    cases same
    exact absurd rfl given
  · rfl

/-- The text of a field that is given once. -/
theorem requiredText?_obj (once : fieldValues name fields = [value]) :
    (Json.obj fields).requiredText? name = value.text? := by
  obtain ⟨part, found, rfl⟩ := exists_required?_obj once
  rw [requiredText?, found]
  rfl

/-- The text of a field that is given once, as a text, or not at all. -/
theorem optionalText?_obj {text : Option String}
    (most : fieldValues name fields = text.toList.map .str) :
    (Json.obj fields).optionalText? name = some text := by
  cases text with
  | none =>
    rw [optionalText?, optional?_obj_of_eq_nil most]
    rfl
  | some text =>
    obtain ⟨⟨part, smaller⟩, found, rfl⟩ := exists_optional?_obj most nofun
    rw [optionalText?, found]
    rfl

/-- The number of a field that is given once or not at all. -/
theorem optionalNat?_obj {number : Option Nat} {bound : Nat} {written : Nat → Json}
    (most : fieldValues name fields = number.toList.map written)
    (reads : ∀ number, (written number).nat? bound = if number < bound then some number else none)
    (given : ∀ number, written number ≠ .null) :
    (Json.obj fields).optionalNat? name bound =
      if number.all (· < bound) then some number else none := by
  cases number with
  | none =>
    rw [optionalNat?, optional?_obj_of_eq_nil most]
    rfl
  | some number =>
    obtain ⟨⟨part, smaller⟩, found, rfl⟩ := exists_optional?_obj most (given number)
    have read : (Json.obj fields).optionalNat? name bound =
        ((written number).nat? bound).map some := by
      rw [optionalNat?, found]
      rfl
    rw [read, reads]
    by_cases small : number < bound <;> simp [small]

/-- The items of a list that is given once. -/
theorem exists_requiredList?_obj {items : List Json}
    (once : fieldValues name fields = [.arr items]) :
    ∃ parts, (Json.obj fields).requiredList? name = some parts ∧
      parts.map Subtype.val = items := by
  obtain ⟨⟨part, smaller⟩, found, rfl⟩ := exists_required?_obj once
  obtain ⟨parts, inside, values⟩ := exists_parts?_arr items
  refine ⟨parts.map (Part.widen ⟨_, smaller⟩), ?_, ?_⟩
  · rw [requiredList?, found]
    simp only [Part.items?, inside, Option.map_some]
  · rw [List.map_map]
    exact values

/-- Parts are read one by one like the values that they are. -/
theorem mapM_val_eq {α : Type} {whole : Json} {parts : List whole.Part} {items : List Json}
    (same : parts.map Subtype.val = items) (reader : Json → Option α) :
    (parts.mapM fun part => reader part.1) = items.mapM reader := by
  rw [← same, List.mapM_map]
  rfl

/-- There are no items where no list can be read. -/
theorem requiredList?_obj_of_unreadable (once : fieldValues name fields = [.unreadable]) :
    (Json.obj fields).requiredList? name = none := by
  obtain ⟨⟨part, smaller⟩, found, rfl⟩ := exists_required?_obj once
  rw [requiredList?, found]
  rfl

end

end ModularRouter.Json
