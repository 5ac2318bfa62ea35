import ModularRouter.Proofs.Json.Roundtrip
import ModularRouter.Storage.Encoding

/-!
# Shapes read back

The object that records a shape is plain, so that its text is read back to what `Json.readBack`
says. `ofKind?_readBack` shows that this records the shape again exactly if the shape fits: nothing
in it is nested deeper than a reader goes, and no recorded number is beyond its bound. There is one
lemma for each kind of shape, which follows the fields of its object one by one.
-/

namespace ModularRouter.Storage

open Json (fieldValues readBack readBackFields)

/-! ## What fits -/

/-- Whether an optional number is below a bound. -/
def fitsBelow (bound : Nat) (number : Option Nat) : Bool :=
  number.all (· < bound)

/-- Whether the numbers of a value of an elementary type are within their bounds. -/
def Builtin.fits (value : Builtin) : Bool :=
  fitsBelow slotBound value.slot && fitsBelow byteBound value.offset &&
    fitsBelow byteBound value.size

namespace Shape

mutual

/-- Whether the object that records a shape has all numbers within their bounds and nests at most
`depth` levels. -/
def fits (depth : Nat) : Shape → Bool
  | .builtin value => 0 < depth && value.fits
  | .struct _ _ members slots =>
    1 < depth && areFitting (depth - 2) members && fitsBelow slotBound slots
  | .mapping _ key value => 1 < depth && key.fits && value.fits (depth - 1)
  | .array _ value length => 1 < depth && value.fits (depth - 1) && fitsBelow slotBound length
  | .enum .. => 1 < depth

/-- Whether the objects that record some shapes do so. -/
def areFitting (depth : Nat) : List Shape → Bool
  | [] => true
  | shape :: rest => shape.fits depth && areFitting depth rest

end

end Shape

/-! ## Fields -/

/-- The values of an optional text. -/
@[simp]
theorem fieldValues_textField (name other : String) (text : Option String) :
    fieldValues name (textField other text) =
      if other = name then text.toList.map .str else [] := by
  cases text with
  | none => simp [textField]
  | some text => simp [textField]

/-- The values of an optional number. -/
@[simp]
theorem fieldValues_natField (name other : String) (number : Option Nat) :
    fieldValues name (natField other number) =
      if other = name then number.toList.map .ofNat else [] := by
  cases number with
  | none => simp [natField]
  | some number => simp [natField]

/-- An optional text is read back. -/
theorem optionalText?_readBack {name : String} {fields written : List (String × Json)}
    {text : Option String} {depth : Nat}
    (same : fieldValues name fields = (fieldValues name written).map (readBack depth))
    (most : fieldValues name written = text.toList.map .str) :
    (Json.obj fields).optionalText? name = some text := by
  refine Json.optionalText?_obj ?_
  rw [same, most, List.map_map]
  rfl

/-- An optional number is read back if it is below its bound. -/
theorem optionalNat?_readBack {name : String} {fields written : List (String × Json)}
    {number : Option Nat} {depth bound : Nat} (small : bound ≤ Nat.pow 2 64)
    (same : fieldValues name fields = (fieldValues name written).map (readBack depth))
    (most : fieldValues name written = number.toList.map .ofNat) :
    (Json.obj fields).optionalNat? name bound =
      if fitsBelow bound number then some number else none := by
  refine Json.optionalNat?_obj ?_ (Json.nat?_readBack_ofNat small depth)
    (Json.readBack_ofNat_ne_null depth)
  rw [same, most, List.map_map]
  rfl

/-- A value of an elementary type is read back if its numbers are within their bounds. -/
theorem Builtin.ofJson?_readBack {value : Builtin} {fields : List (String × Json)} {depth : Nat}
    (same : ∀ name, name ≠ "type" →
      fieldValues name fields = (fieldValues name value.toFields).map (readBack depth)) :
    Builtin.ofJson? (.obj fields) = if value.fits then some value else none := by
  have type : fieldValues "valueType" fields = [.str value.valueType] := by
    rw [same "valueType" (by decide)]
    simp [toFields, readBack]
  have name : (Json.obj fields).optionalText? "name" = some value.name :=
    optionalText?_readBack (same "name" (by decide)) (by simp [toFields])
  have slot : (Json.obj fields).optionalNat? "slot" slotBound =
      if fitsBelow slotBound value.slot then some value.slot else none :=
    optionalNat?_readBack (by decide) (same "slot" (by decide)) (by simp [toFields])
  have offset : (Json.obj fields).optionalNat? "offset" byteBound =
      if fitsBelow byteBound value.offset then some value.offset else none :=
    optionalNat?_readBack (by decide) (same "offset" (by decide)) (by simp [toFields])
  have size : (Json.obj fields).optionalNat? "size" byteBound =
      if fitsBelow byteBound value.size then some value.size else none :=
    optionalNat?_readBack (by decide) (same "size" (by decide)) (by simp [toFields])
  rw [ofJson?, Json.record?_obj, Option.bind_eq_bind, Option.bind_some]
  dsimp only
  rw [Json.requiredText?_obj type, name, slot, offset, size, fits]
  cases fitsBelow slotBound value.slot <;> cases fitsBelow byteBound value.offset <;>
    cases fitsBelow byteBound value.size <;> rfl

namespace Shape

/-! ## Shapes -/

/-- The fields of the object that records a shape, without the one that says which kind it is. -/
def toFields : Shape → List (String × Json)
  | .builtin value => value.toFields
  | .struct structName name members slots =>
    ("structName", .str structName) ::
      (textField "name" name ++ ("members", .arr (listToJson members)) :: natField "slots" slots)
  | .mapping name key value =>
    textField "name" name ++ [("key", .obj key.toFields), ("value", value.toJson)]
  | .array name value length =>
    textField "name" name ++ ("value", value.toJson) :: natField "length" length
  | .enum enumName name members =>
    ("enumName", .str enumName) :: (textField "name" name ++ [("members", .arr (members.map .str))])

/-- The object that records a shape says first which kind it is. -/
theorem toJson_eq (shape : Shape) :
    shape.toJson = .obj (("type", .str shape.variant) :: shape.toFields) := by
  cases shape <;> rfl

/-- The shape that a value inside another one records. -/
def ofInner? (json : Json) : Option Shape := do
  let (kind, node) ← json.innerNode? "type" kinds
  ofKind? kind node.1

/-- A struct is recorded as its name, its variable, its members and its words. -/
theorem ofKind?_struct (json : Json) : ofKind? "struct" json = (do
    let members ← json.requiredList? "members"
    return .struct (← json.requiredText? "structName") (← json.optionalText? "name")
      (← members.mapM fun part => ofInner? part.1) (← json.optionalNat? "slots" slotBound)) := by
  rw [ofKind?]
  rfl

/-- A mapping is recorded as its variable, its key and its value. -/
theorem ofKind?_mapping (json : Json) : ofKind? "mapping" json = (do
    let key ← json.required? "key"
    let value ← json.required? "value"
    return .mapping (← json.optionalText? "name") (← Builtin.ofJson? key.1)
      (← ofInner? value.1)) := by
  rw [ofKind?]
  rfl

/-- An array is recorded as its variable, its element and its length. -/
theorem ofKind?_array (json : Json) : ofKind? "array" json = (do
    let value ← json.required? "value"
    return .array (← json.optionalText? "name") (← ofInner? value.1)
      (← json.optionalNat? "length" slotBound)) := by
  rw [ofKind?]
  rfl

/-- Nothing is recorded where no value can be read. -/
theorem ofKind?_unreadable (kind : String) : ofKind? kind .unreadable = none := by
  unfold ofKind?
  split <;> rfl

/-- No shape is read back where nothing may be nested. -/
theorem readBack_toJson_zero (shape : Shape) : shape.toJson.readBack 0 = .unreadable := by
  rw [toJson_eq]
  rfl

/-- The object that records a shape is read back field by field. -/
theorem exists_readBack_toJson (shape : Shape) (depth : Nat) :
    ∃ fields, shape.toJson.readBack (depth + 1) = .obj fields ∧
      fieldValues "type" fields = [.str shape.variant] ∧
      ∀ name, name ≠ "type" →
        fieldValues name fields = (fieldValues name shape.toFields).map (readBack depth) := by
  refine ⟨readBackFields depth (("type", .str shape.variant) :: shape.toFields), ?_, ?_,
    fun name other => ?_⟩
  · rw [toJson_eq]
    rfl
  · rw [Json.fieldValues_readBackFields]
    cases shape <;> simp [toFields, Builtin.toFields, readBack]
  · rw [Json.fieldValues_readBackFields, Json.fieldValues_cons, if_neg (Ne.symm other)]

/-- No shape fits where nothing may be nested. -/
theorem fits_zero (shape : Shape) : shape.fits 0 = false := by
  cases shape <;> rfl

/-- Two levels are more than one. -/
theorem one_lt_add_two (depth : Nat) : decide (1 < depth + 1 + 1) = true :=
  decide_eq_true (by omega)

/-- The kind of a shape is read back. -/
theorem ofInner?_readBack (shape : Shape) (depth : Nat) :
    ofInner? (shape.toJson.readBack depth) =
      ofKind? shape.variant (shape.toJson.readBack depth) := by
  cases depth with
  | zero =>
    rw [readBack_toJson_zero, ofKind?_unreadable]
    rfl
  | succ depth =>
    obtain ⟨fields, record, once, -⟩ := exists_readBack_toJson shape depth
    rw [record, ofInner?, Json.innerNode?, Json.node?_obj once]
    rfl

/-- A value of an elementary type is read back if it fits. -/
theorem ofKind?_readBack_builtin (value : Builtin) (depth : Nat) :
    ofKind? "builtin" ((Shape.builtin value).toJson.readBack (depth + 1)) =
      if (Shape.builtin value).fits (depth + 1) then some (.builtin value) else none := by
  obtain ⟨fields, record, -, same⟩ := exists_readBack_toJson (.builtin value) depth
  rw [record, ofKind?, Builtin.ofJson?_readBack same, fits]
  cases value.fits <;> rfl

/-- A struct is read back if it fits, provided that its members are. -/
theorem ofKind?_readBack_struct (structName : String) (name : Option String) (members : List Shape)
    (slots : Option Nat) (depth : Nat)
    (inner : ∀ depth, ((listToJson members).map (readBack depth)).mapM ofInner? =
      if areFitting depth members then some members else none) :
    ofKind? "struct" ((Shape.struct structName name members slots).toJson.readBack (depth + 1)) =
      if (Shape.struct structName name members slots).fits (depth + 1) then
        some (.struct structName name members slots) else none := by
  obtain ⟨fields, record, -, same⟩ :=
    exists_readBack_toJson (.struct structName name members slots) depth
  have type : fieldValues "structName" fields = [.str structName] := by
    rw [same "structName" (by decide)]
    simp [toFields, readBack]
  have variableName : (Json.obj fields).optionalText? "name" = some name :=
    optionalText?_readBack (same "name" (by decide)) (by simp [toFields])
  have count : (Json.obj fields).optionalNat? "slots" slotBound =
      if fitsBelow slotBound slots then some slots else none :=
    optionalNat?_readBack (by decide) (same "slots" (by decide)) (by simp [toFields])
  have list : fieldValues "members" fields = [(Json.arr (listToJson members)).readBack depth] := by
    rw [same "members" (by decide)]
    simp [toFields]
  rw [record, ofKind?_struct, Json.requiredText?_obj type, variableName, count, fits]
  cases depth with
  | zero =>
    rw [Json.requiredList?_obj_of_unreadable list]
    rfl
  | succ depth =>
    obtain ⟨parts, found, items⟩ := Json.exists_requiredList?_obj list
    rw [found, one_lt_add_two]
    simp only [Option.bind_eq_bind, Option.bind_some, Json.mapM_val_eq items,
      Json.readBackItems_eq_map, Nat.add_one_sub_one, inner, Nat.reduceSubDiff, Bool.true_and]
    cases areFitting depth members <;> cases fitsBelow slotBound slots <;> rfl

/-- A mapping is read back if it fits, provided that its value is. -/
theorem ofKind?_readBack_mapping (name : Option String) (key : Builtin) (value : Shape)
    (depth : Nat)
    (inner : ofKind? value.variant (value.toJson.readBack depth) =
      if value.fits depth then some value else none) :
    ofKind? "mapping" ((Shape.mapping name key value).toJson.readBack (depth + 1)) =
      if (Shape.mapping name key value).fits (depth + 1) then some (.mapping name key value)
      else none := by
  obtain ⟨fields, record, -, same⟩ := exists_readBack_toJson (.mapping name key value) depth
  have variableName : (Json.obj fields).optionalText? "name" = some name :=
    optionalText?_readBack (same "name" (by decide)) (by simp [toFields])
  have keyOnce : fieldValues "key" fields = [(Json.obj key.toFields).readBack depth] := by
    rw [same "key" (by decide)]
    simp [toFields]
  have valueOnce : fieldValues "value" fields = [value.toJson.readBack depth] := by
    rw [same "value" (by decide)]
    simp [toFields]
  obtain ⟨keyPart, keyFound, keyValue⟩ := Json.exists_required?_obj keyOnce
  obtain ⟨valuePart, valueFound, valueValue⟩ := Json.exists_required?_obj valueOnce
  rw [record, ofKind?_mapping, keyFound, valueFound, variableName, fits]
  simp only [Option.bind_eq_bind, Option.bind_some, keyValue, valueValue, ofInner?_readBack, inner]
  cases depth with
  | zero => rfl
  | succ depth =>
    have read : Builtin.ofJson? ((Json.obj key.toFields).readBack (depth + 1)) =
        if key.fits then some key else none :=
      Builtin.ofJson?_readBack fun name _ => Json.fieldValues_readBackFields name depth key.toFields
    rw [read, Nat.add_one_sub_one, one_lt_add_two]
    cases key.fits <;> cases value.fits (depth + 1) <;> rfl

/-- An array is read back if it fits, provided that its element is. -/
theorem ofKind?_readBack_array (name : Option String) (value : Shape) (length : Option Nat)
    (depth : Nat)
    (inner : ofKind? value.variant (value.toJson.readBack depth) =
      if value.fits depth then some value else none) :
    ofKind? "array" ((Shape.array name value length).toJson.readBack (depth + 1)) =
      if (Shape.array name value length).fits (depth + 1) then some (.array name value length)
      else none := by
  obtain ⟨fields, record, -, same⟩ := exists_readBack_toJson (.array name value length) depth
  have variableName : (Json.obj fields).optionalText? "name" = some name :=
    optionalText?_readBack (same "name" (by decide)) (by simp [toFields])
  have count : (Json.obj fields).optionalNat? "length" slotBound =
      if fitsBelow slotBound length then some length else none :=
    optionalNat?_readBack (by decide) (same "length" (by decide)) (by simp [toFields])
  have valueOnce : fieldValues "value" fields = [value.toJson.readBack depth] := by
    rw [same "value" (by decide)]
    simp [toFields]
  obtain ⟨valuePart, valueFound, valueValue⟩ := Json.exists_required?_obj valueOnce
  rw [record, ofKind?_array, valueFound, variableName, count, fits]
  simp only [Option.bind_eq_bind, Option.bind_some, valueValue, ofInner?_readBack, inner]
  cases depth with
  | zero =>
    rw [fits_zero]
    rfl
  | succ depth =>
    rw [Nat.add_one_sub_one, one_lt_add_two]
    cases value.fits (depth + 1) <;> cases fitsBelow slotBound length <;> rfl

/-- An enumeration is read back if it fits. -/
theorem ofKind?_readBack_enum (enumName : String) (name : Option String) (members : List String)
    (depth : Nat) :
    ofKind? "enum" ((Shape.enum enumName name members).toJson.readBack (depth + 1)) =
      if (Shape.enum enumName name members).fits (depth + 1) then some (.enum enumName name members)
      else none := by
  obtain ⟨fields, record, -, same⟩ := exists_readBack_toJson (.enum enumName name members) depth
  have type : fieldValues "enumName" fields = [.str enumName] := by
    rw [same "enumName" (by decide)]
    simp [toFields, readBack]
  have variableName : (Json.obj fields).optionalText? "name" = some name :=
    optionalText?_readBack (same "name" (by decide)) (by simp [toFields])
  have list : fieldValues "members" fields = [(Json.arr (members.map .str)).readBack depth] := by
    rw [same "members" (by decide)]
    simp [toFields]
  rw [record, ofKind?, Json.requiredText?_obj type, variableName, fits]
  cases depth with
  | zero =>
    rw [Json.requiredList?_obj_of_unreadable list]
    rfl
  | succ depth =>
    obtain ⟨parts, found, items⟩ := Json.exists_requiredList?_obj list
    have texts : ((members.map Json.str).map (readBack depth)).mapM Json.text? = some members := by
      have each : ∀ member : String, ((Json.str member).readBack depth).text? =
          if (fun _ => true) member then some member else none := fun _ => rfl
      rw [List.map_map]
      exact (Json.mapM_map_eq_ite each members).trans (if_pos (List.all_eq_true.2 fun _ _ => rfl))
    rw [found, one_lt_add_two]
    simp only [Option.bind_eq_bind, Option.bind_some, Json.mapM_val_eq items,
      Json.readBackItems_eq_map, Nat.add_one_sub_one, texts]
    rfl

mutual

/-- A shape is read back if it fits. -/
theorem ofKind?_readBack : (shape : Shape) → (depth : Nat) →
    ofKind? shape.variant (shape.toJson.readBack depth) =
      if shape.fits depth then some shape else none
  | shape, 0 => by
    rw [readBack_toJson_zero, ofKind?_unreadable, fits_zero]
    rfl
  | .builtin value, depth + 1 => ofKind?_readBack_builtin value depth
  | .struct structName name members slots, depth + 1 =>
    ofKind?_readBack_struct structName name members slots depth (mapM_ofInner?_readBack members)
  | .mapping name key value, depth + 1 =>
    ofKind?_readBack_mapping name key value depth (ofKind?_readBack value depth)
  | .array name value length, depth + 1 =>
    ofKind?_readBack_array name value length depth (ofKind?_readBack value depth)
  | .enum enumName name members, depth + 1 => ofKind?_readBack_enum enumName name members depth

/-- The shapes of a list are read back if they fit. -/
theorem mapM_ofInner?_readBack : (shapes : List Shape) → (depth : Nat) →
    ((listToJson shapes).map (readBack depth)).mapM ofInner? =
      if areFitting depth shapes then some shapes else none
  | [], depth => rfl
  | shape :: rest, depth => by
    rw [listToJson, List.map_cons, List.mapM_cons, ofInner?_readBack, ofKind?_readBack shape depth,
      mapM_ofInner?_readBack rest depth, areFitting]
    cases shape.fits depth <;> cases areFitting depth rest <;> rfl

end

/-! ## Plain values -/

/-- An optional text is plain. -/
theorem areFieldsPlain_textField (name : String) (text : Option String) :
    Json.areFieldsPlain (textField name text) = true := by
  cases text <;> rfl

/-- An optional number is plain. -/
theorem areFieldsPlain_natField (name : String) (number : Option Nat) :
    Json.areFieldsPlain (natField name number) = true := by
  cases number <;> rfl

/-- The fields of a value of an elementary type are plain. -/
theorem areFieldsPlain_builtin (value : Builtin) : Json.areFieldsPlain value.toFields = true := by
  simp only [Builtin.toFields, Json.areFieldsPlain, Json.areFieldsPlain_append,
    areFieldsPlain_textField, areFieldsPlain_natField]
  rfl

/-- Texts are plain. -/
theorem arePlain_texts (texts : List String) : Json.arePlain (texts.map .str) = true := by
  induction texts with
  | nil => rfl
  | cons text texts ih => exact ih

mutual

/-- The object that records a shape is plain. -/
theorem isPlain_toJson : (shape : Shape) → shape.toJson.isPlain = true
  | .builtin value => areFieldsPlain_builtin value
  | .struct structName name members slots => by
    simp only [toJson, Json.isPlain, Json.areFieldsPlain, Json.areFieldsPlain_append,
      areFieldsPlain_textField, areFieldsPlain_natField, arePlain_listToJson members]
    rfl
  | .mapping name key value => by
    simp only [toJson, Json.isPlain, Json.areFieldsPlain, Json.areFieldsPlain_append,
      areFieldsPlain_textField, areFieldsPlain_builtin key, isPlain_toJson value]
    rfl
  | .array name value length => by
    simp only [toJson, Json.isPlain, Json.areFieldsPlain, Json.areFieldsPlain_append,
      areFieldsPlain_textField, areFieldsPlain_natField, isPlain_toJson value]
    rfl
  | .enum enumName name members => by
    simp only [toJson, Json.isPlain, Json.areFieldsPlain, Json.areFieldsPlain_append,
      areFieldsPlain_textField, arePlain_texts members]
    rfl

/-- The objects that record some shapes are plain. -/
theorem arePlain_listToJson : (shapes : List Shape) → Json.arePlain (listToJson shapes) = true
  | [] => rfl
  | shape :: rest => by
    rw [listToJson, Json.arePlain, isPlain_toJson shape, arePlain_listToJson rest]
    rfl

end

/-! ## Readable shapes -/

/-- An optional text is readable. -/
theorem allFieldsReadable_textField (name : String) (text : Option String) (depth : Nat) :
    Json.allFieldsReadable (readBackFields depth (textField name text)) = true := by
  cases text <;> rfl

/-- An optional number below its bound is readable. -/
theorem allFieldsReadable_natField {bound : Nat} (small : bound ≤ Nat.pow 2 64) (name : String)
    {number : Option Nat} (fitting : fitsBelow bound number = true) (depth : Nat) :
    Json.allFieldsReadable (readBackFields depth (natField name number)) = true := by
  cases number with
  | none => rfl
  | some number =>
    have below : number < bound := of_decide_eq_true fitting
    have readable := Json.isReadable_readBack_ofNat (Nat.lt_of_lt_of_le below small) depth
    rw [natField, readBackFields, readBackFields, Json.allFieldsReadable, readable]
    rfl

/-- The fields of a value of an elementary type are readable if they fit. -/
theorem allFieldsReadable_builtin {value : Builtin} (fitting : value.fits = true) (depth : Nat) :
    Json.allFieldsReadable (readBackFields depth value.toFields) = true := by
  simp only [Builtin.fits, Bool.and_eq_true] at fitting
  obtain ⟨⟨slot, offset⟩, size⟩ := fitting
  simp only [Builtin.toFields, readBackFields, Json.readBackFields_append, Json.allFieldsReadable,
    Json.allFieldsReadable_append, allFieldsReadable_textField,
    allFieldsReadable_natField (by decide) "slot" slot,
    allFieldsReadable_natField (by decide) "offset" offset,
    allFieldsReadable_natField (by decide) "size" size]
  rfl

/-- Texts are readable. -/
theorem allReadable_texts (texts : List String) (depth : Nat) :
    Json.allReadable (Json.readBackItems depth (texts.map .str)) = true := by
  induction texts with
  | nil => rfl
  | cons text texts ih =>
    rw [List.map_cons, Json.readBackItems, Json.allReadable, ih]
    rfl

/-- The object that records a shape is readable when its fields are, but for its kind. -/
theorem isReadable_record (shape : Shape) (depth : Nat) :
    (shape.toJson.readBack (depth + 1)).isReadable =
      Json.allFieldsReadable (readBackFields depth shape.toFields) := by
  rw [toJson_eq]
  rfl

mutual

/-- The object that records a shape is readable if the shape fits. -/
theorem isReadable_readBack : (shape : Shape) → (depth : Nat) → shape.fits depth = true →
    (shape.toJson.readBack depth).isReadable = true
  | shape, 0, fitting => by
    rw [fits_zero] at fitting
    cases fitting
  | .builtin value, depth + 1, fitting => by
    simp only [fits, Bool.and_eq_true] at fitting
    rw [isReadable_record]
    exact allFieldsReadable_builtin fitting.2 depth
  | .struct structName name members slots, depth + 1, fitting => by
    simp only [fits, Bool.and_eq_true, decide_eq_true_eq] at fitting
    obtain ⟨⟨deep, inside⟩, count⟩ := fitting
    obtain ⟨depth, rfl⟩ : ∃ less, depth = less + 1 := ⟨depth - 1, by omega⟩
    have list : ((Json.arr (listToJson members)).readBack (depth + 1)).isReadable = true :=
      allReadable_readBack members depth inside
    have words := allFieldsReadable_natField (by decide) "slots" count (depth + 1)
    rw [isReadable_record]
    simp only [toFields, readBackFields, Json.readBackFields_append, Json.allFieldsReadable,
      Json.allFieldsReadable_append, allFieldsReadable_textField, list, words]
    rfl
  | .mapping name key value, depth + 1, fitting => by
    simp only [fits, Bool.and_eq_true, decide_eq_true_eq] at fitting
    obtain ⟨⟨deep, keyFits⟩, valueFits⟩ := fitting
    obtain ⟨depth, rfl⟩ : ∃ less, depth = less + 1 := ⟨depth - 1, by omega⟩
    have readKey : ((Json.obj key.toFields).readBack (depth + 1)).isReadable = true :=
      allFieldsReadable_builtin keyFits depth
    have readValue := isReadable_readBack value (depth + 1) valueFits
    rw [isReadable_record]
    simp only [toFields, readBackFields, Json.readBackFields_append, Json.allFieldsReadable,
      Json.allFieldsReadable_append, allFieldsReadable_textField, readKey, readValue]
    rfl
  | .array name value length, depth + 1, fitting => by
    simp only [fits, Bool.and_eq_true, decide_eq_true_eq] at fitting
    obtain ⟨⟨deep, valueFits⟩, count⟩ := fitting
    have readValue := isReadable_readBack value depth valueFits
    have items := allFieldsReadable_natField (by decide) "length" count depth
    rw [isReadable_record]
    simp only [toFields, readBackFields, Json.readBackFields_append, Json.allFieldsReadable,
      Json.allFieldsReadable_append, allFieldsReadable_textField, readValue, items]
    rfl
  | .enum enumName name members, depth + 1, fitting => by
    simp only [fits, decide_eq_true_eq] at fitting
    obtain ⟨depth, rfl⟩ : ∃ less, depth = less + 1 := ⟨depth - 1, by omega⟩
    have list : ((Json.arr (members.map .str)).readBack (depth + 1)).isReadable = true :=
      allReadable_texts members depth
    rw [isReadable_record]
    simp only [toFields, readBackFields, Json.readBackFields_append, Json.allFieldsReadable,
      Json.allFieldsReadable_append, allFieldsReadable_textField, list]
    rfl

/-- The objects that record some shapes are readable if the shapes fit. -/
theorem allReadable_readBack : (shapes : List Shape) → (depth : Nat) →
    areFitting depth shapes = true →
    Json.allReadable (Json.readBackItems depth (listToJson shapes)) = true
  | [], _, _ => rfl
  | shape :: rest, depth, fitting => by
    rw [areFitting, Bool.and_eq_true] at fitting
    rw [listToJson, Json.readBackItems, Json.allReadable, isReadable_readBack shape depth fitting.1,
      allReadable_readBack rest depth fitting.2]
    rfl

end

/-- A shape that says itself which kind it is is read back if it fits. -/
theorem ofJson?_readBack (shape : Shape) (depth : Nat) :
    ofJson? (shape.toJson.readBack depth) = if shape.fits depth then some shape else none := by
  cases depth with
  | zero =>
    rw [readBack_toJson_zero, fits_zero]
    rfl
  | succ depth =>
    have read := ofKind?_readBack shape (depth + 1)
    have readable := isReadable_readBack shape (depth + 1)
    obtain ⟨fields, record, once, -⟩ := exists_readBack_toJson shape depth
    rw [record] at read readable ⊢
    rw [ofJson?, Json.outerNode?, Json.node?_obj once]
    -- What does not fit is not read, readable or not.
    cases fitting : shape.fits (depth + 1) with
    | true =>
      rw [readable fitting]
      exact read.trans (if_pos fitting)
    | false =>
      cases (Json.obj fields).isReadable with
      | true => exact read.trans (if_neg (Bool.not_eq_true _ ▸ fitting))
      | false => rfl

/-- The shapes of a list are recorded one by one. -/
theorem listToJson_eq_map (shapes : List Shape) : listToJson shapes = shapes.map toJson := by
  induction shapes with
  | nil => rfl
  | cons shape rest ih => rw [listToJson, ih, List.map_cons]

/-- The shapes of a list fit when each of them does. -/
theorem areFitting_eq_all (depth : Nat) (shapes : List Shape) :
    areFitting depth shapes = shapes.all (fits depth) := by
  induction shapes with
  | nil => rfl
  | cons shape rest ih => rw [areFitting, ih, List.all_cons]

end Shape

end ModularRouter.Storage
