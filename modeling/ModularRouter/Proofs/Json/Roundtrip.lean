import ModularRouter.Proofs.Json.Fields
import ModularRouter.Proofs.Json.Scalars

/-!
# Written values read back

A value made of strings, natural numbers, lists and objects is read back from its text as it was
written, so far as a reader goes: what is nested too deep is unreadable, and a number of `2 ^ 64` or
more is no natural number any more. `readBack` says what is left of the value, and `read_pretty`
that this is what the reader finds.

The reader is followed from the outside in. A text is read together with what stands behind it, and
the fuel of the reader is bounded by the length of the text: two calls for every character are
enough.
-/

namespace ModularRouter.Json

open Reader (EndsValue natLiteral isBlank skipBlank skipBlank_newLine skipBlank_cons)

/-! ## What is read back -/

mutual

/-- Whether a value is made of strings, natural numbers, lists and objects. -/
def isPlain : Json → Bool
  | .str _ => true
  | .number (.integer (.ofNat _)) => true
  | .arr items => arePlain items
  | .obj fields => areFieldsPlain fields
  | _ => false

/-- Whether every value of a list is plain. -/
def arePlain : List Json → Bool
  | [] => true
  | item :: rest => item.isPlain && arePlain rest

/-- Whether the value of every field is plain. -/
def areFieldsPlain : List (String × Json) → Bool
  | [] => true
  | (_, value) :: rest => value.isPlain && areFieldsPlain rest

end

mutual

/-- What a reader makes of the text of a plain value at a place where `depth` levels may be
nested. -/
def readBack (depth : Nat) : Json → Json
  | .number (.integer (.ofNat natural)) => (natLiteral natural).toJson
  | .arr items => Reader.listAt depth (readBackItems (depth - 1) items)
  | .obj fields => if depth = 0 then .unreadable else .obj (readBackFields (depth - 1) fields)
  | value => value

/-- What a reader makes of the texts of the values of a list. -/
def readBackItems (depth : Nat) : List Json → List Json
  | [] => []
  | item :: rest => item.readBack depth :: readBackItems depth rest

/-- What a reader makes of the texts of fields. -/
def readBackFields (depth : Nat) : List (String × Json) → List (String × Json)
  | [] => []
  | (name, value) :: rest => (name, value.readBack depth) :: readBackFields depth rest

end

/-- The fields of a name are read back one by one. -/
theorem fieldValues_readBackFields (name : String) (depth : Nat) (fields : List (String × Json)) :
    fieldValues name (readBackFields depth fields) =
      (fieldValues name fields).map (readBack depth) := by
  induction fields with
  | nil => rfl
  | cons field fields ih =>
    obtain ⟨other, value⟩ := field
    rw [readBackFields, fieldValues_cons, fieldValues_cons, ih]
    split <;> rfl

/-- A natural number is read back if it is below a bound that numbers may have. -/
theorem nat?_readBack_ofNat {bound : Nat} (small : bound ≤ Nat.pow 2 64) (depth natural : Nat) :
    ((ofNat natural).readBack depth).nat? bound = if natural < bound then some natural else none :=
  Reader.nat?_toJson small (Reader.integer?_natLiteral natural)

/-- A natural number below `2 ^ 64` is readable. -/
theorem isReadable_readBack_ofNat {natural : Nat} (small : natural < Nat.pow 2 64) (depth : Nat) :
    ((ofNat natural).readBack depth).isReadable = true := by
  have read : (natLiteral natural).toJson = ofInt natural := by
    rw [Literal.toJson, Reader.integer?_natLiteral, if_pos small]
  have written : (ofNat natural).readBack depth = (natLiteral natural).toJson := rfl
  rw [written, read]
  rfl

/-- A literal is not `null`. -/
theorem toJson_ne_null (literal : Literal) : literal.toJson ≠ .null := by
  rw [Literal.toJson]
  intro same
  split at same
  · cases same
  · split at same <;> cases same

/-- A number is not read back as `null`. -/
theorem readBack_ofNat_ne_null (depth natural : Nat) : (ofNat natural).readBack depth ≠ .null :=
  toJson_ne_null (natLiteral natural)

/-- Items are read back one by one. -/
theorem readBackItems_eq_map (depth : Nat) (items : List Json) :
    readBackItems depth items = items.map (readBack depth) := by
  induction items with
  | nil => rfl
  | cons item items ih => rw [readBackItems, ih, List.map_cons]

/-- Two runs of fields are read back one after the other. -/
theorem readBackFields_append (depth : Nat) (fields others : List (String × Json)) :
    readBackFields depth (fields ++ others) =
      readBackFields depth fields ++ readBackFields depth others := by
  induction fields with
  | nil => rfl
  | cons field fields ih =>
    rw [List.cons_append, readBackFields, readBackFields, ih, List.cons_append]

/-- Two runs of fields are plain when each of them is. -/
theorem areFieldsPlain_append (fields others : List (String × Json)) :
    areFieldsPlain (fields ++ others) = (areFieldsPlain fields && areFieldsPlain others) := by
  induction fields with
  | nil => rfl
  | cons field fields ih =>
    rw [List.cons_append, areFieldsPlain, areFieldsPlain, ih, Bool.and_assoc]

/-! ## The text of a value -/

/-- The text of the items of a list up to its closing bracket. -/
def itemsChars (level : Nat) : List Json → List Char
  | [] => []
  | item :: rest => prettyChars (level + 1) item ++ prettyItems level rest

/-- The text of the fields of an object up to its closing brace. -/
def fieldsChars (level : Nat) : List (String × Json) → List Char
  | [] => []
  | (name, value) :: rest =>
    quoted name ++ [':', ' '] ++ prettyChars (level + 1) value ++ prettyFields level rest

/-- The text of a plain value starts with no blank and no closing bracket. -/
theorem exists_cons_prettyChars {json : Json} (plain : json.isPlain = true) (level : Nat) :
    ∃ first others, prettyChars level json = first :: others ∧ isBlank first = false ∧
      first ≠ ']' := by
  cases json with
  | null | bool | unreadable => cases plain
  | number value =>
    cases value with
    | real value => cases plain
    | integer value =>
      cases value with
      | negSucc value => cases plain
      | ofNat natural =>
        have digits : prettyChars level (.number (.integer (.ofNat natural))) =
            Nat.toDigits 10 natural := rfl
        obtain ⟨first, others, found⟩ := List.exists_cons_of_ne_nil
          (Nat.toDigits_ne_nil : Nat.toDigits 10 natural ≠ [])
        have digit : first.isDigit = true :=
          Reader.isDigit_of_toDigits_append ((List.append_nil _).trans found)
        rw [digits, found]
        refine ⟨first, others, rfl, Reader.isBlank_of_isDigit digit, ?_⟩
        rintro rfl
        cases digit
  | str text => exact ⟨_, _, rfl, rfl, by decide⟩
  | arr items => cases items <;> exact ⟨_, _, rfl, rfl, by decide⟩
  | obj fields => cases fields <;> exact ⟨_, _, rfl, rfl, by decide⟩

/-- What follows an item ends it. -/
theorem endsValue_prettyItems (level : Nat) (items : List Json) (rest : List Char) :
    EndsValue (prettyItems level items ++ rest) := by
  intro c head
  cases items with
  | nil =>
    cases head
    exact .inr rfl
  | cons item items =>
    cases head
    exact .inl rfl

/-- What follows a field ends it. -/
theorem endsValue_prettyFields (level : Nat) (fields : List (String × Json)) (rest : List Char) :
    EndsValue (prettyFields level fields ++ rest) := by
  intro c head
  cases fields with
  | nil =>
    cases head
    exact .inr rfl
  | cons field fields =>
    cases head
    exact .inl rfl

/-! ## The steps of the reader -/

namespace Reader

/-- A list that is not empty is read item by item. -/
theorem value_arr {fuel depth : Nat} {first : Char} {others text : List Char} {items : List Json}
    {rest : List Char} (start : skipBlank text = first :: others) (more : first ≠ ']')
    (read : elements fuel (depth - 1) (first :: others) = some (items, rest)) :
    value (fuel + 1) depth ('[' :: text) = some (listAt depth items, rest) := by
  rw [value, start]
  split
  · next same =>
    cases same
    exact absurd rfl more
  · rw [read]

/-- The last item of a list is read up to the closing bracket. -/
theorem elements_last {fuel depth : Nat} {text behind : List Char} {item : Json} {rest : List Char}
    (read : value fuel depth text = some (item, behind)) (close : skipBlank behind = ']' :: rest) :
    elements (fuel + 1) depth text = some ([item], rest) := by
  rw [elements, read]
  simp only [close]

/-- An item that others follow is read up to the comma. -/
theorem elements_cons {fuel depth : Nat} {text behind more : List Char} {item : Json}
    {items : List Json} {rest : List Char} (read : value fuel depth text = some (item, behind))
    (comma : skipBlank behind = ',' :: more)
    (later : elements fuel depth (skipBlank more) = some (items, rest)) :
    elements (fuel + 1) depth text = some (item :: items, rest) := by
  rw [elements, read]
  simp only [comma, later]

/-- An object that is not empty is read field by field. -/
theorem value_obj {fuel depth : Nat} {others text : List Char}
    {fields : List (Option String × Json)} {rest : List Char}
    (start : skipBlank text = '"' :: others)
    (read : members fuel (depth - 1) ('"' :: others) = some (fields, rest)) :
    value (fuel + 1) depth ('\x7b' :: text) = some (objectAt depth fields, rest) := by
  rw [value, start]
  split
  · next same => cases same
  · rw [read]

/-- The text of a name and what is behind it. -/
theorem quoted_colon (name : String) (text : List Char) :
    quoted name ++ [':', ' '] ++ text =
      '"' :: (name.toList.flatMap escapeChar ++ '"' :: ':' :: ' ' :: text) := by
  simp [quoted]

/-- The last field of an object is read up to the closing brace. -/
theorem members_last {fuel depth : Nat} {name : String} {text behind : List Char} {item : Json}
    {rest : List Char} (read : value fuel depth text = some (item, behind))
    (visible : skipBlank text = text) (close : skipBlank behind = '\x7d' :: rest) :
    members (fuel + 1) depth (quoted name ++ [':', ' '] ++ text) =
      some ([(some name, item)], rest) := by
  have colon : skipBlank (':' :: ' ' :: text) = ':' :: ' ' :: text := skipBlank_cons rfl _
  have space : skipBlank (' ' :: text) = text := visible
  rw [quoted_colon, members, stringLiteral_quoted]
  simp only [colon, space, read, close]

/-- A field that others follow is read up to the comma. -/
theorem members_cons {fuel depth : Nat} {name : String} {text behind more : List Char} {item : Json}
    {fields : List (Option String × Json)} {rest : List Char}
    (read : value fuel depth text = some (item, behind)) (visible : skipBlank text = text)
    (comma : skipBlank behind = ',' :: more)
    (later : members fuel depth (skipBlank more) = some (fields, rest)) :
    members (fuel + 1) depth (quoted name ++ [':', ' '] ++ text) =
      some ((some name, item) :: fields, rest) := by
  have colon : skipBlank (':' :: ' ' :: text) = ':' :: ' ' :: text := skipBlank_cons rfl _
  have space : skipBlank (' ' :: text) = text := visible
  rw [quoted_colon, members, stringLiteral_quoted]
  simp only [colon, space, read, comma, later]

/-- A number is read where a digit stands. -/
theorem value_toDigits (fuel depth natural : Nat) {rest : List Char} (ends : EndsValue rest) :
    value (fuel + 1) depth (Nat.toDigits 10 natural ++ rest) =
      some ((natLiteral natural).toJson, rest) := by
  rw [value, number_toDigits natural ends]
  all_goals
    intro _ text
    cases isDigit_of_toDigits_append text

/-- A string is read where a quote stands. -/
theorem value_quoted (fuel depth : Nat) (text : String) (rest : List Char) :
    value (fuel + 1) depth (quoted text ++ rest) = some (.str text, rest) := by
  rw [quoted, List.cons_append, List.append_assoc, List.singleton_append, value,
    stringLiteral_quoted]

end Reader

/-! ## Reading a text -/

/-- An object of fields with texts as names is an object wherever one may be nested. -/
theorem objectAt_map (depth : Nat) (fields : List (String × Json)) :
    Reader.objectAt depth (fields.map (Prod.map some id)) =
      if depth = 0 then .unreadable else .obj fields := by
  have spelled : ∀ reader : Option String × Json → Option (String × Json),
      (∀ name value, reader (some name, value) = some (name, value)) →
        (fields.map (Prod.map some id)).mapM reader = some fields := by
    intro reader reads
    induction fields with
    | nil => rfl
    | cons field fields ih =>
      rw [List.map_cons, List.mapM_cons, ih, Prod.map, reads]
      rfl
  rw [Reader.objectAt, spelled _ fun _ _ => rfl]

/-- There is always fuel for one call. -/
theorem exists_fuel {json : Json} (plain : json.isPlain = true) (level : Nat) {fuel : Nat}
    (enough : 2 * (prettyChars level json).length ≤ fuel + 1) : ∃ less, fuel = less + 1 := by
  obtain ⟨first, others, text, -⟩ := exists_cons_prettyChars plain level
  rw [text, List.length_cons] at enough
  exact ⟨fuel - 1, by omega⟩

/-- A list that is not empty is written as its items on a new line. -/
theorem prettyChars_arr (level : Nat) (item : Json) (items : List Json) :
    prettyChars level (.arr (item :: items)) =
      '[' :: (newLine (level + 1) ++ itemsChars level (item :: items)) := by
  rw [prettyChars, itemsChars, List.append_assoc]

/-- An object that is not empty is written as its fields on a new line. -/
theorem prettyChars_obj (level : Nat) (field : String × Json) (fields : List (String × Json)) :
    prettyChars level (.obj (field :: fields)) =
      '\x7b' :: (newLine (level + 1) ++ fieldsChars level (field :: fields)) := by
  rw [prettyChars, fieldsChars]
  simp only [List.append_assoc]

/-- Items that follow another one are written behind a comma, on a new line. -/
theorem prettyItems_cons (level : Nat) (item : Json) (items : List Json) :
    prettyItems level (item :: items) =
      ',' :: (newLine (level + 1) ++ itemsChars level (item :: items)) := by
  rw [prettyItems, itemsChars, List.append_assoc]

/-- Fields that follow another one are written behind a comma, on a new line. -/
theorem prettyFields_cons (level : Nat) (field : String × Json) (fields : List (String × Json)) :
    prettyFields level (field :: fields) =
      ',' :: (newLine (level + 1) ++ fieldsChars level (field :: fields)) := by
  rw [prettyFields, fieldsChars]
  simp only [List.append_assoc]

/-- The items of a list start with no blank and no closing bracket. -/
theorem exists_cons_itemsChars {item : Json} (plain : item.isPlain = true) (level : Nat)
    (items : List Json) (rest : List Char) :
    ∃ first others, itemsChars level (item :: items) ++ rest = first :: others ∧
      isBlank first = false ∧ first ≠ ']' := by
  obtain ⟨first, others, text, visible, more⟩ := exists_cons_prettyChars plain (level + 1)
  refine ⟨first, others ++ prettyItems level items ++ rest, ?_, visible, more⟩
  rw [itemsChars, text, List.cons_append, List.cons_append]

/-- The blanks before the items of a list are skipped. -/
theorem skipBlank_itemsChars {item : Json} (plain : item.isPlain = true) (level : Nat)
    (items : List Json) (rest : List Char) :
    skipBlank (newLine (level + 1) ++ itemsChars level (item :: items) ++ rest) =
      itemsChars level (item :: items) ++ rest := by
  obtain ⟨first, others, text, visible, -⟩ := exists_cons_itemsChars plain level items rest
  rw [List.append_assoc, skipBlank_newLine, text, skipBlank_cons visible]

/-- The blanks before the fields of an object are skipped. -/
theorem skipBlank_fieldsChars (level : Nat) (field : String × Json) (fields : List (String × Json))
    (rest : List Char) :
    skipBlank (newLine (level + 1) ++ fieldsChars level (field :: fields) ++ rest) =
      fieldsChars level (field :: fields) ++ rest := by
  rw [List.append_assoc, skipBlank_newLine]
  exact skipBlank_cons rfl _

/-- The blanks before a plain value are none. -/
theorem skipBlank_prettyChars {json : Json} (plain : json.isPlain = true) (level : Nat)
    (rest : List Char) :
    skipBlank (prettyChars level json ++ rest) = prettyChars level json ++ rest := by
  obtain ⟨first, others, text, visible, -⟩ := exists_cons_prettyChars plain level
  rw [text, List.cons_append, skipBlank_cons visible]

/-- The new line before a closing mark is skipped. -/
theorem skipBlank_close (level : Nat) (mark : Char) (visible : isBlank mark = false)
    (rest : List Char) : skipBlank (newLine level ++ [mark] ++ rest) = mark :: rest := by
  rw [List.append_assoc, skipBlank_newLine, List.singleton_append, skipBlank_cons visible]

/-- A text that starts with a comma starts with no blank. -/
theorem skipBlank_comma {text more : List Char} (comma : text = ',' :: more) (rest : List Char) :
    skipBlank (text ++ rest) = ',' :: (more ++ rest) := by
  rw [comma, List.cons_append, skipBlank_cons rfl]

mutual

/-- The text of a plain value is read back. -/
theorem value_prettyChars : (json : Json) → json.isPlain = true →
    ∀ {fuel depth level : Nat} {rest : List Char}, EndsValue rest →
      2 * (prettyChars level json).length ≤ fuel + 1 →
      Reader.value fuel depth (prettyChars level json ++ rest) = some (json.readBack depth, rest)
  | .str text, plain, fuel, depth, level, rest, _, enough => by
    obtain ⟨fuel, rfl⟩ := exists_fuel plain level enough
    exact Reader.value_quoted fuel depth text rest
  | .number (.integer (.ofNat natural)), plain, fuel, depth, level, rest, ends, enough => by
    obtain ⟨fuel, rfl⟩ := exists_fuel plain level enough
    exact Reader.value_toDigits fuel depth natural ends
  | .arr [], plain, fuel, depth, level, rest, _, enough => by
    obtain ⟨fuel, rfl⟩ := exists_fuel plain level enough
    rfl
  | .arr (item :: items), plain, fuel, depth, level, rest, _, enough => by
    obtain ⟨fuel, rfl⟩ := exists_fuel plain level enough
    rw [prettyChars_arr, List.length_cons, List.length_append] at enough
    have plainItem : item.isPlain = true := (Bool.and_eq_true_iff.1 plain).1
    obtain ⟨first, others, text, visible, more⟩ :=
      exists_cons_itemsChars plainItem level items rest
    have read : Reader.elements fuel (depth - 1) (itemsChars level (item :: items) ++ rest) =
        some (readBackItems (depth - 1) (item :: items), rest) :=
      elements_itemsChars (item :: items) nofun plain (by omega)
    rw [text] at read
    rw [prettyChars_arr, List.cons_append, Reader.value_arr ?_ more read]
    · rfl
    · rw [skipBlank_itemsChars plainItem, text]
  | .obj [], plain, fuel, depth, level, rest, _, enough => by
    obtain ⟨fuel, rfl⟩ := exists_fuel plain level enough
    rfl
  | .obj (field :: fields), plain, fuel, depth, level, rest, _, enough => by
    obtain ⟨fuel, rfl⟩ := exists_fuel plain level enough
    rw [prettyChars_obj, List.length_cons, List.length_append] at enough
    have read : Reader.members fuel (depth - 1) (fieldsChars level (field :: fields) ++ rest) =
        some ((readBackFields (depth - 1) (field :: fields)).map (Prod.map some id), rest) :=
      members_fieldsChars (field :: fields) nofun plain (by omega)
    rw [prettyChars_obj, List.cons_append,
      Reader.value_obj (skipBlank_fieldsChars level field fields rest) read, objectAt_map]
    rfl

/-- The texts of the items of a list are read back, up to its closing bracket. -/
theorem elements_itemsChars : (items : List Json) → items ≠ [] → arePlain items = true →
    ∀ {fuel depth level : Nat} {rest : List Char}, 2 * (itemsChars level items).length ≤ fuel →
      Reader.elements fuel depth (itemsChars level items ++ rest) =
        some (readBackItems depth items, rest)
  | [], nonempty, _, _, _, _, _, _ => absurd rfl nonempty
  | item :: items, _, plain, fuel, depth, level, rest, enough => by
    obtain ⟨plainItem, plainItems⟩ := Bool.and_eq_true_iff.1 plain
    rw [itemsChars, List.length_append] at enough
    obtain ⟨fuel, rfl⟩ := exists_fuel plainItem (level + 1) (by omega : _ ≤ fuel + 1)
    have read : Reader.value fuel depth
        (prettyChars (level + 1) item ++ (prettyItems level items ++ rest)) =
          some (item.readBack depth, prettyItems level items ++ rest) :=
      value_prettyChars item plainItem (endsValue_prettyItems level items rest) (by omega)
    rw [itemsChars, List.append_assoc]
    cases items with
    | nil => exact Reader.elements_last read (skipBlank_close level ']' rfl rest)
    | cons next items =>
      rw [prettyItems_cons, List.length_cons, List.length_append] at enough
      rw [readBackItems]
      refine Reader.elements_cons read (skipBlank_comma (prettyItems_cons level next items) rest) ?_
      rw [skipBlank_itemsChars (Bool.and_eq_true_iff.1 plainItems).1]
      exact elements_itemsChars (next :: items) nofun plainItems (by omega)

/-- The texts of the fields of an object are read back, up to its closing brace. -/
theorem members_fieldsChars : (fields : List (String × Json)) → fields ≠ [] →
    areFieldsPlain fields = true →
    ∀ {fuel depth level : Nat} {rest : List Char}, 2 * (fieldsChars level fields).length ≤ fuel →
      Reader.members fuel depth (fieldsChars level fields ++ rest) =
        some ((readBackFields depth fields).map (Prod.map some id), rest)
  | [], nonempty, _, _, _, _, _, _ => absurd rfl nonempty
  | (name, value) :: fields, _, plain, fuel, depth, level, rest, enough => by
    obtain ⟨plainValue, plainFields⟩ := Bool.and_eq_true_iff.1 plain
    simp only [fieldsChars, List.length_append] at enough
    obtain ⟨fuel, rfl⟩ := exists_fuel plainValue (level + 1) (by omega : _ ≤ fuel + 1)
    have read : Reader.value fuel depth
        (prettyChars (level + 1) value ++ (prettyFields level fields ++ rest)) =
          some (value.readBack depth, prettyFields level fields ++ rest) :=
      value_prettyChars value plainValue (endsValue_prettyFields level fields rest) (by omega)
    have visible := skipBlank_prettyChars plainValue (level + 1) (prettyFields level fields ++ rest)
    rw [fieldsChars, List.append_assoc, List.append_assoc]
    cases fields with
    | nil => exact Reader.members_last read visible (skipBlank_close level '\x7d' rfl rest)
    | cons next fields =>
      simp only [prettyFields_cons, List.length_cons, List.length_append] at enough
      rw [readBackFields, List.map_cons]
      refine Reader.members_cons read visible
        (skipBlank_comma (prettyFields_cons level next fields) rest) ?_
      rw [skipBlank_fieldsChars]
      exact members_fieldsChars (next :: fields) nofun plainFields (by omega)

end

/-- The text of a plain value is read back, so far as a reader goes. -/
theorem read_pretty {json : Json} (plain : json.isPlain = true) :
    read json.pretty = some (json.readBack nestingLimit) := by
  have chars : json.pretty.toList = prettyChars 0 json := String.toList_ofList
  have start : skipBlank (prettyChars 0 json) = prettyChars 0 json := by
    simpa using skipBlank_prettyChars plain 0 []
  have ends : EndsValue [] := nofun
  have whole : Reader.value (2 * (prettyChars 0 json).length + 2) nestingLimit
      (prettyChars 0 json ++ []) = some (json.readBack nestingLimit, []) :=
    value_prettyChars json plain ends (by omega)
  rw [List.append_nil] at whole
  rw [read, readNested, chars, start, whole]
  rfl

end ModularRouter.Json
