import ModularRouter.Proofs.Storage.DumpEncoding

/-!
# Dumps that can be read back

A recorded dump is read again at the next upgrade, and whether that succeeds hangs on two things
only: how deep the record is nested, and whether its numbers are within their bounds.
`Json.nesting` counts the first on the record itself, and `Dump.numbersFit` says the second.
`Dump.fits_iff` shows that `Dump.fits`, which follows the reader, asks for exactly these two, and
`written_dump_read_back` that nothing else about a dump matters: neither the characters of its
names, nor which of its fields are there, nor how its shapes lie one inside another.
-/

namespace ModularRouter

/-! ## Nesting of records -/

namespace Json

mutual

/-- How many lists and objects stand one inside another at most. -/
def nesting : Json → Nat
  | .arr items => nestingOfItems items + 1
  | .obj fields => nestingOfFields fields + 1
  | _ => 0

/-- How deep the values of a list are nested. -/
def nestingOfItems : List Json → Nat
  | [] => 0
  | item :: rest => max item.nesting (nestingOfItems rest)

/-- How deep the values of fields are nested. -/
def nestingOfFields : List (String × Json) → Nat
  | [] => 0
  | (_, value) :: rest => max value.nesting (nestingOfFields rest)

end

/-- Two runs of fields are nested as deep as the deeper one of them. -/
theorem nestingOfFields_append (fields others : List (String × Json)) :
    nestingOfFields (fields ++ others) = max (nestingOfFields fields) (nestingOfFields others) := by
  induction fields with
  | nil => rw [List.nil_append, nestingOfFields, Nat.zero_max]
  | cons field fields ih =>
    rw [List.cons_append, nestingOfFields, nestingOfFields, ih, Nat.max_assoc]

/-- The items of a list are nested at most as deep as a bound when each of them is. -/
theorem nestingOfItems_le_iff {items : List Json} {depth : Nat} :
    nestingOfItems items ≤ depth ↔ ∀ item ∈ items, item.nesting ≤ depth := by
  induction items with
  | nil => simp [nestingOfItems]
  | cons item items ih => rw [nestingOfItems, Nat.max_le, ih, List.forall_mem_cons]

end Json

namespace Storage

open Json (nestingOfItems nestingOfFields nestingOfFields_append nestingOfItems_le_iff)

/-- An optional text nests nothing. -/
@[simp]
theorem nestingOfFields_textField (name : String) (text : Option String) :
    nestingOfFields (textField name text) = 0 := by
  cases text <;> rfl

/-- An optional number nests nothing. -/
@[simp]
theorem nestingOfFields_natField (name : String) (number : Option Nat) :
    nestingOfFields (natField name number) = 0 := by
  cases number <;> rfl

/-- The fields of a value of an elementary type nest nothing. -/
@[simp]
theorem nestingOfFields_builtin (value : Builtin) : nestingOfFields value.toFields = 0 := by
  have text : (Json.str value.valueType).nesting = 0 := rfl
  rw [Builtin.toFields, nestingOfFields, text]
  simp only [nestingOfFields_append, nestingOfFields_textField, nestingOfFields_natField,
    Nat.max_self]

/-- Texts nest nothing. -/
@[simp]
theorem nestingOfItems_texts (texts : List String) : nestingOfItems (texts.map .str) = 0 := by
  have each : ∀ item ∈ texts.map Json.str, item.nesting ≤ 0 := by
    intro item mem
    obtain ⟨text, -, rfl⟩ := List.mem_map.1 mem
    exact Nat.le_refl 0
  exact Nat.le_zero.1 (nestingOfItems_le_iff.2 each)

/-! ## Numbers within their bounds -/

namespace Shape

mutual

/-- Whether all recorded numbers inside a shape are within their bounds. -/
def numbersFit : Shape → Bool
  | .builtin value => value.fits
  | .struct _ _ members slots => allNumbersFit members && fitsBelow slotBound slots
  | .mapping _ key value => key.fits && value.numbersFit
  | .array _ value length => value.numbersFit && fitsBelow slotBound length
  | .enum .. => true

/-- Whether all recorded numbers inside some shapes are within their bounds. -/
def allNumbersFit : List Shape → Bool
  | [] => true
  | shape :: rest => shape.numbersFit && allNumbersFit rest

end

/-! ## What fits -/

/-- The record of a builtin is one object. -/
theorem nesting_builtin (value : Builtin) : (Shape.builtin value).toJson.nesting = 1 := by
  simp [toJson, Json.nesting, nestingOfFields]

/-- The record of a struct is nested two levels deeper than those of its members. -/
theorem nesting_struct (structName : String) (name : Option String) (members : List Shape)
    (slots : Option Nat) : (Shape.struct structName name members slots).toJson.nesting =
      nestingOfItems (listToJson members) + 2 := by
  simp [toJson, Json.nesting, nestingOfFields, nestingOfFields_append]

/-- The record of a mapping is nested deeper than those of its key and its value. -/
theorem nesting_mapping (name : Option String) (key : Builtin) (value : Shape) :
    (Shape.mapping name key value).toJson.nesting = max 1 value.toJson.nesting + 1 := by
  simp [toJson, Json.nesting, nestingOfFields, nestingOfFields_append]

/-- The record of an array is nested deeper than that of its element. -/
theorem nesting_array (name : Option String) (value : Shape) (length : Option Nat) :
    (Shape.array name value length).toJson.nesting = value.toJson.nesting + 1 := by
  simp [toJson, Json.nesting, nestingOfFields, nestingOfFields_append]

/-- The record of an enumeration is an object with a list. -/
theorem nesting_enum (enumName : String) (name : Option String) (members : List String) :
    (Shape.enum enumName name members).toJson.nesting = 2 := by
  simp [toJson, Json.nesting, nestingOfFields, nestingOfFields_append]

/-- Every record is an object, so that nothing fits where nothing may be nested. -/
theorem nesting_pos (shape : Shape) : 0 < shape.toJson.nesting := by
  rw [toJson_eq]
  exact Nat.succ_pos _

mutual

/-- A shape fits when its record is nested no deeper than it may be and its numbers are within their
bounds. -/
theorem fits_iff : (shape : Shape) → (depth : Nat) →
    (shape.fits depth = true ↔ shape.toJson.nesting ≤ depth ∧ shape.numbersFit = true)
  | .builtin value, depth => by
    rw [fits, nesting_builtin, numbersFit, Bool.and_eq_true, decide_eq_true_eq]
    exact Iff.rfl
  | .struct structName name members slots, depth => by
    rw [fits, nesting_struct, numbersFit]
    simp only [Bool.and_eq_true, decide_eq_true_eq, areFitting_iff members]
    have levels : (1 < depth ∧ nestingOfItems (listToJson members) ≤ depth - 2) ↔
        nestingOfItems (listToJson members) + 2 ≤ depth := by omega
    rw [← levels]
    simp only [and_assoc]
  | .mapping name key value, depth => by
    rw [fits, nesting_mapping, numbersFit]
    simp only [Bool.and_eq_true, decide_eq_true_eq, fits_iff value]
    have levels : (1 < depth ∧ value.toJson.nesting ≤ depth - 1) ↔
        max 1 value.toJson.nesting + 1 ≤ depth := by omega
    rw [← levels]
    -- The bounds of the key stand between the two conditions on the nesting.
    rw [and_assoc, and_assoc, and_left_comm (a := key.fits = true)]
  | .array name value length, depth => by
    rw [fits, nesting_array, numbersFit]
    simp only [Bool.and_eq_true, decide_eq_true_eq, fits_iff value]
    have inner := nesting_pos value
    have levels : (1 < depth ∧ value.toJson.nesting ≤ depth - 1) ↔
        value.toJson.nesting + 1 ≤ depth := by omega
    rw [← levels]
    simp only [and_assoc]
  | .enum enumName name members, depth => by
    rw [fits, nesting_enum, numbersFit, decide_eq_true_eq]
    exact (and_iff_left rfl).symm

/-- Shapes fit when their records are nested no deeper than they may be and their numbers are within
their bounds. -/
theorem areFitting_iff : (shapes : List Shape) → (depth : Nat) →
    (areFitting depth shapes = true ↔
      nestingOfItems (listToJson shapes) ≤ depth ∧ allNumbersFit shapes = true)
  | [], depth => by simp [areFitting, listToJson, nestingOfItems, allNumbersFit]
  | shape :: rest, depth => by
    rw [areFitting, listToJson, nestingOfItems, allNumbersFit, Nat.max_le]
    simp only [Bool.and_eq_true, fits_iff shape, areFitting_iff rest]
    exact and_and_and_comm

end

end Shape

/-- Whether all recorded numbers of a layout are within their bounds. -/
def Layout.numbersFit (layout : Layout) : Bool :=
  layout.structs.all fun struct => Shape.allNumbersFit struct.members

/-- Whether all recorded numbers of a dump are within their bounds: counts of words below `2 ^ 64`,
and counts of bytes below `2 ^ 8`. -/
def Dump.numbersFit (dump : Dump) : Bool :=
  dump.layouts.all Layout.numbersFit

/-- The items of a list are recorded one by one, so that they are nested at most as deep as a bound
when each of them is. -/
theorem nestingOfItems_map_le_iff {α : Type} {write : α → Json} {items : List α} {depth : Nat} :
    nestingOfItems (items.map write) ≤ depth ↔ ∀ item ∈ items, (write item).nesting ≤ depth := by
  rw [nestingOfItems_le_iff, List.forall_mem_map]

/-- A struct fits when its record is nested no deeper than it may be and its numbers are within
their bounds. -/
theorem StructLayout.fits_iff (depth : Nat) (layout : StructLayout) :
    layout.fits depth = true ↔
      layout.toJson.nesting ≤ depth ∧ Shape.allNumbersFit layout.members = true := by
  have nesting : layout.toJson.nesting = nestingOfItems (Shape.listToJson layout.members) + 2 := by
    simp [toJson, Json.nesting, nestingOfFields]
  rw [fits, nesting]
  simp only [Bool.and_eq_true, decide_eq_true_eq, Shape.areFitting_iff]
  have levels : (1 < depth ∧ nestingOfItems (Shape.listToJson layout.members) ≤ depth - 2) ↔
      nestingOfItems (Shape.listToJson layout.members) + 2 ≤ depth := by omega
  rw [← levels, and_assoc]

/-- A layout fits when its record is nested no deeper than it may be and its numbers are within
their bounds. -/
theorem Layout.fits_iff (depth : Nat) (layout : Layout) :
    layout.fits depth = true ↔ layout.toJson.nesting ≤ depth ∧ layout.numbersFit = true := by
  have nesting : layout.toJson.nesting =
      nestingOfItems (layout.structs.map StructLayout.toJson) + 2 := by
    simp [toJson, Json.nesting, nestingOfFields]
  have levels : (1 < depth ∧
      nestingOfItems (layout.structs.map StructLayout.toJson) ≤ depth - 2) ↔
      nestingOfItems (layout.structs.map StructLayout.toJson) + 2 ≤ depth := by omega
  rw [fits, numbersFit, nesting, ← levels, nestingOfItems_map_le_iff]
  simp only [Bool.and_eq_true, decide_eq_true_eq, List.all_eq_true, StructLayout.fits_iff,
    forall₂_and, and_assoc]

/-- A dump fits when its record is nested no deeper than a reader goes and its numbers are within
their bounds. -/
theorem Dump.fits_iff (dump : Dump) :
    dump.fits = true ↔ dump.toJson.nesting ≤ Json.nestingLimit ∧ dump.numbersFit = true := by
  have nesting : dump.toJson.nesting = nestingOfItems (dump.layouts.map Layout.toJson) + 1 := rfl
  have levels : nestingOfItems (dump.layouts.map Layout.toJson) ≤ Json.nestingLimit - 1 ↔
      nestingOfItems (dump.layouts.map Layout.toJson) + 1 ≤ Json.nestingLimit := by
    have some : 0 < Json.nestingLimit := by decide
    omega
  rw [fits, numbersFit, nesting, ← levels, nestingOfItems_map_le_iff]
  simp only [List.all_eq_true, Layout.fits_iff, forall₂_and]

/-- A dump whose numbers are within their bounds is read back from its text exactly if its record is
nested no deeper than a reader goes. -/
theorem Dump.read?_write_eq_some_iff {dump : Dump} (numbers : dump.numbersFit = true) :
    Dump.read? dump.write = some dump ↔ dump.toJson.nesting ≤ Json.nestingLimit := by
  have fitting : dump.fits = true ↔ dump.toJson.nesting ≤ Json.nestingLimit := by
    rw [dump.fits_iff]
    exact and_iff_left numbers
  rw [Dump.read?_write, ← fitting]
  cases dump.fits with
  | false => exact iff_of_false nofun nofun
  | true => exact iff_of_true rfl rfl

/-- What is read back from the text of a dump is the dump. -/
theorem Dump.eq_of_read?_write {dump again : Dump} (read : Dump.read? dump.write = some again) :
    again = dump := by
  rw [Dump.read?_write] at read
  split at read <;> cases read
  rfl

/-- A dump whose numbers are within their bounds is read back from its text, whatever characters
its names hold, whichever of its optional fields are there and however its shapes lie one inside
another, exactly if its record is nested no deeper than a reader goes. Whatever is read back is the
dump itself, so that it is written as the same text again. -/
theorem written_dump_read_back (dump : Dump) (numbers : dump.numbersFit = true) :
    (Dump.read? dump.write = some dump ↔ dump.toJson.nesting ≤ Json.nestingLimit) ∧
      ∀ again, Dump.read? dump.write = some again → again = dump ∧ again.write = dump.write := by
  refine ⟨Dump.read?_write_eq_some_iff numbers, fun again read => ?_⟩
  obtain rfl := Dump.eq_of_read?_write read
  exact ⟨rfl, rfl⟩

/-- A dump with controls, quotes and letters beyond ASCII in its names, numbers at their bounds, and
fields left out. -/
def oddDump : Dump :=
  ⟨[⟨.contract, "Caf\u00e9 \"\\\"", [⟨"\x00\x1f\n", [
    .builtin ⟨"uint8", some "", some (Nat.pow 2 64 - 1), some 255, none⟩,
    .mapping none ⟨"😀", none, none, none, some 0⟩
      (.array (some "\t") (.struct "S" none [.enum "E" none ["\x7f"]] (some 0)) (some 3))]⟩]⟩,
    ⟨.contract, "", []⟩]⟩

/-- Such a dump is read back and written as the same text again. -/
theorem odd_dump_read_back :
    oddDump.numbersFit = true ∧ oddDump.toJson.nesting ≤ Json.nestingLimit ∧
      ∃ again, Dump.read? oddDump.write = some again ∧ again = oddDump ∧
        again.write = oddDump.write := by
  have numbers : oddDump.numbersFit = true := by decide
  have shallow : oddDump.toJson.nesting ≤ Json.nestingLimit := by decide
  obtain ⟨read, same⟩ := written_dump_read_back oddDump numbers
  exact ⟨numbers, shallow, oddDump, read.2 shallow, same oddDump (read.2 shallow)⟩

end Storage

end ModularRouter
