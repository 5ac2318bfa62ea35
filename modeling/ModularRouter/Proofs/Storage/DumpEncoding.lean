import ModularRouter.Proofs.Storage.ShapeEncoding

/-!
# Dumps read back

A dump is read back from its text exactly if it fits: nothing in it is nested deeper than a reader
goes, and no recorded number is beyond its bound. So whatever is read back from the text of a dump
is that dump: `Dump.read?_write`.
-/

namespace ModularRouter.Storage

open Json (fieldValues readBack)

/-- A list of plain values is plain. -/
theorem arePlain_map {α : Type} {write : α → Json} (each : ∀ item, (write item).isPlain = true)
    (items : List α) : Json.arePlain (items.map write) = true := by
  induction items with
  | nil => rfl
  | cons item items ih =>
    rw [List.map_cons, Json.arePlain, each, ih]
    rfl

/-- The object that records a struct is plain. -/
theorem StructLayout.isPlain_toJson (layout : StructLayout) : layout.toJson.isPlain = true := by
  simp only [toJson, Json.isPlain, Json.areFieldsPlain, Shape.arePlain_listToJson]
  rfl

/-- The object that records a layout is plain. -/
theorem Layout.isPlain_toJson (layout : Layout) : layout.toJson.isPlain = true := by
  simp only [toJson, Json.isPlain, Json.areFieldsPlain, arePlain_map StructLayout.isPlain_toJson]
  rfl

/-- The list that records a dump is plain. -/
theorem Dump.isPlain_toJson (dump : Dump) : dump.toJson.isPlain = true :=
  arePlain_map Layout.isPlain_toJson dump.layouts

/-- Whether the object that records a struct nests at most `depth` levels and all its members
fit. -/
def StructLayout.fits (depth : Nat) (layout : StructLayout) : Bool :=
  1 < depth && Shape.areFitting (depth - 2) layout.members

/-- Whether the object that records a layout nests at most `depth` levels and all its structs
fit. -/
def Layout.fits (depth : Nat) (layout : Layout) : Bool :=
  1 < depth && layout.structs.all (StructLayout.fits (depth - 2))

/-- Whether the text of a dump nests no deeper than a reader goes, with all numbers within their
bounds. -/
def Dump.fits (dump : Dump) : Bool :=
  dump.layouts.all (Layout.fits (Json.nestingLimit - 1))

/-- A struct is read back if it fits. -/
theorem StructLayout.ofJson?_readBack (depth : Nat) (layout : StructLayout) :
    ofJson? (layout.toJson.readBack depth) = if layout.fits depth then some layout else none := by
  cases depth with
  | zero => rfl
  | succ depth =>
    have record : layout.toJson.readBack (depth + 1) = .obj [("name", .str layout.name),
        ("members", (Json.arr (Shape.listToJson layout.members)).readBack depth)] := rfl
    rw [record, ofJson?, Json.record?_obj, Option.bind_eq_bind, Option.bind_some]
    dsimp only
    rw [Json.requiredText?_obj rfl, fits]
    cases depth with
    | zero =>
      rw [Json.requiredList?_obj_of_unreadable rfl]
      rfl
    | succ depth =>
      have all : ((Shape.listToJson layout.members).map (readBack depth)).mapM Shape.ofJson? =
          if Shape.areFitting depth layout.members then some layout.members else none := by
        rw [Shape.listToJson_eq_map, List.map_map, Shape.areFitting_eq_all]
        exact Json.mapM_map_eq_ite (fun shape => shape.ofJson?_readBack depth) layout.members
      have once : fieldValues "members" [("name", .str layout.name),
          ("members", (Json.arr (Shape.listToJson layout.members)).readBack (depth + 1))] =
            [.arr ((Shape.listToJson layout.members).map (readBack depth))] := by
        rw [← Json.readBackItems_eq_map]
        rfl
      obtain ⟨parts, found, items⟩ := Json.exists_requiredList?_obj once
      have read := (Json.mapM_val_eq items _).trans all
      rw [found, Shape.one_lt_add_two]
      simp only [Option.bind_eq_bind, Option.bind_some, read, Nat.reduceSubDiff]
      cases Shape.areFitting depth layout.members <;> rfl

/-- A layout is read back if it fits. -/
theorem Layout.ofJson?_readBack (depth : Nat) (layout : Layout) :
    ofJson? (layout.toJson.readBack depth) = if layout.fits depth then some layout else none := by
  cases depth with
  | zero => rfl
  | succ depth =>
    have record : layout.toJson.readBack (depth + 1) = .obj [("kind", .str layout.kind.toText),
        ("name", .str layout.name),
        ("structs", (Json.arr (layout.structs.map StructLayout.toJson)).readBack depth)] := rfl
    obtain ⟨kindPart, kindFound, kindValue⟩ := Json.exists_required?_obj (rfl : fieldValues "kind"
      [("kind", .str layout.kind.toText), ("name", .str layout.name),
        ("structs", (Json.arr (layout.structs.map StructLayout.toJson)).readBack depth)] = [_])
    have kind : LayoutKind.ofJson? kindPart.1 = some layout.kind := by
      rw [kindValue]
      cases layout.kind <;> rfl
    rw [record, ofJson?, Json.record?_obj, Option.bind_eq_bind, Option.bind_some]
    dsimp only
    rw [kindFound, Json.requiredText?_obj rfl, fits]
    cases depth with
    | zero =>
      rw [Json.requiredList?_obj_of_unreadable rfl]
      rfl
    | succ depth =>
      have all : ((layout.structs.map StructLayout.toJson).map (readBack depth)).mapM
          StructLayout.ofJson? =
            if layout.structs.all (StructLayout.fits depth) then some layout.structs else none := by
        rw [List.map_map]
        exact Json.mapM_map_eq_ite (StructLayout.ofJson?_readBack depth) layout.structs
      have once : fieldValues "structs" [("kind", .str layout.kind.toText),
          ("name", .str layout.name),
          ("structs", (Json.arr (layout.structs.map StructLayout.toJson)).readBack (depth + 1))] =
            [.arr ((layout.structs.map StructLayout.toJson).map (readBack depth))] := by
        rw [← Json.readBackItems_eq_map]
        rfl
      obtain ⟨parts, found, items⟩ := Json.exists_requiredList?_obj once
      have read := (Json.mapM_val_eq items _).trans all
      rw [found, Shape.one_lt_add_two]
      simp only [Option.bind_eq_bind, Option.bind_some, kind, read, Nat.reduceSubDiff]
      cases layout.structs.all (StructLayout.fits depth) <;> rfl

/-- A dump is read back from its text exactly if it fits. -/
theorem Dump.read?_write (dump : Dump) :
    read? dump.write = if dump.fits then some dump else none := by
  have record : dump.toJson.readBack Json.nestingLimit =
      .arr ((dump.layouts.map Layout.toJson).map (readBack (Json.nestingLimit - 1))) := by
    rw [← Json.readBackItems_eq_map]
    rfl
  have all : ((dump.layouts.map Layout.toJson).map (readBack (Json.nestingLimit - 1))).mapM
      Layout.ofJson? = if dump.fits then some dump.layouts else none := by
    rw [List.map_map]
    exact Json.mapM_map_eq_ite (Layout.ofJson?_readBack _) dump.layouts
  obtain ⟨parts, found, items⟩ := Json.exists_parts?_arr
    ((dump.layouts.map Layout.toJson).map (readBack (Json.nestingLimit - 1)))
  have layouts := (Json.mapM_val_eq items _).trans all
  rw [read?, write, Json.read_pretty dump.isPlain_toJson, record]
  simp only [Option.bind_eq_bind, Option.bind_some, ofJson?, found, layouts]
  cases dump.fits <;> rfl

end ModularRouter.Storage
