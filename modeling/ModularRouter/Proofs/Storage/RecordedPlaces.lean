import ModularRouter.Proofs.Storage.Extraction
import ModularRouter.Proofs.Storage.Packing
import ModularRouter.Storage.Comparison

/-!
# Recorded places

A dump is recorded with the place of each direct member of an elementary type. `RecordsPlaces` says
what that does to a struct, and `withPositions` does just that, as often as it is done. Nothing else
depends on recorded places: `Shape.unplaced` leaves them out at every depth, and a comparison finds
the same with them and without (`compare_unplaced`), so that it does not matter whether a dump is
compared before or after its places are recorded, or which ones it had (`places_do_not_matter`).

That comparisons do not see places is proved along their recursion. The space of a shape does not
depend on places, so positions do not either, and no message tells a recorded place.
-/

namespace ModularRouter.Storage

/-! ## Recording places -/

/-- The name of a type and the recorded size decide the space of a value. -/
theorem Builtin.footprint_congr {value other : Builtin} (type : value.valueType = other.valueType)
    (size : value.size = other.size) : value.footprint = other.footprint := by
  unfold footprint elementaryType?
  rw [type, size]

/-- A recorded place takes no space. -/
theorem footprint_recordPosition (member : Shape) (position : Position) :
    (StructLayout.recordPosition member position).footprint = member.footprint := by
  cases member with
  | builtin value =>
    rw [StructLayout.recordPosition, Shape.footprint, Shape.footprint]
    exact Builtin.footprint_congr rfl rfl
  | struct _ _ _ _ | mapping _ _ _ | array _ _ _ | enum _ _ _ => rfl

/-- A place that is recorded a second time was there already. -/
theorem recordPosition_idem (member : Shape) (position : Position) :
    StructLayout.recordPosition (StructLayout.recordPosition member position) position =
      StructLayout.recordPosition member position := by
  cases member <;> rfl

namespace StructLayout

variable (struct : StructLayout)

/-- Every member is recorded with the position at its index. -/
theorem members_withPositions : struct.withPositions.members = (struct.members.zip
    (packing struct.members).positions).map fun pair => recordPosition pair.1 pair.2 := by
  rw [withPositions, List.zip, List.map_zipWith]

/-- What recorded places do not change about a member stays for all members of a struct. -/
theorem map_members_withPositions {α : Type} {feature : Shape → α}
    (keeps : ∀ member position, feature (recordPosition member position) = feature member) :
    struct.withPositions.members.map feature = struct.members.map feature := by
  have counted : struct.members.length ≤ (packing struct.members).positions.length :=
    Nat.le_of_eq (Packing.length_positions struct.members).symm
  calc struct.withPositions.members.map feature
      = ((struct.members.zip (packing struct.members).positions).map Prod.fst).map feature := by
        rw [members_withPositions, List.map_map, List.map_map]
        exact List.map_congr_left fun pair _ => keeps pair.1 pair.2
    _ = struct.members.map feature := by rw [List.map_fst_zip counted]

/-- Recording places keeps the count of the members. -/
theorem length_withPositions : struct.withPositions.members.length = struct.members.length := by
  unfold withPositions
  rw [List.length_zipWith, Packing.length_positions, Nat.min_self]

/-- Recording places moves no member. -/
theorem packing_withPositions : packing struct.withPositions.members = packing struct.members := by
  unfold packing
  rw [struct.map_members_withPositions footprint_recordPosition]

/-- Every member is recorded with its position. -/
theorem exists_getElem?_withPositions {index : Nat} {member : Shape}
    (found : struct.members[index]? = some member) :
    ∃ position, (packing struct.members).positions[index]? = some position ∧
      struct.withPositions.members[index]? = some (recordPosition member position) := by
  obtain ⟨inside, -⟩ := List.getElem?_eq_some_iff.1 found
  have placed : index < (packing struct.members).positions.length := by
    rwa [Packing.length_positions]
  refine ⟨_, List.getElem?_eq_getElem placed, ?_⟩
  unfold withPositions
  rw [List.getElem?_zipWith, found, List.getElem?_eq_getElem placed]

/-- Recording places again changes nothing. -/
theorem withPositions_withPositions : struct.withPositions.withPositions = struct.withPositions := by
  have members : struct.withPositions.withPositions.members = struct.withPositions.members := by
    apply List.ext_getElem?
    intro index
    cases found : struct.members[index]? with
    | none =>
      have behind : struct.members.length ≤ index := List.getElem?_eq_none_iff.1 found
      rw [List.getElem?_eq_none, List.getElem?_eq_none]
      · rwa [length_withPositions]
      · rwa [length_withPositions, length_withPositions]
    | some member =>
      -- The second time every member is recorded with the position that it had the first time.
      obtain ⟨position, placed, once⟩ := struct.exists_getElem?_withPositions found
      obtain ⟨again, placedAgain, twice⟩ := struct.withPositions.exists_getElem?_withPositions once
      rw [packing_withPositions, placed, Option.some.injEq] at placedAgain
      rw [twice, once, ← placedAgain, recordPosition_idem]
  calc struct.withPositions.withPositions
      = ⟨struct.name, struct.withPositions.withPositions.members⟩ := rfl
    _ = struct.withPositions := by rw [members]; rfl

end StructLayout

/-- Whether a struct is another one with the places of its members recorded: each direct member of an
elementary type carries the position that both structs give it, and nothing else differs. -/
structure RecordsPlaces (plain recorded : StructLayout) : Prop where
  /-- The struct keeps its name. -/
  name : recorded.name = plain.name
  /-- No member comes or goes. -/
  length : recorded.members.length = plain.members.length
  /-- No member moves. -/
  packing : packing recorded.members = packing plain.members
  /-- A member of an elementary type changes in the word and the byte that it records, which are
  those of its position. -/
  placed : ∀ (index : Nat) value, plain.members[index]? = some (.builtin value) →
    ∃ position, (Storage.packing plain.members).positions[index]? = some position ∧
      recorded.members[index]? =
        some (.builtin { value with slot := some position.slot, offset := some position.offset })
  /-- Any other member stays as it is. -/
  others : ∀ (index : Nat) member, plain.members[index]? = some member →
    member.variant ≠ "builtin" → recorded.members[index]? = some member

/-- Recording the places in a struct does what it says. -/
theorem recordsPlaces_withPositions (struct : StructLayout) :
    RecordsPlaces struct struct.withPositions := by
  refine ⟨rfl, struct.length_withPositions, struct.packing_withPositions, ?placed, ?others⟩
  case placed =>
    intro index value found
    exact struct.exists_getElem?_withPositions found
  case others =>
    intro index member found other
    obtain ⟨position, -, recorded⟩ := struct.exists_getElem?_withPositions found
    rw [recorded]
    cases member with
    | builtin value => exact absurd rfl other
    | struct _ _ _ _ | mapping _ _ _ | array _ _ _ | enum _ _ _ => rfl

namespace Dump

variable {dump : Dump}

/-- Recording places keeps the names of the layouts. -/
theorem map_name_withPositions (layouts : List Layout) :
    (layouts.map Layout.withPositions).map Layout.name = layouts.map Layout.name := by
  rw [List.map_map]
  rfl

/-- Recording places keeps the layouts of a dump, in their order. -/
theorem layouts_withPositions (distinct : (dump.layouts.map Layout.name).Nodup) :
    dump.withPositions.layouts = dump.layouts.map Layout.withPositions := by
  refine layouts_ofLayouts ?_
  rw [map_name_withPositions]
  exact distinct

end Dump

/-! ## Shapes without places -/

/-- A value of an elementary type without its recorded place. -/
def Builtin.unplaced (value : Builtin) : Builtin :=
  { value with slot := none, offset := none }

/-- The place of a value takes no space. -/
theorem Builtin.footprint_unplaced (value : Builtin) :
    value.unplaced.footprint = value.footprint :=
  footprint_congr rfl rfl

namespace Shape

mutual

/-- A shape without the recorded places of the values in it. -/
def unplaced : Shape → Shape
  | .builtin value => .builtin value.unplaced
  | .struct structName name members slots => .struct structName name (unplacedList members) slots
  | .mapping name key value => .mapping name key.unplaced value.unplaced
  | .array name value length => .array name value.unplaced length
  | .enum enumName name members => .enum enumName name members

/-- Shapes without the recorded places of the values in them. -/
def unplacedList : List Shape → List Shape
  | [] => []
  | shape :: rest => shape.unplaced :: unplacedList rest

end

/-- The shapes of a list lose their places one by one. -/
theorem unplacedList_eq_map (shapes : List Shape) : unplacedList shapes = shapes.map unplaced := by
  induction shapes with
  | nil => rfl
  | cons shape rest ih => rw [unplacedList, ih, List.map_cons]

/-- The name of a shape is no place. -/
@[simp]
theorem name?_unplaced (shape : Shape) : shape.unplaced.name? = shape.name? := by
  cases shape <;> rfl

/-- The kind of a shape does not tell places. -/
@[simp]
theorem variant_unplaced (shape : Shape) : shape.unplaced.variant = shape.variant := by
  cases shape <;> rfl

/-- The type of a shape does not tell places. -/
@[simp]
theorem typeLabel_unplaced : (shape : Shape) → shape.unplaced.typeLabel = shape.typeLabel
  | .builtin _ | .struct .. | .enum .. => rfl
  | .mapping _ key value => by
    rw [unplaced, typeLabel, typeLabel, typeLabel_unplaced value]
    rfl
  | .array _ value none | .array _ value (some _) => by
    rw [unplaced, typeLabel, typeLabel, typeLabel_unplaced value]

mutual

/-- A recorded place takes no space, at any depth. -/
theorem footprint_unplaced : (shape : Shape) → shape.unplaced.footprint = shape.footprint
  | .builtin value => by
    rw [unplaced, footprint, footprint, value.footprint_unplaced]
  | .struct _ _ [] slots => rfl
  | .struct structName name (first :: rest) slots => by
    have each := footprints_unplacedList (first :: rest)
    rw [unplacedList] at each
    rw [unplaced, unplacedList, footprint_struct _ _ (.inl (List.cons_ne_nil _ _)),
      footprint_struct _ _ (.inl (List.cons_ne_nil _ _)), packing, packing,
      ← footprints_eq_map, ← footprints_eq_map, each]
  | .mapping .. => rfl
  | .array _ _ none => rfl
  | .array _ value (some length) => by
    rw [unplaced, footprint, footprint, footprint_unplaced value]
  | .enum .. => rfl

/-- Recorded places take no space, at any depth. -/
theorem footprints_unplacedList : (shapes : List Shape) →
    footprints (unplacedList shapes) = footprints shapes
  | [] => rfl
  | shape :: rest => by
    rw [unplacedList, footprints, footprints, footprint_unplaced shape,
      footprints_unplacedList rest]

end

end Shape

namespace Comparison

/-! ## Comparisons without places -/

/-- Whether a shape was measured does not depend on places. -/
theorem isUnmeasured_unplaced (shape : Shape) : isUnmeasured shape.unplaced = isUnmeasured shape := by
  match shape with
  | .struct _ _ [] slots => rfl
  | .struct _ _ (_ :: _) none | .struct _ _ (_ :: _) (some _) => rfl
  | .builtin _ | .mapping .. | .array .. | .enum .. => rfl

/-- The name of a member, or its index, tells no place. -/
theorem memberName_unplaced (member : Shape) (index : Nat) :
    memberName member.unplaced index = memberName member index := by
  unfold memberName
  rw [member.name?_unplaced]

/-- Values of elementary types are compared without regard to places. -/
theorem builtinChanges_unplaced (path : String) (old new : Builtin) :
    builtinChanges path old.unplaced new.unplaced = builtinChanges path old new := by
  unfold builtinChanges
  rw [old.footprint_unplaced, new.footprint_unplaced]
  rfl

/-- Keys are compared without regard to places. -/
theorem keyChanges_unplaced (path : String) (old new : Builtin) :
    keyChanges path old.unplaced new.unplaced = keyChanges path old new := by
  unfold keyChanges
  rw [old.footprint_unplaced, new.footprint_unplaced]
  rfl

/-- Names are compared without regard to places. -/
theorem renameChanges_unplaced (path : String) (index : Nat) (declared : List Shape)
    (old new : Shape) :
    renameChanges path index (Shape.unplacedList declared) old.unplaced new.unplaced =
      renameChanges path index declared old new := by
  have names (now : String) : ((Shape.unplacedList declared).findIdx? fun member =>
      member.name? == some now) = declared.findIdx? fun member => member.name? == some now := by
    rw [Shape.unplacedList_eq_map, List.findIdx?_map]
    simp only [Function.comp_def, Shape.name?_unplaced]
  unfold renameChanges
  simp only [Shape.name?_unplaced, names]

/-- Members that only one struct has are reported without regard to places. -/
theorem unpairedMembers_unplaced {mutation : String → Shape → Mutation}
    (same : ∀ path member, mutation path member.unplaced = mutation path member) (path : String)
    (members : List Shape) (index : Nat) :
    unpairedMembers mutation path index (Shape.unplacedList members) =
      unpairedMembers mutation path index members := by
  induction members generalizing index with
  | nil => rfl
  | cons member rest ih =>
    rw [Shape.unplacedList, unpairedMembers, unpairedMembers, memberName_unplaced, same, ih]

/-- Shapes of different kinds are reported by their types. -/
theorem shapeChanges_of_variant_ne {path : String} {old new : Shape}
    (other : old.variant ≠ new.variant) :
    shapeChanges path old new =
      [error .update (path ++ " changed from " ++ old.variant ++ " " ++ old.typeLabel ++ " to " ++
        new.variant ++ " " ++ new.typeLabel)] := by
  cases old <;> cases new <;> first | exact absurd rfl other | simp only [shapeChanges]

/-- Shapes of different kinds are reported without regard to places. -/
theorem shapeChanges_unplaced_of_variant_ne {path : String} {old new : Shape}
    (other : old.variant ≠ new.variant) :
    shapeChanges path old.unplaced new.unplaced = shapeChanges path old new := by
  have unplaced : old.unplaced.variant ≠ new.unplaced.variant := by
    rwa [old.variant_unplaced, new.variant_unplaced]
  rw [shapeChanges_of_variant_ne unplaced, shapeChanges_of_variant_ne other, old.variant_unplaced,
    new.variant_unplaced, old.typeLabel_unplaced, new.typeLabel_unplaced]

/-- A comparison of members without the places recorded in them. -/
def Progress.unplaced (progress : Progress) : Progress :=
  { progress with declared := Shape.unplacedList progress.declared }

/-- Places make no difference to how a comparison of members goes on. -/
theorem Progress.advance_unplaced (progress : Progress) (old new : Shape) :
    progress.unplaced.advance old.unplaced new.unplaced = (progress.advance old new).unplaced := by
  unfold advance unplaced
  rw [old.footprint_unplaced, new.footprint_unplaced]

mutual

/-- Shapes are compared without regard to places, at any depth. -/
theorem shapeChanges_unplaced (path : String) : (old new : Shape) →
    shapeChanges path old.unplaced new.unplaced = shapeChanges path old new
  | .builtin old, new => by
    cases new with
    | builtin new =>
      rw [Shape.unplaced, Shape.unplaced, shapeChanges, shapeChanges, builtinChanges_unplaced]
    | _ => exact shapeChanges_unplaced_of_variant_ne (by simp [Shape.variant])
  | .struct _ _ olds _, new => by
    cases new with
    | struct _ _ news _ =>
      have members := memberChanges_unplaced (.start path olds) olds news
      rw [Shape.unplaced, Shape.unplaced, shapeChanges, shapeChanges, ← members]
      rfl
    | _ => exact shapeChanges_unplaced_of_variant_ne (by simp [Shape.variant])
  | .mapping _ oldKey oldValue, new => by
    cases new with
    | mapping _ newKey newValue =>
      rw [Shape.unplaced, Shape.unplaced, shapeChanges, shapeChanges, keyChanges_unplaced,
        shapeChanges_unplaced _ oldValue newValue]
    | _ => exact shapeChanges_unplaced_of_variant_ne (by simp [Shape.variant])
  | .array _ oldValue _, new => by
    cases new with
    | array _ newValue _ =>
      rw [Shape.unplaced, Shape.unplaced, shapeChanges, shapeChanges, oldValue.footprint_unplaced,
        newValue.footprint_unplaced, isUnmeasured_unplaced, isUnmeasured_unplaced,
        shapeChanges_unplaced _ oldValue newValue]
    | _ => exact shapeChanges_unplaced_of_variant_ne (by simp [Shape.variant])
  | .enum _ _ olds, new => by
    cases new with
    | enum _ _ news => rfl
    | _ => exact shapeChanges_unplaced_of_variant_ne (by simp [Shape.variant])

/-- Members are compared without regard to places, at any depth. -/
theorem memberChanges_unplaced (progress : Progress) : (olds news : List Shape) →
    memberChanges progress.unplaced (Shape.unplacedList olds) (Shape.unplacedList news) =
      memberChanges progress olds news
  | old :: olds, new :: news => by
    rw [Shape.unplacedList, Shape.unplacedList, memberChanges, memberChanges,
      Progress.advance_unplaced, memberChanges_unplaced _ olds news, old.footprint_unplaced,
      new.footprint_unplaced, memberName_unplaced, shapeChanges_unplaced _ old new]
    unfold Progress.unplaced
    rw [renameChanges_unplaced]
  | [], news => by
    rw [Shape.unplacedList, memberChanges, memberChanges]
    refine unpairedMembers_unplaced (fun path member => ?_) _ news _
    rw [member.typeLabel_unplaced]
  | old :: olds, [] => by
    rw [Shape.unplacedList, Shape.unplacedList, memberChanges, memberChanges,
      ← Shape.unplacedList]
    · exact unpairedMembers_unplaced (fun _ _ => rfl) _ (old :: olds) _
    · simp
    · simp

end

end Comparison

/-! ## Dumps without places -/

/-- A struct without the places recorded in it. -/
def StructLayout.unplaced (struct : StructLayout) : StructLayout :=
  ⟨struct.name, Shape.unplacedList struct.members⟩

/-- A layout without the places recorded in it. -/
def Layout.unplaced (layout : Layout) : Layout :=
  { layout with structs := layout.structs.map StructLayout.unplaced }

/-- A dump without the places recorded in it. -/
def Dump.unplaced (dump : Dump) : Dump :=
  ⟨dump.layouts.map Layout.unplaced⟩

/-- Structs are found without regard to places. -/
theorem Layout.getStruct?_unplaced (layout : Layout) (name : String) :
    layout.unplaced.getStruct? name = (layout.getStruct? name).map StructLayout.unplaced := by
  unfold getStruct? unplaced
  rw [List.find?_map]
  rfl

/-- Layouts are found without regard to places. -/
theorem Dump.get?_unplaced (dump : Dump) (name : String) :
    dump.unplaced.get? name = (dump.get? name).map Layout.unplaced := by
  unfold get? unplaced
  rw [List.find?_map]
  rfl

/-- Structs are compared without regard to places. -/
theorem Comparison.structChanges_unplaced (layoutName : String) (old new : StructLayout) :
    structChanges layoutName old.unplaced new.unplaced = structChanges layoutName old new := by
  have members := memberChanges_unplaced
    (.start (layoutName ++ "." ++ new.name) old.members) old.members new.members
  exact members

/-- Layouts are compared without regard to places. -/
theorem Comparison.layoutChanges_unplaced (old new : Layout) :
    layoutChanges old.unplaced new.unplaced = layoutChanges old new := by
  have oldStructs : old.unplaced.structs = old.structs.map StructLayout.unplaced := rfl
  have newStructs : new.unplaced.structs = new.structs.map StructLayout.unplaced := rfl
  unfold layoutChanges
  rw [oldStructs, newStructs, List.flatMap_map, List.flatMap_map]
  refine congrArg₂ (· ++ ·) (congrArg₂ (· ++ ·) rfl ?_) ?_
  · refine List.flatMap_congr fun struct _ => ?_
    rw [old.getStruct?_unplaced]
    dsimp only [StructLayout.unplaced]
    cases old.getStruct? struct.name with
    | none => rfl
    | some previous => exact structChanges_unplaced _ _ _
  · refine List.flatMap_congr fun struct _ => ?_
    rw [new.getStruct?_unplaced]
    dsimp only [StructLayout.unplaced]
    cases new.getStruct? struct.name <;> rfl

/-- Dumps are compared without regard to places. -/
theorem compare_unplaced (previous current : Dump) :
    compare previous.unplaced current.unplaced = compare previous current := by
  have oldLayouts : previous.unplaced.layouts = previous.layouts.map Layout.unplaced := rfl
  have newLayouts : current.unplaced.layouts = current.layouts.map Layout.unplaced := rfl
  unfold compare
  rw [oldLayouts, newLayouts, List.flatMap_map, List.flatMap_map]
  refine congrArg₂ (· ++ ·) ?_ ?_
  · refine List.flatMap_congr fun layout _ => ?_
    rw [previous.get?_unplaced]
    dsimp only [Layout.unplaced]
    cases previous.get? layout.name with
    | none => rfl
    | some old => exact Comparison.layoutChanges_unplaced _ _
  · refine List.flatMap_congr fun layout _ => ?_
    rw [current.get?_unplaced]
    dsimp only [Layout.unplaced]
    cases current.get? layout.name <;> rfl

/-- Places that are recorded are left out again. -/
theorem StructLayout.unplaced_withPositions (struct : StructLayout) :
    struct.withPositions.unplaced = struct.unplaced := by
  have each (member : Shape) (position : Position) :
      (recordPosition member position).unplaced = member.unplaced := by
    cases member <;> rfl
  have members := struct.map_members_withPositions each
  rw [← Shape.unplacedList_eq_map, ← Shape.unplacedList_eq_map] at members
  calc struct.withPositions.unplaced
      = ⟨struct.name, Shape.unplacedList struct.withPositions.members⟩ := rfl
    _ = struct.unplaced := by rw [members]; rfl

/-- Places that are recorded in a layout are left out again. -/
theorem Layout.unplaced_withPositions (layout : Layout) :
    layout.withPositions.unplaced = layout.unplaced := by
  unfold withPositions unplaced
  rw [List.map_map]
  congr 1
  exact List.map_congr_left fun struct _ => struct.unplaced_withPositions

/-- Places that are recorded in a dump with layouts of different names are left out again. -/
theorem Dump.unplaced_withPositions {dump : Dump}
    (distinct : (dump.layouts.map Layout.name).Nodup) :
    dump.withPositions.unplaced = dump.unplaced := by
  unfold unplaced
  rw [layouts_withPositions distinct, List.map_map]
  congr 1
  exact List.map_congr_left fun layout _ => layout.unplaced_withPositions

/-- Recording places again changes nothing in a layout. -/
theorem Layout.withPositions_withPositions (layout : Layout) :
    layout.withPositions.withPositions = layout.withPositions := by
  unfold withPositions
  rw [List.map_map]
  congr 1
  exact List.map_congr_left fun struct _ => struct.withPositions_withPositions

/-- Recording the places in a layout records them in each struct, and a second time it changes
nothing. Dumps that are the same but for recorded places, at whatever depth, have the same
differences in the same order, so that for dumps with layouts of different names it does not matter
whether the places in the one or the other have been recorded. -/
theorem places_do_not_matter :
    (∀ layout : Layout, layout.withPositions.withPositions = layout.withPositions ∧
      layout.withPositions.kind = layout.kind ∧ layout.withPositions.name = layout.name ∧
      List.Forall₂ RecordsPlaces layout.structs layout.withPositions.structs) ∧
    (∀ previous current old new : Dump, old.unplaced = previous.unplaced →
      new.unplaced = current.unplaced →
        compare? (some old) new = compare? (some previous) current) ∧
    ∀ previous current : Dump, (previous.layouts.map Layout.name).Nodup →
      (current.layouts.map Layout.name).Nodup →
      ∀ old new : Dump, (old = previous ∨ old = previous.withPositions) →
        (new = current ∨ new = current.withPositions) →
          compare? (some old) new = compare? (some previous) current := by
  have ignored (previous current old new : Dump) (same : old.unplaced = previous.unplaced)
      (same' : new.unplaced = current.unplaced) :
      compare? (some old) new = compare? (some previous) current := by
    calc compare old new = compare old.unplaced new.unplaced := (compare_unplaced old new).symm
      _ = compare previous.unplaced current.unplaced := by rw [same, same']
      _ = compare previous current := compare_unplaced previous current
  refine ⟨fun layout => ⟨layout.withPositions_withPositions, rfl, rfl, ?structs⟩, ignored,
    fun previous current oldDistinct newDistinct old new either either' => ?dumps⟩
  case structs =>
    dsimp only [Layout.withPositions]
    rw [List.forall₂_map_right_iff, List.forall₂_same]
    exact fun struct _ => recordsPlaces_withPositions struct
  case dumps =>
    apply ignored
    · rcases either with rfl | rfl
      · rfl
      · exact Dump.unplaced_withPositions oldDistinct
    · rcases either' with rfl | rfl
      · rfl
      · exact Dump.unplaced_withPositions newDistinct

/-! ## A fund -/

/-- The dump of a fund with the share of each owner behind a list of owners. -/
def fundDump (members : List Shape) : Dump := ⟨[⟨.library, "Fund", [⟨"Data", members⟩]⟩]⟩

/-- A dump of a fund with places that are out of date, in members and inside them. -/
def staleFund : Dump :=
  fundDump [.builtin ⟨"uint96", some "total", some 7, some 31, some 12⟩,
    .array (some "owners") (.struct "Owner" none
      [.builtin ⟨"address", some "account", some 2, some 5, some 20⟩] none) none]

/-- A dump of a fund without places, with one member more. -/
def grownFund : Dump :=
  fundDump [.builtin ⟨"uint96", some "total", none, none, some 12⟩,
    .array (some "owners") (.struct "Owner" none
      [.builtin ⟨"address", some "account", none, none, some 20⟩] none) none,
    .builtin ⟨"bool", some "closed", none, none, some 1⟩]

/-- A fund that grows has the same difference with places that are out of date and with new ones. -/
theorem stale_places_do_not_matter :
    compare? (some staleFund.withPositions) grownFund.withPositions =
      [Comparison.log .add "Fund.Data.closed added as bool"] := by
  obtain ⟨-, -, ignored⟩ := places_do_not_matter
  rw [ignored staleFund grownFund (by decide) (by decide) _ _ (.inr rfl) (.inr rfl)]
  decide +kernel

end ModularRouter.Storage
