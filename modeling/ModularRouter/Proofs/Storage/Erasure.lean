import ModularRouter.Proofs.Storage.Packing
import ModularRouter.Proofs.Storage.Preservation

/-!
# Shapes without records

`Shape.erased` leaves out the places and sizes that a dump records beside its shapes. Shapes that
are the same without them give no difference (`shapeChanges_eq_nil`), structs that were cut short
included, and regular shapes without a difference are the same (`erased_eq_of_shapeChanges_eq_nil`),
so that a comparison looks at every other part of a shape at every depth.

Both directions follow the recursion of `shapeChanges` and `memberChanges`. Names are compared at
the members of a struct and nowhere else, which is why regular shapes have names there and only
there.
-/

namespace ModularRouter.Storage

/-! ## Shapes without records -/

/-- A value of an elementary type without its recorded place and size. -/
def Builtin.erased (value : Builtin) : Builtin :=
  { value with slot := none, offset := none, size := none }

/-- Whether the type of a value is a known one, under the one name that stands in dumps. -/
def Builtin.isCanonical (value : Builtin) : Bool :=
  value.elementaryType?.map ElementaryType.canonical == some value.valueType

namespace Shape

mutual

/-- A shape without the recorded places and sizes of the values in it. -/
def erased : Shape → Shape
  | .builtin value => .builtin value.erased
  | .struct structName name members slots => .struct structName name (erasedList members) slots
  | .mapping name key value => .mapping name key.erased value.erased
  | .array name value length => .array name value.erased length
  | .enum enumName name members => .enum enumName name members

/-- Shapes without the recorded places and sizes of the values in them. -/
def erasedList : List Shape → List Shape
  | [] => []
  | shape :: rest => shape.erased :: erasedList rest

end

mutual

/-- Whether all elementary types inside a shape stand under their names in dumps. -/
def isCanonical : Shape → Bool
  | .builtin value => value.isCanonical
  | .struct _ _ members _ => areCanonical members
  | .mapping _ key value => key.isCanonical && value.isCanonical
  | .array _ value _ => value.isCanonical
  | .enum .. => true

/-- Whether all elementary types inside some shapes stand under their names in dumps. -/
def areCanonical : List Shape → Bool
  | [] => true
  | shape :: rest => shape.isCanonical && areCanonical rest

end

mutual

/-- Whether inside a shape all members of structs have names, no keys, values of mappings or
elements of arrays have any, and no struct is cut short to a count of words. -/
def isRegular : Shape → Bool
  | .builtin _ => true
  | .struct _ _ members slots => slots.isNone && areRegular members
  | .mapping _ key value => key.name.isNone && value.name?.isNone && value.isRegular
  | .array _ value _ => value.name?.isNone && value.isRegular
  | .enum .. => true

/-- Whether some shapes have names and are regular inside. -/
def areRegular : List Shape → Bool
  | [] => true
  | shape :: rest => shape.name?.isSome && shape.isRegular && areRegular rest

end

/-- The shapes of a list are erased one by one. -/
theorem erasedList_eq_map (shapes : List Shape) : erasedList shapes = shapes.map erased := by
  induction shapes with
  | nil => rfl
  | cons shape rest ih => rw [erasedList, ih, List.map_cons]

/-- What is erased is not the name. -/
theorem name?_erased (shape : Shape) : shape.erased.name? = shape.name? := by
  cases shape <;> rfl

end Shape

/-- Values that are the same without their records are of one type. -/
theorem Builtin.valueType_eq_of_erased_eq {old new : Builtin} (same : old.erased = new.erased) :
    old.valueType = new.valueType := by
  have kept : old.erased.valueType = new.erased.valueType := by rw [same]
  exact kept

/-- A known type alone decides the space of a value, whatever size was recorded. -/
theorem Builtin.footprint_erased {value : Builtin} (canonical : value.isCanonical = true) :
    value.erased.footprint = value.footprint := by
  have named : value.elementaryType?.map ElementaryType.canonical = some value.valueType :=
    beq_iff_eq.1 canonical
  obtain ⟨type, known, -⟩ := Option.map_eq_some_iff.1 named
  have again : value.erased.elementaryType? = some type := known
  rw [footprint, footprint, known, again]

namespace Shape

mutual

/-- A shape takes the space that it takes without its records. -/
theorem footprint_erased : (shape : Shape) → shape.isCanonical = true →
    shape.erased.footprint = shape.footprint
  | .builtin value, canonical => by
    rw [isCanonical] at canonical
    rw [erased, footprint, footprint, Builtin.footprint_erased canonical]
  | .struct structName name [] slots, _ => rfl
  | .struct structName name (first :: rest) slots, canonical => by
    rw [isCanonical] at canonical
    have each := footprints_erased (first :: rest) canonical
    rw [erasedList] at each
    rw [erased, erasedList, footprint_struct _ _ (.inl (List.cons_ne_nil _ _)),
      footprint_struct _ _ (.inl (List.cons_ne_nil _ _)), packing, packing,
      ← footprints_eq_map, ← footprints_eq_map, each]
  | .mapping .., _ => rfl
  | .array _ _ none, _ => rfl
  | .array _ value (some length), canonical => by
    rw [isCanonical] at canonical
    rw [erased, footprint, footprint, footprint_erased value canonical]
  | .enum .., _ => rfl

/-- Shapes take the spaces that they take without their records. -/
theorem footprints_erased : (shapes : List Shape) → areCanonical shapes = true →
    footprints (erasedList shapes) = footprints shapes
  | [], _ => rfl
  | shape :: rest, canonical => by
    rw [areCanonical, Bool.and_eq_true] at canonical
    rw [erasedList, footprints, footprints, footprint_erased shape canonical.1,
      footprints_erased rest canonical.2]

end

/-- Shapes that are the same without their records take the same space. -/
theorem footprint_eq_of_erased_eq {old new : Shape} (oldCanonical : old.isCanonical = true)
    (newCanonical : new.isCanonical = true) (same : old.erased = new.erased) :
    old.footprint = new.footprint := by
  calc old.footprint = old.erased.footprint := (footprint_erased old oldCanonical).symm
    _ = new.erased.footprint := by rw [same]
    _ = new.footprint := footprint_erased new newCanonical

end Shape

namespace Comparison

/-! ## The same shapes give no difference -/

/-- A name that stays is no difference. -/
theorem renameChanges_eq_nil_of_name?_eq {path : String} {index : Nat} {declared : List Shape}
    {old new : Shape} (same : old.name? = new.name?) :
    renameChanges path index declared old new = [] := by
  rw [renameChanges, same]
  cases new.name? with
  | none => rfl
  | some name =>
    dsimp only
    exact if_pos rfl

mutual

/-- Two shapes that are the same without their records give no difference. -/
theorem shapeChanges_eq_nil (path : String) : (old new : Shape) → old.isCanonical = true →
    new.isCanonical = true → old.erased = new.erased → shapeChanges path old new = []
  | .builtin old, new, _, _, same => by
    cases new with
    | builtin new =>
      rw [Shape.erased, Shape.erased] at same
      have type := Builtin.valueType_eq_of_erased_eq (Shape.builtin.inj same)
      rw [shapeChanges, builtinChanges, if_pos type]
    | _ => cases same
  | .struct oldName _ olds _, new, oldCanonical, newCanonical, same => by
    cases new with
    | struct newName _ news _ =>
      rw [Shape.isCanonical] at oldCanonical newCanonical
      obtain ⟨name, -, members, -⟩ := Shape.struct.inj same
      rw [shapeChanges, typeRename, if_pos name,
        memberChanges_eq_nil (.start path olds) olds news rfl oldCanonical newCanonical members]
      rfl
    | _ => cases same
  | .mapping _ oldKey oldValue, new, oldCanonical, newCanonical, same => by
    cases new with
    | mapping _ newKey newValue =>
      rw [Shape.isCanonical, Bool.and_eq_true] at oldCanonical newCanonical
      obtain ⟨-, key, value⟩ := Shape.mapping.inj same
      rw [shapeChanges, keyChanges, if_pos (Builtin.valueType_eq_of_erased_eq key),
        shapeChanges_eq_nil _ oldValue newValue oldCanonical.2 newCanonical.2 value]
      rfl
    | _ => cases same
  | .array _ oldValue oldLength, new, oldCanonical, newCanonical, same => by
    cases new with
    | array _ newValue newLength =>
      rw [Shape.isCanonical] at oldCanonical newCanonical
      obtain ⟨-, value, length⟩ := Shape.array.inj same
      have space := Shape.footprint_eq_of_erased_eq oldCanonical newCanonical value
      rw [shapeChanges, if_neg (not_not.2 length), if_neg fun moved => moved.1 space]
      exact shapeChanges_eq_nil _ oldValue newValue oldCanonical newCanonical value
    | _ => cases same
  | .enum _ _ olds, new, _, _, same => by
    cases new with
    | enum _ _ news =>
      obtain ⟨name, -, members⟩ := Shape.enum.inj same
      rw [shapeChanges, typeRename, if_pos name, enumMemberChanges, if_pos members]
      rfl
    | _ => cases same

/-- Members that are the same without their records give no difference where they start at one
position. -/
theorem memberChanges_eq_nil (progress : Progress) : (olds news : List Shape) →
    progress.old = progress.new → Shape.areCanonical olds = true →
    Shape.areCanonical news = true → Shape.erasedList olds = Shape.erasedList news →
    memberChanges progress olds news = []
  | [], [], _, _, _, _ => by rw [memberChanges]; rfl
  | old :: olds, new :: news, start, oldCanonical, newCanonical, same => by
    rw [Shape.areCanonical, Bool.and_eq_true] at oldCanonical newCanonical
    obtain ⟨first, rest⟩ := List.cons.inj same
    have name : old.name? = new.name? := by rw [← old.name?_erased, first, new.name?_erased]
    have space := Shape.footprint_eq_of_erased_eq oldCanonical.1 newCanonical.1 first
    -- What takes one space from one position on ends at one position.
    have next : (progress.advance old new).old = (progress.advance old new).new := by
      rw [Progress.advance]
      dsimp only
      rw [start, space]
    rw [memberChanges, renameChanges_eq_nil_of_name?_eq name, start, space, positionChanges,
      if_pos rfl, shapeChanges_eq_nil _ old new oldCanonical.1 newCanonical.1 first,
      memberChanges_eq_nil _ olds news next oldCanonical.2 newCanonical.2 rest]
    rfl
  | [], _ :: _, _, _, _, same => by cases same
  | _ :: _, [], _, _, _, same => by cases same

end

/-! ## No difference between regular shapes only if they are the same -/

/-- Two members with names give no difference in their names only if they have one name. -/
theorem name?_eq_of_renameChanges_eq_nil {path : String} {index : Nat} {declared : List Shape}
    {old new : Shape} (oldNamed : old.name?.isSome = true) (newNamed : new.name?.isSome = true)
    (silent : renameChanges path index declared old new = []) : old.name? = new.name? := by
  obtain ⟨before, oldName⟩ := Option.isSome_iff_exists.1 oldNamed
  obtain ⟨now, newName⟩ := Option.isSome_iff_exists.1 newNamed
  rw [renameChanges, oldName, newName] at silent
  by_cases same : before = now
  · rw [oldName, newName, same]
  · -- Another name is reported, whether it was the name of another member or is a new one.
    dsimp only at silent
    rw [if_neg same] at silent
    split at silent <;> cases silent

/-- Two names of types give no difference only if they are one. -/
theorem eq_of_typeRename_eq_nil {path what old new : String}
    (silent : typeRename path what old new = []) : old = new := by
  rw [typeRename] at silent
  by_contra other
  rw [if_neg other] at silent
  cases silent

/-- Two elementary types give no difference only if they have one name. -/
theorem valueType_eq_of_builtinChanges_eq_nil {path : String} {old new : Builtin}
    (silent : builtinChanges path old new = []) : old.valueType = new.valueType := by
  rw [builtinChanges] at silent
  by_contra other
  rw [if_neg other] at silent
  dsimp only at silent
  split at silent <;> cases silent

/-- Two types of keys give no difference only if they have one name. -/
theorem valueType_eq_of_keyChanges_eq_nil {path : String} {old new : Builtin}
    (silent : keyChanges path old new = []) : old.valueType = new.valueType := by
  rw [keyChanges] at silent
  by_contra other
  rw [if_neg other] at silent
  dsimp only at silent
  split at silent <;> cases silent

/-- The members of two enumerations give no difference only if they are the same. -/
theorem eq_of_enumMemberChanges_eq_nil {path : String} {old new : List String}
    (silent : enumMemberChanges path old new = []) : old = new := by
  rw [enumMemberChanges] at silent
  by_contra other
  rw [if_neg other] at silent
  split at silent <;> cases silent

/-- Values of one name and one type are the same without their records. -/
theorem erased_eq_of_valueType_eq {old new : Builtin} (type : old.valueType = new.valueType)
    (name : old.name = new.name) : old.erased = new.erased := by
  rw [Builtin.erased, Builtin.erased, type, name]

mutual

/-- Two regular shapes of one name that give no difference are the same without their records. -/
theorem erased_eq_of_shapeChanges_eq_nil (path : String) : (old new : Shape) →
    old.isRegular = true → new.isRegular = true → old.name? = new.name? →
    shapeChanges path old new = [] → old.erased = new.erased
  | .builtin old, new, _, _, name, silent => by
    cases new with
    | builtin new =>
      rw [shapeChanges] at silent
      have type := valueType_eq_of_builtinChanges_eq_nil silent
      rw [Shape.erased, Shape.erased, erased_eq_of_valueType_eq type name]
    | _ => simp [shapeChanges] at silent
  | .struct oldName oldVariable olds oldSlots, new, oldRegular, newRegular, name, silent => by
    cases new with
    | struct newName newVariable news newSlots =>
      rw [Shape.isRegular, Bool.and_eq_true] at oldRegular newRegular
      rw [shapeChanges, List.append_eq_nil_iff] at silent
      obtain rfl := Option.isNone_iff_eq_none.1 oldRegular.1
      obtain rfl := Option.isNone_iff_eq_none.1 newRegular.1
      have own : oldVariable = newVariable := name
      have members := erased_eq_of_memberChanges_eq_nil (.start path olds) olds news oldRegular.2
        newRegular.2 silent.2
      rw [Shape.erased, Shape.erased, eq_of_typeRename_eq_nil silent.1, own, members]
    | _ => simp [shapeChanges] at silent
  | .mapping oldVariable oldKey oldValue, new, oldRegular, newRegular, name, silent => by
    cases new with
    | mapping newVariable newKey newValue =>
      simp only [Shape.isRegular, Bool.and_eq_true, Option.isNone_iff_eq_none] at oldRegular
      simp only [Shape.isRegular, Bool.and_eq_true, Option.isNone_iff_eq_none] at newRegular
      obtain ⟨⟨oldKeyName, oldValueName⟩, oldInside⟩ := oldRegular
      obtain ⟨⟨newKeyName, newValueName⟩, newInside⟩ := newRegular
      rw [shapeChanges, List.append_eq_nil_iff] at silent
      have own : oldVariable = newVariable := name
      have key := erased_eq_of_valueType_eq (valueType_eq_of_keyChanges_eq_nil silent.1)
        (oldKeyName.trans newKeyName.symm)
      have value := erased_eq_of_shapeChanges_eq_nil _ oldValue newValue oldInside newInside
        (oldValueName.trans newValueName.symm) silent.2
      rw [Shape.erased, Shape.erased, own, key, value]
    | _ => simp [shapeChanges] at silent
  | .array oldVariable oldValue oldLength, new, oldRegular, newRegular, name, silent => by
    cases new with
    | array newVariable newValue newLength =>
      simp only [Shape.isRegular, Bool.and_eq_true, Option.isNone_iff_eq_none] at oldRegular
      simp only [Shape.isRegular, Bool.and_eq_true, Option.isNone_iff_eq_none] at newRegular
      obtain ⟨oldValueName, oldInside⟩ := oldRegular
      obtain ⟨newValueName, newInside⟩ := newRegular
      have own : oldVariable = newVariable := name
      rw [shapeChanges] at silent
      -- A comparison that stops at the lengths or at the spaces of the elements says so.
      split at silent
      · cases silent
      · next length =>
        split at silent
        · cases silent
        · have value := erased_eq_of_shapeChanges_eq_nil _ oldValue newValue oldInside newInside
            (oldValueName.trans newValueName.symm) silent
          rw [Shape.erased, Shape.erased, own, value, not_not.1 length]
    | _ => simp [shapeChanges] at silent
  | .enum oldName oldVariable olds, new, _, _, name, silent => by
    cases new with
    | enum newName newVariable news =>
      rw [shapeChanges, List.append_eq_nil_iff] at silent
      have own : oldVariable = newVariable := name
      rw [Shape.erased, Shape.erased, eq_of_typeRename_eq_nil silent.1, own,
        eq_of_enumMemberChanges_eq_nil silent.2]
    | _ => simp [shapeChanges] at silent

/-- Regular members that give no difference are the same without their records. -/
theorem erased_eq_of_memberChanges_eq_nil (progress : Progress) : (olds news : List Shape) →
    Shape.areRegular olds = true → Shape.areRegular news = true →
    memberChanges progress olds news = [] → Shape.erasedList olds = Shape.erasedList news
  | [], [], _, _, _ => rfl
  | [], added :: rest, _, _, silent => by
    rw [memberChanges, addedMembers, unpairedMembers] at silent
    cases silent
  | removed :: rest, [], _, _, silent => by
    rw [memberChanges, removedMembers, unpairedMembers] at silent
    · cases silent
    · simp
  | old :: olds, new :: news, oldRegular, newRegular, silent => by
    simp only [Shape.areRegular, Bool.and_eq_true] at oldRegular newRegular
    obtain ⟨⟨oldNamed, oldInside⟩, oldRest⟩ := oldRegular
    obtain ⟨⟨newNamed, newInside⟩, newRest⟩ := newRegular
    simp only [memberChanges, List.append_eq_nil_iff] at silent
    obtain ⟨⟨⟨rename, -⟩, shape⟩, rest⟩ := silent
    have name := name?_eq_of_renameChanges_eq_nil oldNamed newNamed rename
    have first := erased_eq_of_shapeChanges_eq_nil _ old new oldInside newInside name shape
    have others := erased_eq_of_memberChanges_eq_nil _ olds news oldRest newRest rest
    rw [Shape.erasedList, Shape.erasedList, first, others]

end

end Comparison

end ModularRouter.Storage
