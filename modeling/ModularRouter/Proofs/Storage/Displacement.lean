import ModularRouter.Proofs.Storage.Erasure
import ModularRouter.Proofs.Storage.ReadableDumps

/-!
# Values that get another size

A value of an elementary type that gets another size is reported where its type gets another name.
A type that is not a known one has the size that is recorded with it, so its size can change under
one name, and the comparison looks at names first: such a value is only noticed by what it
displaces, the members behind it or the elements of an array it is in. `resized_type_noticed_iff`
says what is noticed, and `resized_last_member_is_harmless` is the least upgrade that is let through.

`Displaced` is what one look at two shapes finds, and `DisplacedWithin` what is found anywhere inside
them. Compatible shapes have nothing displaced. The converse holds for shapes that are the same but
for what is recorded with their types, by induction on both at once
(`compatible_iff_not_displacedWithin`).
-/

namespace ModularRouter.Storage

/-! ## Parts at other places -/

/-- Whether the parts of one shape stand at other places than those of another one: the elements of
two arrays take different space, as far as it was measured, or a member that two structs have has
another position. -/
def Displaced : (old new : Shape) → Prop
  | .array _ old _, .array _ new _ =>
    old.footprint ≠ new.footprint ∧ Comparison.isUnmeasured old = false ∧
      Comparison.isUnmeasured new = false
  | .struct _ _ olds _, .struct _ _ news _ =>
    ∃ index < min olds.length news.length,
      (packing olds).positions[index]? ≠ (packing news).positions[index]?
  | _, _ => False

/-- Whether some path leads to shapes whose parts stand at other places. -/
def DisplacedWithin (old new : Shape) : Prop :=
  ∃ path oldPart newPart, old.at? path = some oldPart ∧ new.at? path = some newPart ∧
    Displaced oldPart newPart

/-- What is displaced in two shapes is displaced within them. -/
theorem Displaced.within {old new : Shape} (displaced : Displaced old new) :
    DisplacedWithin old new :=
  ⟨[], old, new, rfl, rfl, displaced⟩

/-- What is displaced within two parts is displaced within the shapes around them. -/
theorem DisplacedWithin.of_part {old new oldPart newPart : Shape} (step : Step)
    (oldInside : old.part? step = some oldPart) (newInside : new.part? step = some newPart)
    (displaced : DisplacedWithin oldPart newPart) : DisplacedWithin old new := by
  obtain ⟨path, oldEnd, newEnd, oldAt, newAt, apart⟩ := displaced
  refine ⟨step :: path, oldEnd, newEnd, ?_, ?_, apart⟩
  · rw [Shape.at?_cons oldInside, oldAt]
  · rw [Shape.at?_cons newInside, newAt]

/-- What is displaced within the shapes at one place is displaced within those around them. -/
theorem DisplacedWithin.of_at {old new oldPart newPart : Shape} {path : List Step}
    (oldAt : old.at? path = some oldPart) (newAt : new.at? path = some newPart)
    (displaced : Displaced oldPart newPart) : DisplacedWithin old new :=
  ⟨path, oldPart, newPart, oldAt, newAt, displaced⟩

namespace Compatible

/-- The parts of compatible shapes stand at the same places. -/
theorem not_displaced {old new : Shape} (compatible : Compatible old new) :
    ¬ Displaced old new := by
  intro displaced
  cases compatible with
  | builtin | mapping | enum => exact displaced
  | struct names places shapes =>
    obtain ⟨index, inside, moved⟩ := displaced
    exact moved (places index inside)
  | array space value =>
    obtain ⟨other, oldMeasured, newMeasured⟩ := displaced
    rcases space with same | oldUnmeasured | newUnmeasured
    · exact other same
    · simp [oldMeasured] at oldUnmeasured
    · simp [newMeasured] at newUnmeasured

/-- Nothing is displaced within compatible shapes. -/
theorem not_displacedWithin {old new : Shape} (compatible : Compatible old new) :
    ¬ DisplacedWithin old new := by
  rintro ⟨path, oldPart, newPart, oldAt, newAt, displaced⟩
  have parts : Compatible oldPart newPart := compatible.along path oldAt newAt
  exact parts.not_displaced displaced

end Compatible

/-! ## Shapes that are the same without their records -/

/-- Members at one index are the same without their records when all members are. -/
theorem erased_eq_of_getElem? {olds news : List Shape}
    (same : Shape.erasedList olds = Shape.erasedList news) {index : Nat} {old new : Shape}
    (oldAt : olds[index]? = some old) (newAt : news[index]? = some new) :
    old.erased = new.erased := by
  rw [Shape.erasedList_eq_map, Shape.erasedList_eq_map] at same
  have each : (olds.map Shape.erased)[index]? = (news.map Shape.erased)[index]? := by rw [same]
  rwa [List.getElem?_map, List.getElem?_map, oldAt, newAt, Option.map_some, Option.map_some,
    Option.some.injEq] at each

/-- Members that keep their names have no name that another member had. -/
theorem keepsName_of_name?_eq {declared : List Shape} {old new : Shape}
    (same : old.name? = new.name?) : Comparison.KeepsName declared old new := by
  intro before now oldName newName other
  rw [oldName, newName, Option.some.injEq] at same
  exact absurd same other

mutual

/-- Shapes that are the same without their records are compatible if nothing is displaced within
them. -/
theorem compatible_of_erased_eq : (old new : Shape) → old.erased = new.erased →
    ¬ DisplacedWithin old new → Compatible old new
  | .builtin old, new, same, _ => by
    cases new with
    | builtin new =>
      have type : old.valueType = new.valueType :=
        Builtin.valueType_eq_of_erased_eq (Shape.builtin.inj same)
      exact .builtin (.inl type)
    | _ => cases same
  | .struct _ _ olds _, new, same, stays => by
    cases new with
    | struct _ _ news _ =>
      -- Names are not recorded with types, so they are the same, and only positions can break.
      obtain ⟨-, -, members, -⟩ := Shape.struct.inj same
      refine compatible_struct_iff.2 ⟨?names, ?places, ?shapes⟩
      case names =>
        intro index old new oldAt newAt
        have erased := erased_eq_of_getElem? members oldAt newAt
        apply keepsName_of_name?_eq
        rw [← old.name?_erased, erased, new.name?_erased]
      case places =>
        intro index inside
        by_contra moved
        exact stays (Displaced.within ⟨index, inside, moved⟩)
      case shapes =>
        refine compatible_of_erasedList_eq olds news members fun index old new oldAt newAt => ?_
        intro displaced
        exact stays (.of_part (.member index) oldAt newAt displaced)
    | _ => cases same
  | .mapping _ oldKey oldValue, new, same, stays => by
    cases new with
    | mapping _ newKey newValue =>
      obtain ⟨-, key, value⟩ := Shape.mapping.inj same
      have type : oldKey.valueType = newKey.valueType := Builtin.valueType_eq_of_erased_eq key
      refine .mapping (.inl type) (compatible_of_erased_eq oldValue newValue value ?_)
      intro displaced
      exact stays (.of_part .key rfl rfl displaced)
    | _ => cases same
  | .array _ oldValue _, new, same, stays => by
    cases new with
    | array _ newValue _ =>
      obtain ⟨-, value, rfl⟩ := Shape.array.inj same
      refine .array ?space (compatible_of_erased_eq oldValue newValue value ?inside)
      case space =>
        by_contra other
        simp only [not_or, Bool.not_eq_true] at other
        exact stays (Displaced.within other)
      case inside =>
        intro displaced
        exact stays (.of_part (.element 0) rfl rfl displaced)
    | _ => cases same
  | .enum _ _ olds, new, same, _ => by
    cases new with
    | enum _ _ news =>
      obtain ⟨-, -, rfl⟩ := Shape.enum.inj same
      exact .enum ⟨List.prefix_rfl, rfl⟩
    | _ => cases same

/-- Members that are the same without their records are compatible if nothing is displaced within
them. -/
theorem compatible_of_erasedList_eq : (olds news : List Shape) →
    Shape.erasedList olds = Shape.erasedList news →
    (∀ (index : Nat) old new, olds[index]? = some old → news[index]? = some new →
      ¬ DisplacedWithin old new) →
    ∀ (index : Nat) old new, olds[index]? = some old → news[index]? = some new →
      Compatible old new
  | [], _, _, _ => by
    intro index old new oldAt
    rw [List.getElem?_nil] at oldAt
    cases oldAt
  | _ :: _, [], same, _ => by cases same
  | first :: olds, other :: news, same, stay => by
    obtain ⟨head, tail⟩ := List.cons.inj same
    intro index old new oldAt newAt
    cases index with
    | zero =>
      cases oldAt
      cases newAt
      exact compatible_of_erased_eq first other head (stay 0 first other rfl rfl)
    | succ index =>
      exact compatible_of_erasedList_eq olds news tail (fun later => stay (later + 1)) index old
        new oldAt newAt

end

/-- Shapes that are the same without their records are compatible exactly when nothing is displaced
within them. -/
theorem compatible_iff_not_displacedWithin {old new : Shape} (same : old.erased = new.erased) :
    Compatible old new ↔ ¬ DisplacedWithin old new :=
  ⟨Compatible.not_displacedWithin, compatible_of_erased_eq old new same⟩

/-! ## Sizes of elementary types -/

/-- Whether two shapes hold two values of elementary types in one place: they are these values, or
mappings whose keys these values are. -/
inductive InPlace (old new : Builtin) : (oldShape newShape : Shape) → Prop where
  /-- The values as members, elements or values of mappings. -/
  | value : InPlace old new (.builtin old) (.builtin new)
  /-- The values as keys. -/
  | key (oldName newName : Option String) (oldValue newValue : Shape) :
      InPlace old new (.mapping oldName old oldValue) (.mapping newName new newValue)

/-- Values in one place of compatible shapes have types of one name or of one space. -/
theorem InPlace.same_of_compatible {old new : Builtin} {oldShape newShape : Shape}
    (held : InPlace old new oldShape newShape) (compatible : Compatible oldShape newShape) :
    old.valueType = new.valueType ∨ old.footprint = new.footprint := by
  cases held with
  | value =>
    cases compatible with
    | builtin same => exact same
  | key =>
    cases compatible with
    | mapping same => exact same

/-- Only a type that is not a known one can have another size under its name. -/
theorem Builtin.elementaryType?_eq_none_of_resized {old new : Builtin}
    (named : old.valueType = new.valueType) (resized : old.footprint ≠ new.footprint) :
    old.elementaryType? = none := by
  by_contra known
  obtain ⟨type, found⟩ := Option.ne_none_iff_exists'.1 known
  have again : new.elementaryType? = some type := by
    rw [← found, elementaryType?, elementaryType?, named]
  rw [footprint, footprint, found, again] at resized
  exact resized rfl

/-- Elements of an array that get another size are displaced. -/
theorem displacedWithin_of_resized_element {old new : Shape} {oldValue newValue : Builtin}
    {outer : List Step} {index : Nat}
    (oldAt : old.at? (outer ++ [.element index]) = some (.builtin oldValue))
    (newAt : new.at? (outer ++ [.element index]) = some (.builtin newValue))
    (resized : oldValue.footprint ≠ newValue.footprint) : DisplacedWithin old new := by
  obtain ⟨oldArray, oldOuter, oldInside⟩ := Shape.exists_of_at?_concat oldAt
  obtain ⟨newArray, newOuter, newInside⟩ := Shape.exists_of_at?_concat newAt
  obtain ⟨oldName, oldLength, rfl⟩ := Shape.eq_array_of_part? oldInside
  obtain ⟨newName, newLength, rfl⟩ := Shape.eq_array_of_part? newInside
  have space : (Shape.builtin oldValue).footprint ≠ (Shape.builtin newValue).footprint := by
    rwa [Shape.footprint, Shape.footprint]
  exact .of_at oldOuter newOuter ⟨space, rfl, rfl⟩

/-- Let two structs that an upgrade compares hold two values of elementary types in one place at any
depth, as members, as keys or values of mappings or as elements of arrays, and let the space that
the values take differ. A breaking difference is reported if the types have different names, or if
anything within the structs is displaced, as the elements of an array are. Types of one name can
only differ so if they are not known, and if nothing but what is recorded with types differs in
the structs, the comparison of the structs breaks exactly when something is displaced. -/
theorem resized_type_noticed_iff (previous current : Dump) (before after : StructLayout)
    (paired : previous.Pairs current before after) (path : List Step) (oldShape newShape : Shape)
    (oldAt : before.shape.at? path = some oldShape) (newAt : after.shape.at? path = some newShape)
    (old new : Builtin) (held : InPlace old new oldShape newShape)
    (resized : old.footprint ≠ new.footprint) :
    (old.valueType ≠ new.valueType ∨ DisplacedWithin before.shape after.shape →
        ¬ Harmless (compare? (some previous) current)) ∧
      (∀ outer index, path = outer ++ [.element index] → oldShape = .builtin old →
        DisplacedWithin before.shape after.shape) ∧
      (old.valueType = new.valueType → old.elementaryType? = none) ∧
      (before.members.map Shape.erased = after.members.map Shape.erased → ∀ layoutName,
        (¬ Harmless (Comparison.structChanges layoutName before after) ↔
          DisplacedWithin before.shape after.shape)) := by
  refine ⟨?noticed, ?element, fun named => Builtin.elementaryType?_eq_none_of_resized named resized,
    ?exact⟩
  case noticed =>
    intro reason harmless
    rcases reason with renamed | displaced
    · have compatible : Compatible oldShape newShape :=
        paired.compatible_of_harmless harmless path oldAt newAt
      rcases held.same_of_compatible compatible with named | space
      · exact renamed named
      · exact resized space
    · have compatible : Compatible before.shape after.shape :=
        paired.compatible_of_harmless harmless [] rfl rfl
      exact compatible.not_displacedWithin displaced
  case element =>
    rintro outer index rfl rfl
    cases held with
    | value => exact displacedWithin_of_resized_element oldAt newAt resized
  case exact =>
    intro same layoutName
    have erased : before.shape.erased = after.shape.erased := by
      rw [StructLayout.shape, StructLayout.shape, Shape.erased, Shape.erased,
        Shape.erasedList_eq_map, Shape.erasedList_eq_map, same, paired.name_eq]
    have shapes := compatible_iff_not_displacedWithin erased
    rw [StructLayout.shape, StructLayout.shape, compatible_struct_iff] at shapes
    rw [Comparison.structChanges_harmless_iff, shapes, not_not, StructLayout.shape,
      StructLayout.shape]

/-! ## Rates of a type that is not known -/

/-- A rate of a given size. -/
def rate (size : Nat) : Builtin where
  valueType := "fixed128x18"
  size := some size

/-- The dump of a market with a list of rates. -/
def rateListDump (size : Nat) : Dump :=
  marketDump ⟨"Data", [.array (some "rates") (.builtin (rate size)) none]⟩

/-- The dump of a market with one rate. -/
def rateDump (size : Nat) : Dump :=
  marketDump ⟨"Data", [(Shape.builtin (rate size)).named "rate"]⟩

/-- A list of rates that get another size is noticed. -/
theorem resized_list_is_noticed :
    (rate 16).footprint ≠ (rate 32).footprint ∧
      ¬ Harmless (compare? (some (rateListDump 16)) (rateListDump 32)) := by
  have resized : (rate 16).footprint ≠ (rate 32).footprint := by decide +kernel
  have paired : (rateListDump 16).Pairs (rateListDump 32)
      ⟨"Data", [.array (some "rates") (.builtin (rate 16)) none]⟩
      ⟨"Data", [.array (some "rates") (.builtin (rate 32)) none]⟩ :=
    ⟨_, List.mem_singleton_self _, _, rfl, List.mem_singleton_self _, rfl⟩
  obtain ⟨noticed, element, -, -⟩ := resized_type_noticed_iff (rateListDump 16) (rateListDump 32)
    _ _ paired [.member 0, .element 0] _ _ rfl rfl (rate 16) (rate 32) .value resized
  exact ⟨resized, noticed (.inr (element [.member 0] 0 rfl rfl))⟩

/-- A rate that gets another size as the last member is not noticed. -/
theorem resized_last_member_is_harmless :
    Dump.read? (rateDump 16).write = some (rateDump 16) ∧
      Dump.read? (rateDump 32).write = some (rateDump 32) ∧
      (rate 16).footprint ≠ (rate 32).footprint ∧
      compare? (some (rateDump 16)) (rateDump 32) = [] :=
  ⟨(Dump.read?_write_eq_some_iff (by decide)).2 (by decide),
    (Dump.read?_write_eq_some_iff (by decide)).2 (by decide), by decide +kernel,
    by decide +kernel⟩

end ModularRouter.Storage
