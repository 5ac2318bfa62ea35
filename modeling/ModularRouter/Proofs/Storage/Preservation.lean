import ModularRouter.Proofs.Storage.Compatibility
import ModularRouter.Proofs.Storage.Places

/-!
# Upgrades keep values where they are

An upgrade without a breaking difference never moves a value that both versions hold, at whatever
depth the value lies, and never changes the space of a value of an elementary type.

`Compatible.follow` carries the argument: a step from compatible shapes leads to compatible shapes
(`Compatible.part`) at one position (`Compatible.position_eq`). It is proved along the path, so that
growth at the end of an inner struct, or behind a mapping, does no harm. The shapes have to be
expanded, since nothing is compared inside a struct whose members were left out.
-/

namespace ModularRouter.Storage

namespace Compatible

/-- Compatible expanded shapes agree in what kind of shape they are. -/
theorem variant_eq {old new : Shape} (compatible : Compatible old new) :
    old.variant = new.variant := by
  cases compatible <;> rfl

/-- Compatible builtins of known types take one space. -/
theorem builtin_footprint_eq {old new : Builtin}
    (compatible : Compatible (.builtin old) (.builtin new))
    (known : old.elementaryType?.isSome) : old.footprint = new.footprint := by
  cases compatible with
  | builtin same =>
    rcases same with sameType | sameSpace
    · -- A known type alone decides the space, whatever size was recorded.
      obtain ⟨type, known⟩ := Option.isSome_iff_exists.1 known
      have known' : new.elementaryType? = some type := by
        rw [← known, Builtin.elementaryType?, Builtin.elementaryType?, sameType]
      rw [Builtin.footprint, Builtin.footprint, known, known']
    · exact sameSpace

/-- A struct that is expanded was measured. -/
theorem isUnmeasured_eq_false {shape : Shape} (expanded : shape.isExpanded = true) :
    Comparison.isUnmeasured shape = false := by
  unfold Comparison.isUnmeasured
  split
  · simp [Shape.isExpanded] at expanded
  · rfl

/-- Compatible expanded arrays have one stride. -/
theorem stride_eq {old new : Shape} (compatible : Compatible old new)
    (oldExpanded : old.isExpanded = true) (newExpanded : new.isExpanded = true) :
    old.stride? = new.stride? := by
  cases compatible with
  | array space value =>
    rw [Shape.isExpanded] at oldExpanded newExpanded
    simpa [Shape.stride?, isUnmeasured_eq_false oldExpanded,
      isUnmeasured_eq_false newExpanded] using space
  | _ => rfl

/-- Compatible values of an elementary type, or of an enumeration, take one space. -/
theorem footprint_eq {old new : Shape} (compatible : Compatible old new)
    (oldExpanded : old.isExpanded = true)
    (leaf : old.variant = "builtin" ∨ old.variant = "enum") :
    old.footprint = new.footprint := by
  cases compatible with
  | builtin same =>
    rw [Shape.isExpanded] at oldExpanded
    rw [Shape.footprint, Shape.footprint, builtin_footprint_eq (.builtin same) oldExpanded]
  | enum extended => rw [Shape.footprint, Shape.footprint, extended.2]
  | struct | mapping | array => simp [Shape.variant] at leaf

/-- A step inside an expanded shape leads to an expanded shape. -/
theorem part_isExpanded {shape part : Shape} (expanded : shape.isExpanded = true) {step : Step}
    (inside : shape.part? step = some part) : part.isExpanded = true := by
  unfold Shape.part? at inside
  split at inside
  · simp only [Shape.isExpanded, Bool.and_eq_true, Shape.areExpanded_iff] at expanded
    exact expanded.2 _ (List.mem_of_getElem? inside)
  · simp only [Option.some.injEq] at inside
    rwa [Shape.isExpanded, inside] at expanded
  · simp only [Option.some.injEq] at inside
    rw [Shape.isExpanded, Bool.and_eq_true, inside] at expanded
    exact expanded.2
  · simp at inside

/-- A step that can be taken from compatible expanded shapes leads to one position. -/
theorem position_eq {old new : Shape} (compatible : Compatible old new)
    (oldExpanded : old.isExpanded = true) (newExpanded : new.isExpanded = true) (step : Step)
    {oldPosition newPosition : Position} (oldPlace : old.position? step = some oldPosition)
    (newPlace : new.position? step = some newPosition) : oldPosition = newPosition := by
  have stride := compatible.stride_eq oldExpanded newExpanded
  cases compatible with
  | builtin | enum => simp [Shape.position?] at oldPlace
  | @struct _ _ _ _ olds news _ _ names places shapes =>
    cases step with
    | element | key => simp [Shape.position?] at oldPlace
    | member index =>
      simp only [Shape.position?] at oldPlace newPlace
      obtain ⟨oldInside, -⟩ := List.getElem?_eq_some_iff.1 oldPlace
      obtain ⟨newInside, -⟩ := List.getElem?_eq_some_iff.1 newPlace
      rw [Packing.length_positions] at oldInside newInside
      have place := places index (by omega)
      rwa [oldPlace, newPlace, Option.some.injEq] at place
  | mapping =>
    cases step with
    | element | member => simp [Shape.position?] at oldPlace
    | key =>
      simp only [Shape.position?, Option.some.injEq] at oldPlace newPlace
      rw [← oldPlace, ← newPlace]
  | @array _ _ _ _ length =>
    cases step with
    | key | member => cases length <;> simp [Shape.position?] at oldPlace
    | element index =>
      simp only [Shape.stride?, Option.some.injEq] at stride
      cases length with
      | none =>
        simp only [Shape.position?, Option.some.injEq] at oldPlace newPlace
        rw [← oldPlace, ← newPlace, stride]
      | some length =>
        simp only [Shape.position?, Option.ite_none_right_eq_some, Option.some.injEq]
          at oldPlace newPlace
        -- The length says whether there is such an element, and the stride where it is.
        rw [← oldPlace.2, ← newPlace.2, stride]

/-- A path that can be walked from compatible expanded shapes leads to compatible expanded shapes at
one position. -/
theorem follow (old new : Located) (compatible : Compatible old.shape new.shape)
    (position : old.position = new.position) (oldExpanded : old.shape.isExpanded = true)
    (newExpanded : new.shape.isExpanded = true) (path : List Step) {oldEnd newEnd : Located}
    (oldPath : old.follow? path = some oldEnd) (newPath : new.follow? path = some newEnd) :
    oldEnd.position = newEnd.position ∧ Compatible oldEnd.shape newEnd.shape ∧
      oldEnd.shape.isExpanded = true ∧ newEnd.shape.isExpanded = true := by
  induction path generalizing old new with
  | nil =>
    simp only [Located.follow?, Option.some.injEq] at oldPath newPath
    subst oldPath newPath
    exact ⟨position, compatible, oldExpanded, newExpanded⟩
  | cons step rest ih =>
    simp only [Located.follow?] at oldPath newPath
    split at oldPath
    · next oldPosition oldPart oldPlace oldShape =>
      split at newPath
      · next newPosition newPart newPlace newShape =>
        -- The rest of the path starts from two compatible parts at one position.
        have place := compatible.position_eq oldExpanded newExpanded step oldPlace newPlace
        exact ih _ _ (compatible.part step oldShape newShape) place
          (part_isExpanded oldExpanded oldShape) (part_isExpanded newExpanded newShape) oldPath
          newPath
      · simp at newPath
    · simp at oldPath

end Compatible

/-- The members of a struct of an expanded dump are expanded. -/
theorem Dump.IsExpanded.members {dump : Dump} (expanded : dump.IsExpanded) {layout : Layout}
    (inDump : layout ∈ dump.layouts) {struct : StructLayout} (inLayout : struct ∈ layout.structs) :
    ∀ member ∈ struct.members, member.isExpanded = true :=
  (Shape.areExpanded_iff _).1 (expanded layout inDump struct inLayout)

/-- A layout that is found in a dump is one of its layouts. -/
theorem Dump.mem_of_get?_eq_some {dump : Dump} {name : String} {layout : Layout}
    (found : dump.get? name = some layout) : layout ∈ dump.layouts :=
  List.mem_of_find?_eq_some found

/-- A struct that is found in a layout is one of its structs. -/
theorem Layout.mem_of_getStruct?_eq_some {layout : Layout} {name : String} {struct : StructLayout}
    (found : layout.getStruct? name = some struct) : struct ∈ layout.structs :=
  List.mem_of_find?_eq_some found

/-- A struct from which a step leads anywhere is expanded when its members are. -/
theorem StructLayout.isExpanded_of_locate? {layout : StructLayout}
    (members : ∀ member ∈ layout.members, member.isExpanded = true) {step : Step}
    {rest : List Step} {value : Located} (path : layout.locate? (step :: rest) = some value) :
    layout.shape.isExpanded = true := by
  have nonempty : layout.members ≠ [] := by
    intro empty
    cases step <;>
      simp [StructLayout.locate?, StructLayout.shape, Located.follow?, Shape.part?, empty] at path
  rw [StructLayout.shape, Shape.isExpanded, Bool.and_eq_true, Shape.areExpanded_iff]
  exact ⟨by simpa using nonempty, members⟩

/-- An upgrade without a breaking difference keeps every value that a path leads to in both
versions of a struct: the kind of its shape, its position relative to the value around it, the
stride of its elements if it is an array, and its space if it is of an elementary type or an
enumeration. The dumps are expanded: all elementary types are known, and no struct leaves its
members out. -/
theorem harmless_upgrade_keeps_values (previous current : Dump)
    (previousExpanded : previous.IsExpanded) (currentExpanded : current.IsExpanded)
    (harmless : ∀ mutation ∈ compare? (some previous) current, mutation.severity ≠ .error)
    (layout : Layout) (inCurrent : layout ∈ current.layouts)
    (before : Layout) (inPrevious : previous.get? layout.name = some before)
    (new : StructLayout) (inLayout : new ∈ layout.structs)
    (old : StructLayout) (inBefore : before.getStruct? new.name = some old)
    (path : List Step) (oldValue newValue : Located)
    (oldPath : old.locate? path = some oldValue) (newPath : new.locate? path = some newValue) :
    oldValue.shape.variant = newValue.shape.variant ∧
      oldValue.position = newValue.position ∧
      oldValue.shape.stride? = newValue.shape.stride? ∧
      (oldValue.shape.variant = "builtin" ∨ oldValue.shape.variant = "enum" →
        oldValue.shape.footprint = newValue.shape.footprint) := by
  have members : MembersCompatible old.members new.members :=
    (compare_harmless_iff previous current).1 harmless layout inCurrent before inPrevious new
      inLayout old inBefore
  have oldMembers := previousExpanded.members (Dump.mem_of_get?_eq_some inPrevious)
    (Layout.mem_of_getStruct?_eq_some inBefore)
  have newMembers := currentExpanded.members inCurrent inLayout
  -- Only a path that leads inside the struct shows that the struct has members.
  cases path with
  | nil =>
    simp only [StructLayout.locate?, Located.follow?, Option.some.injEq] at oldPath newPath
    subst oldPath newPath
    exact ⟨rfl, rfl, rfl, by simp [StructLayout.shape, Shape.variant]⟩
  | cons step rest =>
    have oldExpanded := StructLayout.isExpanded_of_locate? oldMembers oldPath
    have newExpanded := StructLayout.isExpanded_of_locate? newMembers newPath
    obtain ⟨position, shapes, oldEnd, newEnd⟩ :=
      Compatible.follow ⟨.start, old.shape⟩ ⟨.start, new.shape⟩ (compatible_struct_iff.2 members)
        rfl oldExpanded newExpanded _ oldPath newPath
    exact ⟨shapes.variant_eq, position, shapes.stride_eq oldEnd newEnd,
      shapes.footprint_eq oldEnd⟩

/-- The dump of one library with one struct. -/
def marketDump (struct : StructLayout) : Dump := ⟨[⟨.library, "Market", [struct]⟩]⟩

/-- Orders of a market before an upgrade. -/
def marketBefore : StructLayout where
  name := "Data"
  members :=
    [.builtin { valueType := "uint128", name := some "id" },
      .mapping (some "orders") { valueType := "address" }
        (.array none
          (.struct "Order" none
            [.builtin { valueType := "uint64" }, .enum "Side" (some "side") ["Buy"]] none)
          (some 3))]

/-- Orders of a market after an upgrade: a member is renamed and gets a type of the same size, and
an enumeration, an inner struct and the struct itself grow at their ends. -/
def marketAfter : StructLayout where
  name := "Data"
  members :=
    [.builtin { valueType := "int128", name := some "key" },
      .mapping (some "orders") { valueType := "address" }
        (.array none
          (.struct "Order" none
            [.builtin { valueType := "uint64" }, .enum "Side" (some "side") ["Buy", "Sell"],
              .builtin { valueType := "bool" }] none)
          (some 3)),
      .builtin { valueType := "string" }]

/-- The side of the last order of an account is at byte 8 of its order before the upgrade and
after it. -/
theorem market_upgrade_keeps_side :
    ∃ oldSide newSide,
      marketBefore.locate? [.member 1, .key, .element 2, .member 1] = some oldSide ∧
      marketAfter.locate? [.member 1, .key, .element 2, .member 1] = some newSide ∧
      oldSide.position = ⟨0, 8⟩ ∧ oldSide.position = newSide.position ∧
      oldSide.shape.footprint = newSide.shape.footprint := by
  have kept := harmless_upgrade_keeps_values (marketDump marketBefore) (marketDump marketAfter)
    (by decide +kernel) (by decide +kernel) (by decide +kernel) _ (List.mem_singleton.2 rfl) _ rfl
    marketAfter (List.mem_singleton.2 rfl) marketBefore rfl
    [.member 1, .key, .element 2, .member 1] _ _ rfl rfl
  exact ⟨_, _, rfl, rfl, by decide +kernel, kept.2.1, kept.2.2.2 (by decide)⟩

end ModularRouter.Storage
