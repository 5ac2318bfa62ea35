import ModularRouter.Proofs.Reordering
import ModularRouter.Proofs.Storage.KeyedDumps

/-!
# Dumps in another order

Files are extracted in the order of their paths, so a file that gets another name moves layouts
inside the dump of a project that stays as it is. Layouts and structs are looked up by name, so no
difference depends on where they stand, only the order of the report does (`compare_perm`), and an
upgrade passes or is refused whatever the order (`verdict_does_not_depend_on_order`).
-/

namespace ModularRouter.Storage

/-- Whether a layout is another one with its structs in another order. -/
structure Layout.Rearranged (layout other : Layout) : Prop where
  /-- It is of the same kind. -/
  kind : layout.kind = other.kind
  /-- It has the same name. -/
  name : layout.name = other.name
  /-- It has the same structs, each with its members in their order. -/
  structs : layout.structs.Perm other.structs

/-- Whether a dump is another one with its layouts in another order, and the structs of its layouts
too. -/
def Dump.Reordered (dump other : Dump) : Prop :=
  ReorderedBy Layout.Rearranged dump.layouts other.layouts

/-- A struct is found under its name whatever the order. -/
theorem Layout.Rearranged.getStruct?_eq {layout other : Layout}
    (rearranged : layout.Rearranged other)
    (distinct : (layout.structs.map StructLayout.name).Nodup) (name : String) :
    layout.getStruct? name = other.getStruct? name :=
  find?_name_eq_of_perm rearranged.structs distinct name

/-- A layout is found under its name whatever the order, with its structs in another order. -/
theorem Dump.Reordered.rel_get? {dump other : Dump} (same : dump.Reordered other)
    (distinct : dump.HasDistinctNames) (name : String) :
    Option.Rel Layout.Rearranged (dump.get? name) (other.get? name) :=
  same.rel_find? distinct.layouts (fun _ _ rearranged => rearranged.name.symm) name

namespace Comparison

/-- Two layouts give the same differences whatever the order of their structs. -/
theorem layoutChanges_perm {old new otherOld otherNew : Layout}
    (oldSame : old.Rearranged otherOld) (newSame : new.Rearranged otherNew)
    (oldDistinct : (old.structs.map StructLayout.name).Nodup)
    (newDistinct : (new.structs.map StructLayout.name).Nodup) :
    (layoutChanges old new).Perm (layoutChanges otherOld otherNew) := by
  rw [layoutChanges, layoutChanges, oldSame.kind, oldSame.name, newSame.kind, newSame.name]
  refine (List.Perm.append (.refl _) ?_).append ?_
  · simp only [oldSame.getStruct?_eq oldDistinct]
    exact newSame.structs.flatMap_right _
  · simp only [newSame.getStruct?_eq newDistinct]
    exact oldSame.structs.flatMap_right _

end Comparison

/-- Two dumps give the same differences whatever the order of their layouts and structs. -/
theorem compare_perm {previous current otherPrevious otherCurrent : Dump}
    (oldDistinct : previous.HasDistinctNames) (newDistinct : current.HasDistinctNames)
    (oldSame : previous.Reordered otherPrevious) (newSame : current.Reordered otherCurrent) :
    (compare previous current).Perm (compare otherPrevious otherCurrent) := by
  refine List.Perm.append (newSame.flatMap_perm ?_) (oldSame.flatMap_perm ?_)
  · intro layout mem other rearranged
    have found := oldSame.rel_get? oldDistinct layout.name
    rw [← rearranged.name, ← rearranged.kind]
    generalize before : previous.get? layout.name = old at found ⊢
    generalize otherPrevious.get? layout.name = otherOld at found ⊢
    cases found with
    | none => exact .refl _
    | some oldRearranged =>
      exact Comparison.layoutChanges_perm oldRearranged rearranged
        (oldDistinct.structs _ (Dump.mem_of_get?_eq_some before)) (newDistinct.structs layout mem)
  · intro old _ other rearranged
    have found := newSame.rel_get? newDistinct old.name
    rw [← rearranged.name]
    generalize current.get? old.name = new at found ⊢
    generalize otherCurrent.get? old.name = otherNew at found ⊢
    cases found <;> exact .refl _

/-- Whether an upgrade passes does not depend on the order of its differences. -/
theorem ensureCompatible_eq_ok_iff_of_perm {mutations others : List Mutation}
    (same : mutations.Perm others) :
    ensureCompatible mutations = .ok () ↔ ensureCompatible others = .ok () := by
  rw [ensureCompatible_eq_ok_iff, ensureCompatible_eq_ok_iff]
  exact forall_congr' fun mutation => imp_congr_left same.mem_iff

/-- Let no two layouts of a dump and no two structs of a layout have one name. Then the comparison
of two dumps finds the same differences, each as often as before, when the layouts of the dumps and
the structs of their layouts are put in another order, and an upgrade passes exactly if it did. -/
theorem verdict_does_not_depend_on_order (previous current otherPrevious otherCurrent : Dump)
    (oldDistinct : previous.HasDistinctNames) (newDistinct : current.HasDistinctNames)
    (oldSame : previous.Reordered otherPrevious) (newSame : current.Reordered otherCurrent) :
    (compare? (some previous) current).Perm (compare? (some otherPrevious) otherCurrent) ∧
      (ensureCompatible (compare? (some previous) current) = .ok () ↔
        ensureCompatible (compare? (some otherPrevious) otherCurrent) = .ok ()) := by
  have same : (compare? (some previous) current).Perm (compare? (some otherPrevious) otherCurrent) :=
    compare_perm oldDistinct newDistinct oldSame newSame
  exact ⟨same, ensureCompatible_eq_ok_iff_of_perm same⟩

/-- A safe with structs in some order. -/
def safeLayout (structs : List StructLayout) : Layout :=
  ⟨.library, "Safe", structs⟩

/-- The limits of a safe, with values of a type. -/
def safeLimits (valueType : String) : StructLayout :=
  ⟨"Limits", [.builtin { valueType, name := some "daily" }, .builtin { valueType, name := none }]⟩

/-- The signers of a safe, who may stand for others. -/
def safeSigners : StructLayout :=
  ⟨"Signers", [.mapping (some "delegates") { valueType := "address" }
    (.struct "Signers" none [] (some 1))]⟩

/-- A contract beside a safe. -/
def safeGuard : Layout := ⟨.contract, "Guard", []⟩

/-- An upgrade of a safe that makes its limits larger is refused, and so it is if the layouts and
structs before and after it stand in another order. -/
theorem reordered_safe_refused :
    ensureCompatible (compare?
      (some ⟨[safeGuard, safeLayout [safeSigners, safeLimits "uint64"]]⟩)
      ⟨[safeLayout [safeLimits "uint256", safeSigners]]⟩) ≠ .ok () := by
  have oldSame : Dump.Reordered ⟨[safeLayout [safeLimits "uint64", safeSigners], safeGuard]⟩
      ⟨[safeGuard, safeLayout [safeSigners, safeLimits "uint64"]]⟩ :=
    ⟨_, .swap .., .cons ⟨rfl, rfl, .refl _⟩ (.cons ⟨rfl, rfl, .swap ..⟩ .nil)⟩
  have newSame : Dump.Reordered ⟨[safeLayout [safeSigners, safeLimits "uint256"]]⟩
      ⟨[safeLayout [safeLimits "uint256", safeSigners]]⟩ :=
    ⟨_, .refl _, .cons ⟨rfl, rfl, .swap ..⟩ .nil⟩
  have verdict := (verdict_does_not_depend_on_order _ _ _ _ ⟨by decide, by decide⟩
    ⟨by decide, by decide⟩ oldSame newSame).2
  rw [Ne, ← verdict]
  decide +kernel

end ModularRouter.Storage
