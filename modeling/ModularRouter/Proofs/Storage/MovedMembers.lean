import Mathlib.Tactic.ByContra
import ModularRouter.Proofs.Storage.Compatibility

/-!
# Members that change their index

A layout may only grow at its end, so a member that is found at another index than before should
always break an upgrade. `moved_member_noticed_iff` says when it does. A name is noticed at an index
at which the previous struct has a member, and only there: a member that moves behind the end of the
previous struct is reported as a new one, and whatever takes its old index as a renamed one.
`moved_behind_end_is_harmless` is the least upgrade that is let through.
-/

namespace ModularRouter.Storage

/-- The name of the member at an index. -/
def nameAt? (members : List Shape) (index : Nat) : Option String :=
  members[index]?.bind Shape.name?

/-- Whether all members have names, each its own. -/
structure DistinctlyNamed (members : List Shape) : Prop where
  /-- Every member has a name. -/
  named : ∀ index < members.length, ∃ name, nameAt? members index = some name
  /-- No two members have one name. -/
  distinct : ∀ i j name, nameAt? members i = some name → nameAt? members j = some name → i = j

/-- Whether some member of a struct is found at another index of that struct in a new one. -/
def MovesInside (olds news : List Shape) : Prop :=
  ∃ name i j, i ≠ j ∧ j < olds.length ∧ nameAt? olds i = some name ∧ nameAt? news j = some name

/-- The member at an index at which there is a name. -/
theorem exists_of_nameAt?_eq_some {members : List Shape} {index : Nat} {name : String}
    (found : nameAt? members index = some name) :
    ∃ member, members[index]? = some member ∧ member.name? = some name :=
  Option.bind_eq_some_iff.1 found

/-- The name at the index of a member is that of the member. -/
theorem nameAt?_eq {members : List Shape} {index : Nat} {member : Shape}
    (found : members[index]? = some member) : nameAt? members index = member.name? := by
  rw [nameAt?, found, Option.bind_some]

/-- All names are kept apart exactly when no member moves inside its struct. -/
theorem keepsNames_iff_not_movesInside {olds news : List Shape} (distinct : DistinctlyNamed olds) :
    (∀ (index : Nat) old new, olds[index]? = some old → news[index]? = some new →
      Comparison.KeepsName olds old new) ↔ ¬ MovesInside olds news := by
  constructor
  · rintro kept ⟨name, i, j, moved, inside, before, after⟩
    -- The member that had the index `j` before has lost it to `name`.
    obtain ⟨taken, takenName⟩ := distinct.named j inside
    obtain ⟨old, oldAt, oldName⟩ := exists_of_nameAt?_eq_some takenName
    obtain ⟨new, newAt, newName⟩ := exists_of_nameAt?_eq_some after
    have other : taken ≠ name := by
      rintro rfl
      exact moved (distinct.distinct i j _ before takenName)
    obtain ⟨member, memberAt, memberName⟩ := exists_of_nameAt?_eq_some before
    exact kept j old new oldAt newAt taken name oldName newName other member
      (List.mem_of_getElem? memberAt) memberName
  · intro still index old new oldAt newAt before after oldName newName other member inside named
    -- The new name was that of the member at `i`, so that this member has come from there.
    obtain ⟨i, memberAt⟩ := List.mem_iff_getElem?.1 inside
    obtain ⟨indexInside, -⟩ := List.getElem?_eq_some_iff.1 oldAt
    refine still ⟨after, i, index, ?_, indexInside, ?_, ?_⟩
    · rintro rfl
      obtain rfl : member = old := Option.some.inj (memberAt.symm.trans oldAt)
      exact other (Option.some.inj (oldName.symm.trans named))
    · rw [nameAt?_eq memberAt, named]
    · rw [nameAt?_eq newAt, newName]

/-- Whether a member that two structs have at one index has another position, or another shape that
may not stand in its place. -/
def LosesPlace (olds news : List Shape) : Prop :=
  ∃ (index : Nat) (old new : Shape), olds[index]? = some old ∧ news[index]? = some new ∧
    ((packing olds).positions[index]? ≠ (packing news).positions[index]? ∨ ¬ Compatible old new)

/-- Members are compatible unless one of them moves inside its struct or loses its place. -/
theorem membersCompatible_iff {olds news : List Shape} (distinct : DistinctlyNamed olds) :
    MembersCompatible olds news ↔ ¬ MovesInside olds news ∧ ¬ LosesPlace olds news := by
  rw [← keepsNames_iff_not_movesInside distinct]
  constructor
  · intro members
    refine ⟨members.names, ?_⟩
    rintro ⟨index, old, new, oldAt, newAt, moved | clashes⟩
    · obtain ⟨oldInside, -⟩ := List.getElem?_eq_some_iff.1 oldAt
      obtain ⟨newInside, -⟩ := List.getElem?_eq_some_iff.1 newAt
      exact moved (members.places index (by omega))
    · exact clashes (members.shapes index old new oldAt newAt)
  · rintro ⟨names, stays⟩
    refine ⟨names, fun index inside => ?_, fun index old new oldAt newAt => ?_⟩
    · by_contra moved
      exact stays ⟨index, _, _, List.getElem?_eq_getElem (by omega),
        List.getElem?_eq_getElem (by omega), .inl moved⟩
    · by_contra clashes
      exact stays ⟨index, old, new, oldAt, newAt, .inr clashes⟩

/-- The comparison of two lists of members breaks exactly when a member moves inside its struct or
loses its place. -/
theorem memberChanges_breaks_iff {olds news : List Shape} (distinct : DistinctlyNamed olds)
    (path : String) :
    ¬ Harmless (Comparison.memberChanges (.start path olds) olds news) ↔
      MovesInside olds news ∨ LosesPlace olds news := by
  rw [Comparison.memberChanges_start_harmless_iff, membersCompatible_iff distinct, not_and_or,
    not_not, not_not]

/-- Let a member of a struct, which may stand anywhere inside the structs that an upgrade compares,
be found at another index than before. The comparison of the members of that struct notices it
exactly when the name of some member stands at another index inside the previous struct, or some
member loses its place, and the first is the case as soon as the member itself is found inside the
previous struct. Whatever is noticed makes the upgrade refused. -/
theorem moved_member_noticed_iff (previous current : Dump) (layout before : Layout)
    (inCurrent : layout ∈ current.layouts) (inPrevious : previous.get? layout.name = some before)
    (old new : StructLayout) (inLayout : new ∈ layout.structs)
    (inBefore : before.getStruct? new.name = some old) (path : List Step)
    (oldName newName : String) (oldVariable newVariable : Option String) (olds news : List Shape)
    (oldSlots newSlots : Option Nat)
    (oldAt : old.shape.at? path = some (.struct oldName oldVariable olds oldSlots))
    (newAt : new.shape.at? path = some (.struct newName newVariable news newSlots))
    (distinct : DistinctlyNamed olds) (name : String) (i j : Nat) (moved : i ≠ j)
    (oldIndex : nameAt? olds i = some name) (newIndex : nameAt? news j = some name)
    (text : String) :
    (¬ Harmless (Comparison.memberChanges (.start text olds) olds news) ↔
        MovesInside olds news ∨ LosesPlace olds news) ∧
      (j < olds.length → MovesInside olds news) ∧
      (¬ Harmless (Comparison.memberChanges (.start text olds) olds news) →
        ∃ breaking, ensureCompatible (compare? (some previous) current) = .error breaking) := by
  refine ⟨memberChanges_breaks_iff distinct text,
    fun inside => ⟨name, i, j, moved, inside, oldIndex, newIndex⟩, fun noticed => ?_⟩
  rw [Comparison.memberChanges_start_harmless_iff] at noticed
  exact refused_of_not_compatible inCurrent inPrevious inLayout inBefore path oldAt newAt
    fun fits => noticed (compatible_struct_iff.1 fits)

/-- A member that takes a whole word. -/
def wordMember (name : String) : Shape := .builtin { valueType := "uint256", name := some name }

/-- The dump of one library with one struct of the given members. -/
def accountDump (members : List Shape) : Dump := ⟨[⟨.library, "Account", [⟨"Data", members⟩]⟩]⟩

/-- Members of one word each are distinctly named when their names are distinct. -/
theorem distinctlyNamed_words {names : List String} (distinct : names.Nodup) :
    DistinctlyNamed (names.map wordMember) := by
  have nameAt : ∀ index : Nat, nameAt? (names.map wordMember) index = names[index]? := by
    intro index
    rw [nameAt?, List.getElem?_map]
    cases names[index]? <;> rfl
  refine ⟨fun index inside => ?_, fun i j name atI atJ => ?_⟩
  · rw [List.length_map] at inside
    exact ⟨names[index], by rw [nameAt, List.getElem?_eq_getElem inside]⟩
  · rw [nameAt] at atI atJ
    obtain ⟨inside, -⟩ := List.getElem?_eq_some_iff.1 atI
    exact (List.getElem?_inj inside distinct).1 (atI.trans atJ.symm)

/-- Two members of an inner struct that trade places are noticed, though all positions and types
stay as they were. -/
theorem swapped_inner_members_refused :
    ∃ breaking, ensureCompatible
      (compare? (some (accountDump [.struct "Config" (some "config")
          (["fee", "cap"].map wordMember) none]))
        (accountDump [.struct "Config" (some "config")
          (["cap", "fee"].map wordMember) none])) = .error breaking := by
  have noticed := moved_member_noticed_iff
    (accountDump [.struct "Config" (some "config") (["fee", "cap"].map wordMember) none])
    (accountDump [.struct "Config" (some "config") (["cap", "fee"].map wordMember) none])
    _ _ (List.mem_singleton.2 rfl) rfl ⟨"Data", _⟩ ⟨"Data", _⟩ (List.mem_singleton.2 rfl) rfl
    [.member 0] _ _ _ _ (["fee", "cap"].map wordMember) (["cap", "fee"].map wordMember) _ _ rfl rfl
    (distinctlyNamed_words (by decide)) "fee" 0 1 (by decide) rfl rfl ""
  exact noticed.2.2 (noticed.1.2 (.inl (noticed.2.1 (by decide))))

/-- A member that moves behind the end of its struct is not noticed: the only member of a struct
gets the index after a new one, and the upgrade passes. -/
theorem moved_behind_end_is_harmless :
    DistinctlyNamed (["a"].map wordMember) ∧ DistinctlyNamed (["b", "a"].map wordMember) ∧
      nameAt? (["a"].map wordMember) 0 = some "a" ∧
      nameAt? (["b", "a"].map wordMember) 1 = some "a" ∧
      Harmless (Comparison.memberChanges (.start "Account.Data" (["a"].map wordMember))
        (["a"].map wordMember) (["b", "a"].map wordMember)) ∧
      ensureCompatible (compare? (some (accountDump (["a"].map wordMember)))
        (accountDump (["b", "a"].map wordMember))) = .ok () :=
  ⟨distinctlyNamed_words (by decide), distinctlyNamed_words (by decide), rfl, rfl,
    by decide +kernel, (ensureCompatible_eq_ok_iff _).2 (by decide +kernel)⟩

end ModularRouter.Storage
