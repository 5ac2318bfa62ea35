import Mathlib.Tactic.ByContra
import Mathlib.Tactic.SplitIfs
import ModularRouter.Proofs.Storage.Packing
import ModularRouter.Proofs.Storage.Places
import ModularRouter.Storage.Comparison

/-!
# Compatible shapes

`Compatible old new` says when a value of one shape may stand where a value of another one stood,
without any words about paths or messages. `shapeChanges_harmless_iff` and
`memberChanges_harmless_iff` show that a comparison finds no breaking difference exactly between
compatible shapes, and `compare_harmless_iff` says the same of whole dumps.

The proof goes bottom up. Every part of a comparison has one lemma that says when it breaks; the
members of two structs are told apart by their index, with the positions that `Progress` carries
read as those of `Packing.positionsFrom`.
-/

namespace ModularRouter.Storage

/-- Whether none of the differences blocks a deployment. -/
def Harmless (mutations : List Mutation) : Prop :=
  ∀ mutation ∈ mutations, mutation.severity ≠ .error

instance (mutations : List Mutation) : Decidable (Harmless mutations) := by
  unfold Harmless
  infer_instance

namespace Harmless

/-- No difference at all is harmless. -/
@[simp]
theorem nil : Harmless [] := fun _ member => absurd member List.not_mem_nil

/-- Differences are harmless together when the first one and the rest are. -/
@[simp]
theorem cons_iff {mutation : Mutation} {rest : List Mutation} :
    Harmless (mutation :: rest) ↔ mutation.severity ≠ .error ∧ Harmless rest :=
  List.forall_mem_cons

/-- Two lists of differences are harmless together when each of them is. -/
@[simp]
theorem append_iff {first second : List Mutation} :
    Harmless (first ++ second) ↔ Harmless first ∧ Harmless second :=
  List.forall_mem_append

/-- The differences found item by item are harmless when those of every item are. -/
theorem flatMap_iff {α : Type} {items : List α} {changes : α → List Mutation} :
    Harmless (items.flatMap changes) ↔ ∀ item ∈ items, Harmless (changes item) := by
  constructor
  · intro harmless item member mutation found
    exact harmless mutation (List.mem_flatMap.2 ⟨item, member, found⟩)
  · intro harmless mutation found
    obtain ⟨item, member, found⟩ := List.mem_flatMap.1 found
    exact harmless item member mutation found

end Harmless

/-- A deployment passes exactly when no difference is breaking. -/
theorem ensureCompatible_eq_ok_iff (mutations : List Mutation) :
    ensureCompatible mutations = .ok () ↔ Harmless mutations := by
  have noneBreaking : mutations.filter Mutation.isBreaking = [] ↔ Harmless mutations := by
    rw [List.filter_eq_nil_iff]
    simp [Harmless, Mutation.isBreaking]
  rw [← noneBreaking, ensureCompatible]
  split
  · next found => simp [found]
  · next found =>
    constructor
    · intro passed
      cases passed
    · intro empty
      exact absurd empty found

namespace Comparison

/-! ## The parts of a comparison -/

/-- Values of elementary types clash when both the name and the space of the type change. -/
theorem builtinChanges_harmless_iff (path : String) (old new : Builtin) :
    Harmless (builtinChanges path old new) ↔
      old.valueType = new.valueType ∨ old.footprint = new.footprint := by
  unfold builtinChanges
  split_ifs with sameType sameSpace
  · simp [sameType]
  · simp [sameSpace, warn]
  · simp [sameType, sameSpace, error]

/-- Keys clash when both the name and the space of the type change. -/
theorem keyChanges_harmless_iff (path : String) (old new : Builtin) :
    Harmless (keyChanges path old new) ↔
      old.valueType = new.valueType ∨ old.footprint = new.footprint := by
  unfold keyChanges
  split_ifs with sameType sameSpace
  · simp [sameType]
  · simp [sameSpace, warn]
  · simp [sameType, sameSpace, error]

/-- Another name for a type breaks nothing. -/
theorem typeRename_harmless (path what old new : String) :
    Harmless (typeRename path what old new) := by
  unfold typeRename
  split_ifs <;> simp [log]

/-- Whether one enumeration may stand in the place of another: members are only added at the end,
and the size stays. -/
def EnumExtends (old new : List String) : Prop :=
  old <+: new ∧ enumSize old = enumSize new

/-- Enumerations clash unless one extends the other. -/
theorem enumMemberChanges_harmless_iff (path : String) (old new : List String) :
    Harmless (enumMemberChanges path old new) ↔ EnumExtends old new := by
  unfold enumMemberChanges EnumExtends
  split_ifs with same extended
  · simp [same]
  · simp only [Harmless.cons_iff, Harmless.nil, and_true]
    exact iff_of_true (by simp [log]) ⟨List.isPrefixOf_iff_prefix.1 extended.1, extended.2⟩
  · simp only [Harmless.cons_iff, Harmless.nil, and_true]
    refine iff_of_false (by simp [error]) fun extends' => extended ?_
    exact ⟨List.isPrefixOf_iff_prefix.2 extends'.1, extends'.2⟩

/-- Whether the name of a member is not taken from another member that was declared before. -/
def KeepsName (declared : List Shape) (old new : Shape) : Prop :=
  ∀ before now, old.name? = some before → new.name? = some now → before ≠ now →
    ∀ member ∈ declared, member.name? ≠ some now

/-- A name clashes when it was the name of another member. -/
theorem renameChanges_harmless_iff (path : String) (index : Nat) (declared : List Shape)
    (old new : Shape) :
    Harmless (renameChanges path index declared old new) ↔ KeepsName declared old new := by
  unfold renameChanges KeepsName
  cases old.name? with
  | none => simp
  | some before =>
    cases new.name? with
    | none => simp
    | some now =>
      dsimp only
      by_cases same : before = now
      · simp [same]
      · rw [if_neg same]
        -- The first of the declared members that had the new name decides.
        cases found : declared.findIdx? fun member => member.name? == some now with
        | none =>
          rw [List.findIdx?_eq_none_iff] at found
          simpa [log, same] using found
        | some previous =>
          obtain ⟨inside, named, -⟩ := List.findIdx?_eq_some_iff_getElem.1 found
          simp only [Harmless.cons_iff, error, Harmless.nil, and_true]
          refine iff_of_false (by simp) fun kept => ?_
          exact kept before now rfl rfl same _ (List.getElem_mem inside) (by simpa using named)

/-- Positions clash when they differ. -/
theorem positionChanges_harmless_iff (path : String) (old new : Position) :
    Harmless (positionChanges path old new) ↔ old = new := by
  unfold positionChanges
  split_ifs with same
  · simp [same]
  · simp [same, error]

/-- Members that only one struct has break nothing when they are reported without breaking. -/
theorem unpairedMembers_harmless (mutation : String → Shape → Mutation)
    (calm : ∀ path member, (mutation path member).severity ≠ .error) (path : String)
    (members : List Shape) :
    ∀ index, Harmless (unpairedMembers mutation path index members) := by
  induction members with
  | nil => intro index; exact Harmless.nil
  | cons member rest ih =>
    intro index
    exact Harmless.cons_iff.2 ⟨calm _ member, ih (index + 1)⟩

/-- New members at the end break nothing. -/
theorem addedMembers_harmless (path : String) (index : Nat) (members : List Shape) :
    Harmless (addedMembers path index members) :=
  unpairedMembers_harmless _ (by simp [log]) path members index

/-- Members gone from the end break nothing. -/
theorem removedMembers_harmless (path : String) (index : Nat) (members : List Shape) :
    Harmless (removedMembers path index members) :=
  unpairedMembers_harmless _ (by simp [warn]) path members index

end Comparison

/-! ## Compatible shapes -/

/-- Whether a value of one shape may stand where a value of another one stood. -/
inductive Compatible : (old new : Shape) → Prop where
  /-- Elementary types of one name or of one space. -/
  | builtin {old new : Builtin} :
      old.valueType = new.valueType ∨ old.footprint = new.footprint →
      Compatible (.builtin old) (.builtin new)
  /-- Structs whose common members keep their names apart, their positions and their shapes. -/
  | struct {oldName newName : String} {oldVariable newVariable : Option String}
      {olds news : List Shape} {oldSlots newSlots : Option Nat} :
      (∀ (index : Nat) old new, olds[index]? = some old → news[index]? = some new →
        Comparison.KeepsName olds old new) →
      (∀ index < min olds.length news.length,
        (packing olds).positions[index]? = (packing news).positions[index]?) →
      (∀ (index : Nat) old new, olds[index]? = some old → news[index]? = some new →
        Compatible old new) →
      Compatible (.struct oldName oldVariable olds oldSlots)
        (.struct newName newVariable news newSlots)
  /-- Mappings with keys of one name or of one space, and compatible values. -/
  | mapping {oldVariable newVariable : Option String} {oldKey newKey : Builtin}
      {oldValue newValue : Shape} :
      oldKey.valueType = newKey.valueType ∨ oldKey.footprint = newKey.footprint →
      Compatible oldValue newValue →
      Compatible (.mapping oldVariable oldKey oldValue) (.mapping newVariable newKey newValue)
  /-- Arrays of one length with compatible elements of one space, so far as it was measured. -/
  | array {oldVariable newVariable : Option String} {oldValue newValue : Shape}
      {length : Option Nat} :
      (oldValue.footprint = newValue.footprint ∨ Comparison.isUnmeasured oldValue = true ∨
        Comparison.isUnmeasured newValue = true) →
      Compatible oldValue newValue →
      Compatible (.array oldVariable oldValue length) (.array newVariable newValue length)
  /-- Enumerations of which one extends the other. -/
  | enum {oldName newName : String} {oldVariable newVariable : Option String}
      {olds news : List String} :
      Comparison.EnumExtends olds news →
      Compatible (.enum oldName oldVariable olds) (.enum newName newVariable news)

/-- Whether the members of one struct may stand in the place of those of another one. -/
structure MembersCompatible (olds news : List Shape) : Prop where
  /-- No member has a name that another one had. -/
  names : ∀ (index : Nat) old new, olds[index]? = some old → news[index]? = some new →
    Comparison.KeepsName olds old new
  /-- Every member that both structs have is where it was. -/
  places : ∀ index < min olds.length news.length,
    (packing olds).positions[index]? = (packing news).positions[index]?
  /-- Every member that both structs have keeps its shape. -/
  shapes : ∀ (index : Nat) old new, olds[index]? = some old → news[index]? = some new →
    Compatible old new

/-- Structs are compatible when their members are. -/
theorem compatible_struct_iff {oldName newName : String} {oldVariable newVariable : Option String}
    {olds news : List Shape} {oldSlots newSlots : Option Nat} :
    Compatible (.struct oldName oldVariable olds oldSlots)
      (.struct newName newVariable news newSlots) ↔ MembersCompatible olds news := by
  constructor
  · intro compatible
    cases compatible with
    | struct names places shapes => exact ⟨names, places, shapes⟩
  · intro members
    exact .struct members.names members.places members.shapes

namespace Compatible

/-- One step inside two compatible shapes leads to compatible shapes. -/
theorem part {old new : Shape} (compatible : Compatible old new) (step : Step)
    {oldPart newPart : Shape} (oldInside : old.part? step = some oldPart)
    (newInside : new.part? step = some newPart) : Compatible oldPart newPart := by
  cases compatible with
  | builtin | enum => simp [Shape.part?] at oldInside
  | struct names places shapes =>
    cases step with
    | element | key => simp [Shape.part?] at oldInside
    | member index => exact shapes index _ _ oldInside newInside
  | mapping keys values =>
    cases step with
    | element | member => simp [Shape.part?] at oldInside
    | key =>
      simp only [Shape.part?, Option.some.injEq] at oldInside newInside
      rwa [← oldInside, ← newInside]
  | array space values =>
    cases step with
    | key | member => simp [Shape.part?] at oldInside
    | element index =>
      simp only [Shape.part?, Option.some.injEq] at oldInside newInside
      rwa [← oldInside, ← newInside]

/-- One path inside two compatible shapes leads to compatible shapes. -/
theorem along {old new : Shape} (compatible : Compatible old new) (path : List Step)
    {oldEnd newEnd : Shape} (oldPath : old.at? path = some oldEnd)
    (newPath : new.at? path = some newEnd) : Compatible oldEnd newEnd := by
  induction path generalizing old new with
  | nil =>
    simp only [Shape.at?, Option.some.injEq] at oldPath newPath
    rwa [← oldPath, ← newPath]
  | cons step rest ih =>
    simp only [Shape.at?] at oldPath newPath
    split at oldPath
    · next oldPart oldInside =>
      split at newPath
      · next newPart newInside =>
        exact ih (compatible.part step oldInside newInside) oldPath newPath
      · simp at newPath
    · simp at oldPath

end Compatible

namespace Comparison

/-- What the comparison of two lists of members has to find harmless from a point on. -/
def PairsCompatible (progress : Progress) (olds news : List Shape) : Prop :=
  ∀ (index : Nat) old new, olds[index]? = some old → news[index]? = some new →
    KeepsName progress.declared old new ∧
    (Packing.positionsFrom progress.old (olds.map Shape.footprint))[index]? =
      (Packing.positionsFrom progress.new (news.map Shape.footprint))[index]? ∧
    Compatible old new

/-- The pairs from a point on are the pair at that point and those after it. -/
theorem pairsCompatible_cons_iff (progress : Progress) (old new : Shape)
    (oldRest newRest : List Shape) :
    PairsCompatible progress (old :: oldRest) (new :: newRest) ↔
      (KeepsName progress.declared old new ∧
        progress.old.fit old.footprint = progress.new.fit new.footprint ∧ Compatible old new) ∧
      PairsCompatible (progress.advance old new) oldRest newRest := by
  constructor
  · intro pairs
    -- Index 0 is the pair at hand; every other index counts the pairs after it.
    refine ⟨?_, fun index o n ho hn => ?_⟩
    · obtain ⟨name, place, shape⟩ := pairs 0 old new rfl rfl
      simp only [List.map_cons, Packing.positionsFrom_cons_zero, Option.some.injEq] at place
      exact ⟨name, place, shape⟩
    · simpa [Progress.advance] using pairs (index + 1) o n ho hn
  · rintro ⟨⟨name, place, shape⟩, rest⟩ index o n ho hn
    cases index with
    | zero =>
      simp only [List.getElem?_cons_zero, Option.some.injEq] at ho hn
      subst ho hn
      rw [List.map_cons, List.map_cons, Packing.positionsFrom_cons_zero,
        Packing.positionsFrom_cons_zero, place]
      exact ⟨name, rfl, shape⟩
    | succ index => simpa [Progress.advance] using rest index o n ho hn

/-- The pairs from the start on are those of all members. -/
theorem pairsCompatible_start_iff (path : String) (olds news : List Shape) :
    PairsCompatible (.start path olds) olds news ↔ MembersCompatible olds news := by
  constructor
  · intro pairs
    refine ⟨fun index old new ho hn => (pairs index old new ho hn).1, fun index inside => ?_,
      fun index old new ho hn => (pairs index old new ho hn).2.2⟩
    exact (pairs index _ _ (List.getElem?_eq_getElem (by omega))
      (List.getElem?_eq_getElem (by omega))).2.1
  · intro members index old new ho hn
    obtain ⟨oldInside, -⟩ := List.getElem?_eq_some_iff.1 ho
    obtain ⟨newInside, -⟩ := List.getElem?_eq_some_iff.1 hn
    exact ⟨members.names index old new ho hn, members.places index (by omega),
      members.shapes index old new ho hn⟩

mutual

/-- The comparison of two shapes is harmless exactly when they are compatible. -/
theorem shapeChanges_harmless_iff (path : String) :
    (old new : Shape) → (Harmless (shapeChanges path old new) ↔ Compatible old new)
  | .builtin old, .builtin new => by
    rw [shapeChanges, builtinChanges_harmless_iff]
    exact ⟨.builtin, fun compatible => by cases compatible; assumption⟩
  | .struct oldName _ olds _, .struct newName _ news _ => by
    rw [shapeChanges, Harmless.append_iff, compatible_struct_iff,
      memberChanges_harmless_iff (.start path olds) olds news, pairsCompatible_start_iff]
    exact and_iff_right (typeRename_harmless _ _ _ _)
  | .mapping _ oldKey oldValue, .mapping _ newKey newValue => by
    rw [shapeChanges, Harmless.append_iff, keyChanges_harmless_iff,
      shapeChanges_harmless_iff _ oldValue newValue]
    exact ⟨fun ⟨key, value⟩ => .mapping key value,
      fun compatible => by cases compatible; exact ⟨‹_›, ‹_›⟩⟩
  | .array _ oldValue oldLength, .array _ newValue newLength => by
    rw [shapeChanges]
    -- Elements are only compared where the lengths are the same and no two spaces differ.
    split_ifs with otherLength otherSpace
    · refine iff_of_false (by simp [error]) fun compatible => ?_
      cases compatible
      exact otherLength rfl
    · refine iff_of_false (by simp [error]) fun compatible => ?_
      cases compatible with
      | array space => simp [otherSpace] at space
    · obtain rfl : oldLength = newLength := by simpa using otherLength
      rw [shapeChanges_harmless_iff _ oldValue newValue]
      constructor
      · refine .array ?_
        by_contra unequal
        simp only [not_or, Bool.not_eq_true] at unequal
        exact otherSpace unequal
      · intro compatible
        cases compatible
        assumption
  | .enum _ _ olds, .enum _ _ news => by
    rw [shapeChanges, Harmless.append_iff, enumMemberChanges_harmless_iff]
    exact ⟨fun ⟨_, extended⟩ => .enum extended,
      fun compatible => by cases compatible; exact ⟨typeRename_harmless _ _ _ _, ‹_›⟩⟩
  | .builtin _, .struct .. | .builtin _, .mapping .. | .builtin _, .array .. | .builtin _, .enum ..
  | .struct .., .builtin _ | .struct .., .mapping .. | .struct .., .array .. | .struct .., .enum ..
  | .mapping .., .builtin _ | .mapping .., .struct .. | .mapping .., .array ..
  | .mapping .., .enum .. | .array .., .builtin _ | .array .., .struct .. | .array .., .mapping ..
  | .array .., .enum .. | .enum .., .builtin _ | .enum .., .struct .. | .enum .., .mapping ..
  | .enum .., .array .. => by
    simp only [shapeChanges]
    exact iff_of_false (by simp [error]) (fun compatible => by cases compatible)

/-- The comparison of the members of two structs is harmless exactly when every pair of members
keeps names apart, positions and shapes. -/
theorem memberChanges_harmless_iff (progress : Progress) :
    (olds news : List Shape) →
      (Harmless (memberChanges progress olds news) ↔ PairsCompatible progress olds news)
  | old :: oldRest, new :: newRest => by
    rw [memberChanges, pairsCompatible_cons_iff]
    simp only [Harmless.append_iff, renameChanges_harmless_iff, positionChanges_harmless_iff,
      shapeChanges_harmless_iff _ old new,
      memberChanges_harmless_iff (progress.advance old new) oldRest newRest, and_assoc]
  | [], added => by
    rw [memberChanges]
    -- A member without a partner is in no pair.
    exact iff_of_true (addedMembers_harmless _ _ _) (by simp [PairsCompatible])
  | removed :: rest, [] => by
    rw [memberChanges]
    · exact iff_of_true (removedMembers_harmless _ _ _) (by simp [PairsCompatible])
    · simp

end

/-- The comparison of two whole lists of members is harmless exactly when they are compatible. -/
theorem memberChanges_start_harmless_iff (path : String) (olds news : List Shape) :
    Harmless (memberChanges (.start path olds) olds news) ↔ MembersCompatible olds news := by
  rw [memberChanges_harmless_iff, pairsCompatible_start_iff]

/-- The comparison of two structs is harmless exactly when their members are compatible. -/
theorem structChanges_harmless_iff (layoutName : String) (old new : StructLayout) :
    Harmless (structChanges layoutName old new) ↔ MembersCompatible old.members new.members :=
  memberChanges_start_harmless_iff _ _ _

/-- The comparison of two layouts is harmless exactly when structs of one name have compatible
members. -/
theorem layoutChanges_harmless_iff (old new : Layout) :
    Harmless (layoutChanges old new) ↔
      ∀ struct ∈ new.structs, ∀ previous, old.getStruct? struct.name = some previous →
        MembersCompatible previous.members struct.members := by
  rw [layoutChanges, Harmless.append_iff, Harmless.append_iff]
  refine (and_iff_left ?gone).trans ((and_iff_right ?kind).trans ?both)
  case gone =>
    rw [Harmless.flatMap_iff]
    intro struct _
    cases new.getStruct? struct.name <;> simp [warn]
  case kind => split_ifs <;> simp [log]
  case both =>
    rw [Harmless.flatMap_iff]
    refine forall₂_congr fun struct _ => ?_
    cases old.getStruct? struct.name with
    | none => simp [log]
    | some previous => simp [structChanges_harmless_iff]

end Comparison

/-- The comparison of two dumps is harmless exactly when structs of one name, in layouts of one
name, have compatible members. -/
theorem compare_harmless_iff (previous current : Dump) :
    Harmless (compare previous current) ↔
      ∀ layout ∈ current.layouts, ∀ old, previous.get? layout.name = some old →
        ∀ struct ∈ layout.structs, ∀ before, old.getStruct? struct.name = some before →
          MembersCompatible before.members struct.members := by
  rw [compare, Harmless.append_iff]
  refine (and_iff_left ?gone).trans ?both
  case gone =>
    rw [Harmless.flatMap_iff]
    intro old _
    cases current.get? old.name <;> simp [Comparison.warn]
  case both =>
    rw [Harmless.flatMap_iff]
    refine forall₂_congr fun layout _ => ?_
    cases previous.get? layout.name with
    | none => simp [Comparison.log]
    | some old => simp [Comparison.layoutChanges_harmless_iff]

/-- Whether the comparison of two dumps compares two structs: they have one name, in layouts of one
name, and the previous dump finds both by these names. -/
def Dump.Pairs (previous current : Dump) (old new : StructLayout) : Prop :=
  ∃ layout ∈ current.layouts, ∃ before, previous.get? layout.name = some before ∧
    new ∈ layout.structs ∧ before.getStruct? new.name = some old

/-- Structs that are compared have one name. -/
theorem Dump.Pairs.name_eq {previous current : Dump} {old new : StructLayout}
    (paired : previous.Pairs current old new) : old.name = new.name := by
  obtain ⟨-, -, before, -, -, inBefore⟩ := paired
  have named := List.find?_some inBefore
  simpa using named

/-- Where the comparison of two dumps is harmless, the shapes that a path leads to in two structs
that it compares are compatible. -/
theorem Dump.Pairs.compatible_of_harmless {previous current : Dump} {old new : StructLayout}
    (paired : previous.Pairs current old new) (harmless : Harmless (compare previous current))
    (path : List Step) {oldEnd newEnd : Shape} (oldAt : old.shape.at? path = some oldEnd)
    (newAt : new.shape.at? path = some newEnd) : Compatible oldEnd newEnd := by
  obtain ⟨layout, inCurrent, before, inPrevious, inLayout, inBefore⟩ := paired
  have members : MembersCompatible old.members new.members :=
    (compare_harmless_iff previous current).1 harmless layout inCurrent before inPrevious new
      inLayout old inBefore
  have outer : Compatible old.shape new.shape := compatible_struct_iff.2 members
  exact outer.along path oldAt newAt

/-- An upgrade is refused when anywhere inside two structs of one name the shapes in one place are
not compatible. -/
theorem refused_of_not_compatible {previous current : Dump} {layout before : Layout}
    (inCurrent : layout ∈ current.layouts) (inPrevious : previous.get? layout.name = some before)
    {old new : StructLayout} (inLayout : new ∈ layout.structs)
    (inBefore : before.getStruct? new.name = some old) (path : List Step) {oldEnd newEnd : Shape}
    (oldAt : old.shape.at? path = some oldEnd) (newAt : new.shape.at? path = some newEnd)
    (clash : ¬ Compatible oldEnd newEnd) :
    ∃ breaking, ensureCompatible (compare? (some previous) current) = .error breaking := by
  cases verdict : ensureCompatible (compare? (some previous) current) with
  | error breaking => exact ⟨breaking, rfl⟩
  | ok _ =>
    have paired : previous.Pairs current old new :=
      ⟨layout, inCurrent, before, inPrevious, inLayout, inBefore⟩
    have harmless : Harmless (compare previous current) :=
      (ensureCompatible_eq_ok_iff _).1 verdict
    exact absurd (paired.compatible_of_harmless harmless path oldAt newAt) clash

end ModularRouter.Storage
