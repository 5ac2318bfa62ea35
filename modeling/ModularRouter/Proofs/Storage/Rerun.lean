import ModularRouter.Proofs.Storage.CanonicalTypes
import ModularRouter.Proofs.Storage.Extraction
import ModularRouter.Proofs.Storage.History
import ModularRouter.Proofs.Storage.Reachability
import ModularRouter.Proofs.Storage.ReadableDumps
import ModularRouter.Proofs.Storage.RecordedPlaces
import ModularRouter.Proofs.Storage.Unchanged
import ModularRouter.Proofs.Storage.Words

/-!
# Runs on unchanged sources

Recording the places of members changes nothing that is compared, and an extracted dump is indexed
by its names, so that the comparison of a project with its own record finds nothing, recursive
structs included. The recorded places are numbers that a reader takes
(`Dump.numbersFit_withPositions`). Whether the next run gets to compare anything is another matter:
a record that is nested deeper than a reader goes is written all the same and not read back
(`rerun_changes_nothing_iff`), which a chain of structs one inside the other is enough for
(`deep_record_is_not_read_back`).
-/

namespace ModularRouter.Storage

open Ast (SourceUnit UnitPart StructDefinition TypeName VariableDeclaration DeclarationIndex)

/-! ## Recorded places -/

/-- A recorded place is left out again with all other records. -/
theorem erased_recordPosition (member : Shape) (position : Position) :
    (StructLayout.recordPosition member position).erased = member.erased := by
  cases member <;> rfl

/-- A recorded place changes nothing about the names of types. -/
theorem isCanonical_recordPosition (member : Shape) (position : Position) :
    (StructLayout.recordPosition member position).isCanonical = member.isCanonical := by
  cases member with
  | builtin value => rw [StructLayout.recordPosition, Shape.isCanonical, Shape.isCanonical]; rfl
  | struct _ _ _ _ | mapping _ _ _ | array _ _ _ | enum _ _ _ => rfl

/-- Members with recorded places are canonical when they are without. -/
theorem areCanonical_withPositions (struct : StructLayout) :
    Shape.areCanonical struct.withPositions.members = Shape.areCanonical struct.members := by
  rw [Shape.areCanonical_eq_all, Shape.areCanonical_eq_all,
    struct.map_members_withPositions isCanonical_recordPosition]

namespace Dump

variable {dump : Dump}

/-- Recording places keeps the names of the structs. -/
theorem map_structName_withPositions (layout : Layout) :
    layout.withPositions.structs.map StructLayout.name = layout.structs.map StructLayout.name := by
  rw [Layout.withPositions, List.map_map]
  rfl

/-- A dump with recorded places is indexed when it is without. -/
theorem IsIndexed.withPositions (indexed : dump.IsIndexed) : dump.withPositions.IsIndexed := by
  have kept := layouts_withPositions indexed.layouts
  refine ⟨?_, ?_, ?_⟩
  · rw [kept, map_name_withPositions]
    exact indexed.layouts
  · rw [kept]
    intro layout mem
    obtain ⟨own, inDump, rfl⟩ := List.mem_map.1 mem
    rw [map_structName_withPositions]
    exact indexed.structs own inDump
  · rw [kept]
    intro layout mem struct inLayout
    obtain ⟨own, inDump, rfl⟩ := List.mem_map.1 mem
    obtain ⟨plain, inOwn, rfl⟩ := List.mem_map.1 inLayout
    rw [areCanonical_withPositions]
    exact indexed.canonical own inDump plain inOwn

/-- A dump agrees with itself. -/
theorem IsIndexed.agrees (indexed : dump.IsIndexed) : dump.Agrees dump := by
  refine ⟨fun _ => Iff.rfl, fun old oldMem new newMem same => ?_⟩
  obtain rfl := List.inj_on_of_nodup_map indexed.layouts oldMem newMem same
  refine ⟨rfl, fun _ => Iff.rfl, fun struct structMem other otherMem named => ?_⟩
  rw [List.inj_on_of_nodup_map (indexed.structs old oldMem) structMem otherMem named]

/-- A dump with recorded places agrees with the dump without them. -/
theorem IsIndexed.withPositions_agrees (indexed : dump.IsIndexed) :
    dump.withPositions.Agrees dump := by
  have kept := layouts_withPositions indexed.layouts
  refine ⟨fun name => ?_, fun old oldMem new newMem same => ?_⟩
  · rw [kept, map_name_withPositions]
  · rw [kept] at oldMem
    obtain ⟨own, inDump, rfl⟩ := List.mem_map.1 oldMem
    obtain rfl := List.inj_on_of_nodup_map indexed.layouts inDump newMem same
    refine ⟨rfl, fun name => ?_, fun struct structMem other otherMem named => ?_⟩
    · rw [map_structName_withPositions]
    · obtain ⟨plain, inOwn, rfl⟩ := List.mem_map.1 structMem
      obtain rfl := List.inj_on_of_nodup_map (indexed.structs own inDump) inOwn otherMem named
      exact plain.map_members_withPositions erased_recordPosition

end Dump

/-- Shapes have all numbers within their bounds when each of them has. -/
theorem Shape.allNumbersFit_eq_all (shapes : List Shape) :
    allNumbersFit shapes = shapes.all numbersFit := by
  induction shapes with
  | nil => rfl
  | cons shape rest ih => rw [allNumbersFit, List.all_cons, ih]

/-- The numbers of a member stay within their bounds when a position is recorded in it. -/
theorem numbersFit_recordPosition {member : Shape} {position : Position}
    (fits : member.numbersFit = true) (recordable : position.IsRecordable) :
    (StructLayout.recordPosition member position).numbersFit = true := by
  cases member with
  | builtin value =>
    have word : position.slot < slotBound := Nat.lt_of_le_of_lt recordable.word (by decide)
    have byte : position.offset < byteBound := Nat.lt_of_le_of_lt recordable.byte (by decide)
    rw [Shape.numbersFit, Builtin.fits, Bool.and_eq_true] at fits
    rw [StructLayout.recordPosition, Shape.numbersFit, Builtin.fits, Bool.and_eq_true,
      Bool.and_eq_true]
    exact ⟨⟨decide_eq_true word, decide_eq_true byte⟩, fits.2⟩
  | struct _ _ _ _ | mapping _ _ _ | array _ _ _ | enum _ _ _ => exact fits

/-- The numbers of a struct stay within their bounds when its places are recorded. -/
theorem allNumbersFit_withPositions {struct : StructLayout}
    (fits : Shape.allNumbersFit struct.members = true) :
    Shape.allNumbersFit struct.withPositions.members = true := by
  rw [Shape.allNumbersFit_eq_all, List.all_eq_true] at fits ⊢
  intro recorded mem
  rw [StructLayout.members_withPositions, List.mem_map] at mem
  obtain ⟨⟨member, position⟩, paired, rfl⟩ := mem
  obtain ⟨own, placed⟩ := List.of_mem_zip paired
  exact numbersFit_recordPosition (fits member own) (isRecordable_of_mem_packing placed)

/-- Whatever words members take, their places can be read back: recording them keeps all numbers of
a dump within their bounds. -/
theorem Dump.numbersFit_withPositions {dump : Dump} (fits : dump.numbersFit = true) :
    dump.withPositions.numbersFit = true := by
  rw [Dump.numbersFit, List.all_eq_true] at fits ⊢
  intro layout mem
  obtain ⟨before, after, split, -⟩ := exists_last_of_mem_ofLayouts mem
  have own : layout ∈ dump.layouts.map Layout.withPositions := by
    rw [split]
    exact List.mem_append_right _ List.mem_cons_self
  obtain ⟨plain, inDump, rfl⟩ := List.mem_map.1 own
  have structs := fits plain inDump
  rw [Layout.numbersFit, List.all_eq_true] at structs ⊢
  intro recorded inLayout
  obtain ⟨struct, inPlain, rfl⟩ := List.mem_map.1 inLayout
  exact allNumbersFit_withPositions (structs struct inPlain)

/-! ## Extracted dumps -/

/-- A project in which no contract that is looked at declares two structs of one name. -/
def DistinctStructs (units : List SourceUnit) (selection : Selection) : Prop :=
  ∀ declaring ∈ declaringContracts units selection,
    (declaring.contract.structs.map StructDefinition.name).Nodup

/-- An extracted dump is indexed if no contract declares two structs of one name. -/
theorem isIndexed_of_extract {units : List SourceUnit} {selection : Selection} {dump : Dump}
    (distinct : DistinctStructs units selection) (extracted : extract units selection = .ok dump) :
    dump.IsIndexed := by
  refine ⟨?_, fun layout inDump => ?_, fun layout inDump struct inLayout => ?_⟩
  · obtain ⟨layouts, rfl, -⟩ := exists_layouts_of_extract extracted
    exact Dump.nodup_map_name_ofLayouts layouts
  · obtain ⟨before, declaring, after, split, isLayout, -⟩ :=
      exists_declaring_of_mem extracted inDump
    have mem : declaring ∈ declaringContracts units selection := by
      rw [split]
      exact List.mem_append_right _ List.mem_cons_self
    rw [Results.map_eq_map_of_forall₂ isLayout.structs fun _ _ own => own.name]
    exact distinct declaring mem
  · obtain ⟨unit, -, contract, -, definition, -, done⟩ :=
      exists_structLayout_of_extract extracted inDump inLayout
    exact areCanonical_of_membersResolve (membersResolve_of_structLayout done).2

/-! ## Extracted dumps of projects that are not recursive -/

namespace Shape

/-- A name of a variable changes nothing about the inside of a shape. -/
theorem isRegular_named (shape : Shape) (name : String) :
    (shape.named name).isRegular = shape.isRegular := by
  cases shape <;> simp only [named, isRegular]

end Shape

section

variable {site : Site}

/-- The shape of a type has no name. -/
theorem name?_of_resolves {around : Surroundings} {type : TypeName} {shape : Shape} :
    Resolves site around type shape → shape.name? = none
  | .valueType _ underlying => name?_of_resolves underlying
  | .elementary _ | .function | .mapping .. | .dynamic _ | .fixed .. | .enumeration _ | .contract _
  | .cut .. | .measured .. | .inlined .. => rfl

/-- The key that a shape without a name makes has none. -/
theorem name_eq_none_of_mappingKey {subject : String} {shape : Shape} {key : Builtin}
    (unnamed : shape.name? = none) (isKey : site.mappingKey subject shape = .ok key) :
    key.name = none := by
  cases shape with
  | builtin value =>
    rw [Site.mappingKey] at isKey
    split at isKey
    · split at isKey
      · cases isKey
        exact unnamed
      · cases isKey
    · cases isKey
  | enum enumName name members =>
    cases isKey
    rfl
  | struct _ _ _ _ => cases isKey
  | mapping _ _ _ => cases isKey
  | array _ _ _ => cases isKey

mutual

/-- The shape of a type that is not recursive is regular. -/
theorem isRegular_of_resolves (unrolled : Unrolled site.index)
    (consistent : site.index.Consistent) {around : Surroundings} {type : TypeName} {shape : Shape} :
    Resolves site around type shape → ReachedFrom site.index around.structs type →
      shape.isRegular = true
  | .elementary _, _ | .function, _ | .enumeration _, _ | .contract _, _ => rfl
  | .mapping keyResolves isKey valueResolves, reached => by
    have key := name_eq_none_of_mappingKey (name?_of_resolves keyResolves) isKey
    have value := name?_of_resolves valueResolves
    have inside :=
      isRegular_of_resolves unrolled consistent valueResolves (reached.of_contains .value)
    rw [Shape.isRegular, key, value, inside]
    rfl
  | .dynamic baseResolves, reached | .fixed baseResolves _, reached => by
    have value := name?_of_resolves baseResolves
    have inside :=
      isRegular_of_resolves unrolled consistent baseResolves (reached.of_contains .element)
    rw [Shape.isRegular, value, inside]
    rfl
  | .valueType found underlying, reached =>
    isRegular_of_resolves unrolled consistent underlying (reached.of_contains (.underlying found))
  | .cut found inside _, reached => absurd inside (unrolled.id_notMem consistent found reached)
  | .measured found inside _ _, reached =>
    absurd inside (unrolled.id_notMem consistent found reached)
  | .inlined found _ resolved, reached => by
    rw [Shape.isRegular, areRegular_of_membersResolve unrolled consistent resolved
      (reached.members consistent found)]
    rfl

/-- The shapes of members that are not recursive are regular. -/
theorem areRegular_of_membersResolve (unrolled : Unrolled site.index)
    (consistent : site.index.Consistent) {around : Surroundings}
    {members : List VariableDeclaration} {shapes : List Shape} :
    MembersResolve site around members shapes →
      MembersReachedFrom site.index around.structs members →
      Shape.areRegular shapes = true
  | .nil, _ => rfl
  | .cons typed resolves others, reached => by
    have own := isRegular_of_resolves unrolled consistent resolves (reached.head typed)
    have rest := areRegular_of_membersResolve unrolled consistent others reached.tail
    rw [Shape.areRegular, Shape.name?_named, Shape.isRegular_named, own, rest]
    rfl

end

end

/-- An extracted dump is regular if no struct or value type is reached from itself, no two
declarations have one number and no contract declares two structs of one name. So a comparison of
two such dumps is silent about nothing but recorded places and sizes. -/
theorem isRegular_of_extract {units : List SourceUnit} {selection : Selection} {dump : Dump}
    (numbers : DeclarationIndex.DistinctIds units) (unrolled : Unrolled (.ofUnits units))
    (distinct : DistinctStructs units selection) (extracted : extract units selection = .ok dump) :
    dump.IsRegular := by
  refine ⟨isIndexed_of_extract distinct extracted, fun layout inDump struct inLayout => ?_⟩
  obtain ⟨unit, inProject, contract, selected, definition, declares, done⟩ :=
    exists_structLayout_of_extract extracted inDump inLayout
  have consistent := DeclarationIndex.consistent_ofUnits units
  have declared := DeclarationIndex.get?_eq_some_of_mem_structs numbers inProject
    (List.mem_filter.1 selected).1 declares
  exact areRegular_of_membersResolve unrolled consistent (membersResolve_of_structLayout done).2
    (membersReachedFrom_self consistent declared)

/-! ## The next run -/

section

variable {units : List SourceUnit} {selection : Selection} {dump : Dump}

/-- What is recorded of a project that can be extracted. -/
theorem versionDump_eq (extracted : extract units selection = .ok dump) :
    versionDump units selection = .ok dump.withPositions := by
  rw [versionDump, extracted]
  rfl

/-- The first upgrade records the dump of the project. -/
theorem upgradeStep_none_eq (extracted : extract units selection = .ok dump) :
    upgradeStep selection none units =
      (some dump.withPositions.write, .ok ⟨[], dump.withPositions.write⟩) := by
  rw [upgradeStep, Upgrade.ofVersion, versionDump_eq extracted]
  rfl

/-- An upgrade from a record that is read back as the dump of the same project finds nothing and
records the same text again. -/
theorem upgradeStep_eq_of_read (extracted : extract units selection = .ok dump)
    (indexed : dump.IsIndexed)
    (read : Dump.read? dump.withPositions.write = some dump.withPositions) :
    upgradeStep selection (some dump.withPositions.write) units =
      (some dump.withPositions.write, .ok ⟨[], dump.withPositions.write⟩) := by
  have silent : compare? (some dump.withPositions) dump.withPositions = [] :=
    compare_eq_nil_of_agrees indexed.withPositions indexed.withPositions
      indexed.withPositions.agrees
  have found : recorded? (some dump.withPositions.write) = .ok (some dump.withPositions) := by
    rw [recorded?, read]
  rw [upgradeStep, Upgrade.ofVersion, versionDump_eq extracted]
  dsimp only
  rw [Upgrade.ofDump, found]
  simp only [bind, Except.bind, silent]
  rfl

/-- A record that is nested deeper than a reader goes is not read. -/
theorem read?_write_eq_none {dump : Dump} (deep : ¬ dump.toJson.nesting ≤ Json.nestingLimit) :
    Dump.read? dump.write = none := by
  rw [Dump.read?_write]
  refine if_neg fun fits => deep ?_
  exact (dump.fits_iff.1 fits).1

/-- An upgrade from a record that is no dump is refused. -/
theorem upgradeStep_eq_of_unreadable {text : String}
    (extracted : extract units selection = .ok dump) (unread : Dump.read? text = none) :
    upgradeStep selection (some text) units = (some text, .error .unreadableRecord) := by
  have found : recorded? (some text) = .error .unreadableRecord := by rw [recorded?, unread]
  rw [upgradeStep, Upgrade.ofVersion, versionDump_eq extracted]
  dsimp only
  rw [Upgrade.ofDump, found]
  rfl

end

/-- What the next run of an upgrade does on unchanged sources. The comparison with what was recorded
finds nothing, whether or not the places of members are recorded in the current dump too. But the
record has to be read first: exactly where it is nested no deeper than a reader goes it is read back
as what was written, and the next run accepts the same version and writes the same text; where it
is nested deeper the next run is refused. -/
theorem rerun_changes_nothing_iff (units : List SourceUnit) (selection : Selection) (dump : Dump)
    (distinct : DistinctStructs units selection) (extracted : extract units selection = .ok dump)
    (numbers : dump.withPositions.numbersFit = true) :
    compare? (some dump.withPositions) dump = [] ∧
      compare? (some dump.withPositions) dump.withPositions = [] ∧
      upgradeStep selection none units =
        (some dump.withPositions.write, .ok ⟨[], dump.withPositions.write⟩) ∧
      (Dump.read? dump.withPositions.write = some dump.withPositions ↔
        dump.withPositions.toJson.nesting ≤ Json.nestingLimit) ∧
      upgradeStep selection (some dump.withPositions.write) units =
        (some dump.withPositions.write,
          if dump.withPositions.toJson.nesting ≤ Json.nestingLimit then
            .ok ⟨[], dump.withPositions.write⟩
          else .error .unreadableRecord) := by
  have indexed := isIndexed_of_extract distinct extracted
  have read := Dump.read?_write_eq_some_iff numbers
  refine ⟨?_, ?_, ?_, read, ?_⟩
  · exact compare_eq_nil_of_agrees indexed.withPositions indexed indexed.withPositions_agrees
  · exact compare_eq_nil_of_agrees indexed.withPositions indexed.withPositions
      indexed.withPositions.agrees
  · exact upgradeStep_none_eq extracted
  · split
    · next shallow => exact upgradeStep_eq_of_read extracted indexed (read.2 shallow)
    · next deep => exact upgradeStep_eq_of_unreadable extracted (read?_write_eq_none deep)

/-! ## A struct that refers to itself, and a chain of structs -/

/-- A library with a struct that refers to itself behind a mapping. -/
def linkedProject : List SourceUnit :=
  [⟨"src/Registry.sol", [.contract ⟨1, "Registry", .library,
    [.structure ⟨2, "Node", [
      ⟨3, "owner", some (.elementary "address"), false, none⟩,
      ⟨4, "next", some (.mapping (.elementary "uint256") (.user 2 none (some "Node"))), false,
        none⟩]⟩]⟩]⟩]

/-- The next run on a struct that refers to itself accepts it again and writes the same text. -/
theorem linked_project_is_accepted_again :
    ∃ dump, extract linkedProject .all = .ok dump ∧
      upgradeStep .all (some dump.withPositions.write) linkedProject =
        (some dump.withPositions.write, .ok ⟨[], dump.withPositions.write⟩) := by
  have found : ∃ dump, extract linkedProject .all = .ok dump ∧
      (dump.withPositions.numbersFit &&
        decide (dump.withPositions.toJson.nesting ≤ Json.nestingLimit)) = true :=
    Results.exists_eq_ok_of_any (by decide +kernel)
  obtain ⟨dump, extracted, small⟩ := found
  rw [Bool.and_eq_true, decide_eq_true_eq] at small
  have distinct : DistinctStructs linkedProject .all := by
    unfold DistinctStructs
    decide
  obtain ⟨-, -, -, -, again⟩ :=
    rerun_changes_nothing_iff linkedProject .all dump distinct extracted small.1
  rw [if_pos small.2] at again
  exact ⟨dump, extracted, again⟩

/-- Structs outside of all contracts, each of which has the next one as its member. -/
def chain : (level : Nat) → List UnitPart
  | 0 => [.structure ⟨2, "Level0", [⟨200, "value", some (.elementary "uint256"), false, none⟩]⟩]
  | level + 1 =>
    .structure ⟨level + 3, "Level" ++ toString (level + 1),
      [⟨level + 201, "inner", some (.user (level + 2) none (some ("Level" ++ toString level))),
        false, none⟩]⟩ :: chain level

/-- A library with a struct around a chain of a hundred others. -/
def deepProject : List SourceUnit :=
  [⟨"src/Deep.sol", .contract ⟨1, "Deep", .library,
    [.structure ⟨102, "Data",
      [⟨300, "inner", some (.user 101 none (some "Level99")), false, none⟩]⟩]⟩ :: chain 99⟩]

/-- A chain of a hundred structs is accepted and recorded by the first run, with all numbers within
their bounds, but the record is not read back, and the next run on the same sources is refused. -/
theorem deep_record_is_not_read_back :
    ∃ dump, extract deepProject .all = .ok dump ∧ DistinctStructs deepProject .all ∧
      dump.withPositions.numbersFit = true ∧
      upgradeStep .all none deepProject =
        (some dump.withPositions.write, .ok ⟨[], dump.withPositions.write⟩) ∧
      Dump.read? dump.withPositions.write = none ∧
      upgradeStep .all (some dump.withPositions.write) deepProject =
        (some dump.withPositions.write, .error .unreadableRecord) := by
  have found : ∃ dump, extract deepProject .all = .ok dump ∧
      (dump.withPositions.numbersFit &&
        !decide (dump.withPositions.toJson.nesting ≤ Json.nestingLimit)) = true :=
    Results.exists_eq_ok_of_any (by decide +kernel)
  obtain ⟨dump, extracted, large⟩ := found
  rw [Bool.and_eq_true, Bool.not_eq_true', decide_eq_false_iff_not] at large
  have distinct : DistinctStructs deepProject .all := by
    unfold DistinctStructs
    decide
  have unread := read?_write_eq_none large.2
  exact ⟨dump, extracted, distinct, large.1, upgradeStep_none_eq extracted, unread,
    upgradeStep_eq_of_unreadable extracted unread⟩

end ModularRouter.Storage
