import ModularRouter.Proofs.Grouping
import ModularRouter.Proofs.Namespace.Sites

/-!
# Shared slots and their owners

A slot that contracts of different names assign is reported once, with all its assignments:
`shared_slots_reported`. A slot is anchored by the contracts, each known by its file and its name,
and by the files whose own functions assign it. The check counts them by one text, the name of the
contract or the path of the file: `unique_slots_iff` says that it passes when all owners of a slot
have one such label, and `twins_share_slot` is a project in which two contracts do.
-/

namespace ModularRouter.Namespace

open Ast (SourceUnit ContractDefinition YulStatement)
open Storage (Selection)

/-! ## Collisions -/

/-- A collision is a slot with all its assignments, which more than one contract makes. -/
theorem mem_slotCollisions_iff {assignments : List SlotAssignment} {collision : SlotCollision} :
    collision ∈ slotCollisions assignments ↔
      collision.slot ∈ assignments.map SlotAssignment.slot ∧
        (collision.assignments =
          assignments.filter fun assignment => assignment.slot == collision.slot) ∧
        1 < collision.contractNames.length := by
  obtain ⟨slot, group⟩ := collision
  rw [slotCollisions, List.mem_filter, List.mem_map, decide_eq_true_iff, ← and_assoc]
  refine and_congr_left fun _ => ⟨?_, ?_⟩
  · rintro ⟨own, mem, same⟩
    cases same
    exact mem_groupByKey_iff.1 mem
  · exact fun listed => ⟨(slot, group), mem_groupByKey_iff.2 listed, rfl⟩

/-- An assignment is in the collision of its slot. -/
theorem mem_assignments_iff {assignments : List SlotAssignment} {collision : SlotCollision}
    (mem : collision ∈ slotCollisions assignments) {assignment : SlotAssignment} :
    assignment ∈ collision.assignments ↔
      assignment ∈ assignments ∧ assignment.slot = collision.slot := by
  rw [(mem_slotCollisions_iff.1 mem).2.1, List.mem_filter, beq_iff_eq]

/-- More than one name stands among some names exactly when two of them differ. -/
theorem one_lt_length_eraseDups_iff {names : List String} :
    1 < names.eraseDups.length ↔ ∃ name ∈ names, ∃ other ∈ names, name ≠ other := by
  rw [← Nat.not_le, length_eraseDups_le_one_iff]
  simp only [not_forall, exists_prop, ne_eq]

/-- A slot collides exactly when two contracts of different names assign it. -/
theorem exists_collision_iff {assignments : List SlotAssignment} {slot : Slot} :
    (∃ collision ∈ slotCollisions assignments, collision.slot = slot) ↔
      ∃ first ∈ assignments, ∃ second ∈ assignments, first.slot = slot ∧ second.slot = slot ∧
        first.contract ≠ second.contract := by
  constructor
  · rintro ⟨collision, mem, rfl⟩
    have several := (mem_slotCollisions_iff.1 mem).2.2
    rw [SlotCollision.contractNames, one_lt_length_eraseDups_iff] at several
    obtain ⟨_, firstName, _, secondName, different⟩ := several
    obtain ⟨first, firstMem, rfl⟩ := List.mem_map.1 firstName
    obtain ⟨second, secondMem, rfl⟩ := List.mem_map.1 secondName
    obtain ⟨inFirst, firstSlot⟩ := (mem_assignments_iff mem).1 firstMem
    obtain ⟨inSecond, secondSlot⟩ := (mem_assignments_iff mem).1 secondMem
    exact ⟨first, inFirst, second, inSecond, firstSlot, secondSlot, different⟩
  · rintro ⟨first, inFirst, second, inSecond, rfl, same, different⟩
    have mem : (⟨first.slot, assignments.filter fun assignment => assignment.slot == first.slot⟩ :
        SlotCollision) ∈ slotCollisions assignments := by
      refine mem_slotCollisions_iff.2 ⟨List.mem_map.2 ⟨first, inFirst, rfl⟩, rfl, ?_⟩
      rw [SlotCollision.contractNames, one_lt_length_eraseDups_iff]
      exact ⟨first.contract,
        List.mem_map.2 ⟨first, List.mem_filter.2 ⟨inFirst, beq_self_eq_true _⟩, rfl⟩,
        second.contract,
        List.mem_map.2 ⟨second, List.mem_filter.2 ⟨inSecond, beq_iff_eq.2 same⟩, rfl⟩, different⟩
    exact ⟨_, mem, rfl⟩

/-- There are no collisions exactly when all assignments of a slot are made by contracts of one
name. -/
theorem slotCollisions_eq_nil_iff {assignments : List SlotAssignment} :
    slotCollisions assignments = [] ↔
      ∀ first ∈ assignments, ∀ second ∈ assignments, first.slot = second.slot →
        first.contract = second.contract := by
  constructor
  · intro none first inFirst second inSecond same
    by_contra different
    obtain ⟨collision, mem, -⟩ := exists_collision_iff.2
      ⟨first, inFirst, second, inSecond, rfl, same.symm, different⟩
    rw [none] at mem
    cases mem
  · intro same
    rw [List.eq_nil_iff_forall_not_mem]
    intro collision mem
    obtain ⟨first, inFirst, second, inSecond, firstSlot, secondSlot, different⟩ :=
      exists_collision_iff.1 ⟨collision, mem, rfl⟩
    exact different (same first inFirst second inSecond (firstSlot.trans secondSlot.symm))

/-- There is one collision of a slot. -/
theorem eq_of_slot_eq {assignments : List SlotAssignment} {collision other : SlotCollision}
    (mem : collision ∈ slotCollisions assignments) (otherMem : other ∈ slotCollisions assignments)
    (same : collision.slot = other.slot) : collision = other := by
  have group : collision.assignments = other.assignments := by
    rw [(mem_slotCollisions_iff.1 mem).2.1, (mem_slotCollisions_iff.1 otherMem).2.1, same]
  cases collision
  cases other
  cases same
  cases group
  rfl

/-- The slots of collisions are some of all slots, each kept where it first occurs. -/
theorem map_slot_slotCollisions_sublist (assignments : List SlotAssignment) :
    ((slotCollisions assignments).map SlotCollision.slot).Sublist
      (assignments.map SlotAssignment.slot).eraseDups := by
  have all : ((groupByKey SlotAssignment.slot assignments).map fun group =>
      SlotCollision.mk group.1 group.2).map SlotCollision.slot =
        (assignments.map SlotAssignment.slot).eraseDups := by
    rw [List.map_map]
    exact map_fst_groupByKey SlotAssignment.slot assignments
  rw [← all, slotCollisions]
  exact List.filter_sublist.map _

/-- The names of a collision are those of the contracts that assign its slot. -/
theorem mem_contractNames_iff {assignments : List SlotAssignment} {collision : SlotCollision}
    (mem : collision ∈ slotCollisions assignments) {name : String} :
    name ∈ collision.contractNames ↔
      ∃ assignment ∈ assignments, assignment.slot = collision.slot ∧
        assignment.contract = name := by
  rw [SlotCollision.contractNames, List.mem_eraseDups, List.mem_map]
  simp only [mem_assignments_iff mem, and_assoc]

/-- The slots that contracts of different names assign are reported, each once and no others, in the
order in which they first occur. What is reported with a slot are all its assignments, in the order
of the list, and the names that are told with them are those of the contracts that make them, each
once, in the order in which they first occur among the assignments. -/
theorem shared_slots_reported (assignments : List SlotAssignment) :
    (∀ slot, ((slotCollisions assignments).map SlotCollision.slot).count slot =
      if ∃ first ∈ assignments, ∃ second ∈ assignments, first.slot = slot ∧ second.slot = slot ∧
        first.contract ≠ second.contract then 1 else 0) ∧
    ((slotCollisions assignments).map SlotCollision.slot).Pairwise (fun first second =>
      (assignments.map SlotAssignment.slot).idxOf first <
        (assignments.map SlotAssignment.slot).idxOf second) ∧
    ∀ collision ∈ slotCollisions assignments,
      collision.assignments =
        (assignments.filter fun assignment => assignment.slot == collision.slot) ∧
      collision.contractNames.Nodup ∧
      (∀ name, name ∈ collision.contractNames ↔
        ∃ assignment ∈ assignments, assignment.slot = collision.slot ∧
          assignment.contract = name) ∧
      collision.contractNames.Pairwise fun first second =>
        (collision.assignments.map SlotAssignment.contract).idxOf first <
          (collision.assignments.map SlotAssignment.contract).idxOf second := by
  have kept := map_slot_slotCollisions_sublist assignments
  refine ⟨fun slot => ?_, (pairwise_idxOf_eraseDups _).sublist kept, fun collision mem => ?_⟩
  · have once : ((slotCollisions assignments).map SlotCollision.slot).Nodup :=
      kept.nodup (nodup_eraseDups _)
    have reported : slot ∈ (slotCollisions assignments).map SlotCollision.slot ↔
        ∃ collision ∈ slotCollisions assignments, collision.slot = slot := List.mem_map
    rw [List.Nodup.count once]
    exact if_congr (reported.trans exists_collision_iff) rfl rfl
  · exact ⟨(mem_slotCollisions_iff.1 mem).2.1, nodup_eraseDups _,
      fun name => mem_contractNames_iff mem, pairwise_idxOf_eraseDups _⟩

/-- The check passes when the assignments are collected and none of them collide. -/
theorem ensureUnique_eq_ok_iff {digest : Digest} {units : List SourceUnit} {selection : Selection}
    {assignments : List SlotAssignment} :
    ensureUnique digest units selection = .ok assignments ↔
      collectAssignments digest units selection = .ok assignments ∧
        slotCollisions assignments = [] := by
  rw [ensureUnique]
  cases collectAssignments digest units selection with
  | error slot => simp
  | ok all =>
    simp only [Except.ok.injEq]
    cases found : slotCollisions all with
    | nil =>
      simp only [Except.ok.injEq]
      constructor
      · rintro rfl
        exact ⟨rfl, found⟩
      · exact And.left
    | cons first rest =>
      simp only [reduceCtorEq, false_iff]
      rintro ⟨rfl, none⟩
      simp [found] at none

/-- The check reports all collisions if there is one. -/
theorem ensureUnique_eq_collisions {digest : Digest} {units : List SourceUnit}
    {selection : Selection} {assignments : List SlotAssignment}
    (collected : collectAssignments digest units selection = .ok assignments)
    {collision : SlotCollision} (mem : collision ∈ slotCollisions assignments) :
    ensureUnique digest units selection = .error (.collisions (slotCollisions assignments)) := by
  simp only [ensureUnique, collected]
  cases found : slotCollisions assignments with
  | nil =>
    rw [found] at mem
    cases mem
  | cons first rest => rfl

/-! ## Owners -/

/-- Whom assignments belong to: a contract, known by its file and its name, or the functions of a
file that belong to no contract. -/
structure Owner where
  /-- The path of the file. -/
  path : String
  /-- The name of the contract. -/
  contract : Option String
  deriving Repr, DecidableEq

/-- What the assignments of an owner are counted by. -/
def Owner.label (owner : Owner) : String :=
  owner.contract.getD owner.path

/-- Whom an assignment at a site belongs to. -/
def SlotSite.owner (site : SlotSite) : Owner :=
  ⟨site.unit.path, site.contract.map ContractDefinition.name⟩

/-- An assignment is counted by the label of its owner. -/
theorem SlotSite.label_owner (site : SlotSite) : site.owner.label = site.label := by
  rw [Owner.label, owner, label]
  cases site.contract <;> rfl

/-- Whether an owner assigns a slot somewhere in the selected routines of a project. -/
def Anchors (digest : Digest) (units : List SourceUnit) (selection : Selection) (owner : Owner)
    (slot : Slot) : Prop :=
  ∃ site ∈ slotSites units selection, site.owner = owner ∧
    site.Resolves digest (.ofUnits units) slot

section

variable {digest : Digest} {units : List SourceUnit} {selection : Selection}
  {assignments : List SlotAssignment}

/-- A value resolves to one slot. -/
theorem SlotSite.Resolves.unique {index : Ast.DeclarationIndex} {site : SlotSite}
    {slot other : Slot} (resolves : site.Resolves digest index slot)
    (again : site.Resolves digest index other) : slot = other := by
  rw [resolves_iff] at resolves again
  exact Except.ok.inj (resolves.symm.trans again)

/-- An owner assigns a slot exactly when one of the collected assignments is made by it. -/
theorem anchors_iff (collected : collectAssignments digest units selection = .ok assignments)
    {label : String} {slot : Slot} :
    (∃ owner, Anchors digest units selection owner slot ∧ owner.label = label) ↔
      ∃ recorded ∈ assignments, recorded.slot = slot ∧ recorded.contract = label := by
  constructor
  · rintro ⟨owner, ⟨site, mem, rfl, resolves⟩, rfl⟩
    obtain ⟨recorded, inside, records, again⟩ := exists_recorded_of_mem collected mem
    exact ⟨recorded, inside, again.unique resolves, records.contract.trans site.label_owner.symm⟩
  · rintro ⟨recorded, inside, rfl, rfl⟩
    obtain ⟨site, mem, records, resolves⟩ := exists_site_of_mem collected inside
    exact ⟨site.owner, ⟨site, mem, rfl, resolves⟩, site.label_owner.trans records.contract.symm⟩

end

/-- The check of a project passes exactly when all that is assigned to slots resolves and all owners
of a slot have one label, the name of the contract or the path of the file. So if it passes, every
slot has one owner exactly when no two owners of one label share a slot. -/
theorem unique_slots_iff (digest : Digest) (units : List SourceUnit) (selection : Selection)
    (assignments : List SlotAssignment) :
    (ensureUnique digest units selection = .ok assignments ↔
        collectAssignments digest units selection = .ok assignments ∧
          ∀ slot owner other, Anchors digest units selection owner slot →
            Anchors digest units selection other slot → owner.label = other.label) ∧
      (ensureUnique digest units selection = .ok assignments →
        ((∀ slot owner other, Anchors digest units selection owner slot →
            Anchors digest units selection other slot → owner = other) ↔
          ¬ ∃ slot owner other, owner ≠ other ∧ owner.label = other.label ∧
            Anchors digest units selection owner slot ∧
            Anchors digest units selection other slot)) := by
  have passes : ensureUnique digest units selection = .ok assignments ↔
      collectAssignments digest units selection = .ok assignments ∧
        ∀ slot owner other, Anchors digest units selection owner slot →
          Anchors digest units selection other slot → owner.label = other.label := by
    rw [ensureUnique_eq_ok_iff, slotCollisions_eq_nil_iff]
    refine and_congr_right fun collected => ⟨?_, ?_⟩
    · intro same slot owner other anchors otherAnchors
      obtain ⟨first, inFirst, firstSlot, firstLabel⟩ :=
        (anchors_iff collected).1 ⟨owner, anchors, rfl⟩
      obtain ⟨second, inSecond, secondSlot, secondLabel⟩ :=
        (anchors_iff collected).1 ⟨other, otherAnchors, rfl⟩
      rw [← firstLabel, ← secondLabel]
      exact same first inFirst second inSecond (firstSlot.trans secondSlot.symm)
    · intro same first inFirst second inSecond shared
      obtain ⟨owner, anchors, label⟩ := (anchors_iff collected).2 ⟨first, inFirst, shared, rfl⟩
      obtain ⟨other, otherAnchors, otherLabel⟩ :=
        (anchors_iff collected).2 ⟨second, inSecond, rfl, rfl⟩
      rw [← label, ← otherLabel]
      exact same second.slot owner other anchors otherAnchors
  refine ⟨passes, fun unique => ⟨?_, ?_⟩⟩
  · rintro single ⟨slot, owner, other, different, -, anchors, otherAnchors⟩
    exact different (single slot owner other anchors otherAnchors)
  · intro apart slot owner other anchors otherAnchors
    by_contra different
    have label := (passes.1 unique).2 slot owner other anchors otherAnchors
    exact apart ⟨slot, owner, other, different, label, anchors, otherAnchors⟩

/-! ## Two contracts of one name -/

/-- A file with a library that assigns the first slot behind zero. -/
def accountIn (path : String) : SourceUnit :=
  ⟨path, [.contract ⟨1, "Account", .library, [.function ⟨2, "load", some
    [.assembly [.assignment ["store.slot"] (some (.literal "number" (some "0x01") none))]]⟩]⟩]⟩

/-- A contract anchors the slots of the assignments that tell its file and its name. -/
theorem anchors_of_mem {digest : Digest} {units : List SourceUnit} {selection : Selection}
    {assignments : List SlotAssignment}
    (collected : collectAssignments digest units selection = .ok assignments)
    {recorded : SlotAssignment} (mem : recorded ∈ assignments)
    (inContract : recorded.contract ≠ recorded.sourceUnit) :
    Anchors digest units selection ⟨recorded.sourceUnit, some recorded.contract⟩
      recorded.slot := by
  obtain ⟨site, inside, records, resolves⟩ := exists_site_of_mem collected mem
  refine ⟨site, inside, ?_, resolves⟩
  have label := records.contract
  rw [SlotSite.owner, records.sourceUnit]
  cases found : site.contract with
  | none =>
    rw [SlotSite.label, found, ← records.sourceUnit] at label
    exact absurd label inContract
  | some contract =>
    rw [SlotSite.label, found] at label
    rw [label, Option.map_some]

/-- Two libraries of one name in different files share a slot, and the check passes. -/
theorem twins_share_slot :
    (∃ assignments, ensureUnique (fun _ => 0) [accountIn "a.sol", accountIn "b.sol"] .all =
        .ok assignments) ∧
      (⟨"a.sol", some "Account"⟩ : Owner) ≠ ⟨"b.sol", some "Account"⟩ ∧
      Anchors (fun _ => 0) [accountIn "a.sol", accountIn "b.sol"] .all
        ⟨"a.sol", some "Account"⟩ (.word 1) ∧
      Anchors (fun _ => 0) [accountIn "a.sol", accountIn "b.sol"] .all
        ⟨"b.sol", some "Account"⟩ (.word 1) := by
  have collected : collectAssignments (fun _ => 0) [accountIn "a.sol", accountIn "b.sol"] .all =
      .ok [⟨"a.sol", "Account", "load", "store", .word 1⟩,
        ⟨"b.sol", "Account", "load", "store", .word 1⟩] := rfl
  exact ⟨⟨_, rfl⟩, by decide, anchors_of_mem collected (.head _) (by decide),
    anchors_of_mem collected (.tail _ (.head _)) (by decide)⟩

end ModularRouter.Namespace
