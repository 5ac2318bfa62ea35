import ModularRouter.Proofs.Storage.MovedMembers
import ModularRouter.Storage.Upgrade

/-!
# Structs in the place of recursive ones

A struct inside itself is recorded without members, as its name and a count of words. When another
struct takes its place as the value of a mapping or the element of an array, or the other way round,
there are no members to compare, so nothing that is known of them can break the upgrade: only the
space that elements of an array take tells the two apart. `replaced_struct_noticed_iff` says exactly
what is noticed, and `replaced_node_is_harmless` is an upgrade that is let through though the
members of the two structs clash.
-/

namespace ModularRouter.Storage

open Ast (SourceUnit StructDefinition TypeName)

/-- Whether one of two shapes is a struct recorded as a count of words and the other one a struct
recorded with its members. -/
inductive Replaced (slots : Nat) (members : List Shape) : (old new : Shape) → Prop where
  /-- The struct with members is the new one. -/
  | byExpanded {oldName newName : String} {oldVariable newVariable : Option String}
      {newSlots : Option Nat} (expanded : members ≠ []) :
      Replaced slots members (.struct oldName oldVariable [] (some slots))
        (.struct newName newVariable members newSlots)
  /-- The struct with members is the old one. -/
  | byCutShort {oldName newName : String} {oldVariable newVariable : Option String}
      {oldSlots : Option Nat} (expanded : members ≠ []) :
      Replaced slots members (.struct oldName oldVariable members oldSlots)
        (.struct newName newVariable [] (some slots))

/-- Whether two mappings have keys that clash, or two arrays have different lengths or elements of
different space, where the one takes the given words and the other has the given members. -/
def LosesSpace (slots : Nat) (members : List Shape) : (old new : Shape) → Prop
  | .mapping _ oldKey _, .mapping _ newKey _ =>
    oldKey.valueType ≠ newKey.valueType ∧ oldKey.footprint ≠ newKey.footprint
  | .array _ _ oldLength, .array _ _ newLength =>
    oldLength ≠ newLength ∨ slots ≠ max 1 (packing members).slots
  | _, _ => False

/-- No members are compatible with any others. -/
theorem MembersCompatible.of_isEmpty {olds news : List Shape} (none : olds = [] ∨ news = []) :
    MembersCompatible olds news := by
  rcases none with rfl | rfl
  · exact ⟨nofun, fun _ inside => absurd inside (by simp), nofun⟩
  · exact ⟨nofun, fun _ inside => absurd inside (by simp), nofun⟩

namespace Replaced

variable {slots : Nat} {members : List Shape} {old new : Shape}

/-- Two such structs are compatible whatever their members are. -/
theorem compatible (replaced : Replaced slots members old new) : Compatible old new := by
  cases replaced with
  | byExpanded => exact compatible_struct_iff.2 (.of_isEmpty (.inl rfl))
  | byCutShort => exact compatible_struct_iff.2 (.of_isEmpty (.inr rfl))

/-- Two such structs count as elements of one space exactly when the recorded words are those of the
members. -/
theorem space_iff (replaced : Replaced slots members old new) :
    (old.footprint = new.footprint ∨ Comparison.isUnmeasured old = true ∨
      Comparison.isUnmeasured new = true) ↔ slots = max 1 (packing members).slots := by
  cases replaced with
  | byExpanded expanded =>
    rw [footprint_struct _ _ (.inl expanded)]
    obtain ⟨first, rest, rfl⟩ := List.exists_cons_of_ne_nil expanded
    simp [Shape.footprint, Comparison.isUnmeasured]
  | byCutShort expanded =>
    rw [footprint_struct _ _ (.inl expanded)]
    obtain ⟨first, rest, rfl⟩ := List.exists_cons_of_ne_nil expanded
    simp [Shape.footprint, Comparison.isUnmeasured, eq_comm]

/-- Mappings or arrays of such structs are compatible unless they lose their space. -/
theorem compatible_outer_iff (replaced : Replaced slots members old new) {step : Step}
    (below : ∀ index, step ≠ .member index) {oldOuter newOuter : Shape}
    (oldInside : oldOuter.part? step = some old) (newInside : newOuter.part? step = some new) :
    Compatible oldOuter newOuter ↔ ¬ LosesSpace slots members oldOuter newOuter := by
  cases step with
  | member index => exact absurd rfl (below index)
  | key =>
    obtain ⟨oldVariable, oldKey, rfl⟩ := Shape.eq_mapping_of_part? oldInside
    obtain ⟨newVariable, newKey, rfl⟩ := Shape.eq_mapping_of_part? newInside
    rw [LosesSpace, not_and_or, not_not, not_not]
    constructor
    · intro fits
      cases fits with
      | mapping keys _ => exact keys
    · exact fun keys => .mapping keys replaced.compatible
  | element index =>
    obtain ⟨oldVariable, oldLength, rfl⟩ := Shape.eq_array_of_part? oldInside
    obtain ⟨newVariable, newLength, rfl⟩ := Shape.eq_array_of_part? newInside
    rw [LosesSpace, not_or, not_not, not_not, ← replaced.space_iff]
    constructor
    · intro fits
      cases fits with
      | array space _ => exact ⟨rfl, space⟩
    · rintro ⟨rfl, space⟩
      exact .array space replaced.compatible

end Replaced

/-- Let a mapping or an array anywhere inside the structs that an upgrade compares have a struct
inside it that is recorded as a count of words in one version and with its members in the other.
The comparison of the two structs never breaks. That of the mappings or arrays around them breaks
exactly when the keys of the mappings clash, the lengths of the arrays differ, or the count is not
the number of words that the members take, and then the upgrade is refused. -/
theorem replaced_struct_noticed_iff (previous current : Dump) (layout before : Layout)
    (inCurrent : layout ∈ current.layouts) (inPrevious : previous.get? layout.name = some before)
    (old new : StructLayout) (inLayout : new ∈ layout.structs)
    (inBefore : before.getStruct? new.name = some old) (path : List Step)
    (oldOuter newOuter : Shape) (oldAt : old.shape.at? path = some oldOuter)
    (newAt : new.shape.at? path = some newOuter) (step : Step)
    (below : ∀ index, step ≠ .member index) (oldInner newInner : Shape)
    (oldInside : oldOuter.part? step = some oldInner)
    (newInside : newOuter.part? step = some newInner) (slots : Nat) (members : List Shape)
    (replaced : Replaced slots members oldInner newInner) (text : String) :
    Harmless (Comparison.shapeChanges text oldInner newInner) ∧
      (¬ Harmless (Comparison.shapeChanges text oldOuter newOuter) ↔
        LosesSpace slots members oldOuter newOuter) ∧
      (¬ Harmless (Comparison.shapeChanges text oldOuter newOuter) →
        ∃ breaking, ensureCompatible (compare? (some previous) current) = .error breaking) := by
  rw [Comparison.shapeChanges_harmless_iff, Comparison.shapeChanges_harmless_iff]
  refine ⟨replaced.compatible, ?_, fun clash =>
    refused_of_not_compatible inCurrent inPrevious inLayout inBefore path oldAt newAt clash⟩
  rw [replaced.compatible_outer_iff below oldInside newInside, not_not]

/-! ## A registry of nodes -/

/-- A node: a value and the nodes behind it. -/
def nodeStruct (next : TypeName) : StructDefinition :=
  ⟨2, "Node", [⟨3, "value", some (.elementary "uint256"), false, none⟩,
    ⟨4, "next", some next, false, none⟩]⟩

/-- A flag, which takes less than a word. -/
def flagStruct : StructDefinition :=
  ⟨5, "Flag", [⟨6, "closed", some (.elementary "bool"), false, none⟩]⟩

/-- A library that declares structs. -/
def registryUnit (structs : List StructDefinition) : SourceUnit :=
  ⟨"src/Registry.sol", [.contract ⟨1, "Registry", .library, structs.map .structure⟩]⟩

/-- The members of a node with the nodes behind it kept in some shape. -/
def nodeMembers (next : Shape) : List Shape :=
  [.builtin { valueType := "uint256", name := some "value", size := some 32 }, next]

/-- The members of a flag. -/
def flagMembers : List Shape :=
  [.builtin { valueType := "bool", name := some "closed", size := some 1 }]

/-- A node inside a node. -/
def innerNode : Shape := .struct "Node" none [] (some 2)

/-- A flag inside a node. -/
def innerFlag : Shape := .struct "Flag" none flagMembers none

/-- The nodes behind a node as a mapping. -/
def nextByKey (value : Shape) : Shape :=
  .mapping (some "next") { valueType := "uint256", size := some 32 } value

/-- The nodes behind a node as an array. -/
def nextInOrder (value : Shape) : Shape := .array (some "next") value none

/-- The dump of the library with nodes alone. -/
def nodeDump (next : Shape) : Dump :=
  ⟨[⟨.library, "Registry", [⟨"Node", nodeMembers next⟩]⟩]⟩

/-- The dump of the library with nodes and flags. -/
def flagDump (next : Shape) : Dump :=
  ⟨[⟨.library, "Registry", [⟨"Node", nodeMembers next⟩, ⟨"Flag", flagMembers⟩]⟩]⟩

/-- Flags in an array of nodes take less space, so the upgrade is refused. -/
theorem replaced_element_refused :
    extract [registryUnit [nodeStruct (.array (.user 2 none (some "Node")) none)]] .all =
        .ok (nodeDump (nextInOrder innerNode)) ∧
      extract [registryUnit [nodeStruct (.array (.user 5 none (some "Flag")) none), flagStruct]]
        .all = .ok (flagDump (nextInOrder innerFlag)) ∧
      ∃ breaking, ensureCompatible
        (compare? (some (nodeDump (nextInOrder innerNode))) (flagDump (nextInOrder innerFlag))) =
          .error breaking := by
  obtain ⟨-, noticed, refused⟩ := replaced_struct_noticed_iff (nodeDump (nextInOrder innerNode))
    (flagDump (nextInOrder innerFlag)) _ _ (List.mem_singleton_self _) rfl ⟨"Node", _⟩ ⟨"Node", _⟩
    (List.mem_cons_self ..) rfl [.member 1] (nextInOrder innerNode) (nextInOrder innerFlag) rfl rfl
    (.element 0) nofun innerNode innerFlag rfl rfl 2 flagMembers (.byExpanded (by decide)) ""
  exact ⟨rfl, rfl, refused (noticed.2 (.inr (by decide)))⟩

/-- Flags in a mapping to nodes are let through, though a flag may not stand in the place of a
node. -/
theorem replaced_node_is_harmless :
    extract [registryUnit [nodeStruct (.mapping (.elementary "uint256")
        (.user 2 none (some "Node")))]] .all = .ok (nodeDump (nextByKey innerNode)) ∧
      extract [registryUnit [nodeStruct (.mapping (.elementary "uint256")
        (.user 5 none (some "Flag"))), flagStruct]] .all = .ok (flagDump (nextByKey innerFlag)) ∧
      ¬ Harmless (Comparison.memberChanges
        (.start "Registry.Node.next[]" (nodeMembers (nextByKey innerNode)))
        (nodeMembers (nextByKey innerNode)) flagMembers) ∧
      ensureCompatible (compare? (some (nodeDump (nextByKey innerNode)))
        (flagDump (nextByKey innerFlag))) = .ok () :=
  ⟨rfl, rfl, by decide +kernel, (ensureCompatible_eq_ok_iff _).2 (by decide +kernel)⟩

end ModularRouter.Storage
