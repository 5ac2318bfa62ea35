import ModularRouter.Ast.Declaration
import ModularRouter.Proofs.Association

/-!
# Looking declarations up

Every declaration is listed under its own number. If no two declarations of a project have one
number, each of them is found under its own. A way from declaration to declaration that is no longer
than it has to be passes none of them twice (`Passed`).
-/

namespace ModularRouter.Ast

namespace DeclarationIndex

/-- The structs of an index have the numbers they are found under. -/
def Consistent (index : DeclarationIndex) : Prop :=
  ∀ (reference : NodeId) (definition : StructDefinition),
    index.get? reference = some (.structure definition) → definition.id = reference

/-- A struct of a contract is listed under its own number. -/
theorem id_of_mem_ofContractPart {part : ContractPart} {id : NodeId} {definition : StructDefinition}
    (mem : (id, .structure definition) ∈ ofContractPart part) : definition.id = id := by
  cases part with
  | «structure» own =>
    cases List.mem_singleton.1 mem
    rfl
  | «variable» declaration =>
    rw [ofContractPart, ofVariable] at mem
    split at mem <;> simp at mem
  | enumeration _ | valueType _ => simp [ofContractPart] at mem
  | function _ | modifier _ | other => cases mem

/-- A struct of a file is listed under its own number. -/
theorem id_of_mem_ofUnitPart {part : UnitPart} {id : NodeId} {definition : StructDefinition}
    (mem : (id, .structure definition) ∈ ofUnitPart part) : definition.id = id := by
  cases part with
  | contract contract =>
    rcases List.mem_cons.1 mem with own | inside
    · cases own
    · obtain ⟨part, -, mem⟩ := List.mem_flatMap.1 inside
      exact id_of_mem_ofContractPart mem
  | «structure» own =>
    cases List.mem_singleton.1 mem
    rfl
  | «variable» declaration =>
    rw [ofUnitPart, ofVariable] at mem
    split at mem <;> simp at mem
  | enumeration _ | valueType _ => simp [ofUnitPart] at mem
  | function _ | other => cases mem

/-- The index of a project is consistent. -/
theorem consistent_ofUnits (units : List SourceUnit) : (ofUnits units).Consistent := by
  intro reference definition found
  have listed := List.mem_reverse.1 (Association.mem_of_lookup_eq_some found)
  obtain ⟨unit, -, inUnit⟩ := List.mem_flatMap.1 listed
  obtain ⟨part, -, inPart⟩ := List.mem_flatMap.1 inUnit
  exact id_of_mem_ofUnitPart inPart

/-- A project in which no two declarations have one number. -/
def DistinctIds (units : List SourceUnit) : Prop :=
  ((declarations units).map Prod.fst).Nodup

/-- A struct of a contract is found under its number. -/
theorem get?_eq_some_of_mem_structs {units : List SourceUnit} (distinct : DistinctIds units)
    {unit : SourceUnit} (inside : unit ∈ units) {contract : ContractDefinition}
    (declared : contract ∈ unit.contracts) {definition : StructDefinition}
    (mem : definition ∈ contract.structs) :
    (ofUnits units).get? definition.id = some (.structure definition) := by
  have reversed : ((declarations units).reverse.map Prod.fst).Nodup := by
    rw [List.map_reverse]
    exact (List.reverse_perm _).nodup_iff.2 distinct
  refine Association.lookup_eq_some_of_mem reversed (List.mem_reverse.2 ?_)
  obtain ⟨unitPart, inUnit, isContract⟩ := List.mem_filterMap.1 declared
  obtain ⟨part, inContract, isStruct⟩ := List.mem_filterMap.1 mem
  refine List.mem_flatMap.2 ⟨unit, inside, List.mem_flatMap.2 ⟨unitPart, inUnit, ?_⟩⟩
  split at isContract
  · cases isContract
    refine List.mem_cons_of_mem _ (List.mem_flatMap.2 ⟨part, inContract, ?_⟩)
    split at isStruct
    · cases isStruct
      exact List.mem_singleton_self _
    · cases isStruct
  · cases isContract

/-- A list of different declarations is no longer than the index. -/
theorem length_le_size {index : DeclarationIndex} {ids : List NodeId} (distinct : ids.Nodup)
    (listed : ∀ id ∈ ids, id ∈ index.entries.map Prod.fst) : ids.length ≤ index.size := by
  have bound := distinct.length_le_of_subset listed
  rwa [List.length_map] at bound

/-- A declaration that is found is listed. -/
theorem mem_map_fst_of_get? {index : DeclarationIndex} {id : NodeId} {declaration : Declaration}
    (found : index.get? id = some declaration) : id ∈ index.entries.map Prod.fst :=
  List.mem_map.2 ⟨_, Association.mem_of_lookup_eq_some found, rfl⟩

/-! ## Declarations passed on a way -/

/-- The declarations that have been passed on a way along which what is needed goes down: each of
them needs no less than what is left. -/
structure Passed (index : DeclarationIndex) (needs : NodeId → Nat → Prop) (left : Nat)
    (ids : List NodeId) : Prop where
  distinct : ids.Nodup
  listed : ∀ id ∈ ids, id ∈ index.entries.map Prod.fst
  higher : ∀ id ∈ ids, ∀ other, needs id other → left ≤ other

namespace Passed

variable {index : DeclarationIndex} {needs : NodeId → Nat → Prop} {left : Nat} {ids : List NodeId}

/-- At the start of a way nothing has been passed. -/
theorem nil : Passed index needs left [] :=
  ⟨List.nodup_nil, nofun, nofun⟩

/-- No more declarations have been passed than there are. -/
theorem length_le (passed : Passed index needs left ids) : ids.length ≤ index.size :=
  length_le_size passed.distinct passed.listed

/-- A declaration that needs less than those that have been passed is a new one. -/
theorem cons {least : Nat} (passed : Passed index needs left ids) {id : NodeId}
    {declaration : Declaration} (found : index.get? id = some declaration) (needed : needs id least)
    (less : least < left) (minimal : ∀ other, needs id other → least ≤ other) :
    Passed index needs least (id :: ids) := by
  have fresh : id ∉ ids := by
    intro mem
    have above := passed.higher id mem least needed
    omega
  refine ⟨List.nodup_cons.2 ⟨fresh, passed.distinct⟩, ?_, ?_⟩
  · intro other mem
    rcases List.mem_cons.1 mem with rfl | mem
    · exact mem_map_fst_of_get? found
    · exact passed.listed other mem
  · intro other mem more needsMore
    rcases List.mem_cons.1 mem with rfl | mem
    · exact minimal more needsMore
    · have above := passed.higher other mem more needsMore
      omega

end Passed

end DeclarationIndex

end ModularRouter.Ast
