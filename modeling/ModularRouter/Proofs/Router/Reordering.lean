import Mathlib.Data.List.Sort
import ModularRouter.Proofs.Reordering
import ModularRouter.Proofs.Router.Failures

/-!
# Routers over reordered modules

The order in which modules and the fragments of their descriptions are given is found again in the
list of functions, in reported collisions and in errors, but not in the table of a router: what it
needs does not depend on the order (`Reordered.generable`), and functions with distinct selectors
are sorted into one list, however they stood before (`sortBySelector_eq_of_perm`).
-/

namespace ModularRouter.Router

/-- A contract with the fragments of its description in another order. -/
structure Rearranged (contract other : ModuleContract) : Prop where
  /-- It has the same name. -/
  name : contract.name = other.name
  /-- It is deployed at the same address. -/
  address : contract.address = other.address
  /-- It is described by the same fragments. -/
  abi : contract.abi.Perm other.abi

/-- Contracts in another order, with the fragments of their descriptions in another order. -/
def Reordered (contracts others : List ModuleContract) : Prop :=
  ∃ moved, contracts.Perm moved ∧ List.Forall₂ Rearranged moved others

namespace Reordered

variable {contracts others : List ModuleContract}

/-- Reordered contracts are contracts in another order. -/
theorem reorderedBy (same : Reordered contracts others) :
    ReorderedBy Rearranged contracts others := same

/-- The first contracts are the second ones reordered. -/
theorem symm (same : Reordered contracts others) : Reordered others contracts := by
  refine same.reorderedBy.symm ?_
  rintro contract other ⟨name, address, abi⟩
  exact ⟨name.symm, address.symm, abi.symm⟩

/-- What only depends on names and addresses is found in another order. -/
theorem map_perm {α : Type} {view : ModuleContract → α} (same : Reordered contracts others)
    (keeps : ∀ contract other, Rearranged contract other → view other = view contract) :
    (contracts.map view).Perm (others.map view) :=
  same.reorderedBy.map_perm keeps

section

variable {digest : Digest} {filter : Filter}

/-- Usable fragments are usable in any order. -/
theorem allUsable (same : Reordered contracts others) (usable : AllUsable digest filter contracts) :
    AllUsable digest filter others := by
  intro other mem fragment inside
  obtain ⟨contract, first, rearranged⟩ := same.reorderedBy.exists_mem mem
  rw [← rearranged.name]
  exact usable contract first fragment (rearranged.abi.mem_iff.2 inside)

/-- The same functions are accepted, in another order. -/
theorem acceptedFunctions_perm (same : Reordered contracts others) :
    (acceptedFunctions digest filter contracts).Perm (acceptedFunctions digest filter others) := by
  refine same.reorderedBy.flatMap_perm fun contract _ other rearranged => ?_
  rw [rearranged.name]
  exact rearranged.abi.filterMap _

end

variable {digest : Digest} {settings : Settings}

/-- What a dispatch tree needs does not depend on the order. -/
theorem dispatchable (same : Reordered contracts others)
    (able : Dispatchable digest settings contracts) : Dispatchable digest settings others := by
  have accepted : (acceptedFunctions digest settings.filter contracts).Perm
      (acceptedFunctions digest settings.filter others) := same.acceptedFunctions_perm
  refine ⟨?_, same.allUsable able.usable, ?_, able.leafSize, ?_⟩
  · rintro rfl
    obtain ⟨moved, perm, each⟩ := same
    cases each
    exact able.nonempty perm.eq_nil
  · exact (accepted.map Function.selector).nodup_iff.1 able.selectors
  · intro none
    exact able.functions (none ▸ accepted).eq_nil

/-- What a router needs does not depend on the order. -/
theorem generable (same : Reordered contracts others)
    (able : Generable digest settings contracts) : Generable digest settings others := by
  have constants : (contracts.map fun contract => constantName contract.name).Perm
      (others.map fun contract => constantName contract.name) :=
    same.map_perm fun contract other rearranged => by rw [rearranged.name]
  exact ⟨same.dispatchable able.toDispatchable, constants.nodup_iff.1 able.constants⟩

end Reordered

/-- Functions of which no two share a selector are sorted into one list, in whatever order they are
given. -/
theorem sortBySelector_eq_of_perm {functions others : List Function}
    (distinct : (functions.map Function.selector).Nodup) (same : functions.Perm others) :
    sortBySelector functions = sortBySelector others := by
  have increasing := increasing_sortBySelector distinct
  have otherIncreasing :=
    increasing_sortBySelector ((same.map Function.selector).nodup_iff.1 distinct)
  refine List.Perm.eq_of_pairwise ?_ increasing otherIncreasing
    ((sortBySelector_perm functions).trans (same.trans (sortBySelector_perm others).symm))
  -- Of two different functions only one can stand before the other.
  intro function other _ _ below above
  exact absurd above (BitVec.not_lt.2 (BitVec.le_of_lt below))

section

variable {digest : Digest} {settings : Settings} {contracts others : List ModuleContract}

/-- The dispatch tree over contracts is the one over them in another order. -/
theorem dispatchTree_eq_of_reordered (same : Reordered contracts others) {tree : DispatchTree}
    (made : dispatchTree digest settings contracts = .ok tree) :
    dispatchTree digest settings others = .ok tree := by
  obtain ⟨able, rfl⟩ := dispatchTree_eq_ok_iff.1 made
  rw [sortBySelector_eq_of_perm able.selectors same.acceptedFunctions_perm]
  exact dispatchTree_eq_ok_iff.2 ⟨same.dispatchable able, rfl⟩

/-- A router over contracts is generated if it is over them in another order. -/
theorem exists_generate_of_reordered (same : Reordered contracts others)
    (generated : ∃ text, generate digest settings contracts = .ok text) :
    ∃ text, generate digest settings others = .ok text :=
  exists_generate_iff.2 (same.generable (exists_generate_iff.1 generated))

end

/-- The order in which modules and the fragments of their descriptions are given changes neither
whether there is a dispatch tree or a router, nor the tree, nor the table in the source of the
router. The lines of the constants are given in another order. -/
theorem table_does_not_depend_on_order (digest : Digest) (settings : Settings)
    (contracts others : List ModuleContract) (same : Reordered contracts others) :
    (∀ tree, dispatchTree digest settings contracts = .ok tree ↔
      dispatchTree digest settings others = .ok tree) ∧
    ((∃ text, generate digest settings contracts = .ok text) ↔
      ∃ text, generate digest settings others = .ok text) ∧
    ∀ text other, generate digest settings contracts = .ok text →
      generate digest settings others = .ok other →
      ∃ tree lines otherLines, dispatchTree digest settings contracts = .ok tree ∧
        lines = contracts.map (constantLine digest settings.template.constantsIndent) ∧
        otherLines = others.map (constantLine digest settings.template.constantsIndent) ∧
        lines.Perm otherLines ∧
        text = settings.template.fill settings.routerName ("\n".intercalate lines)
          (tableBlock settings.template.dispatchIndent tree) ∧
        other = settings.template.fill settings.routerName ("\n".intercalate otherLines)
          (tableBlock settings.template.dispatchIndent tree) := by
  have tree_iff (tree : DispatchTree) : dispatchTree digest settings contracts = .ok tree ↔
      dispatchTree digest settings others = .ok tree :=
    ⟨dispatchTree_eq_of_reordered same, dispatchTree_eq_of_reordered same.symm⟩
  refine ⟨tree_iff,
    ⟨exists_generate_of_reordered same, exists_generate_of_reordered same.symm⟩, ?_⟩
  intro text other generated otherGenerated
  obtain ⟨tree, made, -, rfl⟩ := generate_spec generated
  obtain ⟨otherTree, otherMade, -, rfl⟩ := generate_spec otherGenerated
  have equal : otherTree = tree := by
    rw [(tree_iff tree).1 made] at otherMade
    cases otherMade
    rfl
  subst equal
  refine ⟨otherTree, _, _, made, rfl, rfl, same.map_perm fun contract other rearranged => ?_, rfl,
    rfl⟩
  rw [constantLine, constantLine, rearranged.name, rearranged.address]

/-- The modules of the sample in another order, one of them with its fragments in another order. -/
def reorderedContracts : List ModuleContract :=
  [⟨"UpgradeModule", 0xfeed, [plainFragment "upgradeTo"]⟩,
    ⟨"CoreModule", 0xc0de, [plainFragment "version", plainFragment "owner"]⟩]

/-- There is a router over the reordered modules too. -/
theorem reordered_modules_have_router :
    Reordered sampleContracts reorderedContracts ∧
      ∃ text, generate lengthDigest narrowSettings reorderedContracts = .ok text := by
  have same : Reordered sampleContracts reorderedContracts :=
    ⟨_, .swap .., .cons ⟨rfl, rfl, .refl _⟩ (.cons ⟨rfl, rfl, .swap ..⟩ .nil)⟩
  exact ⟨same, (table_does_not_depend_on_order lengthDigest narrowSettings _ _ same).2.1.1
    exists_generate_sample⟩

end ModularRouter.Router
