import ModularRouter.Proofs.Namespace.Sites
import ModularRouter.Proofs.Storage.Extraction

/-!
# What a selection leaves

Both analyses go through the contracts of a project one after the other, and what they find for one
of them depends on nothing that was found before: a dump is made of the layouts of the contracts
that declare structs (`extract_eq`), and assignments are those at the sites of a project
(`collectAssignments_eq`). A selection leaves some of these contracts and sites, in their order, and
the declarations by which they are resolved stay those of the whole project. So what is found with a
selection is what is found with all, restricted to what is selected (`selection_only_restricts`).
-/

namespace ModularRouter.Storage

open Ast (SourceUnit ContractDefinition)
open Results (mapM_eq_ok_iff mapM_filter_eq_ok map_eq_map_of_forall₂)

/-! ## Layouts -/

/-- Whether a contract is looked at. -/
def Declaring.isSelected (selection : Selection) (declaring : Declaring) : Bool :=
  selection.matchesContract declaring.path declaring.name

section

variable {selection : Selection} {units : List SourceUnit}

/-- A selection leaves the contracts that it matches. -/
theorem declaringContracts_eq_filter (units : List SourceUnit) (selection : Selection) :
    declaringContracts units selection =
      (declaringContracts units .all).filter (Declaring.isSelected selection) := by
  rw [declaringContracts, declaringContracts, List.filter_flatMap]
  congr 1
  funext unit
  rw [Declaring.ofUnit, Declaring.ofUnit, List.filter_map, List.filter_filter]
  congr 2
  funext contract
  have every : Selection.all.matchesContract unit.path contract.name = true := rfl
  rw [every, Bool.and_true, Bool.and_assoc, Bool.and_left_comm]
  rfl

/-- Contracts that declare structs are contracts. -/
theorem map_name_declaringContracts_sublist (units : List SourceUnit) (selection : Selection) :
    ((declaringContracts units selection).map Declaring.name).Sublist
      (units.flatMap fun unit => unit.contracts.map ContractDefinition.name) := by
  rw [declaringContracts, List.map_flatMap]
  induction units with
  | nil => exact .slnil
  | cons unit rest ih =>
    rw [List.flatMap_cons, List.flatMap_cons]
    refine .append ?_ ih
    rw [Declaring.ofUnit, List.map_map]
    exact List.filter_sublist.map ContractDefinition.name

/-- With a selection a dump has those of its layouts that are layouts of selected contracts. -/
theorem extract_selection
    (distinct : (units.flatMap fun unit => unit.contracts.map ContractDefinition.name).Nodup)
    {dump : Dump} (extracted : extract units .all = .ok dump) (selection : Selection) :
    List.Forall₂ (IsLayoutOf (.ofUnits units)) (declaringContracts units .all) dump.layouts ∧
      extract units selection = .ok ⟨(((declaringContracts units .all).zip dump.layouts).filter
        fun pair => pair.1.isSelected selection).map Prod.snd⟩ := by
  obtain ⟨layouts, found, rfl⟩ := extract_eq_ok_iff.1 extracted
  have each : List.Forall₂ (IsLayoutOf (.ofUnits units)) (declaringContracts units .all)
      layouts := (mapM_eq_ok_iff.1 found).imp fun _ _ => isLayoutOf_of_layout
  have names : layouts.map Layout.name = (declaringContracts units .all).map Declaring.name :=
    map_eq_map_of_forall₂ each fun _ _ own => own.name
  have nodup : (layouts.map Layout.name).Nodup := by
    rw [names]
    exact distinct.sublist (map_name_declaringContracts_sublist units .all)
  have chosen : ((((declaringContracts units .all).zip layouts).filter
      fun pair => pair.1.isSelected selection).map Prod.snd).Sublist layouts := by
    have all : ((declaringContracts units .all).zip layouts).map Prod.snd = layouts :=
      List.map_snd_zip (Nat.le_of_eq each.length_eq.symm)
    refine .trans (List.filter_sublist.map Prod.snd) ?_
    rw [all]
  have kept := Dump.layouts_ofLayouts (nodup.sublist (chosen.map Layout.name))
  rw [Dump.layouts_ofLayouts nodup]
  refine ⟨each, extract_eq_ok_iff.2 ⟨_, ?_, (congrArg Dump.mk kept).symm⟩⟩
  rw [declaringContracts_eq_filter]
  exact mapM_filter_eq_ok found _

end

end ModularRouter.Storage

namespace ModularRouter.Namespace

open Ast (SourceUnit ContractDefinition)
open Storage (Selection)
open Results (mapM_filter_eq_ok)

/-! ## Assignments -/

/-- Whether the routines of a contract, or those of a file that belong to none, are looked at. -/
def matchesRoutines (selection : Selection) (path : String) : Option ContractDefinition → Bool
  | some contract => selection.matchesContract path contract.name
  | none => selection.matchesFreeFunctions path

/-- Whether the routine of a site is looked at. -/
def SlotSite.isSelected (selection : Selection) (site : SlotSite) : Bool :=
  matchesRoutines selection site.unit.path site.contract

/-- A choice among the pieces of a list that depends on where they come from is a choice among the
items. -/
theorem filter_flatMap_eq {α β : Type} {pieces : α → List β} {keeps : β → Bool} {chosen : α → Bool}
    (items : List α) (same : ∀ item ∈ items, ∀ piece ∈ pieces item, keeps piece = chosen item) :
    (items.flatMap pieces).filter keeps = (items.filter chosen).flatMap pieces := by
  induction items with
  | nil => rfl
  | cons item rest ih =>
    obtain ⟨own, others⟩ := List.forall_mem_cons.1 same
    rw [List.flatMap_cons, List.filter_append, ih others, List.filter_cons]
    cases kept : chosen item with
    | true =>
      rw [List.filter_eq_self.2 fun piece mem => (own piece mem).trans kept, if_pos rfl,
        List.flatMap_cons]
    | false =>
      have none : (pieces item).filter keeps = [] :=
        List.filter_eq_nil_iff.2 fun piece mem => by rw [own piece mem, kept]; decide
      rw [none, List.nil_append, if_neg (by decide)]

/-- A selection leaves the routines that it matches. -/
theorem selectedRoutines_eq_filter (selection : Selection) (unit : SourceUnit) :
    selectedRoutines selection unit = (selectedRoutines .all unit).filter fun (contract, _) =>
      matchesRoutines selection unit.path contract := by
  have every : (unit.contracts.filter fun contract =>
      Selection.all.matchesContract unit.path contract.name) = unit.contracts :=
    List.filter_eq_self.2 fun _ _ => rfl
  have free : Selection.all.matchesFreeFunctions unit.path = true := rfl
  have ofContract : ∀ contract ∈ unit.contracts,
      ∀ found ∈ (contractRoutines contract).map fun routine => (some contract, routine),
        matchesRoutines selection unit.path found.1 =
          selection.matchesContract unit.path contract.name := by
    intro contract _ found mem
    obtain ⟨routine, -, rfl⟩ := List.mem_map.1 mem
    rfl
  simp only [selectedRoutines, every, free, if_true]
  rw [List.filter_append, filter_flatMap_eq unit.contracts ofContract, List.filter_map]
  simp only [Function.comp_def, matchesRoutines]
  cases selection.matchesFreeFunctions unit.path <;> simp

/-- A selection leaves the sites whose routines it matches. -/
theorem slotSites_eq_filter (units : List SourceUnit) (selection : Selection) :
    slotSites units selection =
      (slotSites units .all).filter (SlotSite.isSelected selection) := by
  rw [slotSites_eq, slotSites_eq, List.filter_flatMap]
  congr 1
  funext unit
  rw [selectedRoutines_eq_filter]
  refine (filter_flatMap_eq _ ?_).symm
  rintro ⟨contract, routine⟩ - site mem
  obtain ⟨rfl, rfl, rfl, -⟩ := of_mem_routineSites mem
  rfl

/-- With a selection those of the assignments are collected that are made at selected sites. -/
theorem collectAssignments_selection {digest : Digest} {units : List SourceUnit}
    {assignments : List SlotAssignment}
    (collected : collectAssignments digest units .all = .ok assignments) (selection : Selection) :
    List.Forall₂ (fun site recorded => site.Records recorded ∧
        site.Resolves digest (.ofUnits units) recorded.slot) (slotSites units .all) assignments ∧
      collectAssignments digest units selection =
        .ok ((((slotSites units .all).zip assignments).filter
          fun pair => pair.1.isSelected selection).map Prod.snd) := by
  refine ⟨collectAssignments_eq_ok_iff.1 collected, ?_⟩
  rw [collectAssignments_eq] at collected ⊢
  rw [slotSites_eq_filter, mapM_filter_eq_ok collected]

end ModularRouter.Namespace

namespace ModularRouter

open Ast (SourceUnit ContractDefinition StructDefinition)
open Storage (Selection IsLayoutOf declaringContracts extract)
open Namespace

/-- A selection only restricts. Where all contracts of a project have different names, the dump with
a selection has exactly the layouts of the whole dump that are layouts of selected contracts, and
the assignments with a selection are exactly those of all that are made in routines of selected
contracts or in functions of selected files that belong to no contract; all of them are unchanged
and in their order. -/
theorem selection_only_restricts (digest : Digest) {units : List SourceUnit}
    (distinct : (units.flatMap fun unit => unit.contracts.map ContractDefinition.name).Nodup)
    (selection : Selection) :
    (∀ dump, extract units .all = .ok dump →
      List.Forall₂ (IsLayoutOf (.ofUnits units)) (declaringContracts units .all) dump.layouts ∧
        extract units selection = .ok ⟨(((declaringContracts units .all).zip dump.layouts).filter
          fun (declaring, _) => selection.matchesContract declaring.path declaring.name).map
            Prod.snd⟩) ∧
    ∀ assignments, collectAssignments digest units .all = .ok assignments →
      List.Forall₂ (fun site recorded => site.Records recorded ∧
          site.Resolves digest (.ofUnits units) recorded.slot) (slotSites units .all) assignments ∧
        collectAssignments digest units selection =
          .ok ((((slotSites units .all).zip assignments).filter fun (site, _) =>
            match site.contract with
            | some contract => selection.matchesContract site.unit.path contract.name
            | none => selection.matchesFreeFunctions site.unit.path).map Prod.snd) := by
  exact ⟨fun _ extracted => Storage.extract_selection distinct extracted selection,
    fun _ collected => Namespace.collectAssignments_selection collected selection⟩

/-- A routine that assigns a number to the slot of a pointer. -/
def anchoring (name number : String) : Routine :=
  ⟨name, [.assembly [.assignment ["store.slot"] (some (.literal "number" (some number) none))]]⟩

/-- A library whose function anchors a slot. -/
def accountLibrary : ContractDefinition :=
  ⟨1, "Account", .library, [
    .structure ⟨2, "Data", [⟨3, "balance", some (.elementary "uint256"), false, none⟩]⟩,
    .function ⟨4, "load", some (anchoring "load" "0x01").body⟩]⟩

/-- A library whose struct has the struct of the other one as its member. -/
def marketLibrary : ContractDefinition :=
  ⟨5, "Market", .library, [
    .structure ⟨6, "Data", [⟨7, "owner", some (.user 2 none (some "Account.Data")), false, none⟩]⟩,
    .function ⟨8, "load", some (anchoring "load" "0x03").body⟩]⟩

/-- A file with the first library and with a function that belongs to no contract. -/
def accountFile : SourceUnit :=
  ⟨"src/Account.sol", [.contract accountLibrary,
    .function ⟨9, "shared", some (anchoring "shared" "0x02").body⟩]⟩

/-- A file with the second library. -/
def marketFile : SourceUnit :=
  ⟨"src/Market.sol", [.contract marketLibrary]⟩

/-- The routine has one site. -/
theorem routineSites_anchoring (unit : SourceUnit) (contract : Option ContractDefinition)
    (name number : String) :
    routineSites unit contract (anchoring name number) =
      [⟨unit, contract, anchoring name number, [], "store.slot",
        some (.literal "number" (some number) none)⟩] := by
  have slotName : isSlotName "store.slot" = true := rfl
  simp [routineSites, anchoring, visit, Node.children, blockNodes, Node.sites, slotName]

/-- With a selection by name what is found is found as in the whole project, and the function that
belongs to no contract is left out; with a selection by file it is not. -/
theorem selected_market :
    extract [accountFile, marketFile] ⟨[], ["Market"]⟩ = .ok ⟨[⟨.library, "Market", [⟨"Data",
      [.struct "Data" (some "owner")
        [.builtin ⟨"uint256", some "balance", none, none, some 32⟩] none]⟩]⟩]⟩ ∧
    collectAssignments (fun _ => 0) [accountFile, marketFile] ⟨[], ["Market"]⟩ =
      .ok [⟨"src/Market.sol", "Market", "load", "store", .word 3⟩] ∧
    collectAssignments (fun _ => 0) [accountFile, marketFile] ⟨["src/Account"], []⟩ =
      .ok [⟨"src/Account.sol", "Account", "load", "store", .word 1⟩,
        ⟨"src/Account.sol", "src/Account.sol", "shared", "store", .word 2⟩] := by
  have distinct : ([accountFile, marketFile].flatMap fun unit =>
      unit.contracts.map ContractDefinition.name).Nodup := by
    decide
  have collected : collectAssignments (fun _ => 0) [accountFile, marketFile] .all =
      .ok [⟨"src/Account.sol", "Account", "load", "store", .word 1⟩,
        ⟨"src/Account.sol", "src/Account.sol", "shared", "store", .word 2⟩,
        ⟨"src/Market.sol", "Market", "load", "store", .word 3⟩] := rfl
  have inAccount : selectedRoutines .all accountFile =
      [(some accountLibrary, anchoring "load" "0x01"), (none, anchoring "shared" "0x02")] := rfl
  have inMarket : selectedRoutines .all marketFile =
      [(some marketLibrary, anchoring "load" "0x03")] := rfl
  have sites := slotSites_eq [accountFile, marketFile] .all
  simp only [List.flatMap_cons, List.flatMap_nil, inAccount, inMarket, routineSites_anchoring]
    at sites
  obtain ⟨layouts, byName⟩ := selection_only_restricts (fun _ => 0) distinct ⟨[], ["Market"]⟩
  have byFile := (selection_only_restricts (fun _ => 0) distinct ⟨["src/Account"], []⟩).2
  refine ⟨(layouts _ rfl).2, (byName _ collected).2.trans ?_, (byFile _ collected).2.trans ?_⟩
  · rw [sites]
    rfl
  · rw [sites]
    rfl

end ModularRouter
