import ModularRouter.Proofs.Storage.Extraction

/-!
# Layouts that are lost

A dump keeps one layout of each name, whatever file the contract is in. So an extraction loses no
layout exactly when all contracts that declare structs have different names
(`extraction_complete_iff`); of two libraries of one name it keeps the later one
(`twin_layout_is_lost`).
-/

namespace ModularRouter.Storage

open Ast (SourceUnit)

/-- An extracted dump has one layout of each name that a selected contract or library with structs
has, in the order in which the names first occur, and it is the layout of the last contract of the
name. So there are as many layouts as such contracts exactly when no two of them have one name, in
whatever files they are, and exactly then every one of them has its own layout, with its structs in
the order in which they are declared. -/
theorem extraction_complete_iff (units : List SourceUnit) (selection : Selection) (dump : Dump)
    (extracted : extract units selection = .ok dump) :
    dump.layouts.map Layout.name =
        ((declaringContracts units selection).map Declaring.name).eraseDups ∧
      (∀ layout ∈ dump.layouts, ∃ before declaring after,
        declaringContracts units selection = before ++ declaring :: after ∧
          IsLayoutOf (.ofUnits units) declaring layout ∧
          ∀ other ∈ after, other.name ≠ declaring.name) ∧
      (dump.layouts.length = (declaringContracts units selection).length ↔
        ((declaringContracts units selection).map Declaring.name).Nodup) ∧
      (List.Forall₂ (IsLayoutOf (.ofUnits units)) (declaringContracts units selection)
          dump.layouts ↔
        ((declaringContracts units selection).map Declaring.name).Nodup) := by
  obtain ⟨layouts, rfl, each⟩ := exists_layouts_of_extract extracted
  have names : layouts.map Layout.name =
      (declaringContracts units selection).map Declaring.name :=
    Results.map_eq_map_of_forall₂ each fun _ _ own => own.name
  have kept : (Dump.ofLayouts layouts).layouts.map Layout.name =
      ((declaringContracts units selection).map Declaring.name).eraseDups := by
    rw [Dump.map_name_ofLayouts, names]
  have counted : (Dump.ofLayouts layouts).layouts.length =
        (declaringContracts units selection).length ↔
      ((declaringContracts units selection).map Declaring.name).Nodup := by
    rw [← length_eraseDups_eq_iff, ← kept, List.length_map, List.length_map]
  refine ⟨kept, fun _ inDump => exists_declaring_of_mem extracted inDump, counted, ?_, ?_⟩
  · exact fun all => counted.1 all.length_eq.symm
  · -- Layouts of different names are put in one behind the other.
    intro distinct
    rw [← names] at distinct
    rw [Dump.layouts_ofLayouts distinct]
    exact each

/-! ## Two libraries of one name -/

/-- A file with a library that declares a struct with one member. -/
def libraryIn (path library member type : String) : SourceUnit :=
  ⟨path, [.contract ⟨1, library, .library,
    [.structure ⟨2, "Data", [⟨3, member, some (.elementary type), false, none⟩]⟩]⟩]⟩

/-- A project with two libraries of different names. -/
def namedApart : List SourceUnit :=
  [libraryIn "a.sol" "Account" "balance" "uint256", libraryIn "b.sol" "Market" "owner" "address"]

/-- A project with two libraries of one name. -/
def namedAlike : List SourceUnit :=
  [libraryIn "a.sol" "Account" "balance" "uint256", libraryIn "b.sol" "Account" "owner" "address"]

/-- Libraries of different names both keep their layouts. -/
theorem other_layout_is_kept :
    ∃ dump, extract namedApart .all = .ok dump ∧
      List.Forall₂ (IsLayoutOf (.ofUnits namedApart)) (declaringContracts namedApart .all)
        dump.layouts := by
  have extracted : ∃ dump, extract namedApart .all = .ok dump := ⟨_, rfl⟩
  obtain ⟨dump, extracted⟩ := extracted
  exact ⟨dump, extracted, (extraction_complete_iff _ _ _ extracted).2.2.2.2 (by decide)⟩

/-- Of two libraries of one name in different files the dump has the layout of the second one
only. -/
theorem twin_layout_is_lost :
    (declaringContracts namedAlike .all).map
        (fun declaring => (declaring.path, declaring.name)) =
      [("a.sol", "Account"), ("b.sol", "Account")] ∧
    extract namedAlike .all = .ok ⟨[⟨.library, "Account",
      [⟨"Data", [.builtin ⟨"address", some "owner", none, none, some 20⟩]⟩]⟩]⟩ :=
  ⟨rfl, rfl⟩

end ModularRouter.Storage
