import ModularRouter.Proofs.Ast.Declarations
import ModularRouter.Proofs.Grouping
import ModularRouter.Proofs.Storage.Resolution

/-!
# Where the layouts of a dump come from

A dump keeps one layout of each name, the last one that was put in. An extracted dump is made of
the layouts of the selected contracts that declare structs (`extract_eq`), and every struct in such
a layout is that of a struct that the contract declares.
-/

namespace ModularRouter.Storage

open Ast (SourceUnit ContractDefinition StructDefinition DeclarationIndex)
open Results (bind_eq_ok_iff exists_of_mem_of_mapM_eq_ok mapM_eq_ok_iff mapM_flatMap
  map_filterMap_mapM map_eq_map_of_forall₂)

/-! ## Dumps of layouts -/

namespace Dump

/-- A layout is put after all others if none of them has its name. -/
theorem insertInto_of_notMem {layout : Layout} {layouts : List Layout}
    (new : layout.name ∉ layouts.map Layout.name) :
    insertInto layout layouts = layouts ++ [layout] := by
  induction layouts with
  | nil => rfl
  | cons first rest ih =>
    rw [List.map_cons, List.mem_cons, not_or] at new
    rw [insertInto, if_neg (Ne.symm new.1), ih new.2, List.cons_append]

/-- Where a layout takes the place of another one the names stay as they are. -/
theorem map_name_insertInto_of_mem {layout : Layout} {layouts : List Layout}
    (known : layout.name ∈ layouts.map Layout.name) :
    (insertInto layout layouts).map Layout.name = layouts.map Layout.name := by
  induction layouts with
  | nil => cases known
  | cons first rest ih =>
    rw [insertInto]
    split
    · next same => rw [List.map_cons, List.map_cons, same]
    · next other =>
      have later := (List.mem_cons.1 known).resolve_left (Ne.symm other)
      rw [List.map_cons, List.map_cons, ih later]

/-- A layout that is put among others of different names replaces the one of its name. -/
theorem mem_insertInto {layout other : Layout} {layouts : List Layout}
    (distinct : (layouts.map Layout.name).Nodup) (mem : other ∈ insertInto layout layouts) :
    other = layout ∨ other ∈ layouts ∧ other.name ≠ layout.name := by
  induction layouts with
  | nil => exact .inl (List.mem_singleton.1 mem)
  | cons first rest ih =>
    obtain ⟨own, later⟩ := List.nodup_cons.1 distinct
    rw [insertInto] at mem
    split at mem
    · next same =>
      rcases List.mem_cons.1 mem with new | behind
      · exact .inl new
      · refine .inr ⟨List.mem_cons_of_mem _ behind, fun again => own ?_⟩
        exact List.mem_map.2 ⟨other, behind, again.trans same.symm⟩
    · next different =>
      rcases List.mem_cons.1 mem with rfl | behind
      · exact .inr ⟨List.mem_cons_self, different⟩
      · exact (ih later behind).imp_right fun ⟨inside, apart⟩ =>
          ⟨List.mem_cons_of_mem _ inside, apart⟩

/-- The last layout is put into the dump of those before it. -/
theorem ofLayouts_concat (layouts : List Layout) (last : Layout) :
    ofLayouts (layouts ++ [last]) = (ofLayouts layouts).insert last := by
  rw [ofLayouts, ofLayouts, List.foldl_append, List.foldl_cons, List.foldl_nil]

/-- A dump has one layout of each name, in the order in which the names first occur. -/
theorem map_name_ofLayouts (layouts : List Layout) :
    (ofLayouts layouts).layouts.map Layout.name = (layouts.map Layout.name).eraseDups := by
  induction layouts using List.reverseRecOn with
  | nil => rfl
  | append_singleton layouts last ih =>
    rw [ofLayouts_concat, insert, List.map_append, List.map_singleton, eraseDups_concat]
    have known : last.name ∈ layouts.map Layout.name ↔
        last.name ∈ (ofLayouts layouts).layouts.map Layout.name := by
      rw [ih, List.mem_eraseDups]
    split
    · next mem => rw [map_name_insertInto_of_mem (known.1 mem), ih]
    · next absent =>
      rw [insertInto_of_notMem (mt known.2 absent), List.map_append, ih, List.map_singleton]

/-- No two layouts of a collected dump have one name. -/
theorem nodup_map_name_ofLayouts (layouts : List Layout) :
    ((ofLayouts layouts).layouts.map Layout.name).Nodup := by
  rw [map_name_ofLayouts]
  exact nodup_eraseDups _

/-- Every layout of a dump is the last one of its name among those it is made of. -/
theorem exists_last_of_mem_ofLayouts {layouts : List Layout} {layout : Layout}
    (mem : layout ∈ (ofLayouts layouts).layouts) :
    ∃ before after, layouts = before ++ layout :: after ∧
      ∀ other ∈ after, other.name ≠ layout.name := by
  -- The layout put in last replaces any of its name, so the induction is on the last one.
  induction layouts using List.reverseRecOn with
  | nil => cases mem
  | append_singleton layouts last ih =>
    rw [ofLayouts_concat, insert] at mem
    rcases mem_insertInto (nodup_map_name_ofLayouts layouts) mem with rfl | ⟨inside, different⟩
    · exact ⟨layouts, [], rfl, nofun⟩
    · obtain ⟨before, after, split, others⟩ := ih inside
      refine ⟨before, after ++ [last], by rw [split, List.append_assoc, List.cons_append], ?_⟩
      intro other later
      rcases List.mem_append.1 later with behind | own
      · exact others other behind
      · rw [List.mem_singleton.1 own]
        exact different.symm

/-- Layouts of different names are all kept, in their order. -/
theorem layouts_ofLayouts {layouts : List Layout} (distinct : (layouts.map Layout.name).Nodup) :
    (ofLayouts layouts).layouts = layouts := by
  induction layouts using List.reverseRecOn with
  | nil => rfl
  | append_singleton layouts last ih =>
    rw [List.map_append, List.nodup_append] at distinct
    have new : last.name ∉ layouts.map Layout.name := fun mem =>
      distinct.2.2 _ mem _ (List.mem_singleton_self _) rfl
    rw [ofLayouts_concat, insert, ih distinct.1, insertInto_of_notMem new]

end Dump

/-! ## Layouts of contracts -/

/-- A contract and the path of its file. -/
structure Declaring where
  /-- The path of the file. -/
  path : String
  /-- The contract. -/
  contract : ContractDefinition

/-- The name of the contract. -/
def Declaring.name (declaring : Declaring) : String :=
  declaring.contract.name

/-- The selected contracts and libraries of a file that declare structs. -/
def Declaring.ofUnit (selection : Selection) (unit : SourceUnit) : List Declaring :=
  (unit.contracts.filter fun contract => contract.kind ≠ .interface &&
    selection.matchesContract unit.path contract.name && !contract.structs.isEmpty).map
      (Declaring.mk unit.path)

/-- The selected contracts and libraries of a project that declare structs, in the order in which
they are written. -/
def declaringContracts (units : List SourceUnit) (selection : Selection) : List Declaring :=
  units.flatMap (Declaring.ofUnit selection)

/-- Whether the layout of a struct is that of its declaration: it has its name and the names of its
members, in the order in which they are declared, with their shapes. -/
structure IsStructOf (site : Site) (definition : StructDefinition) (struct : StructLayout) :
    Prop where
  /-- It has the name of the struct. -/
  name : struct.name = definition.name
  /-- It has a shape for each member, under the name of the member. -/
  members : struct.members.map Shape.name? = definition.members.map fun member => some member.name
  /-- The shapes are those of the types. -/
  shapes : site.structLayout definition = .ok struct

/-- Whether a layout is that of a contract: it lists the structs of the contract in the order in
which they are declared. -/
structure IsLayoutOf (index : DeclarationIndex) (declaring : Declaring) (layout : Layout) :
    Prop where
  /-- It has the name of the contract. -/
  name : layout.name = declaring.name
  /-- It tells libraries from contracts. -/
  kind : layout.kind = if declaring.contract.kind = .library then .library else .contract
  /-- It has a layout for each struct. -/
  structs : List.Forall₂ (IsStructOf ⟨index, declaring.path⟩) declaring.contract.structs
    layout.structs

/-- The layout of a contract, whether it declares structs or not. -/
def Declaring.layout (index : DeclarationIndex) (declaring : Declaring) :
    Except ExtractionError Layout := do
  let structs ← declaring.contract.structs.mapM (Site.structLayout ⟨index, declaring.path⟩)
  let kind := if declaring.contract.kind = .library then LayoutKind.library else .contract
  .ok ⟨kind, declaring.name, structs⟩

/-- A shape under a name has that name. -/
theorem Shape.name?_named (shape : Shape) (name : String) :
    (shape.named name).name? = some name := by
  cases shape <;> rfl

/-- The shape of a member has its name. -/
theorem Site.name?_of_memberShape {site : Site} {follow : Reference → Except ExtractionError Shape}
    {member : Ast.VariableDeclaration} {shape : Shape}
    (done : site.memberShape follow member = .ok shape) : shape.name? = some member.name := by
  unfold memberShape at done
  split at done
  · obtain ⟨own, -, named⟩ := bind_eq_ok_iff.1 done
    cases named
    exact Shape.name?_named own member.name
  · cases done

/-- The layout of a struct is that of its declaration. -/
theorem Site.isStructOf {site : Site} {definition : StructDefinition} {struct : StructLayout}
    (done : site.structLayout definition = .ok struct) : IsStructOf site definition struct := by
  obtain ⟨shapes, read, made⟩ := bind_eq_ok_iff.1 done
  cases made
  exact ⟨rfl, map_eq_map_of_forall₂ (mapM_eq_ok_iff.1 read) fun _ _ => name?_of_memberShape, done⟩

section

variable {units : List SourceUnit} {selection : Selection} {index : DeclarationIndex}

/-- What is found for a contract is its layout. -/
theorem isLayoutOf_of_layout {declaring : Declaring} {layout : Layout}
    (done : declaring.layout index = .ok layout) : IsLayoutOf index declaring layout := by
  obtain ⟨structs, read, made⟩ := bind_eq_ok_iff.1 done
  cases made
  exact ⟨rfl, rfl, (mapM_eq_ok_iff.1 read).imp fun _ _ => Site.isStructOf⟩

/-- The layout of a contract is left out if it declares no struct. -/
theorem contractLayout_eq (path : String) (contract : ContractDefinition) :
    Site.contractLayout ⟨index, path⟩ contract =
      if contract.structs.isEmpty then .ok none
      else (Declaring.layout index ⟨path, contract⟩).map some := by
  rw [Site.contractLayout, Declaring.layout]
  cases read : contract.structs.mapM (Site.structLayout ⟨index, path⟩) with
  | error fault =>
    have filled : contract.structs.isEmpty = false := by
      rw [← Bool.not_eq_true, List.isEmpty_iff]
      intro none
      rw [none] at read
      cases read
    rw [filled]
    rfl
  | ok structs =>
    have empty : contract.structs.isEmpty = structs.isEmpty := by
      rw [Bool.eq_iff_iff, List.isEmpty_iff_length_eq_zero, List.isEmpty_iff_length_eq_zero,
        (mapM_eq_ok_iff.1 read).length_eq]
    rw [empty]
    cases structs <;> rfl

/-- The layouts of a file are those of its selected contracts that declare structs. -/
theorem unitLayouts_eq (unit : SourceUnit) :
    unitLayouts index selection unit =
      (Declaring.ofUnit selection unit).mapM (Declaring.layout index) := by
  have declaring : Declaring.ofUnit selection unit =
      ((selectedContracts selection unit).filter fun contract =>
        !contract.structs.isEmpty).map (Declaring.mk unit.path) := by
    rw [Declaring.ofUnit, selectedContracts, List.filter_filter]
    congr 2
    funext contract
    rw [Bool.and_comm]
  rw [declaring, List.mapM_map, unitLayouts]
  refine Eq.trans ?_ (map_filterMap_mapM (contractLayout_eq unit.path) _)
  cases (selectedContracts selection unit).mapM (Site.contractLayout ⟨index, unit.path⟩) <;> rfl

/-- A dump is made of the layouts of the contracts that declare structs. -/
theorem extract_eq (units : List SourceUnit) (selection : Selection) :
    extract units selection =
      ((declaringContracts units selection).mapM (Declaring.layout (.ofUnits units))).map
        Dump.ofLayouts := by
  rw [declaringContracts, mapM_flatMap, extract]
  simp only [← unitLayouts_eq]
  cases units.mapM (unitLayouts (.ofUnits units) selection) <;> rfl

/-- A dump is extracted when every contract that declares structs has a layout. -/
theorem extract_eq_ok_iff {dump : Dump} :
    extract units selection = .ok dump ↔
      ∃ layouts, (declaringContracts units selection).mapM (Declaring.layout (.ofUnits units)) =
        .ok layouts ∧ dump = Dump.ofLayouts layouts := by
  rw [extract_eq]
  cases (declaringContracts units selection).mapM (Declaring.layout (.ofUnits units)) with
  | error fault => simp [Except.map]
  | ok layouts => simp [Except.map, eq_comm]

/-- An extracted dump is made of the layouts of the contracts that declare structs. -/
theorem exists_layouts_of_extract {dump : Dump} (extracted : extract units selection = .ok dump) :
    ∃ layouts, dump = Dump.ofLayouts layouts ∧
      List.Forall₂ (IsLayoutOf (.ofUnits units)) (declaringContracts units selection) layouts := by
  obtain ⟨layouts, found, rfl⟩ := extract_eq_ok_iff.1 extracted
  exact ⟨layouts, rfl, (mapM_eq_ok_iff.1 found).imp fun _ _ => isLayoutOf_of_layout⟩

/-- A contract that declares structs is a selected one. -/
theorem exists_unit_of_mem_declaringContracts {declaring : Declaring}
    (mem : declaring ∈ declaringContracts units selection) :
    ∃ unit ∈ units, declaring.path = unit.path ∧
      declaring.contract ∈ selectedContracts selection unit := by
  obtain ⟨unit, inProject, inUnit⟩ := List.mem_flatMap.1 mem
  obtain ⟨contract, own, rfl⟩ := List.mem_map.1 inUnit
  obtain ⟨declared, selected⟩ := List.mem_filter.1 own
  exact ⟨unit, inProject, rfl, List.mem_filter.2 ⟨declared, (Bool.and_eq_true_iff.1 selected).1⟩⟩

/-- Every layout of an extracted dump is that of the last contract of its name that declares
structs. -/
theorem exists_declaring_of_mem {dump : Dump} (extracted : extract units selection = .ok dump)
    {layout : Layout} (inDump : layout ∈ dump.layouts) :
    ∃ before declaring after, declaringContracts units selection = before ++ declaring :: after ∧
      IsLayoutOf (.ofUnits units) declaring layout ∧
      ∀ other ∈ after, other.name ≠ declaring.name := by
  obtain ⟨layouts, rfl, each⟩ := exists_layouts_of_extract extracted
  obtain ⟨first, rest, rfl, others⟩ := Dump.exists_last_of_mem_ofLayouts inDump
  obtain ⟨declaring, after, own, later, split⟩ :=
    List.forall₂_cons_right_iff.1 (List.forall₂_drop_append _ _ _ each)
  refine ⟨(declaringContracts units selection).take first.length, declaring, after, ?_, own, ?_⟩
  · rw [← split, List.take_append_drop]
  · intro other mem same
    have listed : other.name ∈ rest.map Layout.name := by
      rw [map_eq_map_of_forall₂ later fun _ _ own => own.name]
      exact List.mem_map.2 ⟨other, mem, rfl⟩
    obtain ⟨layout, inside, named⟩ := List.mem_map.1 listed
    exact others layout inside (named.trans (same.trans own.name.symm))

/-- A struct of a dump comes from a struct of a selected contract. -/
theorem exists_structLayout_of_extract {dump : Dump}
    (extracted : extract units selection = .ok dump) {layout : Layout}
    (inDump : layout ∈ dump.layouts) {struct : StructLayout} (inLayout : struct ∈ layout.structs) :
    ∃ unit ∈ units, ∃ contract ∈ selectedContracts selection unit,
      ∃ definition ∈ contract.structs,
        Site.structLayout ⟨.ofUnits units, unit.path⟩ definition = .ok struct := by
  obtain ⟨before, declaring, after, split, isLayout, -⟩ := exists_declaring_of_mem extracted inDump
  have mem : declaring ∈ declaringContracts units selection := by
    rw [split]
    exact List.mem_append_right _ List.mem_cons_self
  obtain ⟨unit, inProject, path, selected⟩ := exists_unit_of_mem_declaringContracts mem
  refine ⟨unit, inProject, declaring.contract, selected, ?_⟩
  rw [← path]
  have read := mapM_eq_ok_iff.2 (isLayout.structs.imp fun _ _ own => own.shapes)
  exact exists_of_mem_of_mapM_eq_ok read inLayout

end

end ModularRouter.Storage
