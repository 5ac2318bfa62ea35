import ModularRouter.Proofs.Storage.Reachability
import ModularRouter.Proofs.Storage.Space

/-!
# The rules of storage

How much storage a value of a type takes by the rules that the compiler lays storage out by.
`HasSize` says it of the type itself, without the shapes that an extraction makes of types: members
of structs are laid out by the addresses of bytes, and no count of words has a limit.
`extraction_follows_storage_rules` compares the two: a project can be extracted exactly if all types
that its structs lead to are well formed, and then every member has the space of its type.
-/

namespace ModularRouter.Storage

open Ast (NodeId TypeName Expression VariableDeclaration StructDefinition ValueTypeDefinition
  DeclarationIndex SourceUnit)

/-! ## The space of types -/

mutual

/-- The space that a value of a type takes. -/
inductive HasSize (index : DeclarationIndex) : TypeName → Footprint → Prop
  | elementary {name : String} {type : ElementaryType} {size : Footprint}
      (known : ElementaryType.parse? name = some type) (own : type.HasSize size) :
      HasSize index (.elementary name) size
  | external : HasSize index (.function "external") (.bytes 24)
  | internal {visibility : String} (other : visibility ≠ "external") :
      HasSize index (.function visibility) (.bytes 8)
  | mapping {key value : TypeName} : HasSize index (.mapping key value) (.slots 1)
  | dynamic {base : TypeName} : HasSize index (.array base none) (.slots 1)
  /-- As many elements of up to a word share a word as fit into it. -/
  | packed {base : TypeName} {expression : Expression} {length size : Nat}
      (hasLength : HasLength index expression length) (element : HasSize index base (.bytes size)) :
      HasSize index (.array base expression) (.slots ((length + 32 / size - 1) / (32 / size)))
  /-- Elements of whole words stand one behind the other. -/
  | spread {base : TypeName} {expression : Expression} {length count : Nat}
      (hasLength : HasLength index expression length)
      (element : HasSize index base (.slots count)) :
      HasSize index (.array base expression) (.slots (count * length))
  | contract {reference : NodeId} {path name : Option String}
      (found : index.get? reference = some .contract) :
      HasSize index (.user reference path name) (.bytes 20)
  | smallEnumeration {reference : NodeId} {path name : Option String}
      {definition : Ast.EnumDefinition}
      (found : index.get? reference = some (.enumeration definition))
      (few : definition.members.length ≤ 256) :
      HasSize index (.user reference path name) (.bytes 1)
  | largeEnumeration {reference : NodeId} {path name : Option String}
      {definition : Ast.EnumDefinition}
      (found : index.get? reference = some (.enumeration definition))
      (many : 256 < definition.members.length) :
      HasSize index (.user reference path name) (.bytes 2)
  | valueType {reference : NodeId} {path name : Option String} {definition : ValueTypeDefinition}
      {size : Footprint} (found : index.get? reference = some (.valueType definition))
      (underlying : HasSize index definition.underlying size) :
      HasSize index (.user reference path name) size
  | structure {reference : NodeId} {path name : Option String} {definition : StructDefinition}
      {sizes : List Footprint} (found : index.get? reference = some (.structure definition))
      (members : HaveSizes index definition.members sizes) :
      HasSize index (.user reference path name) (.slots (max 1 (wordsOf sizes)))

/-- The spaces that the members of a struct take. -/
inductive HaveSizes (index : DeclarationIndex) :
    List VariableDeclaration → List Footprint → Prop
  | nil : HaveSizes index [] []
  | cons {member : VariableDeclaration} {rest : List VariableDeclaration} {type : TypeName}
      {size : Footprint} {sizes : List Footprint} (typed : member.typeName = some type)
      (own : HasSize index type size) (others : HaveSizes index rest sizes) :
      HaveSizes index (member :: rest) (size :: sizes)

end

/-! ## Sizes of types -/

section

variable {index : DeclarationIndex}

/-- A value that takes bytes takes between one byte and a word. -/
theorem HasSize.bounds {type : TypeName} {footprint : Footprint} :
    HasSize index type footprint → ∀ {size : Nat}, footprint = .bytes size → 0 < size ∧ size ≤ 32
  | .elementary known own, _, same => by
    rw [same] at own
    exact own.bounds (ElementaryType.isSized_of_parse? known)
  | .valueType _ underlying, _, same => underlying.bounds same
  | .external, _, same | .internal _, _, same | .contract _, _, same
  | .smallEnumeration .., _, same | .largeEnumeration .., _, same => by
    cases same
    decide

/-- A member that takes bytes takes no more than a word. -/
theorem HaveSizes.le_of_mem {members : List VariableDeclaration} {sizes : List Footprint} :
    HaveSizes index members sizes → ∀ {size : Nat}, .bytes size ∈ sizes → size ≤ 32
  | .cons _ own others, _, mem => by
    rcases List.mem_cons.1 mem with same | later
    · exact (own.bounds same.symm).2
    · exact others.le_of_mem later

mutual

/-- A type takes one space only. -/
theorem HasSize.unique {type : TypeName} {size other : Footprint} :
    HasSize index type size → HasSize index type other → other = size
  | .elementary known own, again => by
    cases again with
    | elementary same another =>
      cases known.symm.trans same
      exact another.unique own
  | .external, again => by
    cases again with
    | external => rfl
    | internal other => exact absurd rfl other
  | .internal other, again => by
    cases again with
    | external => exact absurd rfl other
    | internal _ => rfl
  | .mapping, .mapping => rfl
  | .dynamic, .dynamic => rfl
  | .packed hasLength element, again => by
    cases again with
    | packed same another =>
      cases element.unique another
      rw [hasLength.unique same]
    | spread same another => cases element.unique another
  | .spread hasLength element, again => by
    cases again with
    | packed same another => cases element.unique another
    | spread same another =>
      cases element.unique another
      rw [hasLength.unique same]
  | .contract found, again => by
    cases again with
    | contract _ => rfl
    | smallEnumeration same _ | largeEnumeration same _ | valueType same _ | «structure» same _ =>
      cases found.symm.trans same
  | .smallEnumeration found few, again => by
    cases again with
    | smallEnumeration _ _ => rfl
    | largeEnumeration same many =>
      cases found.symm.trans same
      omega
    | contract same | valueType same _ | «structure» same _ => cases found.symm.trans same
  | .largeEnumeration found many, again => by
    cases again with
    | largeEnumeration _ _ => rfl
    | smallEnumeration same few =>
      cases found.symm.trans same
      omega
    | contract same | valueType same _ | «structure» same _ => cases found.symm.trans same
  | .valueType found underlying, again => by
    cases again with
    | valueType same another =>
      cases found.symm.trans same
      exact underlying.unique another
    | contract same | smallEnumeration same _ | largeEnumeration same _ | «structure» same _ =>
      cases found.symm.trans same
  | .structure found members, again => by
    cases again with
    | «structure» same others =>
      cases found.symm.trans same
      rw [members.unique others]
    | contract same | smallEnumeration same _ | largeEnumeration same _ | valueType same _ =>
      cases found.symm.trans same

/-- Members take one list of spaces only. -/
theorem HaveSizes.unique {members : List VariableDeclaration} {sizes others : List Footprint} :
    HaveSizes index members sizes → HaveSizes index members others → others = sizes
  | .nil, .nil => rfl
  | .cons typed own rest, .cons same another again => by
    cases typed.symm.trans same
    rw [own.unique another, rest.unique again]

end

end

/-! ## The space of shapes -/

/-- Whether a shape takes a space, unless there are more words than can be counted. -/
def Shape.Takes (shape : Shape) (size : Footprint) : Prop :=
  size.toSlots < Nat.pow 2 64 → shape.footprint = size

/-- Shapes take their spaces if all of these can be counted. -/
theorem map_footprint_eq_of_takes {shapes : List Shape} {sizes : List Footprint}
    (each : List.Forall₂ Shape.Takes shapes sizes)
    (small : ∀ size ∈ sizes, size.toSlots < Nat.pow 2 64) : shapes.map Shape.footprint = sizes := by
  induction each with
  | nil => rfl
  | cons own _ ih =>
    rw [List.map_cons, own (small _ List.mem_cons_self),
      ih fun size mem => small size (List.mem_cons_of_mem _ mem)]

section

variable {site : Site}

/-- A name takes no space. -/
theorem Shape.Takes.named {shape : Shape} {size : Footprint} (takes : shape.Takes size)
    (name : String) : (shape.named name).Takes size := by
  intro fits
  rw [footprint_named, takes fits]

/-- An array of fixed length takes the words of its elements, both by its shape and by its type. -/
theorem exists_hasSize_fixed {index : DeclarationIndex} {base : TypeName} {expression : Expression}
    {length : Nat} {size : Footprint} {shape : Shape}
    (hasLength : HasLength index expression length) (own : HasSize index base size)
    (takes : shape.Takes size) :
    ∃ words, HasSize index (.array base expression) words ∧
      (Shape.array none shape (some length)).Takes words := by
  cases size with
  | bytes bytes =>
    obtain ⟨some, bound⟩ := own.bounds rfl
    have shared : perSlot bytes = 32 / bytes := by
      rw [perSlot, wordSize, Nat.max_eq_left some, Nat.min_eq_left bound]
    have small : (Footprint.bytes bytes).toSlots < Nat.pow 2 64 := by
      rw [Footprint.toSlots]
      decide
    refine ⟨_, .packed hasLength own, fun _ => ?_⟩
    rw [Shape.footprint, takes small, arraySlots, shared]
  | slots count =>
    refine ⟨_, .spread hasLength own, fun fits => ?_⟩
    rw [Footprint.toSlots] at fits
    have limit : maxSlots = Nat.pow 2 64 - 1 := rfl
    cases length with
    | zero => rw [Shape.footprint, arraySlots_zero, Nat.mul_zero]
    | succ length =>
      -- An array with elements takes no fewer words than one of them.
      have fewer : count ≤ count * (length + 1) := Nat.le_mul_of_pos_right _ (Nat.succ_pos _)
      rw [Shape.footprint, takes (Nat.lt_of_le_of_lt fewer fits), arraySlots,
        Nat.min_eq_left (by omega)]

/-- A struct takes the words of its members, both by its shape and by its declaration. -/
theorem takes_struct {index : DeclarationIndex} {members : List VariableDeclaration}
    {sizes : List Footprint} (own : HaveSizes index members sizes) {shapes : List Shape}
    (each : List.Forall₂ Shape.Takes shapes sizes) (structName : String) :
    (Shape.struct structName none shapes none).Takes (.slots (max 1 (wordsOf sizes))) := by
  intro fits
  have words := slots_ofFootprints_eq (fun _ => own.le_of_mem)
    (Nat.lt_of_le_of_lt (Nat.le_max_right _ _) fits)
  have small : ∀ size ∈ sizes, size.toSlots < Nat.pow 2 64 := fun _ mem =>
    Nat.lt_of_le_of_lt (toSlots_le_wordsOf mem) fits
  rw [footprint_struct _ _ (.inr rfl), packing, map_footprint_eq_of_takes each small, words]

mutual

/-- A type that has a shape has a space, and the shape takes it. -/
theorem exists_hasSize_of_resolves (unrolled : Unrolled site.index)
    (consistent : site.index.Consistent) {around : Surroundings} {type : TypeName} {shape : Shape} :
    Resolves site around type shape → ReachedFrom site.index around.structs type →
      ∃ size, HasSize site.index type size ∧ shape.Takes size
  | @Resolves.elementary _ _ name type known, _ => by
    have sized := ElementaryType.isSized_of_parse? known
    refine ⟨type.footprint, .elementary known (ElementaryType.hasSize_footprint sized), fun _ => ?_⟩
    rw [Shape.footprint, Builtin.footprint, elementaryType?_ofType sized]
  | @Resolves.function _ _ visibility, _ => by
    by_cases external : visibility = "external"
    · rw [external]
      exact ⟨_, .external, fun _ => rfl⟩
    · have other : (visibility == "external") = false := beq_eq_false_iff_ne.2 external
      rw [other]
      exact ⟨_, .internal external, fun _ => rfl⟩
  | .mapping .., _ => ⟨_, .mapping, fun _ => rfl⟩
  | .dynamic _, _ => ⟨_, .dynamic, fun _ => rfl⟩
  | .fixed baseResolves constant, reached => by
    obtain ⟨size, own, takes⟩ :=
      exists_hasSize_of_resolves unrolled consistent baseResolves (reached.of_contains .element)
    exact exists_hasSize_fixed (arrayLength?_eq_some_iff.1 constant) own takes
  | @Resolves.enumeration _ _ _ _ _ definition found, _ => by
    rcases Nat.lt_or_ge 256 definition.members.length with many | few
    · refine ⟨_, .largeEnumeration found many, fun _ => ?_⟩
      rw [Shape.footprint, enumSize, if_neg (Nat.not_le.2 many)]
    · refine ⟨_, .smallEnumeration found few, fun _ => ?_⟩
      rw [Shape.footprint, enumSize, if_pos few]
  | .contract found, _ => ⟨_, .contract found, fun _ => rfl⟩
  | .valueType found underlying, reached => by
    have inner := reached.of_contains (.underlying found)
    obtain ⟨size, own, takes⟩ := exists_hasSize_of_resolves unrolled consistent underlying inner
    exact ⟨size, .valueType found own, takes⟩
  | .cut found inside _, reached => absurd inside (unrolled.id_notMem consistent found reached)
  | .measured found inside _ _, reached =>
    absurd inside (unrolled.id_notMem consistent found reached)
  | .inlined found _ resolved, reached => by
    obtain ⟨sizes, own, each⟩ := exists_haveSizes_of_membersResolve unrolled consistent resolved
      (reached.members consistent found)
    exact ⟨_, .structure found own, takes_struct own each _⟩

/-- Members that have shapes have spaces, and the shapes take them. -/
theorem exists_haveSizes_of_membersResolve (unrolled : Unrolled site.index)
    (consistent : site.index.Consistent) {around : Surroundings}
    {members : List VariableDeclaration} {shapes : List Shape} :
    MembersResolve site around members shapes →
      MembersReachedFrom site.index around.structs members →
      ∃ sizes, HaveSizes site.index members sizes ∧ List.Forall₂ Shape.Takes shapes sizes
  | .nil, _ => ⟨[], .nil, .nil⟩
  | .cons typed resolves others, reached => by
    obtain ⟨size, own, takes⟩ :=
      exists_hasSize_of_resolves unrolled consistent resolves (reached.head typed)
    obtain ⟨sizes, rest, each⟩ :=
      exists_haveSizes_of_membersResolve unrolled consistent others reached.tail
    exact ⟨size :: sizes, .cons typed own rest, .cons (takes.named _) each⟩

end

end

/-! ## Projects -/

/-- Whether a shape is that of a member by the rules of storage: it has the name of the member and
takes the one space that its type has. -/
structure IsStored (index : DeclarationIndex) (member : VariableDeclaration) (shape : Shape) :
    Prop where
  /-- It has the name of the member. -/
  name : shape.name? = some member.name
  /-- It takes the space of the type, unless there are more words than can be counted. -/
  space : ∃ type size, member.typeName = some type ∧ HasSize index type size ∧
    (∀ other, HasSize index type other → other = size) ∧
    (size.toSlots < Nat.pow 2 64 → shape.footprint = size)

/-- Whether the layout of a struct is that of its declaration by the rules of storage. -/
structure IsStoredStruct (index : DeclarationIndex) (definition : StructDefinition)
    (struct : StructLayout) : Prop where
  /-- It has the name of the struct. -/
  name : struct.name = definition.name
  /-- It has the members of the struct, in the order in which they are declared. -/
  members : List.Forall₂ (IsStored index) definition.members struct.members

/-- Whether a layout is that of a contract by the rules of storage. -/
structure IsStoredLayout (index : DeclarationIndex) (declaring : Declaring) (layout : Layout) :
    Prop where
  /-- It has the name of the contract. -/
  name : layout.name = declaring.name
  /-- It tells libraries from contracts. -/
  kind : layout.kind = if declaring.contract.kind = .library then .library else .contract
  /-- It has the structs of the contract, in the order in which they are declared. -/
  structs : List.Forall₂ (IsStoredStruct index) declaring.contract.structs layout.structs

/-- The shapes of members are those by the rules of storage. -/
theorem isStored_of_membersResolve {site : Site} (unrolled : Unrolled site.index)
    (consistent : site.index.Consistent) {around : Surroundings}
    {members : List VariableDeclaration} {shapes : List Shape} :
    MembersResolve site around members shapes →
      MembersReachedFrom site.index around.structs members →
      List.Forall₂ (IsStored site.index) members shapes
  | .nil, _ => .nil
  | @MembersResolve.cons _ _ member _ type shape _ typed resolves others, reached => by
    obtain ⟨size, own, takes⟩ :=
      exists_hasSize_of_resolves unrolled consistent resolves (reached.head typed)
    have first : IsStored site.index member (shape.named member.name) :=
      ⟨shape.name?_named member.name, type, size, typed, own, fun _ => own.unique,
        takes.named member.name⟩
    exact .cons first (isStored_of_membersResolve unrolled consistent others reached.tail)

/-- The layout of a struct that is declared is the one by the rules of storage. -/
theorem isStoredStruct_of_structLayout {site : Site} (unrolled : Unrolled site.index)
    (consistent : site.index.Consistent) {definition : StructDefinition} {struct : StructLayout}
    (declared : site.index.get? definition.id = some (.structure definition))
    (done : site.structLayout definition = .ok struct) :
    IsStoredStruct site.index definition struct := by
  obtain ⟨name, resolved⟩ := membersResolve_of_structLayout done
  exact ⟨name, isStored_of_membersResolve unrolled consistent resolved
    (membersReachedFrom_self consistent declared)⟩

/-- Let no two declarations of a project have one number, no struct or value type be reached from
itself, and no two contracts that are looked at have one name. The project can be extracted exactly
if all members of their structs have types from which only well-formed types are reached. Then there
is a layout for each of these contracts, with its structs and their members in the order in which
they are declared, and each member takes the space that the rules of storage give its type, unless
that is more than can be counted. -/
theorem extraction_follows_storage_rules (units : List SourceUnit) (selection : Selection)
    (distinct : DeclarationIndex.DistinctIds units) (unrolled : Unrolled (.ofUnits units))
    (names : ((declaringContracts units selection).map Declaring.name).Nodup) :
    ((∃ dump, extract units selection = .ok dump) ↔
      ∀ declaring ∈ declaringContracts units selection,
        ∀ definition ∈ declaring.contract.structs, ∀ member ∈ definition.members,
          ∃ type, member.typeName = some type ∧
            ∀ inner, Reaches (.ofUnits units) type inner → WellFormed (.ofUnits units) inner) ∧
      ∀ dump, extract units selection = .ok dump →
        List.Forall₂ (IsStoredLayout (.ofUnits units)) (declaringContracts units selection)
          dump.layouts := by
  refine ⟨exists_extract_iff distinct unrolled, fun dump extracted => ?_⟩
  have consistent := DeclarationIndex.consistent_ofUnits units
  obtain ⟨layouts, rfl, each⟩ := exists_layouts_of_extract extracted
  -- Layouts of different names are put in one behind the other.
  have apart : (layouts.map Layout.name).Nodup := by
    rw [Results.map_eq_map_of_forall₂ each fun _ _ own => own.name]
    exact names
  rw [Dump.layouts_ofLayouts apart]
  refine ((List.forall₂_and_left _ _).2 ⟨fun _ mem => mem, each⟩).imp ?_
  rintro declaring layout ⟨mem, isLayout⟩
  refine ⟨isLayout.name, isLayout.kind, ?_⟩
  refine ((List.forall₂_and_left _ _).2 ⟨fun _ declares => declares, isLayout.structs⟩).imp ?_
  rintro definition struct ⟨declares, isStruct⟩
  exact isStoredStruct_of_structLayout unrolled consistent
    (get?_of_mem_declaringContracts distinct mem declares) isStruct.shapes

/-! ## An auction -/

/-- A library with an enumeration, a value type and a struct inside another one, next to a constant
that is the length of an array and a contract that is referred to. -/
def auctionProject : List SourceUnit :=
  [⟨"src/Auction.sol", [
    .variable ⟨1, "LIMIT", some (.elementary "uint256"), true,
      some (.literal ⟨.number, some "0x1_0", none⟩)⟩,
    .contract ⟨2, "Token", .interface, []⟩,
    .contract ⟨3, "Auction", .library, [
      .enumeration ⟨4, "Side", ["Bid", "Ask"]⟩,
      .valueType ⟨5, "Price", .elementary "uint128"⟩,
      .structure ⟨6, "Order", [
        ⟨7, "price", some (.user 5 none (some "Price")), false, none⟩,
        ⟨8, "side", some (.user 4 none (some "Side")), false, none⟩,
        ⟨9, "owner", some (.elementary "address payable"), false, none⟩]⟩,
      .structure ⟨10, "Data", [
        ⟨11, "token", some (.user 2 none (some "Token")), false, none⟩,
        ⟨12, "totals", some (.mapping (.user 4 none (some "Side")) (.elementary "uint")), false,
          none⟩,
        ⟨13, "orders", some (.array (.user 6 none (some "Order"))
          (some (.identifier "LIMIT" (some 1)))), false, none⟩]⟩]⟩]⟩]

/-- An auction can be extracted, and its members take the space of their types. -/
theorem auction_follows_storage_rules :
    ∃ dump, extract auctionProject .all = .ok dump ∧
      List.Forall₂ (IsStoredLayout (.ofUnits auctionProject))
        (declaringContracts auctionProject .all) dump.layouts := by
  have distinct : DeclarationIndex.DistinctIds auctionProject := by
    unfold DeclarationIndex.DistinctIds
    decide
  -- Numbers of declarations go up here, and ten times the number leaves room for the types inside.
  have unrolled : Unrolled (.ofUnits auctionProject) :=
    unrolled_of_isRankedAbove (fun id => 10 * id.toNat) (by decide)
  have names : ((declaringContracts auctionProject .all).map Declaring.name).Nodup := by decide
  have found : ∃ dump, extract auctionProject .all = .ok dump ∧ dump.layouts.length == 1 :=
    Results.exists_eq_ok_of_any (by decide +kernel)
  obtain ⟨dump, extracted, -⟩ := found
  have rules := extraction_follows_storage_rules auctionProject .all distinct unrolled names
  exact ⟨dump, extracted, rules.2 dump extracted⟩

/-- An order takes two words, as its owner does not fit behind its side, and sixteen orders take
32. -/
example : ((extract auctionProject .all).toOption.map fun dump => dump.layouts.flatMap fun layout =>
    layout.structs.map fun struct => struct.members.map Shape.footprint) =
      some [[.bytes 16, .bytes 1, .bytes 20], [.bytes 20, .slots 1, .slots 32]] := by
  decide +kernel

end ModularRouter.Storage
