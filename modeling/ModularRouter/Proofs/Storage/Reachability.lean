import Mathlib.Logic.Relation
import ModularRouter.Proofs.Storage.ArrayLengths
import ModularRouter.Proofs.Storage.CanonicalTypes
import ModularRouter.Proofs.Storage.Extraction

/-!
# Types that are reached

Which types an extraction comes across, and which of them it can tell the shape of. `Contains` leads
from a type to its parts and from a reference to the types in the declaration. Where no struct and
no value type is reached from itself, a project can be extracted exactly if all types that are
reached from members of its structs are well formed (`exists_extract_iff`): a way through references
never comes back to one of them, so it is far shorter than the bound on references.
-/

namespace ModularRouter.Storage

open Ast (NodeId TypeName Expression VariableDeclaration StructDefinition ValueTypeDefinition
  DeclarationIndex SourceUnit)
open Relation (ReflTransGen TransGen)
open Results (bind_eq_ok_iff exists_mapM_eq_ok exists_mem_of_forall₂ not_exists_error_eq_ok)

/-! ## Reachability -/

/-- Whether the shape of a type is made from that of another one: of a part of it, of the type that
a value type wraps, or of the type of a member of a struct. -/
inductive Contains (index : DeclarationIndex) : TypeName → TypeName → Prop
  | key {key value : TypeName} : Contains index (.mapping key value) key
  | value {key value : TypeName} : Contains index (.mapping key value) value
  | element {base : TypeName} {length : Option Expression} :
      Contains index (.array base length) base
  | underlying {reference : NodeId} {path name : Option String} {definition : ValueTypeDefinition}
      (found : index.get? reference = some (.valueType definition)) :
      Contains index (.user reference path name) definition.underlying
  | member {reference : NodeId} {path name : Option String} {definition : StructDefinition}
      {member : VariableDeclaration} {type : TypeName}
      (found : index.get? reference = some (.structure definition))
      (inside : member ∈ definition.members) (typed : member.typeName = some type) :
      Contains index (.user reference path name) type

/-- Whether a type is another one or is reached from it. -/
def Reaches (index : DeclarationIndex) : TypeName → TypeName → Prop :=
  ReflTransGen (Contains index)

/-- Whether no struct and no value type is reached from itself. -/
structure Unrolled (index : DeclarationIndex) : Prop where
  structs : ∀ reference definition path name,
    index.get? reference = some (.structure definition) →
      ¬ TransGen (Contains index) (.user reference path name) (.user reference path name)
  valueTypes : ∀ reference definition path name,
    index.get? reference = some (.valueType definition) →
      ¬ TransGen (Contains index) (.user reference path name) (.user reference path name)

/-! ## Well-formed types -/

/-- Whether a type may be the key of a mapping: an elementary one but for functions, a contract, an
enumeration, or a value type that wraps such a type. -/
inductive IsKey (index : DeclarationIndex) : TypeName → Prop
  | elementary {name : String} {type : ElementaryType}
      (known : ElementaryType.parse? name = some type)
      (other : ∀ external, type ≠ .function external) : IsKey index (.elementary name)
  | contract {reference : NodeId} {path name : Option String}
      (found : index.get? reference = some .contract) : IsKey index (.user reference path name)
  | enumeration {reference : NodeId} {path name : Option String} {definition : Ast.EnumDefinition}
      (found : index.get? reference = some (.enumeration definition)) :
      IsKey index (.user reference path name)
  | valueType {reference : NodeId} {path name : Option String} {definition : ValueTypeDefinition}
      (found : index.get? reference = some (.valueType definition))
      (underlying : IsKey index definition.underlying) : IsKey index (.user reference path name)

/-- Whether a type is well formed, whatever is inside it: its name is known, its length is one, its
key may be one, and what it refers to is a contract, an enumeration, a value type, or a struct whose
members all have types. -/
inductive WellFormed (index : DeclarationIndex) : TypeName → Prop
  | elementary {name : String} {type : ElementaryType}
      (known : ElementaryType.parse? name = some type) : WellFormed index (.elementary name)
  | function {visibility : String} : WellFormed index (.function visibility)
  | mapping {key value : TypeName} (isKey : IsKey index key) : WellFormed index (.mapping key value)
  | dynamic {base : TypeName} : WellFormed index (.array base none)
  | fixed {base : TypeName} {expression : Expression} {length : Nat}
      (hasLength : HasLength index expression length) : WellFormed index (.array base expression)
  | contract {reference : NodeId} {path name : Option String}
      (found : index.get? reference = some .contract) : WellFormed index (.user reference path name)
  | enumeration {reference : NodeId} {path name : Option String} {definition : Ast.EnumDefinition}
      (found : index.get? reference = some (.enumeration definition)) :
      WellFormed index (.user reference path name)
  | valueType {reference : NodeId} {path name : Option String} {definition : ValueTypeDefinition}
      (found : index.get? reference = some (.valueType definition)) :
      WellFormed index (.user reference path name)
  | structure {reference : NodeId} {path name : Option String} {definition : StructDefinition}
      (found : index.get? reference = some (.structure definition))
      (typed : ∀ member ∈ definition.members, ∃ type, member.typeName = some type) :
      WellFormed index (.user reference path name)

/-- Whether all types that are reached from a type are well formed. -/
def AllWellFormed (index : DeclarationIndex) (type : TypeName) : Prop :=
  ∀ inner, Reaches index type inner → WellFormed index inner

section

variable {index : DeclarationIndex}

/-- All types reached from a type are well formed if it is and all are that are reached from what it
contains. -/
theorem AllWellFormed.intro {type : TypeName} (own : WellFormed index type)
    (inside : ∀ inner, Contains index type inner → AllWellFormed index inner) :
    AllWellFormed index type := by
  intro inner reaches
  rcases ReflTransGen.cases_head reaches with rfl | ⟨next, contains, rest⟩
  · exact own
  · exact inside next contains inner rest

/-- All types reached from what a type contains are well formed if all reached from the type are. -/
theorem AllWellFormed.of_contains {type inner : TypeName} (all : AllWellFormed index type)
    (contains : Contains index type inner) : AllWellFormed index inner :=
  fun last reaches => all last (.head contains reaches)

/-- A type from which only well-formed types are reached is well formed. -/
theorem AllWellFormed.self {type : TypeName} (all : AllWellFormed index type) :
    WellFormed index type :=
  all type .refl

end

/-! ## Inside structs -/

section

variable {index : DeclarationIndex} {ids : List NodeId} {reference : NodeId}
  {path name : Option String}

/-- Whether a type is reached from references to all of the given declarations. -/
def ReachedFrom (index : DeclarationIndex) (ids : List NodeId) (type : TypeName) : Prop :=
  ∀ id ∈ ids, ∀ path name, TransGen (Contains index) (.user id path name) type

/-- Whether the types of some members are reached from references to all of the given
declarations. -/
def MembersReachedFrom (index : DeclarationIndex) (ids : List NodeId)
    (members : List VariableDeclaration) : Prop :=
  ∀ member ∈ members, ∀ type, member.typeName = some type → ReachedFrom index ids type

/-- The type of the first of some members that are reached is reached. -/
theorem MembersReachedFrom.head {member : VariableDeclaration} {rest : List VariableDeclaration}
    {type : TypeName} (reached : MembersReachedFrom index ids (member :: rest))
    (typed : member.typeName = some type) : ReachedFrom index ids type :=
  reached member List.mem_cons_self type typed

/-- The other ones of some members that are reached are reached. -/
theorem MembersReachedFrom.tail {member : VariableDeclaration} {rest : List VariableDeclaration}
    (reached : MembersReachedFrom index ids (member :: rest)) :
    MembersReachedFrom index ids rest :=
  fun other mem => reached other (List.mem_cons_of_mem _ mem)

/-- What a type contains is reached from where the type is. -/
theorem ReachedFrom.of_contains {type inner : TypeName} (reached : ReachedFrom index ids type)
    (contains : Contains index type inner) : ReachedFrom index ids inner :=
  fun id mem path name => (reached id mem path name).tail contains

/-- What a reference contains does not depend on how it is written. -/
theorem Contains.of_user {inner : TypeName}
    (contains : Contains index (.user reference path name) inner)
    (otherPath otherName : Option String) :
    Contains index (.user reference otherPath otherName) inner := by
  cases contains with
  | underlying found => exact .underlying found
  | member found inside typed => exact .member found inside typed

/-- What a reference contains is reached from the reference as well. -/
theorem ReachedFrom.cons {inner : TypeName}
    (reached : ReachedFrom index ids (.user reference path name))
    (contains : Contains index (.user reference path name) inner) :
    ReachedFrom index (reference :: ids) inner := by
  intro id mem otherPath otherName
  rcases List.mem_cons.1 mem with rfl | mem
  · exact .single (contains.of_user otherPath otherName)
  · exact (reached id mem otherPath otherName).tail contains

/-- The types of the members of a struct are reached from the struct. -/
theorem membersReachedFrom_self (consistent : index.Consistent) {definition : StructDefinition}
    (found : index.get? reference = some (.structure definition)) :
    MembersReachedFrom index [definition.id] definition.members := by
  intro member mem type typed id own path name
  rw [List.mem_singleton.1 own, consistent reference definition found]
  exact .single (.member found mem typed)

/-- The types of the members of a struct are reached from the struct and from where the struct
is. -/
theorem ReachedFrom.members (consistent : index.Consistent) {definition : StructDefinition}
    (found : index.get? reference = some (.structure definition))
    (reached : ReachedFrom index ids (.user reference path name)) :
    MembersReachedFrom index (definition.id :: ids) definition.members := by
  intro member mem type typed
  rw [consistent reference definition found]
  exact reached.cons (.member found mem typed)

/-- A struct is not reached from itself. -/
theorem Unrolled.structure_notMem (unrolled : Unrolled index) {definition : StructDefinition}
    (found : index.get? reference = some (.structure definition))
    (reached : ReachedFrom index ids (.user reference path name)) : reference ∉ ids :=
  fun mem => unrolled.structs reference definition path name found (reached reference mem path name)

/-- A value type is not reached from itself. -/
theorem Unrolled.valueType_notMem (unrolled : Unrolled index) {definition : ValueTypeDefinition}
    (found : index.get? reference = some (.valueType definition))
    (reached : ReachedFrom index ids (.user reference path name)) : reference ∉ ids :=
  fun mem =>
    unrolled.valueTypes reference definition path name found (reached reference mem path name)

end

/-! ## Projects that are not recursive -/

/-- A rank of types, given the ranks of declarations: types are ranked above their parts. -/
def typeRank (ranks : NodeId → Nat) : TypeName → Nat
  | .mapping key value => typeRank ranks key + typeRank ranks value + 1
  | .array base _ => typeRank ranks base + 1
  | .user reference _ _ => ranks reference
  | .elementary _ | .function _ => 0

/-- Whether a declaration is ranked above all types in it. -/
def isRankedAbove (ranks : NodeId → Nat) : NodeId × Ast.Declaration → Bool
  | (id, .structure definition) => definition.members.all fun member =>
    member.typeName.all fun type => typeRank ranks type < ranks id
  | (id, .valueType definition) => typeRank ranks definition.underlying < ranks id
  | _ => true

/-- Where declarations are ranked above all types in them, none is reached from itself. -/
theorem unrolled_of_isRankedAbove {index : DeclarationIndex} (ranks : NodeId → Nat)
    (above : index.entries.all (isRankedAbove ranks) = true) : Unrolled index := by
  have declared {id : NodeId} {declaration : Ast.Declaration}
      (found : index.get? id = some declaration) : isRankedAbove ranks (id, declaration) = true :=
    List.all_eq_true.1 above _ (Association.mem_of_lookup_eq_some found)
  have lower : ∀ type inner, Contains index type inner →
      typeRank ranks inner < typeRank ranks type := by
    intro type inner contains
    cases contains with
    | key | value | element =>
      rw [typeRank]
      omega
    | underlying found =>
      have own := declared found
      rw [isRankedAbove, decide_eq_true_eq] at own
      rw [typeRank]
      exact own
    | member found mem typed =>
      have own := List.all_eq_true.1 (declared found) _ mem
      rw [typed, Option.all_some, decide_eq_true_eq] at own
      rw [typeRank]
      exact own
  have down {type inner : TypeName} (reaches : TransGen (Contains index) type inner) :
      typeRank ranks inner < typeRank ranks type := by
    induction reaches with
    | single contains => exact lower _ _ contains
    | tail _ contains ih => exact Nat.lt_trans (lower _ _ contains) ih
  exact ⟨fun _ _ _ _ _ cycle => Nat.lt_irrefl _ (down cycle),
    fun _ _ _ _ _ cycle => Nat.lt_irrefl _ (down cycle)⟩

/-! ## Keys of mappings -/

section

variable {site : Site}

/-- A value of an elementary type makes a key exactly if the type is none of functions. -/
theorem mappingKey_ofType_ok_iff {type : ElementaryType} (sized : type.isSized = true)
    (subject : String) :
    (∃ key, site.mappingKey subject (.builtin (.ofType type)) = .ok key) ↔
      ∀ external, type ≠ .function external := by
  rw [Site.mappingKey, elementaryType?_ofType sized]
  cases type with
  | function external => exact iff_of_false not_exists_error_eq_ok fun other => other external rfl
  | address | bool | uint _ | int _ | fixedBytes _ | bytes | string =>
    refine iff_of_true ⟨_, rfl⟩ fun external same => ?_
    cases same

/-- The shape of a type makes a key exactly if the type may be one. -/
theorem mappingKey_ok_iff {around : Surroundings} {type : TypeName} {shape : Shape} :
    Resolves site around type shape → ∀ subject : String,
      ((∃ key, site.mappingKey subject shape = .ok key) ↔ IsKey site.index type)
  | .elementary known, _ => by
    rw [mappingKey_ofType_ok_iff (ElementaryType.isSized_of_parse? known)]
    constructor
    · exact fun other => .elementary known other
    · intro isKey
      cases isKey with
      | elementary again other =>
        cases known.symm.trans again
        exact other
  | .function, _ => by
    rw [mappingKey_ofType_ok_iff rfl]
    exact iff_of_false (fun other => other _ rfl) nofun
  | .mapping .., _ => iff_of_false not_exists_error_eq_ok nofun
  | .dynamic _, _ => iff_of_false not_exists_error_eq_ok nofun
  | .fixed .., _ => iff_of_false not_exists_error_eq_ok nofun
  | .enumeration found, _ => iff_of_true ⟨_, rfl⟩ (.enumeration found)
  | .contract found, _ => by
    rw [mappingKey_ofType_ok_iff rfl]
    refine iff_of_true (fun external same => ?_) (.contract found)
    cases same
  | .valueType found underlying, subject => by
    rw [mappingKey_ok_iff underlying subject]
    constructor
    · exact .valueType found
    · intro isKey
      cases isKey with
      | valueType again inner =>
        cases found.symm.trans again
        exact inner
      | contract again | enumeration again => cases found.symm.trans again
  | .cut found _ _, _ | .measured found _ _ _, _ | .inlined found _ _, _ => by
    refine iff_of_false not_exists_error_eq_ok fun isKey => ?_
    cases isKey with
    | contract again | enumeration again | valueType again _ => cases found.symm.trans again

/-! ## What is found is well formed -/

/-- A struct that is reached from all structs around it is none of them. -/
theorem Unrolled.id_notMem (unrolled : Unrolled site.index) (consistent : site.index.Consistent)
    {reference : NodeId} {path name : Option String} {definition : StructDefinition}
    {structs : List NodeId} (found : site.index.get? reference = some (.structure definition))
    (reached : ReachedFrom site.index structs (.user reference path name)) :
    definition.id ∉ structs := by
  rw [consistent reference definition found]
  exact unrolled.structure_notMem found reached

mutual

/-- All types that are reached from a type that has a shape are well formed. -/
theorem allWellFormed_of_resolves (unrolled : Unrolled site.index)
    (consistent : site.index.Consistent) {around : Surroundings} {type : TypeName} {shape : Shape} :
    Resolves site around type shape → ReachedFrom site.index around.structs type →
      AllWellFormed site.index type
  | .elementary known, _ => .intro (.elementary known) nofun
  | .function, _ => .intro .function nofun
  | .mapping keyResolves isKey valueResolves, reached => by
    have allowed := (mappingKey_ok_iff keyResolves _).1 ⟨_, isKey⟩
    refine .intro (.mapping allowed) fun inner contains => ?_
    cases contains with
    | key =>
      exact allWellFormed_of_resolves unrolled consistent keyResolves (reached.of_contains .key)
    | value =>
      exact allWellFormed_of_resolves unrolled consistent valueResolves (reached.of_contains .value)
  | .dynamic baseResolves, reached => by
    refine .intro .dynamic fun inner contains => ?_
    cases contains with
    | element =>
      exact allWellFormed_of_resolves unrolled consistent baseResolves
        (reached.of_contains .element)
  | .fixed baseResolves constant, reached => by
    refine .intro (.fixed (arrayLength?_eq_some_iff.1 constant)) fun inner contains => ?_
    cases contains with
    | element =>
      exact allWellFormed_of_resolves unrolled consistent baseResolves
        (reached.of_contains .element)
  | .enumeration found, _ => by
    refine .intro (.enumeration found) fun inner contains => ?_
    cases contains with
    | underlying again | member again _ _ => cases found.symm.trans again
  | .contract found, _ => by
    refine .intro (.contract found) fun inner contains => ?_
    cases contains with
    | underlying again | member again _ _ => cases found.symm.trans again
  | .valueType found underlying, reached => by
    refine .intro (.valueType found) fun inner contains => ?_
    have inside := contains
    cases contains with
    | underlying again =>
      cases found.symm.trans again
      exact allWellFormed_of_resolves unrolled consistent underlying (reached.of_contains inside)
    | member again _ _ => cases found.symm.trans again
  -- A struct is cut short or measured inside itself only, where no struct is reached from itself.
  | .cut found inside _, reached => absurd inside (unrolled.id_notMem consistent found reached)
  | .measured found inside _ _, reached =>
    absurd inside (unrolled.id_notMem consistent found reached)
  | .inlined found _ resolved, reached => by
    have members := allWellFormed_of_membersResolve unrolled consistent resolved
      (reached.members consistent found)
    refine .intro (.structure found fun member mem => ?_) fun inner contains => ?_
    · obtain ⟨type, typed, -⟩ := members member mem
      exact ⟨type, typed⟩
    · cases contains with
      | underlying again => cases found.symm.trans again
      | member again mem typed =>
        cases found.symm.trans again
        obtain ⟨type, same, all⟩ := members _ mem
        cases typed.symm.trans same
        exact all

/-- All types that are reached from members that have shapes are well formed. -/
theorem allWellFormed_of_membersResolve (unrolled : Unrolled site.index)
    (consistent : site.index.Consistent) {around : Surroundings}
    {members : List VariableDeclaration} {shapes : List Shape} :
    MembersResolve site around members shapes →
      MembersReachedFrom site.index around.structs members →
      ∀ member ∈ members, ∃ type, member.typeName = some type ∧ AllWellFormed site.index type
  | .nil, _, _, mem => nomatch mem
  | .cons typed resolves others, reached, member, mem => by
    rcases List.mem_cons.1 mem with rfl | later
    · exact ⟨_, typed, allWellFormed_of_resolves unrolled consistent resolves (reached.head typed)⟩
    · exact allWellFormed_of_membersResolve unrolled consistent others reached.tail member later

end

/-! ## What is well formed is found -/

/-- The declarations that references have led through on the way to a type: all different, and the
structs around the type are among them. -/
structure Way (site : Site) (around : Surroundings) (ids : List NodeId) (type : TypeName) :
    Prop where
  distinct : ids.Nodup
  listed : ∀ id ∈ ids, id ∈ site.index.entries.map Prod.fst
  within : ∀ id ∈ around.structs, id ∈ ids
  reached : ReachedFrom site.index ids type

namespace Way

variable {around : Surroundings} {ids : List NodeId} {type : TypeName}

/-- A way leads through no more declarations than there are. -/
theorem length_le (way : Way site around ids type) : ids.length ≤ site.index.size :=
  DeclarationIndex.length_le_size way.distinct way.listed

/-- A way leads on to the parts of a type. -/
theorem of_contains {inner : TypeName} (way : Way site around ids type)
    (contains : Contains site.index type inner) : Way site around ids inner :=
  ⟨way.distinct, way.listed, way.within, way.reached.of_contains contains⟩

/-- A way leads on through a declaration that it has not come through yet. -/
theorem cons {reference : NodeId} {path name : Option String} {inner : TypeName}
    {declaration : Ast.Declaration} {others : Surroundings}
    (way : Way site around ids (.user reference path name)) (fresh : reference ∉ ids)
    (found : site.index.get? reference = some declaration)
    (within : ∀ id ∈ others.structs, id = reference ∨ id ∈ around.structs)
    (contains : Contains site.index (.user reference path name) inner) :
    Way site others (reference :: ids) inner := by
  refine ⟨List.nodup_cons.2 ⟨fresh, way.distinct⟩, ?_, ?_, way.reached.cons contains⟩
  · intro id mem
    rcases List.mem_cons.1 mem with rfl | mem
    · exact DeclarationIndex.mem_map_fst_of_get? found
    · exact way.listed id mem
  · intro id mem
    rcases within id mem with rfl | inside
    · exact List.mem_cons_self
    · exact List.mem_cons_of_mem _ (way.within id inside)

section

variable {reference : NodeId} {path name : Option String} {definition : StructDefinition}

/-- A struct at the end of a way is none of the structs around it. -/
theorem id_notMem (way : Way site around ids (.user reference path name))
    (unrolled : Unrolled site.index) (consistent : site.index.Consistent)
    (found : site.index.get? reference = some (.structure definition)) :
    definition.id ∉ around.structs := by
  intro mem
  have passed := way.within definition.id mem
  rw [consistent reference definition found] at passed
  exact unrolled.structure_notMem found way.reached passed

/-- A way leads on through a struct to the types of its members. -/
theorem enter (way : Way site around ids (.user reference path name))
    (unrolled : Unrolled site.index) (consistent : site.index.Consistent)
    (found : site.index.get? reference = some (.structure definition))
    {member : VariableDeclaration} {type : TypeName} (mem : member ∈ definition.members)
    (typed : member.typeName = some type) :
    Way site ⟨definition.id :: around.structs, around.sizing⟩ (reference :: ids) type := by
  refine way.cons (unrolled.structure_notMem found way.reached) found (fun id inside => ?_)
    (.member found mem typed)
  rw [← consistent reference definition found]
  exact List.mem_cons.1 inside

end

end Way

/-- A type from which only well-formed types are reached has a shape if the references that may
still be followed and those that were make more than there are declarations. -/
theorem exists_typeShape_of_allWellFormed (unrolled : Unrolled site.index)
    (consistent : site.index.Consistent) {fuel : Nat} {around : Surroundings} {ids : List NodeId}
    {type : TypeName} (way : Way site around ids type) (all : AllWellFormed site.index type)
    (enough : site.index.size < fuel + ids.length) (subject : String) :
    ∃ shape, site.typeShape (site.follow fuel around) subject type = .ok shape := by
  -- Every declaration that the way comes through takes one of the references that may be followed,
  -- so that the sum of both stays above the count of declarations.
  induction fuel generalizing around ids type subject with
  | zero =>
    have bound := way.length_le
    omega
  | succ fuel ih =>
    -- The parts of a type are inside the same structs, and no reference is followed to them.
    induction type with
    | elementary name =>
      cases all.self with
      | elementary known => exact ⟨_, by rw [Site.typeShape, known]⟩
    | function visibility => exact ⟨_, rfl⟩
    | mapping key value keyIh valueIh =>
      obtain ⟨keyShape, keyFound⟩ := keyIh (way.of_contains .key) (all.of_contains .key)
      obtain ⟨valueShape, valueFound⟩ := valueIh (way.of_contains .value) (all.of_contains .value)
      cases all.self with
      | mapping isKey =>
        have keyResolves := resolves_of_typeShape (fun _ _ _ _ _ => resolves_of_follow) keyFound
        obtain ⟨builtin, key⟩ := (mappingKey_ok_iff keyResolves subject).2 isKey
        simp only [Site.typeShape, keyFound, key, valueFound, bind, Except.bind]
        exact ⟨_, rfl⟩
    | array base length baseIh =>
      obtain ⟨baseShape, baseFound⟩ := baseIh (way.of_contains .element) (all.of_contains .element)
      cases all.self with
      | dynamic =>
        simp only [Site.typeShape, baseFound, bind, Except.bind]
        exact ⟨_, rfl⟩
      | fixed hasLength =>
        have constant := arrayLength?_eq_some_iff.2 hasLength
        simp only [Site.typeShape, baseFound, constant, bind, Except.bind]
        exact ⟨_, rfl⟩
    | user reference path name =>
      have more : site.index.size < fuel + (reference :: ids).length := by
        rw [List.length_cons]
        omega
      cases all.self with
      | enumeration found => exact ⟨_, by rw [Site.typeShape, Site.follow, found]⟩
      | contract found => exact ⟨_, by rw [Site.typeShape, Site.follow, found]⟩
      | valueType found =>
        have fresh := unrolled.valueType_notMem found way.reached
        have inner := way.cons fresh found (fun _ mem => .inr mem) (.underlying found)
        obtain ⟨shape, underlying⟩ := ih inner (all.of_contains (.underlying found)) more subject
        exact ⟨shape, by rw [Site.typeShape, Site.follow, found]; exact underlying⟩
      | @«structure» _ _ _ definition found typed =>
        have outside := way.id_notMem unrolled consistent found
        have members : ∃ shapes, site.membersShape (site.follow fuel
            ⟨definition.id :: around.structs, around.sizing⟩) definition = .ok shapes := by
          refine exists_membersShape_of_types fun member mem => ?_
          obtain ⟨type, memberTyped⟩ := typed member mem
          have inner := way.enter unrolled consistent found mem memberTyped
          have inside := all.of_contains (.member found mem memberTyped)
          exact ⟨type, memberTyped, ih inner inside more member.name⟩
        obtain ⟨shapes, read⟩ := members
        rw [Site.typeShape, Site.follow, found]
        simp only [outside, if_false, read, bind, Except.bind]
        exact ⟨_, rfl⟩

/-- A struct of a project has a layout exactly if its members have types from which only well-formed
types are reached. -/
theorem exists_structLayout_iff (unrolled : Unrolled site.index)
    (consistent : site.index.Consistent) {definition : StructDefinition}
    (declared : site.index.get? definition.id = some (.structure definition)) :
    (∃ struct, site.structLayout definition = .ok struct) ↔
      ∀ member ∈ definition.members, ∃ type, member.typeName = some type ∧
        AllWellFormed site.index type := by
  have reached := membersReachedFrom_self consistent declared
  constructor
  · rintro ⟨struct, done⟩
    obtain ⟨-, resolved⟩ := membersResolve_of_structLayout done
    exact allWellFormed_of_membersResolve unrolled consistent resolved reached
  · intro all
    have listed : definition.id ∈ site.index.entries.map Prod.fst :=
      DeclarationIndex.mem_map_fst_of_get? declared
    have enough : site.index.size < site.stepLimit + [definition.id].length := by
      have square : site.index.size + 1 ≤ (site.index.size + 1) * (site.index.size + 1) :=
        Nat.le_mul_of_pos_left _ (Nat.succ_pos _)
      rw [Site.stepLimit, Nat.mul_assoc]
      omega
    have members : ∃ shapes, site.membersShape
        (site.follow site.stepLimit ⟨[definition.id], false⟩) definition = .ok shapes := by
      refine exists_membersShape_of_types fun member mem => ?_
      obtain ⟨type, typed, wellFormed⟩ := all member mem
      have way : Way site ⟨[definition.id], false⟩ [definition.id] type := by
        refine ⟨List.nodup_singleton _, fun id own => ?_, fun _ own => own,
          reached member mem type typed⟩
        rw [List.mem_singleton.1 own]
        exact listed
      exact ⟨type, typed,
        exists_typeShape_of_allWellFormed unrolled consistent way wellFormed enough member.name⟩
    obtain ⟨shapes, read⟩ := members
    exact ⟨_, bind_eq_ok_iff.2 ⟨shapes, read, rfl⟩⟩

end

/-! ## Projects that can be extracted -/

section

variable {units : List SourceUnit} {selection : Selection}

/-- A struct that a contract that is looked at declares is found under its number. -/
theorem get?_of_mem_declaringContracts (distinct : DeclarationIndex.DistinctIds units)
    {declaring : Declaring} (mem : declaring ∈ declaringContracts units selection)
    {definition : StructDefinition} (declares : definition ∈ declaring.contract.structs) :
    (DeclarationIndex.ofUnits units).get? definition.id = some (.structure definition) := by
  obtain ⟨unit, inProject, -, selected⟩ := exists_unit_of_mem_declaringContracts mem
  exact DeclarationIndex.get?_eq_some_of_mem_structs distinct inProject
    (List.mem_filter.1 selected).1 declares

/-- A project can be extracted exactly if all structs that are looked at have layouts. -/
theorem exists_extract_iff_structLayouts :
    (∃ dump, extract units selection = .ok dump) ↔
      ∀ declaring ∈ declaringContracts units selection,
        ∀ definition ∈ declaring.contract.structs,
          ∃ struct, Site.structLayout ⟨.ofUnits units, declaring.path⟩ definition = .ok struct := by
  constructor
  · rintro ⟨dump, extracted⟩ declaring mem definition declares
    obtain ⟨layouts, -, each⟩ := exists_layouts_of_extract extracted
    obtain ⟨layout, -, isLayout⟩ := exists_mem_of_forall₂ each mem
    obtain ⟨struct, -, isStruct⟩ := exists_mem_of_forall₂ isLayout.structs declares
    exact ⟨struct, isStruct.shapes⟩
  · intro structs
    have contracts : ∃ layouts, (declaringContracts units selection).mapM
        (Declaring.layout (.ofUnits units)) = .ok layouts := by
      refine exists_mapM_eq_ok fun declaring mem => ?_
      obtain ⟨layouts, read⟩ := exists_mapM_eq_ok (structs declaring mem)
      exact ⟨_, bind_eq_ok_iff.2 ⟨layouts, read, rfl⟩⟩
    obtain ⟨layouts, read⟩ := contracts
    exact ⟨_, extract_eq_ok_iff.2 ⟨layouts, read, rfl⟩⟩

/-- Where no two declarations have one number and no struct or value type is reached from itself, a
project can be extracted exactly if all members of the structs that are looked at have types from
which only well-formed types are reached. -/
theorem exists_extract_iff (distinct : DeclarationIndex.DistinctIds units)
    (unrolled : Unrolled (.ofUnits units)) :
    (∃ dump, extract units selection = .ok dump) ↔
      ∀ declaring ∈ declaringContracts units selection,
        ∀ definition ∈ declaring.contract.structs, ∀ member ∈ definition.members,
          ∃ type, member.typeName = some type ∧ AllWellFormed (.ofUnits units) type := by
  rw [exists_extract_iff_structLayouts]
  refine forall₂_congr fun declaring mem => forall₂_congr fun definition declares => ?_
  exact exists_structLayout_iff unrolled (DeclarationIndex.consistent_ofUnits units)
    (get?_of_mem_declaringContracts distinct mem declares)

end

end ModularRouter.Storage
