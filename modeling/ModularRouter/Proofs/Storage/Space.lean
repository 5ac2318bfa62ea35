import ModularRouter.Proofs.Ast.Declarations
import ModularRouter.Proofs.Storage.Growth
import ModularRouter.Proofs.Storage.Resolution

/-!
# The space of types

How much space a type takes, told from the type itself. `Space` counts each struct of a list as a
single word, and the words of another one by a count of its own: `packedWords`, which a packing
finds, or `wordsOf`, which has no limit. With no struct in the list it is the space that a value
takes in storage. A shape takes the space of its type where the structs around it that the type
holds by value are those counted as single words (`space_of_resolves`). It makes no difference to
count structs as single words if all of them that the type holds by value take a single word
(`max_words_eq_of_singleWords`), and only then if all words can be counted
(`singleWords_of_packedWords_eq`): without a limit it never makes a type larger (`grows_of_space`).
-/

namespace ModularRouter.Storage

open Ast (NodeId TypeName VariableDeclaration StructDefinition DeclarationIndex Expression)

/-! ## Structs held by value -/

/-- Whether a value of a type has a struct inside it without a mapping or a dynamic array between
them. -/
inductive Holds (index : DeclarationIndex) : TypeName → StructDefinition → Prop
  | self {reference : NodeId} {path name : Option String} {definition : StructDefinition}
      (found : index.get? reference = some (.structure definition)) :
      Holds index (.user reference path name) definition
  | member {reference : NodeId} {path name : Option String} {outer definition : StructDefinition}
      {member : VariableDeclaration} {type : TypeName}
      (found : index.get? reference = some (.structure outer)) (inside : member ∈ outer.members)
      (typed : member.typeName = some type) (holds : Holds index type definition) :
      Holds index (.user reference path name) definition
  | valueType {reference : NodeId} {path name : Option String}
      {wrapper : Ast.ValueTypeDefinition} {definition : StructDefinition}
      (found : index.get? reference = some (.valueType wrapper))
      (holds : Holds index wrapper.underlying definition) :
      Holds index (.user reference path name) definition
  | element {base : TypeName} {expression : Expression} {length : Nat}
      {definition : StructDefinition}
      (constant : arrayLength? index expression = some (length + 1))
      (holds : Holds index base definition) :
      Holds index (.array base (some expression)) definition

/-- Whether a struct has another one inside it by value. -/
def HoldsInside (index : DeclarationIndex) (outer inner : StructDefinition) : Prop :=
  ∃ member ∈ outer.members, ∃ type, member.typeName = some type ∧ Holds index type inner

/-- Whether no struct has itself inside it by value. -/
def Acyclic (index : DeclarationIndex) : Prop :=
  ∀ (reference : NodeId) (definition : StructDefinition),
    index.get? reference = some (.structure definition) → ¬ HoldsInside index definition definition

/-- A struct that is held by value is found under its own number. -/
theorem Holds.get?_id {index : DeclarationIndex} (consistent : index.Consistent) {type : TypeName}
    {definition : StructDefinition} (holds : Holds index type definition) :
    index.get? definition.id = some (.structure definition) := by
  induction holds with
  | @self reference _ _ definition found => rw [consistent reference definition found, found]
  | member _ _ _ _ ih => exact ih
  | valueType _ _ ih => exact ih
  | element _ _ ih => exact ih

/-! ## Space -/

/-- How many words a packing of values counts. -/
def packedWords (sizes : List Footprint) : Nat :=
  (Packing.ofFootprints sizes).slots

mutual

/-- The space a type takes where the structs of `cut` count as one word, and other ones as the
`words` of their members. -/
inductive Space (words : List Footprint → Nat) (index : DeclarationIndex) (cut : List NodeId) :
    TypeName → Footprint → Prop
  | elementary {name : String} {type : ElementaryType}
      (known : ElementaryType.parse? name = some type) :
      Space words index cut (.elementary name) (Builtin.ofType type).footprint
  | function {visibility : String} :
      Space words index cut (.function visibility)
        (Builtin.ofType (.function (visibility == "external"))).footprint
  | mapping {key value : TypeName} : Space words index cut (.mapping key value) (.slots 1)
  | dynamic {base : TypeName} : Space words index cut (.array base none) (.slots 1)
  | empty {base : TypeName} {expression : Expression}
      (constant : arrayLength? index expression = some 0) :
      Space words index cut (.array base (some expression)) (.slots 0)
  | fixed {base : TypeName} {expression : Expression} {length : Nat} {element : Footprint}
      (constant : arrayLength? index expression = some (length + 1))
      (space : Space words index cut base element) :
      Space words index cut (.array base (some expression))
        (.slots (arraySlots element (length + 1)))
  | enumeration {reference : NodeId} {path name : Option String} {definition : Ast.EnumDefinition}
      (found : index.get? reference = some (.enumeration definition)) :
      Space words index cut (.user reference path name) (.bytes (enumSize definition.members))
  | contract {reference : NodeId} {path name : Option String}
      (found : index.get? reference = some .contract) :
      Space words index cut (.user reference path name) (Builtin.ofType .address).footprint
  | valueType {reference : NodeId} {path name : Option String}
      {definition : Ast.ValueTypeDefinition} {footprint : Footprint}
      (found : index.get? reference = some (.valueType definition))
      (space : Space words index cut definition.underlying footprint) :
      Space words index cut (.user reference path name) footprint
  | cut {reference : NodeId} {path name : Option String} {definition : StructDefinition}
      (found : index.get? reference = some (.structure definition)) (inside : definition.id ∈ cut) :
      Space words index cut (.user reference path name) (.slots 1)
  | structure {reference : NodeId} {path name : Option String} {definition : StructDefinition}
      {footprints : List Footprint}
      (found : index.get? reference = some (.structure definition))
      (outside : definition.id ∉ cut)
      (spaces : Spaces words index cut definition.members footprints) :
      Space words index cut (.user reference path name) (.slots (max 1 (words footprints)))

/-- The space each member of a struct takes. -/
inductive Spaces (words : List Footprint → Nat) (index : DeclarationIndex) (cut : List NodeId) :
    List VariableDeclaration → List Footprint → Prop
  | nil : Spaces words index cut [] []
  | cons {member : VariableDeclaration} {rest : List VariableDeclaration} {type : TypeName}
      {footprint : Footprint} {footprints : List Footprint}
      (typed : member.typeName = some type) (space : Space words index cut type footprint)
      (others : Spaces words index cut rest footprints) :
      Spaces words index cut (member :: rest) (footprint :: footprints)

end

section

variable {words : List Footprint → Nat} {index : DeclarationIndex} {cut : List NodeId}
  {reference : NodeId} {path name : Option String} {footprint : Footprint}

/-- A value of an elementary type takes the space of its type. -/
theorem Space.of_elementary {name : String} {type : ElementaryType}
    (space : Space words index cut (.elementary name) footprint)
    (known : ElementaryType.parse? name = some type) :
    footprint = (Builtin.ofType type).footprint := by
  cases space with
  | elementary again =>
    cases known.symm.trans again
    rfl

/-- A function takes the space of its type. -/
theorem Space.of_function {visibility : String}
    (space : Space words index cut (.function visibility) footprint) :
    footprint = (Builtin.ofType (.function (visibility == "external"))).footprint := by
  cases space
  rfl

/-- A mapping takes one word. -/
theorem Space.of_mapping {key value : TypeName}
    (space : Space words index cut (.mapping key value) footprint) : footprint = .slots 1 := by
  cases space
  rfl

/-- An array without a length takes one word. -/
theorem Space.of_dynamic {base : TypeName}
    (space : Space words index cut (.array base none) footprint) : footprint = .slots 1 := by
  cases space
  rfl

/-- An array without elements takes no space. -/
theorem Space.of_empty {base : TypeName} {expression : Expression}
    (space : Space words index cut (.array base (some expression)) footprint)
    (constant : arrayLength? index expression = some 0) : footprint = .slots 0 := by
  cases space with
  | empty _ => rfl
  | fixed again _ => cases constant.symm.trans again

/-- A reference to a struct takes one word, or the words of the struct. -/
theorem Space.of_structure {definition : StructDefinition}
    (space : Space words index cut (.user reference path name) footprint)
    (found : index.get? reference = some (.structure definition)) :
    definition.id ∈ cut ∧ footprint = .slots 1 ∨
      definition.id ∉ cut ∧ ∃ footprints, Spaces words index cut definition.members footprints ∧
        footprint = .slots (max 1 (words footprints)) := by
  cases space with
  | cut again inside =>
    cases found.symm.trans again
    exact .inl ⟨inside, rfl⟩
  | «structure» again outside spaces =>
    cases found.symm.trans again
    exact .inr ⟨outside, _, spaces, rfl⟩
  | enumeration again | contract again | valueType again _ => cases found.symm.trans again

/-- A reference to a struct takes the words of the struct where nothing counts as one word. -/
theorem Space.of_structure_nil {definition : StructDefinition}
    (space : Space words index [] (.user reference path name) footprint)
    (found : index.get? reference = some (.structure definition)) :
    ∃ footprints, Spaces words index [] definition.members footprints ∧
      footprint = .slots (max 1 (words footprints)) := by
  rcases space.of_structure found with ⟨inside, -⟩ | ⟨-, spaces⟩
  · cases inside
  · exact spaces

/-- A reference to a value type takes the space of the type it wraps. -/
theorem Space.of_valueType {definition : Ast.ValueTypeDefinition}
    (space : Space words index cut (.user reference path name) footprint)
    (found : index.get? reference = some (.valueType definition)) :
    Space words index cut definition.underlying footprint := by
  cases space with
  | valueType again underlying =>
    cases found.symm.trans again
    exact underlying
  | enumeration again | contract again | «structure» again _ _ | cut again _ =>
    cases found.symm.trans again

/-- A reference to an enumeration takes the space of its members' numbers. -/
theorem Space.of_enumeration {definition : Ast.EnumDefinition}
    (space : Space words index cut (.user reference path name) footprint)
    (found : index.get? reference = some (.enumeration definition)) :
    footprint = .bytes (enumSize definition.members) := by
  cases space with
  | enumeration again =>
    cases found.symm.trans again
    rfl
  | contract again | valueType again _ | «structure» again _ _ | cut again _ =>
    cases found.symm.trans again

/-- A reference to a contract takes the space of an address. -/
theorem Space.of_contract (space : Space words index cut (.user reference path name) footprint)
    (found : index.get? reference = some .contract) :
    footprint = (Builtin.ofType .address).footprint := by
  cases space with
  | contract again => rfl
  | enumeration again | valueType again _ | «structure» again _ _ | cut again _ =>
    cases found.symm.trans again

/-- An array that has elements takes the space of that many. -/
theorem Space.of_fixed {base : TypeName} {expression : Expression} {length : Nat}
    (space : Space words index cut (.array base (some expression)) footprint)
    (constant : arrayLength? index expression = some (length + 1)) :
    ∃ element, Space words index cut base element ∧
      footprint = .slots (arraySlots element (length + 1)) := by
  cases space with
  | empty again => cases constant.symm.trans again
  | fixed again element =>
    cases constant.symm.trans again
    exact ⟨_, element, rfl⟩

/-- No members take no spaces. -/
theorem Spaces.of_nil {footprints : List Footprint}
    (spaces : Spaces words index cut [] footprints) : footprints = [] := by
  cases spaces
  rfl

/-- The first member takes the space of its type, the others take theirs. -/
theorem Spaces.of_cons {member : VariableDeclaration} {rest : List VariableDeclaration}
    {type : TypeName} {footprints : List Footprint}
    (spaces : Spaces words index cut (member :: rest) footprints)
    (typed : member.typeName = some type) :
    ∃ own others, Space words index cut type own ∧ Spaces words index cut rest others ∧
      footprints = own :: others := by
  cases spaces with
  | cons again space others =>
    cases typed.symm.trans again
    exact ⟨_, _, space, others, rfl⟩

end

/-! ## The space of shapes -/

/-- A name takes no space. -/
theorem footprint_named (shape : Shape) (name : String) :
    (shape.named name).footprint = shape.footprint := by
  cases shape with
  | struct structName other members slots =>
    cases members <;> cases slots <;> rfl
  | array other value length => cases length <;> rfl
  | builtin _ | mapping _ _ _ | enum _ _ _ => rfl

/-- Every word holds some value of a size. -/
theorem perSlot_pos (size : Nat) : 0 < perSlot size := by
  rw [perSlot, wordSize]
  exact Nat.div_pos (by omega) (by omega)

/-- An array without elements takes no space. -/
theorem arraySlots_zero (element : Footprint) : arraySlots element 0 = 0 := by
  cases element with
  | bytes size =>
    have some := perSlot_pos size
    rw [arraySlots]
    exact Nat.div_eq_of_lt (by omega)
  | slots count => rw [arraySlots, Nat.mul_zero, Nat.zero_min]

section

variable {site : Site} {cut : List NodeId}

/-- What is counted as one word at a place: the structs around it that a type holds by value, which
have no count of their own while a struct is measured. -/
structure Counted (site : Site) (cut : List NodeId) (around : Surroundings)
    (holds : StructDefinition → Prop) : Prop where
  surrounds : ∀ id ∈ cut, id ∈ around.structs
  counts : ∀ definition, holds definition → definition.id ∈ around.structs →
    definition.id ∈ cut ∧ around.sizing = true

/-- Inside a struct that is not around a place, what is counted there stays counted. -/
theorem Counted.inside (consistent : site.index.Consistent) (acyclic : Acyclic site.index)
    {around : Surroundings} {reference : NodeId} {path name : Option String}
    {outer : StructDefinition} (found : site.index.get? reference = some (.structure outer))
    (counted : Counted site cut around (Holds site.index (.user reference path name))) :
    Counted site cut ⟨outer.id :: around.structs, around.sizing⟩
      (HoldsInside site.index outer) := by
  refine ⟨fun id mem => List.mem_cons_of_mem _ (counted.surrounds id mem), ?_⟩
  intro inner holds mem
  have inside := holds
  obtain ⟨member, memberInside, type, typed, deeper⟩ := holds
  rcases List.mem_cons.1 mem with same | mem
  · -- The struct does not hold itself.
    have declared := deeper.get?_id consistent
    rw [same, consistent reference outer found, found] at declared
    cases declared
    exact absurd inside (acyclic reference outer found)
  · exact counted.counts inner (.member found memberInside typed deeper) mem

mutual

/-- A shape takes the space of its type. -/
theorem space_of_resolves (consistent : site.index.Consistent) (acyclic : Acyclic site.index)
    {around : Surroundings} {type : TypeName} {shape : Shape} :
    Resolves site around type shape → Counted site cut around (Holds site.index type) →
      Space packedWords site.index cut type shape.footprint
  | .elementary known, _ => by
    rw [Shape.footprint]
    exact .elementary known
  | .function, _ => by
    rw [Shape.footprint]
    exact .function
  | .mapping .., _ => by
    rw [Shape.footprint]
    exact .mapping
  | .dynamic _, _ => by
    rw [Shape.footprint]
    exact .dynamic
  | @Resolves.fixed _ _ base expression length shape baseResolves constant, counted => by
    rw [Shape.footprint]
    -- An array without elements holds no struct by value.
    cases length with
    | zero =>
      rw [arraySlots_zero]
      exact .empty constant
    | succ length =>
      refine .fixed constant (space_of_resolves consistent acyclic baseResolves ?_)
      exact ⟨counted.surrounds, fun definition holds => counted.counts definition
        (.element constant holds)⟩
  | .enumeration found, _ => by
    rw [Shape.footprint]
    exact .enumeration found
  | .contract found, _ => by
    rw [Shape.footprint]
    exact .contract found
  | .valueType found underlying, counted => by
    refine .valueType found (space_of_resolves consistent acyclic underlying ?_)
    exact ⟨counted.surrounds, fun definition holds => counted.counts definition
      (.valueType found holds)⟩
  | .cut found inside _, counted => .cut found (counted.counts _ (.self found) inside).1
  | .measured found inside sizing _, counted => by
    have measuring := (counted.counts _ (.self found) inside).2
    rw [sizing] at measuring
    cases measuring
  | .inlined found outside resolved, counted => by
    rw [footprint_struct _ _ (.inr rfl)]
    refine .structure found (fun mem => outside (counted.surrounds _ mem)) ?_
    exact spaces_of_membersResolve consistent acyclic resolved
      (Counted.inside consistent acyclic found counted)

/-- The shapes of members take the space of their types. -/
theorem spaces_of_membersResolve (consistent : site.index.Consistent)
    (acyclic : Acyclic site.index) {around : Surroundings} {members : List VariableDeclaration}
    {shapes : List Shape} :
    MembersResolve site around members shapes →
      Counted site cut around (fun definition => ∃ member ∈ members, ∃ type,
        member.typeName = some type ∧ Holds site.index type definition) →
      Spaces packedWords site.index cut members (shapes.map Shape.footprint)
  | .nil, _ => .nil
  | .cons typed resolves others, counted => by
    rw [List.map_cons, footprint_named]
    refine .cons typed (space_of_resolves consistent acyclic resolves ?_)
      (spaces_of_membersResolve consistent acyclic others ?_)
    · exact ⟨counted.surrounds, fun definition holds => counted.counts definition
        ⟨_, List.mem_cons_self .., _, typed, holds⟩⟩
    · refine ⟨counted.surrounds, fun definition ⟨member, mem, holds⟩ => ?_⟩
      exact counted.counts definition ⟨member, List.mem_cons_of_mem _ mem, holds⟩

end

end

/-! ## Counting structs as single words -/

/-- Whether a struct takes a single word. -/
def SingleWord (words : List Footprint → Nat) (index : DeclarationIndex)
    (definition : StructDefinition) : Prop :=
  ∀ footprints, Spaces words index [] definition.members footprints → words footprints ≤ 1

/-- Whether all structs that are held, and counted as single words, take single words. -/
def SingleWords (words : List Footprint → Nat) (index : DeclarationIndex) (cut : List NodeId)
    (holds : StructDefinition → Prop) : Prop :=
  ∀ definition, holds definition → definition.id ∈ cut → SingleWord words index definition

section

variable {words : List Footprint → Nat} {index : DeclarationIndex} {cut : List NodeId}

mutual

/-- A type takes the same space where the structs that count as single words take single words. -/
theorem eq_of_space : ∀ {type : TypeName} {less : Footprint}, Space words index cut type less →
    ∀ {more : Footprint}, Space words index [] type more →
      SingleWords words index cut (Holds index type) → less = more
  | _, _, .elementary known, _, real, _ => (real.of_elementary known).symm
  | _, _, .function, _, real, _ => real.of_function.symm
  | _, _, .mapping, _, real, _ => real.of_mapping.symm
  | _, _, .dynamic, _, real, _ => real.of_dynamic.symm
  | _, _, .empty constant, _, real, _ => (real.of_empty constant).symm
  | _, _, .fixed constant space, _, real, single => by
    obtain ⟨element, realSpace, rfl⟩ := real.of_fixed constant
    rw [eq_of_space space realSpace fun definition holds =>
      single definition (.element constant holds)]
  | _, _, .enumeration found, _, real, _ => (real.of_enumeration found).symm
  | _, _, .contract found, _, real, _ => (real.of_contract found).symm
  | _, _, .valueType found space, _, real, single =>
    eq_of_space space (real.of_valueType found) fun definition holds =>
      single definition (.valueType found holds)
  | _, _, .cut found inside, _, real, single => by
    obtain ⟨footprints, realSpaces, rfl⟩ := real.of_structure_nil found
    -- This is where the two spaces may differ: one word against the words of the struct.
    have small := single _ (.self found) inside _ realSpaces
    rw [Nat.max_eq_left small]
  | _, _, .structure found _ spaces, _, real, single => by
    obtain ⟨footprints, realSpaces, rfl⟩ := real.of_structure_nil found
    rw [eq_of_spaces spaces realSpaces fun definition ⟨member, inside, type, typed, holds⟩ =>
      single definition (.member found inside typed holds)]

/-- Members take the same space where the structs that count as single words take single words. -/
theorem eq_of_spaces {members : List VariableDeclaration} {lesses : List Footprint} :
    Spaces words index cut members lesses → ∀ {mores : List Footprint},
      Spaces words index [] members mores →
      SingleWords words index cut (fun definition => ∃ member ∈ members, ∃ type,
        member.typeName = some type ∧ Holds index type definition) → lesses = mores
  | .nil, _, real, _ => real.of_nil.symm
  | .cons typed space others, _, real, single => by
    obtain ⟨own, mores, realSpace, realOthers, rfl⟩ := real.of_cons typed
    rw [eq_of_space space realSpace fun definition holds => single definition
        ⟨_, List.mem_cons_self .., _, typed, holds⟩,
      eq_of_spaces others realOthers fun definition ⟨member, mem, holds⟩ => single definition
        ⟨member, List.mem_cons_of_mem _ mem, holds⟩]

end

/-- Members take one space only. -/
theorem spaces_unique {members : List VariableDeclaration} {footprints others : List Footprint}
    (spaces : Spaces words index [] members footprints)
    (again : Spaces words index [] members others) : footprints = others :=
  eq_of_spaces spaces again fun _ _ inside => absurd inside List.not_mem_nil

/-- A member takes the space it does alone and in its struct. -/
theorem Spaces.exists_of_mem {members : List VariableDeclaration} {footprints : List Footprint} :
    Spaces words index cut members footprints → Spaces words index [] members footprints →
      ∀ member ∈ members, ∀ type, member.typeName = some type →
        ∃ footprint ∈ footprints,
          Space words index cut type footprint ∧ Space words index [] type footprint
  | .cons typed space others, .cons again realSpace realOthers, member, mem, type, own => by
    rcases List.mem_cons.1 mem with rfl | later
    · cases typed.symm.trans own
      cases typed.symm.trans again
      exact ⟨_, List.mem_cons_self .., space, realSpace⟩
    · obtain ⟨footprint, inside, found⟩ := others.exists_of_mem realOthers member later type own
      exact ⟨footprint, List.mem_cons_of_mem _ inside, found⟩

end

/-! ## Space without a limit -/

section

variable {index : DeclarationIndex} {cut : List NodeId}

mutual

/-- A type grows where structs are not counted as single words. -/
theorem grows_of_space : ∀ {type : TypeName} {less : Footprint},
    Space wordsOf index cut type less → ∀ {more : Footprint}, Space wordsOf index [] type more →
      Grows less more
  | _, _, .elementary known, _, real => by
    rw [real.of_elementary known]
    exact .refl _
  | _, _, .function, _, real => by
    rw [real.of_function]
    exact .refl _
  | _, _, .mapping, _, real => by
    rw [real.of_mapping]
    exact .refl _
  | _, _, .dynamic, _, real => by
    rw [real.of_dynamic]
    exact .refl _
  | _, _, .empty constant, _, real => by
    rw [real.of_empty constant]
    exact .refl _
  | _, _, .fixed constant space, _, real => by
    obtain ⟨element, realSpace, rfl⟩ := real.of_fixed constant
    exact (grows_of_space space realSpace).array _
  | _, _, .enumeration found, _, real => by
    rw [real.of_enumeration found]
    exact .refl _
  | _, _, .contract found, _, real => by
    rw [real.of_contract found]
    exact .refl _
  | _, _, .valueType found space, _, real => grows_of_space space (real.of_valueType found)
  | _, _, .cut found inside, _, real => by
    obtain ⟨footprints, realSpaces, rfl⟩ := real.of_structure_nil found
    exact .one_struct _
  | _, _, .structure found _ spaces, _, real => by
    obtain ⟨footprints, realSpaces, rfl⟩ := real.of_structure_nil found
    obtain ⟨further, grows⟩ := membersGrow_of_spaces spaces realSpaces
    exact .struct grows.wordsOf_eq.1 grows.wordsOf_eq.2

/-- Members grow where structs are not counted as single words. -/
theorem membersGrow_of_spaces {members : List VariableDeclaration} {lesses : List Footprint} :
    Spaces wordsOf index cut members lesses → ∀ {mores : List Footprint},
      Spaces wordsOf index [] members mores → ∃ further, MembersGrow lesses mores further
  | .nil, _, real => by
    rw [real.of_nil]
    exact ⟨0, .nil⟩
  | .cons typed space others, _, real => by
    obtain ⟨own, mores, realSpace, realOthers, rfl⟩ := real.of_cons typed
    obtain ⟨further, grows⟩ := membersGrow_of_spaces others realOthers
    exact MembersGrow.cons (grows_of_space space realSpace) grows

end

/-- An array takes no fewer words than one of its elements alone, so long as it does not take as
many as can be counted. -/
theorem toSlots_le_arraySlots {element : Footprint} {length : Nat}
    (fits : arraySlots element (length + 1) < maxSlots) :
    element.toSlots ≤ arraySlots element (length + 1) := by
  cases element with
  | bytes size =>
    have some := perSlot_pos size
    rw [Footprint.toSlots, arraySlots, Nat.le_div_iff_mul_le some]
    omega
  | slots count =>
    rw [arraySlots] at fits ⊢
    have times : count * 1 ≤ count * (length + 1) := Nat.mul_le_mul_left _ (by omega)
    rw [Footprint.toSlots]
    omega

/-- A struct that is held by value takes no more words than what holds it. -/
theorem wordsOf_le_of_holds {type : TypeName} {definition : StructDefinition}
    (holds : Holds index type definition) {footprint : Footprint}
    (space : Space wordsOf index [] type footprint) (fits : footprint.toSlots < maxSlots) :
    ∃ footprints, Spaces wordsOf index [] definition.members footprints ∧
      max 1 (wordsOf footprints) ≤ footprint.toSlots := by
  induction holds generalizing footprint with
  | self found =>
    obtain ⟨footprints, spaces, rfl⟩ := space.of_structure_nil found
    exact ⟨footprints, spaces, Nat.le_refl _⟩
  | member found inside typed _ ih =>
    obtain ⟨footprints, spaces, rfl⟩ := space.of_structure_nil found
    -- The struct takes no fewer words than the member that holds the inner one.
    obtain ⟨own, mem, -, memberSpace⟩ := spaces.exists_of_mem spaces _ inside _ typed
    have small := toSlots_le_wordsOf mem
    obtain ⟨inner, innerSpaces, least⟩ := ih memberSpace (Nat.lt_of_le_of_lt small fits)
    exact ⟨inner, innerSpaces, Nat.le_trans least small⟩
  | valueType found _ ih => exact ih (space.of_valueType found) fits
  | element constant _ ih =>
    obtain ⟨element, elementSpace, rfl⟩ := space.of_fixed constant
    have small := toSlots_le_arraySlots fits
    obtain ⟨inner, innerSpaces, least⟩ := ih elementSpace (Nat.lt_of_le_of_lt small fits)
    exact ⟨inner, innerSpaces, Nat.le_trans least small⟩

/-- Two elements whose arrays take the same words take the same space, so long as the arrays do not
take as many words as can be counted. -/
theorem Grows.eq_of_arraySlots_eq {less more : Footprint} (grows : Grows less more) {length : Nat}
    (same : arraySlots less (length + 1) = arraySlots more (length + 1))
    (fits : arraySlots more (length + 1) < maxSlots) : less = more := by
  rcases grows with equal | ⟨count, words, rfl, rfl, -⟩
  · exact equal
  · rw [arraySlots, arraySlots, Nat.add_mul] at same
    rw [arraySlots, Nat.add_mul] at fits
    have none : words * (length + 1) = 0 := by omega
    rcases Nat.mul_eq_zero.1 none with rfl | positive
    · rfl
    · cases positive

/-- A struct that is held by what takes a single word takes a single word. -/
theorem singleWord_of_toSlots_eq {type : TypeName} {definition : StructDefinition}
    (holds : Holds index type definition) {footprint : Footprint}
    (space : Space wordsOf index [] type footprint) (single : footprint.toSlots = 1) :
    SingleWord wordsOf index definition := by
  have fits : footprint.toSlots < maxSlots := by
    rw [single]
    decide
  obtain ⟨footprints, spaces, least⟩ := wordsOf_le_of_holds holds space fits
  intro others again
  rw [spaces_unique again spaces]
  omega

/-- If counting structs as single words makes no difference, then those held by value take single
words. -/
theorem singleWord_of_holds {type : TypeName} {definition : StructDefinition}
    (holds : Holds index type definition) (inside : definition.id ∈ cut) {less more : Footprint}
    (space : Space wordsOf index cut type less) (real : Space wordsOf index [] type more)
    (same : less = more) (fits : more.toSlots < maxSlots) :
    SingleWord wordsOf index definition := by
  induction holds generalizing less more with
  | self found =>
    rcases space.of_structure found with ⟨-, rfl⟩ | ⟨outside, -⟩
    · refine singleWord_of_toSlots_eq (.self found) real ?_
      rw [← same]
      rfl
    · exact absurd inside outside
  | member found memberInside typed deeper ih =>
    rcases space.of_structure found with ⟨-, rfl⟩ | ⟨-, lesses, spaces, rfl⟩
    · refine singleWord_of_toSlots_eq (.member found memberInside typed deeper) real ?_
      rw [← same]
      rfl
    · obtain ⟨mores, realSpaces, rfl⟩ := real.of_structure_nil found
      obtain ⟨further, grows⟩ := membersGrow_of_spaces spaces realSpaces
      obtain ⟨total, nonempty⟩ := grows.wordsOf_eq
      rw [Footprint.slots.injEq] at same
      have none : further = 0 := by omega
      rw [← grows.same none] at realSpaces fits
      -- The members take the same space one by one.
      obtain ⟨own, mem, memberSpace, memberReal⟩ :=
        spaces.exists_of_mem realSpaces _ memberInside _ typed
      exact ih inside memberSpace memberReal rfl (Nat.lt_of_le_of_lt (toSlots_le_wordsOf mem) fits)
  | valueType found _ ih =>
    exact ih inside (space.of_valueType found) (real.of_valueType found) same fits
  | element constant _ ih =>
    obtain ⟨element, elementSpace, rfl⟩ := space.of_fixed constant
    obtain ⟨realElement, realSpace, rfl⟩ := real.of_fixed constant
    have equal := (grows_of_space elementSpace realSpace).eq_of_arraySlots_eq
      (Footprint.slots.inj same) fits
    exact ih inside elementSpace realSpace equal
      (Nat.lt_of_le_of_lt (toSlots_le_arraySlots fits) fits)

end

/-! ## Words that can be counted -/

section

variable {index : DeclarationIndex} {cut : List NodeId}

mutual

/-- A type takes a space by any count of words if it takes one by some count. -/
theorem exists_space {words : List Footprint → Nat} (others : List Footprint → Nat) :
    ∀ {type : TypeName} {size : Footprint}, Space words index cut type size →
      ∃ other, Space others index cut type other
  | _, _, .elementary known => ⟨_, .elementary known⟩
  | _, _, .function => ⟨_, .function⟩
  | _, _, .mapping => ⟨_, .mapping⟩
  | _, _, .dynamic => ⟨_, .dynamic⟩
  | _, _, .empty constant => ⟨_, .empty constant⟩
  | _, _, .fixed constant space => by
    obtain ⟨element, elementSpace⟩ := exists_space others space
    exact ⟨_, .fixed constant elementSpace⟩
  | _, _, .enumeration found => ⟨_, .enumeration found⟩
  | _, _, .contract found => ⟨_, .contract found⟩
  | _, _, .valueType found space => by
    obtain ⟨underlying, underlyingSpace⟩ := exists_space others space
    exact ⟨underlying, .valueType found underlyingSpace⟩
  | _, _, .cut found inside => ⟨_, .cut found inside⟩
  | _, _, .structure found outside spaces => by
    obtain ⟨footprints, memberSpaces⟩ := exists_spaces others spaces
    exact ⟨_, .structure found outside memberSpaces⟩

/-- Members take spaces by any count of words if they take some by some count. -/
theorem exists_spaces {words : List Footprint → Nat} (others : List Footprint → Nat)
    {members : List VariableDeclaration} {sizes : List Footprint} :
    Spaces words index cut members sizes → ∃ other, Spaces others index cut members other
  | .nil => ⟨[], .nil⟩
  | .cons typed space rest => by
    obtain ⟨size, own⟩ := exists_space others space
    obtain ⟨sizes, all⟩ := exists_spaces others rest
    exact ⟨size :: sizes, .cons typed own all⟩

end

/-- A type that takes bytes takes no more than a word. -/
theorem Space.le_of_bytes {words : List Footprint → Nat} : ∀ {type : TypeName}
    {footprint : Footprint}, Space words index cut type footprint →
      ∀ {size : Nat}, footprint = .bytes size → size ≤ 32
  | _, _, .elementary _ | _, _, .function | _, _, .contract _ => fun same =>
    (Builtin.bounds_of_footprint same).2
  | _, _, .enumeration _ => fun same => Footprint.bytes.inj same ▸ (bounds_of_enumSize _).2
  | _, _, .valueType _ underlying => underlying.le_of_bytes
  | _, _, .mapping | _, _, .dynamic | _, _, .empty _ | _, _, .fixed _ _ | _, _, .cut _ _
  | _, _, .structure _ _ _ => fun same => by cases same

/-- A member that takes bytes takes no more than a word. -/
theorem Spaces.le_of_mem {words : List Footprint → Nat} {members : List VariableDeclaration}
    {sizes : List Footprint} :
    Spaces words index cut members sizes → ∀ {size : Nat}, .bytes size ∈ sizes → size ≤ 32
  | .cons _ own others, _, mem => by
    rcases List.mem_cons.1 mem with same | later
    · exact own.le_of_bytes same.symm
    · exact others.le_of_mem later

/-- The words of members are counted as they are if they can be. -/
theorem Spaces.packedWords_eq {members : List VariableDeclaration} {sizes : List Footprint}
    (spaces : Spaces wordsOf index cut members sizes) (fits : wordsOf sizes < maxSlots) :
    packedWords sizes = wordsOf sizes :=
  slots_ofFootprints_eq (fun _ => spaces.le_of_mem) (Nat.lt_trans fits (by decide))

/-- The words of each member can be counted if those of the struct can. -/
theorem toSlots_lt_maxSlots {sizes : List Footprint} (fits : wordsOf sizes < maxSlots) :
    ∀ size ∈ sizes, size.toSlots < maxSlots := fun _ mem =>
  Nat.lt_of_le_of_lt (toSlots_le_wordsOf mem) (Nat.max_lt.2 ⟨by decide, fits⟩)

mutual

/-- The space that a packing finds is the one without a limit if its words can be counted. -/
theorem eq_of_packedSpace : ∀ {type : TypeName} {packed : Footprint},
    Space packedWords index cut type packed → ∀ {size : Footprint},
      Space wordsOf index cut type size → size.toSlots < maxSlots → packed = size
  | _, _, .elementary known, _, real, _ => (real.of_elementary known).symm
  | _, _, .function, _, real, _ => real.of_function.symm
  | _, _, .mapping, _, real, _ => real.of_mapping.symm
  | _, _, .dynamic, _, real, _ => real.of_dynamic.symm
  | _, _, .empty constant, _, real, _ => (real.of_empty constant).symm
  | _, _, .fixed constant space, _, real, fits => by
    obtain ⟨element, realSpace, rfl⟩ := real.of_fixed constant
    rw [eq_of_packedSpace space realSpace (Nat.lt_of_le_of_lt (toSlots_le_arraySlots fits) fits)]
  | _, _, .enumeration found, _, real, _ => (real.of_enumeration found).symm
  | _, _, .contract found, _, real, _ => (real.of_contract found).symm
  | _, _, .valueType found space, _, real, fits =>
    eq_of_packedSpace space (real.of_valueType found) fits
  | _, _, .cut found inside, _, real, _ => by
    rcases real.of_structure found with ⟨-, rfl⟩ | ⟨outside, -⟩
    · rfl
    · exact absurd inside outside
  | _, _, .structure found outside spaces, _, real, fits => by
    rcases real.of_structure found with ⟨inside, -⟩ | ⟨-, sizes, realSpaces, rfl⟩
    · exact absurd inside outside
    · have few : wordsOf sizes < maxSlots := Nat.lt_of_le_of_lt (Nat.le_max_right _ _) fits
      rw [eq_of_packedSpaces spaces realSpaces (toSlots_lt_maxSlots few),
        realSpaces.packedWords_eq few]

/-- The spaces that a packing finds are those without a limit if their words can be counted. -/
theorem eq_of_packedSpaces {members : List VariableDeclaration} {packed : List Footprint} :
    Spaces packedWords index cut members packed → ∀ {sizes : List Footprint},
      Spaces wordsOf index cut members sizes → (∀ size ∈ sizes, size.toSlots < maxSlots) →
        packed = sizes
  | .nil, _, real, _ => real.of_nil.symm
  | .cons typed space others, _, real, fits => by
    obtain ⟨own, sizes, realSpace, realOthers, rfl⟩ := real.of_cons typed
    rw [eq_of_packedSpace space realSpace (fits _ List.mem_cons_self),
      eq_of_packedSpaces others realOthers fun size mem => fits size (List.mem_cons_of_mem _ mem)]

end

/-- A packing counts the words that members take without a limit if these can be counted. -/
theorem packedWords_eq_of_spaces {members : List VariableDeclaration}
    {packed sizes : List Footprint} (spaces : Spaces packedWords index cut members packed)
    (real : Spaces wordsOf index cut members sizes) (fits : wordsOf sizes < maxSlots) :
    packedWords packed = wordsOf sizes := by
  rw [eq_of_packedSpaces spaces real (toSlots_lt_maxSlots fits), real.packedWords_eq fits]

end

/-! ## Words of a struct -/

section

variable {index : DeclarationIndex} {cut : List NodeId} {definition : StructDefinition}

/-- The words of a struct stay the same when structs inside it that take single words are counted as
such. -/
theorem max_words_eq_of_singleWords {words : List Footprint → Nat} {lesses mores : List Footprint}
    (spaces : Spaces words index cut definition.members lesses)
    (real : Spaces words index [] definition.members mores) (some : 0 < words mores)
    (single : SingleWords words index cut (HoldsInside index definition)) :
    max 1 (words lesses) = words mores := by
  rw [eq_of_spaces spaces real single, Nat.max_eq_right some]

/-- Whether a struct takes fewer words than the greatest count, if no count has a limit. -/
def IsCountable (index : DeclarationIndex) (definition : StructDefinition) : Prop :=
  ∃ sizes, Spaces wordsOf index [] definition.members sizes ∧ wordsOf sizes < maxSlots

/-- A struct that takes a single word without a limit takes one in a packing. -/
theorem SingleWord.packed (single : SingleWord wordsOf index definition) :
    SingleWord packedWords index definition := by
  intro packed spaces
  obtain ⟨sizes, real⟩ := exists_spaces wordsOf spaces
  have small := single sizes real
  rw [packedWords_eq_of_spaces spaces real (Nat.lt_of_le_of_lt small (by decide))]
  exact small

/-- The words of a struct change when a struct inside it that takes more words is counted as a
single one, if they can be counted. -/
theorem singleWords_of_packedWords_eq {lesses mores : List Footprint}
    (spaces : Spaces packedWords index cut definition.members lesses)
    (real : Spaces packedWords index [] definition.members mores)
    (countable : IsCountable index definition)
    (same : max 1 (packedWords lesses) = packedWords mores) :
    0 < packedWords mores ∧
      SingleWords packedWords index cut (HoldsInside index definition) := by
  refine ⟨by omega, ?_⟩
  obtain ⟨sizes, cutSpaces⟩ := exists_spaces wordsOf spaces
  obtain ⟨realSizes, realSpaces, fits⟩ := countable
  obtain ⟨further, grows⟩ := membersGrow_of_spaces cutSpaces realSpaces
  obtain ⟨total, nonempty⟩ := grows.wordsOf_eq
  -- All words can be counted, so the packings find what there is without a limit.
  rw [packedWords_eq_of_spaces spaces cutSpaces (by omega),
    packedWords_eq_of_spaces real realSpaces fits] at same
  -- Members that end together take the same space one by one.
  have none : further = 0 := by omega
  rintro inner ⟨member, mem, type, typed, holds⟩ inside
  rw [grows.same none] at cutSpaces
  obtain ⟨own, ownInside, space, realSpace⟩ :=
    cutSpaces.exists_of_mem realSpaces member mem type typed
  exact (singleWord_of_holds holds inside space realSpace rfl
    (toSlots_lt_maxSlots fits own ownInside)).packed

end

end ModularRouter.Storage
