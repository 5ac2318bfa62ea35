import ModularRouter.Proofs.Storage.Extraction
import ModularRouter.Proofs.Storage.Places
import ModularRouter.Proofs.Storage.Space
import ModularRouter.Proofs.Storage.StepLimit

/-!
# Structs inside themselves

A struct that is referred to inside itself is cut short to its name and a count of words. The count
is measured with all structs around the reference counted as single words, also those that the
struct holds by value. `recorded_slots_real_iff` says when the count is the one the struct has on
its own: when each of those takes a single word. `Leads` tells which structs are around the end of a
path.
-/

namespace ModularRouter.Storage

open Ast (NodeId TypeName VariableDeclaration StructDefinition DeclarationIndex SourceUnit
  Expression)

/-! ## Ends of paths -/

/-- Whether a path from a type inside some structs leads to a reference to a struct, and which
structs are around that reference. -/
inductive Leads (index : DeclarationIndex) :
    List NodeId → TypeName → List Step → List NodeId → StructDefinition → Prop
  | here {structs : List NodeId} {reference : NodeId} {path name : Option String}
      {definition : StructDefinition}
      (found : index.get? reference = some (.structure definition)) :
      Leads index structs (.user reference path name) [] structs definition
  | valueType {structs inner : List NodeId} {reference : NodeId} {path name : Option String}
      {wrapper : Ast.ValueTypeDefinition} {steps : List Step} {definition : StructDefinition}
      (found : index.get? reference = some (.valueType wrapper))
      (leads : Leads index structs wrapper.underlying steps inner definition) :
      Leads index structs (.user reference path name) steps inner definition
  | key {structs inner : List NodeId} {key value : TypeName} {steps : List Step}
      {definition : StructDefinition} (leads : Leads index structs value steps inner definition) :
      Leads index structs (.mapping key value) (.key :: steps) inner definition
  | element {structs inner : List NodeId} {base : TypeName} {length : Option Expression}
      {place : Nat} {steps : List Step} {definition : StructDefinition}
      (leads : Leads index structs base steps inner definition) :
      Leads index structs (.array base length) (.element place :: steps) inner definition
  | member {structs inner : List NodeId} {reference : NodeId} {path name : Option String}
      {outer definition : StructDefinition} {place : Nat} {member : VariableDeclaration}
      {type : TypeName} {steps : List Step}
      (found : index.get? reference = some (.structure outer)) (outside : outer.id ∉ structs)
      (inside : outer.members[place]? = some member) (typed : member.typeName = some type)
      (leads : Leads index (outer.id :: structs) type steps inner definition) :
      Leads index structs (.user reference path name) (.member place :: steps) inner definition

section

variable {site : Site}

/-- What is known of a struct inside the shape of a type: it is the shape of a reference to the
struct that the path leads to. -/
structure Referred (site : Site) (around : Surroundings) (inner : List NodeId)
    (definition : StructDefinition) (name : String) (members : List Shape) (slots : Option Nat) :
    Prop where
  entered : AreEntered site around.structs → AreEntered site inner
  resolves : ∃ reference path writtenName,
    site.index.get? reference = some (.structure definition) ∧
      Resolves site ⟨inner, around.sizing⟩ (.user reference path writtenName)
        (.struct name none members slots)

/-- Giving a variable a name changes nothing inside it. -/
theorem at?_named {shape : Shape} {variableName name : String} {steps : List Step}
    {label : Option String} {members : List Shape} {slots : Option Nat}
    (found : (shape.named variableName).at? steps = some (.struct name label members slots)) :
    ∃ other, shape.at? steps = some (.struct name other members slots) := by
  cases steps with
  | nil =>
    cases shape with
    | struct structName other members count =>
      cases found
      exact ⟨other, rfl⟩
    | builtin _ | mapping _ _ _ | array _ _ _ | enum _ _ _ => cases found
  | cons step rest =>
    refine ⟨label, ?_⟩
    have part : (shape.named variableName).part? step = shape.part? step := by
      cases shape <;> cases step <;> rfl
    rw [Shape.at?, part] at found
    exact found

mutual

/-- A struct inside the shape of a type stands where the path leads. -/
theorem referred_of_resolves (consistent : site.index.Consistent) {around : Surroundings}
    {type : TypeName} {shape : Shape} :
    Resolves site around type shape →
      ∀ {steps : List Step} {name : String} {label : Option String} {members : List Shape}
        {slots : Option Nat}, shape.at? steps = some (.struct name label members slots) →
          ∃ inner definition, Leads site.index around.structs type steps inner definition ∧
            Referred site around inner definition name members slots
  | .elementary _, steps, _, _, _, _, found => by cases steps <;> cases found
  | .function, steps, _, _, _, _, found => by cases steps <;> cases found
  | .enumeration _, steps, _, _, _, _, found => by cases steps <;> cases found
  | .contract _, steps, _, _, _, _, found => by cases steps <;> cases found
  | .mapping _ _ valueResolves, steps, _, _, _, _, found => by
    match steps with
    | .key :: rest =>
      obtain ⟨inner, definition, leads, referred⟩ :=
        referred_of_resolves consistent valueResolves found
      exact ⟨inner, definition, .key leads, referred⟩
    | [] | .member _ :: _ | .element _ :: _ => cases found
  | .dynamic baseResolves, steps, _, _, _, _, found => by
    match steps with
    | .element place :: rest =>
      obtain ⟨inner, definition, leads, referred⟩ :=
        referred_of_resolves consistent baseResolves found
      exact ⟨inner, definition, .element leads, referred⟩
    | [] | .member _ :: _ | .key :: _ => cases found
  | .fixed baseResolves _, steps, _, _, _, _, found => by
    match steps with
    | .element place :: rest =>
      obtain ⟨inner, definition, leads, referred⟩ :=
        referred_of_resolves consistent baseResolves found
      exact ⟨inner, definition, .element leads, referred⟩
    | [] | .member _ :: _ | .key :: _ => cases found
  | .valueType declared underlying, _, _, _, _, _, found => by
    obtain ⟨inner, definition, leads, referred⟩ :=
      referred_of_resolves consistent underlying found
    exact ⟨inner, definition, .valueType declared leads, referred⟩
  | .cut declared inside sizing, steps, _, _, _, _, found => by
    match steps with
    | [] =>
      cases found
      exact ⟨_, _, .here declared, id, _, none, none, declared,
        .cut declared inside sizing⟩
    | .member _ :: _ | .key :: _ | .element _ :: _ => cases found
  | .measured declared inside sizing resolved, steps, _, _, _, _, found => by
    match steps with
    | [] =>
      cases found
      exact ⟨_, _, .here declared, id, _, none, none, declared,
        .measured declared inside sizing resolved⟩
    | .member _ :: _ | .key :: _ | .element _ :: _ => cases found
  | .inlined declared outside resolved, steps, _, _, _, _, found => by
    match steps with
    | [] =>
      cases found
      exact ⟨_, _, .here declared, id, _, none, none, declared,
        .inlined declared outside resolved⟩
    | .member place :: rest =>
      rw [Shape.at?] at found
      split at found
      · next member inside =>
        obtain ⟨declaration, type, inner, definition, listed, typed, leads, referred⟩ :=
          referred_of_membersResolve consistent resolved inside found
        -- The struct is around everything inside it.
        refine ⟨inner, definition, .member declared outside listed typed leads, ?_,
          referred.resolves⟩
        exact fun entered => referred.entered (entered.cons (get?_id consistent declared) resolved)
      · cases found
    | .key :: _ | .element _ :: _ => cases found

/-- A struct inside the shape of a member stands where the path from the type of the member
leads. -/
theorem referred_of_membersResolve (consistent : site.index.Consistent) {around : Surroundings}
    {members : List VariableDeclaration} {shapes : List Shape} :
    MembersResolve site around members shapes →
      ∀ {place : Nat} {shape : Shape} {steps : List Step} {name : String}
        {label : Option String} {own : List Shape} {slots : Option Nat},
        shapes[place]? = some shape → shape.at? steps = some (.struct name label own slots) →
          ∃ member type inner definition, members[place]? = some member ∧
            member.typeName = some type ∧
            Leads site.index around.structs type steps inner definition ∧
            Referred site around inner definition name own slots
  | .nil, _, _, _, _, _, _, _, inside, _ => by cases inside
  | .cons typed resolves others, place, _, _, _, _, _, _, inside, found => by
    cases place with
    | zero =>
      cases inside
      obtain ⟨other, unnamed⟩ := at?_named found
      obtain ⟨inner, definition, leads, referred⟩ :=
        referred_of_resolves consistent resolves unnamed
      exact ⟨_, _, inner, definition, rfl, typed, leads, referred⟩
    | succ place => exact referred_of_membersResolve consistent others inside found

end

/-- What is known of a struct that is cut short at the end of a path. -/
structure CutShort (site : Site) (name : String) (slots : Nat) (inner : List NodeId)
    (definition : StructDefinition) : Prop where
  named : definition.name = name
  inside : definition.id ∈ inner
  declared : site.index.get? definition.id = some (.structure definition)
  entered : AreEntered site inner
  counted : ∃ shapes, MembersResolve site ⟨definition.id :: inner, true⟩ definition.members shapes ∧
    slots = max 1 (packing shapes).slots

/-- A struct that is recorded as a count of words is cut short. -/
theorem Referred.cutShort {around : Surroundings} {inner : List NodeId}
    {definition : StructDefinition} {name : String} {slots : Nat}
    (referred : Referred site around inner definition name [] (some slots))
    (consistent : site.index.Consistent) (entered : AreEntered site around.structs) :
    CutShort site name slots inner definition := by
  obtain ⟨reference, path, writtenName, found, resolves⟩ := referred.resolves
  cases resolves with
  | measured declared inside _ resolved =>
    cases found.symm.trans declared
    exact ⟨rfl, inside, get?_id consistent found, referred.entered entered, _, resolved, rfl⟩
  | valueType declared _ => cases found.symm.trans declared

/-! ## The count of a struct -/

/-- The members of a layout take the space of their types. -/
theorem spaces_of_structLayout (consistent : site.index.Consistent) (acyclic : Acyclic site.index)
    {definition : StructDefinition}
    (declared : site.index.get? definition.id = some (.structure definition))
    {layout : StructLayout} (found : site.structLayout definition = .ok layout) :
    Spaces packedWords site.index [] definition.members (layout.members.map Shape.footprint) := by
  obtain ⟨-, resolved⟩ := membersResolve_of_structLayout found
  refine spaces_of_membersResolve consistent acyclic resolved ⟨nofun, ?_⟩
  rintro inner ⟨member, mem, type, typed, holds⟩ around
  -- Only the struct itself is around its members.
  have same : inner.id = definition.id := List.mem_singleton.1 around
  have found := holds.get?_id consistent
  rw [same, declared] at found
  cases found
  exact absurd ⟨member, mem, type, typed, holds⟩ (acyclic definition.id definition declared)

/-- While a struct is measured inside itself, all structs around the reference count as single
words. -/
theorem spaces_of_measured (consistent : site.index.Consistent) (acyclic : Acyclic site.index)
    {structs : List NodeId} {definition : StructDefinition} (inside : definition.id ∈ structs)
    {shapes : List Shape}
    (resolved : MembersResolve site ⟨definition.id :: structs, true⟩ definition.members shapes) :
    Spaces packedWords site.index structs definition.members (shapes.map Shape.footprint) := by
  refine spaces_of_membersResolve consistent acyclic resolved
    ⟨fun id mem => List.mem_cons_of_mem _ mem, fun inner _ around => ⟨?_, rfl⟩⟩
  rcases List.mem_cons.1 around with same | mem
  · rw [same]
    exact inside
  · exact mem

/-- Whether a struct takes a number of words when it is resolved on its own. -/
def TakesWords (site : Site) (definition : StructDefinition) (words : Nat) : Prop :=
  ∃ members, site.structLayout definition = .ok ⟨definition.name, members⟩ ∧
    (packing members).slots = words

/-- A struct that is entered takes a single word of space exactly when it takes at most one on its
own. -/
theorem singleWord_iff_takesWords (consistent : site.index.Consistent)
    (acyclic : Acyclic site.index) {definition : StructDefinition}
    (declared : site.index.get? definition.id = some (.structure definition))
    (entered : Entered site definition) :
    SingleWord packedWords site.index definition ↔ ∃ words ≤ 1, TakesWords site definition words := by
  obtain ⟨members, read⟩ := exists_structLayout_of_entered consistent entered
  have spaces := spaces_of_structLayout consistent acyclic declared read
  constructor
  · exact fun single => ⟨_, single _ spaces, members, read, rfl⟩
  · rintro ⟨words, small, others, again, rfl⟩
    cases read.symm.trans again
    intro footprints own
    rw [spaces_unique own spaces]
    exact small

/-- The structs around a reference that the struct it refers to holds by value take at most one word
each on their own. -/
def SurroundingsSmall (site : Site) (structs : List NodeId) (definition : StructDefinition) :
    Prop :=
  ∀ inner : StructDefinition, inner.id ∈ structs → HoldsInside site.index definition inner →
    ∃ words ≤ 1, TakesWords site inner words

/-- The structs around a reference are small exactly when the space they take is. -/
theorem surroundingsSmall_iff (consistent : site.index.Consistent) (acyclic : Acyclic site.index)
    {structs : List NodeId} (entered : AreEntered site structs) (definition : StructDefinition) :
    SurroundingsSmall site structs definition ↔
      SingleWords packedWords site.index structs (HoldsInside site.index definition) := by
  have declared {inner : StructDefinition} (holds : HoldsInside site.index definition inner) :
      site.index.get? inner.id = some (.structure inner) := by
    obtain ⟨member, mem, type, typed, deeper⟩ := holds
    exact deeper.get?_id consistent
  constructor
  · intro small inner holds mem
    have found := declared holds
    exact (singleWord_iff_takesWords consistent acyclic found (entered inner found mem)).2
      (small inner mem holds)
  · intro single inner mem holds
    have found := declared holds
    exact (singleWord_iff_takesWords consistent acyclic found (entered inner found mem)).1
      (single inner holds mem)

/-- The count of a struct that is cut short, and the words it takes on its own. -/
theorem CutShort.takesWords {name : String} {slots : Nat} {structs : List NodeId}
    {definition : StructDefinition} (cut : CutShort site name slots structs definition)
    (consistent : site.index.Consistent) (acyclic : Acyclic site.index) :
    ∃ words, TakesWords site definition words ∧
      (0 < words → SurroundingsSmall site structs definition → slots = words) ∧
      (IsCountable site.index definition → slots = words →
        0 < words ∧ SurroundingsSmall site structs definition) := by
  obtain ⟨shapes, measured, rfl⟩ := cut.counted
  obtain ⟨members, read⟩ := exists_structLayout_of_entered consistent
    (cut.entered definition cut.declared cut.inside)
  have spaces := spaces_of_measured consistent acyclic cut.inside measured
  have real := spaces_of_structLayout consistent acyclic cut.declared read
  have small := surroundingsSmall_iff consistent acyclic cut.entered definition
  -- The measured members and the real ones take the space of the same types, with the structs
  -- around counted as single words and without.
  refine ⟨_, ⟨members, read, rfl⟩, fun some around => ?_, fun countable same => ?_⟩
  · exact max_words_eq_of_singleWords spaces real some (small.1 around)
  · obtain ⟨some, single⟩ := singleWords_of_packedWords_eq spaces real countable same
    exact ⟨some, small.2 single⟩

end

/-- A struct that is cut short in the layout of a struct stands where a path leads that starts from
a reference to the struct of the layout. -/
theorem leads_of_structLayout {site : Site} (consistent : site.index.Consistent)
    {outer : StructDefinition} (declared : site.index.get? outer.id = some (.structure outer))
    {struct : StructLayout} (read : site.structLayout outer = .ok struct) {path : List Step}
    {name : String} {label : Option String} {slots : Nat}
    (found : struct.shape.at? path = some (.struct name label [] (some slots))) :
    ∃ structs definition, Leads site.index [] (.user outer.id none none) path structs definition ∧
      CutShort site name slots structs definition := by
  obtain ⟨named, resolved⟩ := membersResolve_of_structLayout read
  rw [StructLayout.shape, named] at found
  -- The layout of a struct is the shape of a reference to it from outside all structs.
  have whole : Resolves site ⟨[], false⟩ (.user outer.id none none)
      (.struct outer.name none struct.members none) := .inlined declared List.not_mem_nil resolved
  obtain ⟨structs, definition, leads, referred⟩ := referred_of_resolves consistent whole found
  exact ⟨structs, definition, leads,
    referred.cutShort consistent fun _ _ inside => absurd inside List.not_mem_nil⟩

/-- Let no two declarations of a project have one number, and let no struct have itself inside it by
value. Wherever a struct of an extracted dump is cut short to a count of words, the path to it leads
from a struct of a selected contract to a reference to a struct of that name that is inside itself,
and that struct can be resolved on its own. The count is the words it then takes if these are some
and the structs around the reference that it holds by value take at most one word each, and only if
so unless there are more words than can be counted. -/
theorem recorded_slots_real_iff (units : List SourceUnit) (selection : Selection)
    (distinct : DeclarationIndex.DistinctIds units) (acyclic : Acyclic (.ofUnits units))
    (dump : Dump) (extracted : extract units selection = .ok dump) (layout : Layout)
    (inDump : layout ∈ dump.layouts) (struct : StructLayout) (inLayout : struct ∈ layout.structs)
    (path : List Step) (name : String) (label : Option String) (slots : Nat)
    (found : struct.shape.at? path = some (.struct name label [] (some slots))) :
    ∃ unit ∈ units, ∃ contract ∈ selectedContracts selection unit, ∃ outer ∈ contract.structs,
      ∃ structs definition,
        Leads (.ofUnits units) [] (.user outer.id none none) path structs definition ∧
        definition.name = name ∧ definition.id ∈ structs ∧
        ∃ words, TakesWords ⟨.ofUnits units, unit.path⟩ definition words ∧
          (0 < words → SurroundingsSmall ⟨.ofUnits units, unit.path⟩ structs definition →
            slots = words) ∧
          (IsCountable (.ofUnits units) definition → slots = words →
            0 < words ∧ SurroundingsSmall ⟨.ofUnits units, unit.path⟩ structs definition) := by
  obtain ⟨unit, inUnits, contract, selected, outer, inContract, read⟩ :=
    exists_structLayout_of_extract extracted inDump inLayout
  have declared := DeclarationIndex.get?_eq_some_of_mem_structs distinct inUnits
    (List.mem_filter.1 selected).1 inContract
  have consistent := DeclarationIndex.consistent_ofUnits units
  obtain ⟨structs, definition, leads, cut⟩ := leads_of_structLayout consistent declared read found
  exact ⟨unit, inUnits, contract, selected, outer, inContract, structs, definition, leads,
    cut.named, cut.inside, cut.takesWords consistent acyclic⟩

/-! ## A book -/

/-- A struct that has itself inside it behind a mapping to pages. -/
def entryStruct : StructDefinition :=
  ⟨2, "Entry",
    [⟨3, "amount", some (.elementary "uint256"), false, none⟩,
      ⟨4, "pages", some (.mapping (.elementary "uint256") (.user 5 none (some "Page"))), false,
        none⟩]⟩

/-- A struct that has an entry inside it by value. -/
def pageStruct : StructDefinition :=
  ⟨5, "Page", [⟨6, "entry", some (.user 2 none (some "Entry")), false, none⟩]⟩

/-- A library that declares entries and pages. -/
def bookUnit : SourceUnit :=
  ⟨"src/Book.sol",
    [.contract ⟨1, "Book", .library, [.structure entryStruct, .structure pageStruct]⟩]⟩

/-- The layout of entries. An entry inside an entry takes two words. -/
def entryLayout : StructLayout :=
  ⟨"Entry",
    [.builtin { valueType := "uint256", name := some "amount", size := some 32 },
      .mapping (some "pages") { valueType := "uint256", size := some 32 }
        (.struct "Page" none [.struct "Entry" (some "entry") [] (some 2)] none)]⟩

/-- The layout of pages. A page inside a page takes one word. -/
def pageLayout : StructLayout :=
  ⟨"Page",
    [.struct "Entry" (some "entry")
      [.builtin { valueType := "uint256", name := some "amount", size := some 32 },
        .mapping (some "pages") { valueType := "uint256", size := some 32 }
          (.struct "Page" none [] (some 1))] none]⟩

/-- The layouts of the library. -/
def bookLayout : Layout := ⟨.library, "Book", [entryLayout, pageLayout]⟩

/-- The structs of the library are entries and pages. -/
theorem book_structs {reference : NodeId} {definition : StructDefinition}
    (found : (DeclarationIndex.ofUnits [bookUnit]).get? reference = some (.structure definition)) :
    definition = entryStruct ∨ definition = pageStruct := by
  have listed : (reference, Ast.Declaration.structure definition) ∈
      ([(5, .structure pageStruct), (2, .structure entryStruct), (1, .contract)] :
        List (NodeId × Ast.Declaration)) :=
    Association.mem_of_lookup_eq_some found
  rcases List.mem_cons.1 listed with page | listed
  · cases page
    exact .inr rfl
  · rcases List.mem_cons.1 listed with entry | listed
    · cases entry
      exact .inl rfl
    · cases List.mem_singleton.1 listed

/-- An entry has no struct inside it by value. -/
theorem not_holdsInside_entry (inner : StructDefinition) :
    ¬ HoldsInside (.ofUnits [bookUnit]) entryStruct inner := by
  rintro ⟨member, mem, type, typed, holds⟩
  rcases List.mem_cons.1 mem with rfl | mem
  · cases typed
    cases holds
  · cases List.mem_singleton.1 mem
    cases typed
    cases holds

/-- No struct of the library has itself inside it by value. -/
theorem acyclic_book : Acyclic (.ofUnits [bookUnit]) := by
  intro reference definition found
  rcases book_structs found with rfl | rfl
  · exact not_holdsInside_entry entryStruct
  · rintro ⟨member, mem, type, typed, holds⟩
    cases List.mem_singleton.1 mem
    cases typed
    have entry : (DeclarationIndex.ofUnits [bookUnit]).get? 2 = some (.structure entryStruct) := rfl
    cases holds with
    | self again => cases entry.symm.trans again
    | member again inside typed deeper =>
      cases entry.symm.trans again
      exact not_holdsInside_entry pageStruct ⟨_, inside, _, typed, deeper⟩
    | valueType again _ => cases entry.symm.trans again

/-- A reference that a path leads to is one to a struct of the index. -/
theorem Leads.exists_get? {index : DeclarationIndex} {structs inner : List NodeId} {type : TypeName}
    {steps : List Step} {definition : StructDefinition}
    (leads : Leads index structs type steps inner definition) :
    ∃ reference, index.get? reference = some (.structure definition) := by
  induction leads with
  | here found => exact ⟨_, found⟩
  | valueType _ _ ih | key _ ih | element _ ih | member _ _ _ _ _ ih => exact ih

/-- The count of an entry inside an entry is its real one. -/
theorem entry_inside_entry_takes_two :
    DeclarationIndex.DistinctIds [bookUnit] ∧ extract [bookUnit] .all = .ok ⟨[bookLayout]⟩ ∧
      entryLayout.shape.at? [.member 1, .key, .member 0] =
        some (.struct "Entry" (some "entry") [] (some 2)) ∧
      TakesWords ⟨.ofUnits [bookUnit], "src/Book.sol"⟩ entryStruct 2 := by
  have distinct : DeclarationIndex.DistinctIds [bookUnit] := by
    unfold DeclarationIndex.DistinctIds
    decide
  refine ⟨distinct, rfl, rfl, ?_⟩
  obtain ⟨unit, inUnits, _, _, _, _, structs, definition, leads, named, _, words, takes, real, _⟩ :=
    recorded_slots_real_iff [bookUnit] .all distinct acyclic_book ⟨[bookLayout]⟩ rfl bookLayout
      (List.mem_singleton_self _) entryLayout (List.mem_cons_self ..) [.member 1, .key, .member 0]
      "Entry" (some "entry") 2 rfl
  cases List.mem_singleton.1 inUnits
  obtain ⟨reference, found⟩ := leads.exists_get?
  rcases book_structs found with rfl | rfl
  · have some : 0 < words := by
      obtain ⟨members, read, rfl⟩ := takes
      cases read
      decide
    rw [real some fun inner _ holds => absurd holds (not_holdsInside_entry inner)]
    exact takes
  · exact absurd named (by decide)

/-- The count of a page inside a page is not its real one: there an entry, which a page has inside
it by value, counts as one word and takes two. -/
theorem page_inside_page_miscounted :
    DeclarationIndex.DistinctIds [bookUnit] ∧ Acyclic (.ofUnits [bookUnit]) ∧
      extract [bookUnit] .all = .ok ⟨[bookLayout]⟩ ∧ pageLayout ∈ bookLayout.structs ∧
      pageLayout.shape.at? [.member 0, .member 1, .key] = some (.struct "Page" none [] (some 1)) ∧
      Leads (.ofUnits [bookUnit]) [] (.user 5 none none) [.member 0, .member 1, .key] [2, 5]
        pageStruct ∧
      TakesWords ⟨.ofUnits [bookUnit], "src/Book.sol"⟩ pageStruct 2 := by
  refine ⟨?_, acyclic_book, rfl, List.mem_cons_of_mem _ (List.mem_singleton_self _), rfl, ?_, ?_⟩
  · unfold DeclarationIndex.DistinctIds
    decide
  · have page : (DeclarationIndex.ofUnits [bookUnit]).get? 5 = some (.structure pageStruct) := rfl
    have entry : (DeclarationIndex.ofUnits [bookUnit]).get? 2 = some (.structure entryStruct) := rfl
    exact .member page (by decide) rfl rfl (.member entry (by decide) rfl rfl (.key (.here page)))
  · exact ⟨pageLayout.members, rfl, rfl⟩

end ModularRouter.Storage
