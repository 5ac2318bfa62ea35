import Mathlib.Data.Nat.Find
import ModularRouter.Proofs.Ast.Declarations
import ModularRouter.Proofs.Storage.Resolution

/-!
# The bound on references

`Site.follow` follows a bounded count of references. For every struct that has been entered while
some struct was resolved, `Site.stepLimit` is enough to resolve it on its own
(`exists_structLayout_of_entered`): the types of its members are usable, which does not depend on
the structs around them, and a way through usable types is shorter than the bound. A way enters
each struct once and one of them a second time while it is measured, and between two structs it
passes no value type twice.
-/

namespace ModularRouter.Storage

open Ast (NodeId TypeName VariableDeclaration StructDefinition ValueTypeDefinition Expression)
open Results (bind_eq_ok_iff exists_mapM_eq_ok)

variable {site : Site}

/-! ## Keys of mappings -/

/-- Whether a shape is one that keys have, which is the same inside all structs. -/
def Shape.isScalar : Shape → Bool
  | .builtin _ | .enum .. => true
  | _ => false

/-- A shape that makes a key is a scalar, and makes it for every variable. -/
theorem isScalar_of_mappingKey {subject : String} {shape : Shape} {key : Builtin}
    (isKey : site.mappingKey subject shape = .ok key) :
    shape.isScalar = true ∧ ∀ other, site.mappingKey other shape = .ok key := by
  cases shape with
  | builtin value =>
    refine ⟨rfl, fun other => ?_⟩
    simp only [Site.mappingKey] at isKey ⊢
    split at isKey
    · next type known =>
      split at isKey
      · next allowed => rw [if_pos allowed, isKey]
      · cases isKey
    · cases isKey
  | enum enumName name members => exact ⟨rfl, fun other => isKey⟩
  | struct _ _ _ _ => cases isKey
  | mapping _ _ _ => cases isKey
  | array _ _ _ => cases isKey

/-- A type with a scalar shape has it inside all structs. -/
theorem Resolves.scalar_eq {around : Surroundings} {type : TypeName} {shape : Shape} :
    Resolves site around type shape → shape.isScalar = true → ∀ {others : Surroundings}
      {other : Shape}, Resolves site others type other → other = shape
  | .elementary known, _, _, _, again => by
    cases again with
    | elementary same =>
      cases known.symm.trans same
      rfl
  | .function, _, _, _, .function => rfl
  | .enumeration found, _, _, _, again => by
    cases again with
    | enumeration same =>
      cases found.symm.trans same
      rfl
    | contract same | valueType same _ | cut same _ _ | measured same _ _ _ | inlined same _ _ =>
      cases found.symm.trans same
  | .contract found, _, _, _, again => by
    cases again with
    | contract same => rfl
    | enumeration same | valueType same _ | cut same _ _ | measured same _ _ _ | inlined same _ _ =>
      cases found.symm.trans same
  | .valueType found underlying, scalar, _, _, again => by
    cases again with
    | valueType same resolves =>
      cases found.symm.trans same
      exact underlying.scalar_eq scalar resolves
    | enumeration same | contract same | cut same _ _ | measured same _ _ _ | inlined same _ _ =>
      cases found.symm.trans same
  | .mapping .., scalar, _, _, _ => by cases scalar
  | .dynamic _, scalar, _, _, _ => by cases scalar
  | .fixed .., scalar, _, _, _ => by cases scalar
  | .cut .., scalar, _, _, _ => by cases scalar
  | .measured .., scalar, _, _, _ => by cases scalar
  | .inlined .., scalar, _, _, _ => by cases scalar

/-! ## Usable types -/

/-- A type that has a shape inside all structs, so long as the structs of `members` are resolved. At
most `height` value types are passed on the way to a struct. -/
inductive Usable (site : Site) (members : StructDefinition → Prop) : Nat → TypeName → Prop
  | elementary {height : Nat} {name : String} {type : ElementaryType}
      (known : ElementaryType.parse? name = some type) :
      Usable site members height (.elementary name)
  | function {height : Nat} {visibility : String} :
      Usable site members height (.function visibility)
  | mapping {height : Nat} {key value : TypeName} {around : Surroundings} {subject : String}
      {keyShape : Shape} {builtin : Builtin} (keyUsable : Usable site members height key)
      (keyResolves : Resolves site around key keyShape)
      (isKey : site.mappingKey subject keyShape = .ok builtin)
      (valueUsable : Usable site members height value) :
      Usable site members height (.mapping key value)
  | dynamic {height : Nat} {base : TypeName} (baseUsable : Usable site members height base) :
      Usable site members height (.array base none)
  | fixed {height : Nat} {base : TypeName} {expression : Expression} {length : Nat}
      (baseUsable : Usable site members height base)
      (constant : arrayLength? site.index expression = some length) :
      Usable site members height (.array base (some expression))
  | enumeration {height : Nat} {reference : NodeId} {path name : Option String}
      {definition : Ast.EnumDefinition}
      (found : site.index.get? reference = some (.enumeration definition)) :
      Usable site members height (.user reference path name)
  | contract {height : Nat} {reference : NodeId} {path name : Option String}
      (found : site.index.get? reference = some .contract) :
      Usable site members height (.user reference path name)
  | structure {height : Nat} {reference : NodeId} {path name : Option String}
      {definition : StructDefinition}
      (found : site.index.get? reference = some (.structure definition))
      (resolved : members definition) : Usable site members height (.user reference path name)
  | valueType {height : Nat} {reference : NodeId} {path name : Option String}
      {definition : ValueTypeDefinition}
      (found : site.index.get? reference = some (.valueType definition))
      (underlying : Usable site members height definition.underlying) :
      Usable site members (height + 1) (.user reference path name)

namespace Usable

variable {members : StructDefinition → Prop}

/-- More value types may be passed. -/
theorem mono {height more : Nat} {type : TypeName} (usable : Usable site members height type)
    (le : height ≤ more) : Usable site members more type := by
  induction usable generalizing more with
  | elementary known => exact .elementary known
  | function => exact .function
  | mapping _ keyResolves isKey _ keyIh valueIh =>
    exact .mapping (keyIh le) keyResolves isKey (valueIh le)
  | dynamic _ ih => exact .dynamic (ih le)
  | fixed _ constant ih => exact .fixed (ih le) constant
  | enumeration found => exact .enumeration found
  | contract found => exact .contract found
  | «structure» found resolved => exact .structure found resolved
  | valueType found _ ih =>
    obtain ⟨left, rfl⟩ : ∃ left, more = left + 1 := ⟨more - 1, by omega⟩
    exact .valueType found (ih (by omega))

/-- How many value types have to be passed behind a value type. -/
def Needs (site : Site) (members : StructDefinition → Prop) (id : NodeId) (height : Nat) : Prop :=
  ∃ definition, site.index.get? id = some (.valueType definition) ∧
    Usable site members height definition.underlying

/-- No type needs to pass more value types than there are declarations. A way that passes a value
type twice could be cut short, so a least one passes each at most once. -/
theorem within_size {height : Nat} {type : TypeName} (usable : Usable site members height type)
    {ids : List NodeId} (passed : site.index.Passed (Needs site members) height ids) :
    Usable site members (site.index.size - ids.length) type := by
  induction height using Nat.strongRecOn generalizing type ids with
  | ind height ih =>
    induction type with
    | elementary name =>
      cases usable with
      | elementary known => exact .elementary known
    | function visibility => exact .function
    | mapping key value keyIh valueIh =>
      cases usable with
      | mapping keyUsable keyResolves isKey valueUsable =>
        exact .mapping (keyIh keyUsable) keyResolves isKey (valueIh valueUsable)
    | array base length baseIh =>
      cases usable with
      | dynamic baseUsable => exact .dynamic (baseIh baseUsable)
      | fixed baseUsable constant => exact .fixed (baseIh baseUsable) constant
    | user reference path name =>
      cases usable with
      | enumeration found => exact .enumeration found
      | contract found => exact .contract found
      | «structure» found resolved => exact .structure found resolved
      | @valueType height _ _ _ definition found underlying =>
        classical
        have some : ∃ height, Usable site members height definition.underlying :=
          ⟨height, underlying⟩
        -- The way from the value type on is taken with the least height, so that it does not lead
        -- through the value type again.
        have least : Nat.find some ≤ height := Nat.find_min' some underlying
        have longer :
            site.index.Passed (Needs site members) (Nat.find some) (reference :: ids) := by
          refine passed.cons found ⟨definition, found, Nat.find_spec some⟩ (by omega) ?_
          rintro other ⟨again, declared, usable⟩
          cases found.symm.trans declared
          exact Nat.find_min' some usable
        have inner := ih (Nat.find some) (by omega) (Nat.find_spec some) longer
        have count := longer.length_le
        rw [List.length_cons] at count inner
        have same : site.index.size - ids.length = site.index.size - (ids.length + 1) + 1 := by
          omega
        rw [same]
        exact .valueType found inner

/-- A usable type passes at most as many value types as there are declarations. -/
theorem bounded {height : Nat} {type : TypeName} (usable : Usable site members height type) :
    Usable site members site.index.size type := by
  exact usable.within_size .nil

end Usable

/-! ## Structs that are entered -/

/-- A struct whose members have shapes inside some structs that are entered themselves. -/
inductive Entered (site : Site) : StructDefinition → Prop
  | intro {definition : StructDefinition} {structs : List NodeId} {sizing : Bool}
      {shapes : List Shape}
      (declared : site.index.get? definition.id = some (.structure definition))
      (around : ∀ other : StructDefinition, site.index.get? other.id = some (.structure other) →
        other.id ∈ structs → Entered site other)
      (resolved :
        MembersResolve site ⟨definition.id :: structs, sizing⟩ definition.members shapes) :
      Entered site definition

/-- Whether the structs of some numbers are entered. -/
def AreEntered (site : Site) (structs : List NodeId) : Prop :=
  ∀ definition : StructDefinition,
    site.index.get? definition.id = some (.structure definition) →
      definition.id ∈ structs → Entered site definition

/-- A struct is found under its own number. -/
theorem get?_id (consistent : site.index.Consistent) {reference : NodeId}
    {definition : StructDefinition}
    (found : site.index.get? reference = some (.structure definition)) :
    site.index.get? definition.id = some (.structure definition) := by
  rw [consistent reference definition found, found]

/-- Inside a struct that is entered all structs around are entered. -/
theorem AreEntered.cons {structs : List NodeId} {sizing : Bool} {definition : StructDefinition}
    {shapes : List Shape} (declared : site.index.get? definition.id = some (.structure definition))
    (entered : AreEntered site structs)
    (resolved : MembersResolve site ⟨definition.id :: structs, sizing⟩ definition.members shapes) :
    AreEntered site (definition.id :: structs) := by
  intro inner found mem
  rcases List.mem_cons.1 mem with same | mem
  · rw [same, declared] at found
    cases found
    exact .intro declared entered resolved
  · exact entered inner found mem

/-- A type that has a shape inside structs that are entered is usable. -/
theorem usable_of_resolves (consistent : site.index.Consistent) {around : Surroundings}
    (entered : AreEntered site around.structs) {type : TypeName} {shape : Shape} :
    Resolves site around type shape → ∃ height, Usable site (Entered site) height type
  | .elementary known => ⟨0, .elementary known⟩
  | .function => ⟨0, .function⟩
  | .mapping keyResolves isKey valueResolves => by
    obtain ⟨keyHeight, keyUsable⟩ := usable_of_resolves consistent entered keyResolves
    obtain ⟨valueHeight, valueUsable⟩ := usable_of_resolves consistent entered valueResolves
    exact ⟨max keyHeight valueHeight, .mapping (keyUsable.mono (by omega)) keyResolves isKey
      (valueUsable.mono (by omega))⟩
  | .dynamic baseResolves => by
    obtain ⟨height, baseUsable⟩ := usable_of_resolves consistent entered baseResolves
    exact ⟨height, .dynamic baseUsable⟩
  | .fixed baseResolves constant => by
    obtain ⟨height, baseUsable⟩ := usable_of_resolves consistent entered baseResolves
    exact ⟨height, .fixed baseUsable constant⟩
  | .enumeration found => ⟨0, .enumeration found⟩
  | .contract found => ⟨0, .contract found⟩
  | .valueType found underlying => by
    obtain ⟨height, usable⟩ := usable_of_resolves consistent entered underlying
    exact ⟨height + 1, .valueType found usable⟩
  | .cut found inside _ => ⟨0, .structure found (entered _ (get?_id consistent found) inside)⟩
  | .measured found inside _ _ =>
    ⟨0, .structure found (entered _ (get?_id consistent found) inside)⟩
  | .inlined found _ resolved =>
    ⟨0, .structure found (.intro (get?_id consistent found) entered resolved)⟩

/-- Every member that has a shape has a type with that shape. -/
theorem MembersResolve.exists_of_mem {around : Surroundings} :
    {members : List VariableDeclaration} → {shapes : List Shape} →
      MembersResolve site around members shapes → ∀ member ∈ members,
        ∃ type shape, member.typeName = some type ∧ Resolves site around type shape
  | _, _, .cons typed resolves others, member, mem => by
    rcases List.mem_cons.1 mem with rfl | later
    · exact ⟨_, _, typed, resolves⟩
    · exact others.exists_of_mem member later

/-- The members of a struct that is entered have usable types. -/
theorem Entered.usable (consistent : site.index.Consistent) {definition : StructDefinition}
    (entered : Entered site definition) : ∀ member ∈ definition.members,
      ∃ type, member.typeName = some type ∧ Usable site (Entered site) site.index.size type := by
  intro member mem
  cases entered with
  | intro declared around resolved =>
    obtain ⟨type, shape, typed, resolves⟩ := resolved.exists_of_mem member mem
    obtain ⟨height, usable⟩ :=
      usable_of_resolves consistent (AreEntered.cons declared around resolved) resolves
    exact ⟨type, typed, usable.bounded⟩

/-! ## Following references -/

/-- How many declarations are none of the given ones. -/
def Site.free (site : Site) (ids : List NodeId) : Nat :=
  (site.index.entries.filter fun entry => entry.1 ∉ ids).length

/-- How many more structs can be entered, and measured, inside some structs. -/
def Site.weight (site : Site) (around : Surroundings) : Nat :=
  site.free around.structs + if around.sizing then 0 else 1

/-- No more declarations are free than there are. -/
theorem Site.free_le (ids : List NodeId) : site.free ids ≤ site.index.size :=
  List.length_filter_le _ _

/-- What is free beside one more declaration. -/
theorem Site.filter_free_cons (id : NodeId) (ids : List NodeId) :
    (site.index.entries.filter fun entry => entry.1 ∉ id :: ids) =
      (site.index.entries.filter fun entry => entry.1 ∉ ids).filter fun entry => entry.1 ≠ id := by
  rw [List.filter_filter]
  congr 1
  funext entry
  simp

/-- Taking a declaration leaves no more of them free. -/
theorem Site.free_cons_le (id : NodeId) (ids : List NodeId) :
    site.free (id :: ids) ≤ site.free ids := by
  rw [Site.free, Site.free, Site.filter_free_cons]
  exact List.length_filter_le _ _

/-- A declaration that is taken is free no more. -/
theorem Site.free_cons_lt {id : NodeId} {ids : List NodeId} {declaration : Ast.Declaration}
    (found : site.index.get? id = some declaration) (fresh : id ∉ ids) :
    site.free (id :: ids) < site.free ids := by
  rw [Site.free, Site.free, Site.filter_free_cons, List.length_filter_lt_length_iff_exists]
  refine ⟨(id, declaration), List.mem_filter.2 ⟨Association.mem_of_lookup_eq_some found, ?_⟩, ?_⟩
  · simpa using fresh
  · simp

/-- Entering a struct leaves fewer of them to be entered. -/
theorem Site.weight_enter_lt {around : Surroundings} {id : NodeId} {declaration : Ast.Declaration}
    (found : site.index.get? id = some declaration) (outside : id ∉ around.structs) :
    site.weight ⟨id :: around.structs, around.sizing⟩ < site.weight around := by
  have fewer := Site.free_cons_lt found outside
  simp only [Site.weight]
  omega

/-- Nothing is measured inside a struct that is being measured. -/
theorem Site.weight_measure_lt {around : Surroundings} (id : NodeId)
    (sizing : around.sizing = false) :
    site.weight ⟨id :: around.structs, true⟩ < site.weight around := by
  have fewer : site.free (id :: around.structs) ≤ site.free around.structs := Site.free_cons_le _ _
  simp only [Site.weight, sizing, if_true, Bool.false_eq_true, if_false]
  omega

/-- The bound on references leaves room for all structs that may be entered or measured and, behind
each of them, for all value types. -/
theorem Site.weight_mul_lt_stepLimit (around : Surroundings) :
    site.weight around * (site.index.size + 1) + site.index.size < site.stepLimit := by
  -- Every declaration may be entered, and one struct may be measured besides.
  have weight : site.weight around ≤ site.index.size + 1 := by
    have bound : site.free around.structs ≤ site.index.size := Site.free_le _
    rw [Site.weight]
    split <;> omega
  have product : site.weight around * (site.index.size + 1) ≤
      (site.index.size + 1) * (site.index.size + 1) := Nat.mul_le_mul_right _ weight
  have limit : site.stepLimit = 2 * ((site.index.size + 1) * (site.index.size + 1)) := by
    rw [Site.stepLimit, Nat.mul_assoc]
  have square : site.index.size < (site.index.size + 1) * (site.index.size + 1) :=
    Nat.lt_of_lt_of_le (Nat.lt_succ_self _) (Nat.le_mul_of_pos_left _ (Nat.succ_pos _))
  omega

/-- The members of a struct have shapes where their types have. -/
theorem exists_membersShape_of_types {follow : Reference → Except ExtractionError Shape}
    {definition : StructDefinition}
    (types : ∀ member ∈ definition.members, ∃ type, member.typeName = some type ∧
      ∃ shape, site.typeShape follow member.name type = .ok shape) :
    ∃ shapes, site.membersShape follow definition = .ok shapes := by
  refine exists_mapM_eq_ok fun member mem => ?_
  obtain ⟨type, typed, shape, found⟩ := types member mem
  rw [Site.memberShape, typed]
  exact ⟨_, bind_eq_ok_iff.2 ⟨shape, found, rfl⟩⟩

/-- The members of a struct that is entered have shapes where all usable types have. -/
theorem exists_membersShape (consistent : site.index.Consistent)
    {follow : Reference → Except ExtractionError Shape} {definition : StructDefinition}
    (entered : Entered site definition)
    (types : ∀ type subject, Usable site (Entered site) site.index.size type →
      ∃ shape, site.typeShape follow subject type = .ok shape) :
    ∃ shapes, site.membersShape follow definition = .ok shapes := by
  refine exists_membersShape_of_types fun member mem => ?_
  obtain ⟨type, typed, usable⟩ := entered.usable consistent member mem
  exact ⟨type, typed, types type member.name usable⟩

/-- A reference to a struct leads to a shape where the members of the struct have shapes inside
lighter surroundings. -/
theorem exists_follow_structure (consistent : site.index.Consistent) {steps : Nat}
    {around : Surroundings} {reference : Reference} {definition : StructDefinition}
    (found : site.index.get? reference.id = some (.structure definition))
    (members : ∀ inner : Surroundings, site.weight inner < site.weight around →
      ∃ shapes, site.membersShape (site.follow steps inner) definition = .ok shapes) :
    ∃ shape, site.follow (steps + 1) around reference = .ok shape := by
  rw [Site.follow, found]
  by_cases inside : definition.id ∈ around.structs
  · cases sizing : around.sizing with
    | true => exact ⟨_, by simp only [inside, if_true]; rfl⟩
    | false =>
      obtain ⟨shapes, read⟩ := members _ (Site.weight_measure_lt definition.id sizing)
      simp only [inside, if_true, Bool.false_eq_true, if_false, read, bind, Except.bind]
      exact ⟨_, rfl⟩
  · obtain ⟨shapes, read⟩ := members _ (Site.weight_enter_lt (get?_id consistent found) inside)
    simp only [inside, if_false, read, bind, Except.bind]
    exact ⟨_, rfl⟩

/-- A usable type has a shape if enough references may be followed. -/
theorem exists_typeShape (consistent : site.index.Consistent) {fuel : Nat} {around : Surroundings}
    {height : Nat} {type : TypeName} (usable : Usable site (Entered site) height type)
    (low : height ≤ site.index.size)
    (enough : site.weight around * (site.index.size + 1) + height < fuel) (subject : String) :
    ∃ shape, site.typeShape (site.follow fuel around) subject type = .ok shape := by
  induction fuel generalizing around height type subject with
  | zero => omega
  | succ fuel ih =>
    induction type generalizing height with
    | elementary name =>
      cases usable with
      | elementary known => exact ⟨_, by rw [Site.typeShape, known]⟩
    | function visibility => exact ⟨_, rfl⟩
    | mapping key value keyIh valueIh =>
      cases usable with
      | mapping keyUsable keyResolves isKey valueUsable =>
        obtain ⟨keyShape, keyFound⟩ := keyIh keyUsable low enough
        obtain ⟨valueShape, valueFound⟩ := valueIh valueUsable low enough
        obtain ⟨scalar, every⟩ := isScalar_of_mappingKey isKey
        -- The key has the one shape that it has inside all structs.
        have same := keyResolves.scalar_eq scalar
          (resolves_of_typeShape (fun _ _ _ _ _ => resolves_of_follow) keyFound)
        rw [same] at keyFound
        simp only [Site.typeShape, keyFound, every, valueFound, bind, Except.bind]
        exact ⟨_, rfl⟩
    | array base length baseIh =>
      cases usable with
      | dynamic baseUsable =>
        obtain ⟨baseShape, baseFound⟩ := baseIh baseUsable low enough
        simp only [Site.typeShape, baseFound, bind, Except.bind]
        exact ⟨_, rfl⟩
      | fixed baseUsable constant =>
        obtain ⟨baseShape, baseFound⟩ := baseIh baseUsable low enough
        simp only [Site.typeShape, baseFound, constant, bind, Except.bind]
        exact ⟨_, rfl⟩
    | user reference path name =>
      -- The height pays for a step to a value type, the weight for one to a struct.
      cases usable with
      | enumeration found => exact ⟨_, by rw [Site.typeShape, Site.follow, found]⟩
      | contract found => exact ⟨_, by rw [Site.typeShape, Site.follow, found]⟩
      | @valueType height _ _ _ definition found underlying =>
        have lower : site.weight around * (site.index.size + 1) + height < fuel := by omega
        obtain ⟨shape, underlyingFound⟩ := ih underlying (by omega) lower subject
        exact ⟨shape, by rw [Site.typeShape, Site.follow, found]; exact underlyingFound⟩
      | «structure» found entered =>
        rw [Site.typeShape]
        refine exists_follow_structure consistent found fun inner lighter => ?_
        -- Lighter surroundings leave room for all value types on the way to the next struct.
        have less : (site.weight inner + 1) * (site.index.size + 1) ≤
            site.weight around * (site.index.size + 1) := Nat.mul_le_mul_right _ lighter
        rw [Nat.add_mul] at less
        have room : site.weight inner * (site.index.size + 1) + site.index.size < fuel := by omega
        exact exists_membersShape consistent entered fun type subject usable =>
          ih usable (Nat.le_refl _) room subject

/-- A struct that is entered while some struct is resolved can be resolved on its own. -/
theorem exists_structLayout_of_entered (consistent : site.index.Consistent)
    {definition : StructDefinition} (entered : Entered site definition) :
    ∃ members, site.structLayout definition = .ok ⟨definition.name, members⟩ := by
  have enough : site.weight ⟨[definition.id], false⟩ * (site.index.size + 1) + site.index.size <
      site.stepLimit := Site.weight_mul_lt_stepLimit _
  obtain ⟨members, read⟩ := exists_membersShape consistent entered fun type subject usable =>
    exists_typeShape consistent usable (Nat.le_refl _) enough subject
  exact ⟨members, bind_eq_ok_iff.2 ⟨members, read, rfl⟩⟩

end ModularRouter.Storage
