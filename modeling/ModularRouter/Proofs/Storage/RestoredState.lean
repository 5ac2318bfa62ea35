import Mathlib.Logic.Relation
import ModularRouter.Proofs.Storage.Extraction
import ModularRouter.Proofs.Storage.Resolver
import ModularRouter.Proofs.Storage.SelfReference
import ModularRouter.Storage.Comparison

/-!
# The resolver ends and restores its state

A resolver that does not count the references that it follows ends where no value type and no
constant is made from itself, however structs refer to each other: whatever its state is, it finds
what `Site.follow` finds within `Site.stepLimit` and leaves the state as it was
(`resolve_ends_stepLimit`). Every
struct that it enters is on the stack, so fewer are left; a struct on the stack is entered once more
to be measured; and between two structs no value type is passed twice. What it finds outside of a
measurement is measured wherever it has members (`resolver_restores_its_state`).
-/

namespace ModularRouter.Ast

/-- The declarations that a type refers to. -/
def TypeName.references : TypeName → List NodeId
  | .elementary _ | .function _ => []
  | .mapping key value => key.references ++ value.references
  | .array base _ => base.references
  | .user reference _ _ => [reference]

/-- The declaration that an expression is the name of. -/
def Expression.references : Expression → List NodeId
  | .identifier _ (some reference) => [reference]
  | _ => []

/-- An expression refers to nothing or is the name of a declaration. -/
theorem Expression.references_eq_nil_or (expression : Expression) :
    expression.references = [] ∨
      ∃ name reference, expression = .identifier name (some reference) := by
  cases expression with
  | identifier name reference =>
    cases reference with
    | none => exact .inl rfl
    | some reference => exact .inr ⟨name, reference, rfl⟩
  | literal _ | call _ _ | member _ _ | other => exact .inl rfl

/-- The initializer of a constant. -/
def DeclarationIndex.initializer? (index : DeclarationIndex) (reference : NodeId) :
    Option Expression :=
  match index.get? reference with
  | some (.constant declaration) => declaration.value
  | _ => none

end ModularRouter.Ast

namespace ModularRouter.Storage

open Ast (NodeId TypeName Expression VariableDeclaration StructDefinition DeclarationIndex
  SourceUnit)
open Relation (TransGen)

/-! ## Definitions that are not circular -/

/-- Whether the type that a value type wraps refers to a declaration. -/
def Wraps (index : DeclarationIndex) (outer inner : NodeId) : Prop :=
  ∃ definition, index.get? outer = some (.valueType definition) ∧
    inner ∈ definition.underlying.references

/-- Whether a constant is declared to be another declaration. -/
def Copies (index : DeclarationIndex) (outer inner : NodeId) : Prop :=
  ∃ value, index.initializer? outer = some value ∧ inner ∈ value.references

/-- Whether no value type and no constant is made from itself. Structs may refer to themselves and
to each other in any way. -/
structure NonCircular (index : DeclarationIndex) : Prop where
  valueTypes : ∀ id, ¬ TransGen (Wraps index) id id
  constants : ∀ id, ¬ TransGen (Copies index) id id

/-- The declarations that a way has come through: all different, and each leads to the references
at the end of the way. -/
structure CameThrough (index : DeclarationIndex) (leads : NodeId → NodeId → Prop)
    (ids : List NodeId) (references : List NodeId) : Prop where
  distinct : ids.Nodup
  listed : ∀ id ∈ ids, id ∈ index.entries.map Prod.fst
  reached : ∀ id ∈ ids, ∀ reference ∈ references, TransGen leads id reference

namespace CameThrough

variable {index : DeclarationIndex} {leads : NodeId → NodeId → Prop}
  {ids references : List NodeId}

/-- At its start a way has come through nothing. -/
theorem nil : CameThrough index leads [] references :=
  ⟨List.nodup_nil, nofun, nofun⟩

/-- A way comes through no more declarations than there are. -/
theorem length_le (came : CameThrough index leads ids references) : ids.length ≤ index.size :=
  DeclarationIndex.length_le_size came.distinct came.listed

/-- A way may lead on to some of the references only. -/
theorem mono {fewer : List NodeId} (came : CameThrough index leads ids references)
    (subset : fewer ⊆ references) : CameThrough index leads ids fewer :=
  ⟨came.distinct, came.listed, fun id mem other inside => came.reached id mem other (subset inside)⟩

section

variable {id : NodeId} {declaration : Ast.Declaration}

/-- A way that never comes back has not come through the reference at its end. -/
theorem notMem (came : CameThrough index leads ids [id]) (acyclic : ¬ TransGen leads id id) :
    id ∉ ids :=
  fun mem => acyclic (came.reached id mem id (List.mem_singleton_self id))

/-- A way leads on through the reference at its end. -/
theorem cons (came : CameThrough index leads ids [id]) (acyclic : ¬ TransGen leads id id)
    (found : index.get? id = some declaration) {others : List NodeId}
    (next : ∀ other ∈ others, leads id other) : CameThrough index leads (id :: ids) others := by
  refine ⟨List.nodup_cons.2 ⟨came.notMem acyclic, came.distinct⟩, ?_, ?_⟩
  · intro other mem
    rcases List.mem_cons.1 mem with rfl | mem
    · exact DeclarationIndex.mem_map_fst_of_get? found
    · exact came.listed other mem
  · intro other mem last inside
    rcases List.mem_cons.1 mem with rfl | mem
    · exact .single (next last inside)
    · exact .tail (came.reached other mem id (List.mem_singleton_self id)) (next last inside)

end

end CameThrough

/-- Whether what a value type or a constant is made from is ranked below it. -/
def isMadeFromLower (ranks : NodeId → Nat) : NodeId × Ast.Declaration → Bool
  | (id, .valueType definition) =>
    definition.underlying.references.all fun inner => ranks inner < ranks id
  | (id, .constant declaration) =>
    declaration.value.all fun value => value.references.all fun inner => ranks inner < ranks id
  | _ => true

/-- A way that leads to lower ranks only never comes back. -/
theorem not_transGen_of_lt {leads : NodeId → NodeId → Prop} (ranks : NodeId → Nat)
    (lower : ∀ outer inner, leads outer inner → ranks inner < ranks outer) (id : NodeId) :
    ¬ TransGen leads id id := by
  have down : ∀ inner, TransGen leads id inner → ranks inner < ranks id := by
    intro inner reached
    induction reached with
    | single next => exact lower _ _ next
    | tail _ next ih => exact Nat.lt_trans (lower _ _ next) ih
  exact fun cycle => Nat.lt_irrefl _ (down id cycle)

/-- Where everything is made from what is ranked below it, nothing is made from itself. -/
theorem nonCircular_of_isMadeFromLower {index : DeclarationIndex} (ranks : NodeId → Nat)
    (below : index.entries.all (isMadeFromLower ranks) = true) : NonCircular index := by
  have declared {id : NodeId} {declaration : Ast.Declaration}
      (found : index.get? id = some declaration) : isMadeFromLower ranks (id, declaration) = true :=
    List.all_eq_true.1 below _ (Association.mem_of_lookup_eq_some found)
  refine ⟨not_transGen_of_lt ranks ?_, not_transGen_of_lt ranks ?_⟩
  · rintro outer inner ⟨definition, found, mem⟩
    exact of_decide_eq_true (List.all_eq_true.1 (declared found) inner mem)
  · rintro outer inner ⟨value, initial, mem⟩
    rw [DeclarationIndex.initializer?] at initial
    split at initial
    · next declaration found =>
      have own := declared found
      rw [isMadeFromLower, initial] at own
      exact of_decide_eq_true (List.all_eq_true.1 own inner mem)
    · cases initial

/-! ## Lengths -/

section

variable {index : DeclarationIndex}

/-- A reference is followed to the initializer of a constant. -/
theorem constantLength?_identifier (steps : Nat) (name : String) (reference : NodeId) :
    constantLength? index (steps + 1) (.identifier name (some reference)) =
      (index.initializer? reference).bind (constantLength? index steps) := by
  rw [constantLength?, DeclarationIndex.initializer?]
  cases index.get? reference with
  | none => rfl
  | some declaration => cases declaration <;> rfl

/-- The resolver follows a reference to the initializer of a constant too. -/
theorem length?_identifier (name : String) (reference : NodeId) (depth : Nat) :
    Resolver.length? index (.identifier name (some reference)) (depth + 1) =
      match index.initializer? reference with
      | some value => Resolver.length? index value depth
      | none => some none := by
  rw [Resolver.length?, DeclarationIndex.initializer?]
  cases index.get? reference with
  | none => rfl
  | some declaration => cases declaration <;> rfl

/-- A way leads on from a constant to what it is declared to be. -/
theorem CameThrough.copy {ids : List NodeId} {reference : NodeId} {value : Expression}
    (came : CameThrough index (Copies index) ids [reference])
    (acyclic : ∀ id, ¬ TransGen (Copies index) id id)
    (initial : index.initializer? reference = some value) :
    CameThrough index (Copies index) (reference :: ids) value.references := by
  have next : ∀ other ∈ value.references, Copies index reference other :=
    fun other mem => ⟨value, initial, mem⟩
  rw [DeclarationIndex.initializer?] at initial
  split at initial
  · next declaration found => exact came.cons (acyclic reference) found next
  · cases initial

/-- An expression that refers to nothing is read without being followed. -/
theorem length?_of_references_eq_nil {length : Expression} (none : length.references = [])
    (steps depth : Nat) :
    Resolver.length? index length (depth + 1) = some (constantLength? index steps length) := by
  rw [Resolver.length?.eq_def, constantLength?.eq_def]
  cases length with
  | literal _ | call _ _ | member _ _ | other => cases steps <;> rfl
  | identifier name reference =>
    cases reference with
    | none => cases steps <;> rfl
    | some reference => cases none

/-- Constants that are not circular are followed to their end within as many steps as there are
declarations, if calls may be nested deeper than that. -/
theorem length?_eq (acyclic : ∀ id, ¬ TransGen (Copies index) id id) {steps : Nat}
    {ids : List NodeId} {length : Expression}
    (came : CameThrough index (Copies index) ids length.references)
    (enough : index.size ≤ steps + ids.length) {depth : Nat} (deep : steps ≤ depth) :
    Resolver.length? index length (depth + 1) = some (constantLength? index steps length) := by
  induction steps generalizing ids length depth with
  | zero =>
    rcases length.references_eq_nil_or with nothing | ⟨name, reference, rfl⟩
    · exact length?_of_references_eq_nil nothing 0 depth
    · rw [length?_identifier]
      cases initial : index.initializer? reference with
      | none => rfl
      | some value =>
        -- A way that has come through all declarations leads on to none of them.
        have longer := (came.copy acyclic initial).length_le
        rw [List.length_cons] at longer
        omega
  | succ steps ih =>
    rcases length.references_eq_nil_or with nothing | ⟨name, reference, rfl⟩
    · exact length?_of_references_eq_nil nothing (steps + 1) depth
    · rw [length?_identifier, constantLength?_identifier]
      cases initial : index.initializer? reference with
      | none => rfl
      | some value =>
        obtain ⟨depth, rfl⟩ := Nat.exists_eq_succ_of_ne_zero (Nat.ne_zero_of_lt deep)
        refine ih (came.copy acyclic initial) ?_ (Nat.le_of_succ_le_succ deep)
        rw [List.length_cons]
        omega

end

/-! ## The resolver and the bound on references -/

section

variable {site : Site} {state : Surroundings}

open Resolving Resolver

/-- A length is the one that is found within the bound. -/
theorem ends_length? (acyclic : ∀ id, ¬ TransGen (Copies site.index) id id) (length : Expression) :
    Ends (fun depth => (liftM (length? site.index length depth) : Resolving (Option Nat))) state
      (.ok (arrayLength? site.index length)) := by
  refine .of_succ ⟨site.index.size, fun depth deep => ?_⟩
  have found : length? site.index length (depth + 1) = some (arrayLength? site.index length) :=
    length?_eq acyclic .nil (Nat.le_refl _) deep
  simp only [found]
  rfl

/-- A reference to a struct ends where the members of the struct do inside lighter surroundings. -/
theorem ends_structure (consistent : site.index.Consistent) {steps : Nat} {subject : String}
    {reference : NodeId} {path name : Option String} {definition : StructDefinition}
    (found : site.index.get? reference = some (.structure definition))
    (inside : ∀ inner : Surroundings, site.weight inner < site.weight state →
      ∀ declaration ∈ definition.members, Ends (member site declaration) inner
        (site.memberShape (site.follow steps inner) declaration)) :
    Ends (resolve site subject (.user reference path name)) state
      (site.follow (steps + 1) state
        ⟨subject, reference, Ast.displayName reference path name⟩) := by
  refine .of_succ ?_
  rw [Site.follow]
  simp only [resolve, found]
  refine ends_get.bind_ok ?_
  by_cases stacked : definition.id ∈ state.structs
  · simp only [stacked, if_true]
    cases sizing : state.sizing with
    | true => exact (ends_words_of_sizing sizing).bind_ok (ends_pure _)
    | false =>
      -- The struct is entered once more, with the flag set instead of one struct more on the stack.
      have measured : Ends (members site definition) ⟨state.structs, true⟩ _ :=
        ends_members (inside _ (Site.weight_measure_lt definition.id sizing))
      have sized : ∀ count, Ends (fun _ => pure (Shape.struct definition.name none [] count)) state
          (.ok (Shape.struct definition.name none [] count)) := fun count => ends_pure _
      have counted := (ends_words sizing measured).bind fun count _ => sized count
      rwa [bind_assoc] at counted
  · simp only [stacked, if_false]
    have lighter := Site.weight_enter_lt (get?_id consistent found) stacked
    exact (ends_members (inside _ lighter)).bind fun shapes _ => ends_pure _

/-- The resolver finds what is found by following references within a bound if the bound leaves room
for all structs that may be entered and, between two of them, for all value types that the way has
not come through yet. -/
theorem resolve_ends (nonCircular : NonCircular site.index) (consistent : site.index.Consistent)
    {fuel : Nat} {ids : List NodeId} {type : TypeName}
    (came : CameThrough site.index (Wraps site.index) ids type.references)
    (enough : site.weight state * (site.index.size + 1) + site.index.size < fuel + ids.length)
    (subject : String) :
    Ends (resolve site subject type) state
      (site.typeShape (site.follow fuel state) subject type) := by
  -- The fuel counts references, so the parts of a type need an induction of their own.
  induction fuel generalizing state ids type subject with
  | zero =>
    have bound := came.length_le
    omega
  | succ fuel ih =>
    induction type with
    | elementary name =>
      refine .of_succ ?_
      rw [Site.typeShape]
      simp only [resolve]
      cases ElementaryType.parse? name with
      | none => exact ends_throw _
      | some type => exact ends_pure _
    | function visibility =>
      refine .of_succ ?_
      simp only [resolve]
      exact ends_pure _
    | mapping key value keyIh valueIh =>
      refine .of_succ ?_
      rw [Site.typeShape]
      simp only [resolve]
      refine (keyIh (came.mono (List.subset_append_left _ _))).bind fun shape _ => ?_
      refine (ends_give _).bind fun builtin _ => ?_
      exact (valueIh (came.mono (List.subset_append_right _ _))).bind fun shape _ => ends_pure _
    | array base length baseIh =>
      refine .of_succ ?_
      cases length with
      | none =>
        rw [Site.typeShape]
        simp only [resolve]
        exact (baseIh came).bind fun _ _ => ends_pure _
      | some length =>
        rw [Site.typeShape]
        simp only [resolve]
        refine (baseIh came).bind fun shape _ => ?_
        refine (ends_length? nonCircular.constants length).bind_ok ?_
        cases arrayLength? site.index length with
        | none => exact ends_throw _
        | some length => exact ends_pure _
    | user reference path name =>
      rw [Site.typeShape]
      cases found : site.index.get? reference with
      | none =>
        refine .of_succ ?_
        simp only [resolve, Site.follow, found]
        exact ends_throw _
      | some declaration =>
        cases declaration with
        | contract | enumeration _ =>
          refine .of_succ ?_
          simp only [resolve, Site.follow, found]
          exact ends_pure _
        | constant _ =>
          refine .of_succ ?_
          simp only [resolve, Site.follow, found]
          exact ends_throw _
        | valueType definition =>
          refine .of_succ ?_
          simp only [resolve, Site.follow, found]
          have longer := came.cons (nonCircular.valueTypes reference) found
            fun other mem => ⟨definition, found, mem⟩
          refine ih longer ?_ subject
          rw [List.length_cons]
          omega
        | «structure» definition =>
          have bound := came.length_le
          refine ends_structure consistent found fun inner lighter declaration _ => ?_
          -- Inside the struct fewer structs may be entered, and a way starts anew.
          have less : (site.weight inner + 1) * (site.index.size + 1) ≤
              site.weight state * (site.index.size + 1) := Nat.mul_le_mul_right _ lighter
          rw [Nat.add_mul] at less
          refine ends_member fun type _ => ih .nil ?_ declaration.name
          rw [List.length_nil]
          omega

/-- The bound on references leaves room for everything, whatever is around a type. -/
theorem resolve_ends_stepLimit (nonCircular : NonCircular site.index)
    (consistent : site.index.Consistent) (subject : String) (type : TypeName) :
    Ends (resolve site subject type) state
      (site.typeShape (site.follow site.stepLimit state) subject type) :=
  resolve_ends nonCircular consistent .nil (Site.weight_mul_lt_stepLimit state) subject

/-- A resolver that starts outside of all structs finds the layouts that are extracted. -/
theorem structLayout_ends (nonCircular : NonCircular site.index)
    (consistent : site.index.Consistent) (definition : StructDefinition) :
    Ends (Resolver.structLayout site definition) ⟨[], false⟩ (site.structLayout definition) := by
  have inside : ∀ declaration ∈ definition.members,
      Ends (member site declaration) ⟨[definition.id], false⟩
        (site.memberShape (site.follow site.stepLimit ⟨[definition.id], false⟩) declaration) :=
    fun declaration _ => ends_member fun type _ =>
      resolve_ends_stepLimit nonCircular consistent declaration.name type
  have found : Ends (members site definition) ⟨[], false⟩ _ := ends_members inside
  rw [Site.structLayout]
  exact found.bind fun _ _ => ends_pure _

end

/-! ## Structs without members -/

section

variable {site : Site}

/-- A struct that is found outside of a measurement and has no members in its shape has none at all
or is measured. -/
theorem Referred.measured {around : Surroundings} {inner : List NodeId}
    {definition : StructDefinition} {name : String} {slots : Option Nat}
    (referred : Referred site around inner definition name [] slots)
    (sizing : around.sizing = false) :
    definition.name = name ∧
      (definition.members = [] ∨ ∃ count, slots = some count ∧ 1 ≤ count) := by
  obtain ⟨reference, path, writtenName, found, resolves⟩ := referred.resolves
  cases resolves with
  | cut _ _ measuring =>
    rw [sizing] at measuring
    cases measuring
  | measured declared _ _ resolved =>
    cases found.symm.trans declared
    exact ⟨rfl, .inr ⟨_, rfl, Nat.le_max_left _ _⟩⟩
  | inlined declared _ resolved =>
    cases found.symm.trans declared
    generalize definition.members = members at resolved
    cases resolved
    exact ⟨rfl, .inl rfl⟩
  | valueType declared _ => cases found.symm.trans declared

end

/-- Whether all structs inside the structs that are looked at have members. -/
def HaveMembers (units : List SourceUnit) (selection : Selection) : Prop :=
  ∀ unit ∈ units, ∀ contract ∈ selectedContracts selection unit, ∀ outer ∈ contract.structs,
    ∀ member ∈ outer.members, ∀ type, member.typeName = some type → ∀ steps structs definition,
      Leads (.ofUnits units) [outer.id] type steps structs definition → definition.members ≠ []

/-- Whether a shape stands somewhere in the dump of a project. -/
def StandsInDump (units : List SourceUnit) (selection : Selection) (shape : Shape) : Prop :=
  ∃ dump layout struct path, extract units selection = .ok dump ∧ layout ∈ dump.layouts ∧
    struct ∈ layout.structs ∧ struct.shape.at? path = some shape

/-- An element of an array stands behind the path to the array. -/
theorem at?_element {shape element : Shape} {name : Option String} {length : Option Nat}
    {path : List Step} (found : shape.at? path = some (.array name element length)) :
    shape.at? (path ++ [.element 0]) = some element := by
  induction path generalizing shape with
  | nil =>
    cases found
    rfl
  | cons step rest ih =>
    rw [Shape.at?] at found
    split at found
    · next part inside =>
      rw [List.cons_append, Shape.at?_cons inside]
      exact ih found
    · cases found

/-- Where all structs inside structs have members, no element of an array is unmeasured. -/
theorem isUnmeasured_element_eq_false {units : List SourceUnit} {selection : Selection}
    (haveMembers : HaveMembers units selection) {name : Option String} {element : Shape}
    {length : Option Nat} (stands : StandsInDump units selection (.array name element length)) :
    Comparison.isUnmeasured element = false := by
  obtain ⟨dump, layout, struct, path, extracted, inDump, inLayout, array⟩ := stands
  obtain ⟨unit, inUnits, contract, selected, outer, declares, read⟩ :=
    exists_structLayout_of_extract extracted inDump inLayout
  obtain ⟨-, resolved⟩ := membersResolve_of_structLayout read
  rw [Comparison.isUnmeasured.eq_def]
  split
  · next structName label =>
    exfalso
    cases path with
    | nil => cases array
    | cons step rest =>
      have found := at?_element array
      rw [List.cons_append, Shape.at?] at found
      split at found
      · next shape inside =>
        cases step with
        | key | element _ => cases inside
        | member place =>
          obtain ⟨member, type, inner, definition, listed, typed, leads, referred⟩ :=
            referred_of_membersResolve (DeclarationIndex.consistent_ofUnits units) resolved inside
              found
          obtain ⟨-, memberless | ⟨count, counted, -⟩⟩ := referred.measured rfl
          · exact haveMembers unit inUnits contract selected outer declares member
              (List.mem_of_getElem? listed) type typed _ _ _ leads memberless
          · cases counted
      · cases found
  · rfl

/-- The sizes of elements are always compared between dumps in which all structs have members. -/
theorem shapeChanges_element {units others : List SourceUnit} {selection another : Selection}
    (haveMembers : HaveMembers units selection) (alsoHave : HaveMembers others another)
    {name newName : Option String} {old new : Shape} {length : Option Nat}
    (oldStands : StandsInDump units selection (.array name old length))
    (newStands : StandsInDump others another (.array newName new length))
    (differ : old.footprint ≠ new.footprint) (text : String) :
    Comparison.shapeChanges text (.array name old length) (.array newName new length) =
      [Comparison.error .update (text ++ " element size changed from " ++ old.footprint.toText ++
        " to " ++ new.footprint.toText)] := by
  have oldMeasured := isUnmeasured_element_eq_false haveMembers oldStands
  have newMeasured := isUnmeasured_element_eq_false alsoHave newStands
  rw [Comparison.shapeChanges, if_neg (not_not.2 rfl), if_pos ⟨differ, oldMeasured, newMeasured⟩]

/-- Let no value type and no constant of a project be made from itself. Then the resolver ends for
every type, whatever its state is, with what the extraction finds, and leaves the state as it was,
errors included. What it finds outside of a measurement has structs without members only where the
struct that the path leads to has none or where its count of words is recorded, which is at least
one. So when dumps of projects are compared in which all structs have members, the sizes of the
elements of two arrays always are. -/
theorem resolver_restores_its_state (units : List SourceUnit)
    (nonCircular : NonCircular (.ofUnits units)) (path : String) :
    (∀ subject type state, Resolving.Ends
      (Resolver.resolve ⟨.ofUnits units, path⟩ subject type) state
      (Site.typeShape ⟨.ofUnits units, path⟩
        (Site.follow ⟨.ofUnits units, path⟩ (Site.stepLimit ⟨.ofUnits units, path⟩) state)
        subject type)) ∧
    (∀ definition, Resolving.Ends (Resolver.structLayout ⟨.ofUnits units, path⟩ definition)
      ⟨[], false⟩ (Site.structLayout ⟨.ofUnits units, path⟩ definition)) ∧
    (∀ subject type state shape, state.sizing = false →
      Resolving.Ends (Resolver.resolve ⟨.ofUnits units, path⟩ subject type) state (.ok shape) →
      ∀ steps name label slots, shape.at? steps = some (.struct name label [] slots) →
        ∃ structs definition,
          Leads (.ofUnits units) state.structs type steps structs definition ∧
          definition.name = name ∧
          (definition.members = [] ∨ ∃ count, slots = some count ∧ 1 ≤ count)) ∧
    ∀ others selection another, HaveMembers units selection → HaveMembers others another →
      ∀ name newName old new length, StandsInDump units selection (.array name old length) →
        StandsInDump others another (.array newName new length) →
        old.footprint ≠ new.footprint → ∀ text,
          Comparison.shapeChanges text (.array name old length) (.array newName new length) =
            [Comparison.error .update (text ++ " element size changed from " ++
              old.footprint.toText ++ " to " ++ new.footprint.toText)] := by
  have consistent := DeclarationIndex.consistent_ofUnits units
  have ends : ∀ subject type state, Resolving.Ends
      (Resolver.resolve ⟨.ofUnits units, path⟩ subject type) state _ :=
    fun subject type _ => resolve_ends_stepLimit nonCircular consistent subject type
  refine ⟨ends, structLayout_ends nonCircular consistent, ?_, ?_⟩
  · intro subject type state shape sizing found steps name label slots memberless
    have same := (ends subject type state).unique found
    have resolves : Resolves ⟨.ofUnits units, path⟩ state type shape :=
      resolves_of_typeShape (fun _ _ _ _ _ => resolves_of_follow) same
    obtain ⟨structs, definition, leads, referred⟩ :=
      referred_of_resolves consistent resolves memberless
    exact ⟨structs, definition, leads, referred.measured sizing⟩
  · intro others selection another haveMembers alsoHave name newName old new length oldStands
      newStands differ text
    exact shapeChanges_element haveMembers alsoHave oldStands newStands differ text

/-! ## A forum -/

/-- A project of one file. Threads refer to themselves directly and through their posts, and a draft
has a member of a type that is not there. -/
def forumUnits (additions : List VariableDeclaration) : List SourceUnit :=
  [⟨"src/Forum.sol",
    [.variable ⟨1, "LIMIT", some (.elementary "uint256"), true,
        some (.identifier "DEPTH" (some 2))⟩,
      .variable ⟨2, "DEPTH", some (.elementary "uint256"), true,
        some (.literal ⟨.number, some "0x02", none⟩)⟩,
      .contract ⟨3, "Forum", .library,
        [.valueType ⟨4, "Key", .elementary "uint128"⟩,
          .structure ⟨5, "Post",
            [⟨6, "author", some (.elementary "address"), false, none⟩,
              ⟨7, "threads", some (.mapping (.user 4 none none) (.user 8 none none)), false,
                none⟩]⟩,
          .structure ⟨8, "Thread",
            ⟨9, "first", some (.user 5 none none), false, none⟩ ::
              ⟨10, "parents", some (.array (.array (.user 8 none none)
                (some (.identifier "LIMIT" (some 1)))) none), false, none⟩ :: additions⟩]⟩,
      .structure ⟨11, "Draft",
        [⟨12, "thread", some (.user 8 none none), false, none⟩,
          ⟨13, "label", some (.user 99 none (some "Label")), false, none⟩]⟩]⟩]

/-- A forum in which threads also have a title. -/
def titledForumUnits : List SourceUnit :=
  forumUnits [⟨14, "title", some (.elementary "string"), false, none⟩]

/-- A pair of threads inside a thread, which take as many words as are given. -/
def threadPair (words : Nat) : Shape :=
  .array none (.struct "Thread" none [] (some words)) (some 2)

/-- Whether a declaration is a struct with members or no struct at all. -/
def hasMembers : NodeId × Ast.Declaration → Bool
  | (_, .structure definition) => !definition.members.isEmpty
  | _ => true

/-- Where all structs of a project have members, all structs inside structs do. -/
theorem haveMembers_of_entries {units : List SourceUnit} (selection : Selection)
    (all : (DeclarationIndex.ofUnits units).entries.all hasMembers = true) :
    HaveMembers units selection := by
  intro unit _ contract _ outer _ member _ type _ steps structs definition leads nothing
  obtain ⟨reference, found⟩ := leads.exists_get?
  have own : hasMembers (reference, .structure definition) = true :=
    List.all_eq_true.1 all _ (Association.mem_of_lookup_eq_some found)
  rw [hasMembers, nothing] at own
  cases own

/-- Inside a thread the resolver counts the words of a thread, and it leaves its state as it was,
also where a draft has a member of a type that is not there. The counts of two forums are told
apart. -/
theorem threads_are_measured :
    NonCircular (.ofUnits (forumUnits [])) ∧
      Resolving.Ends (Resolver.resolve ⟨.ofUnits (forumUnits []), "src/Forum.sol"⟩ "parents"
        (.array (.user 8 none none) (some (.identifier "LIMIT" (some 1))))) ⟨[8], false⟩
        (.ok (threadPair 3)) ∧
      Resolving.Ends (Resolver.resolve ⟨.ofUnits (forumUnits []), "src/Forum.sol"⟩ "draft"
        (.user 11 none none)) ⟨[8], false⟩
        (.error (.unknownTypeReference "src/Forum.sol" "label" "Label")) ∧
      Comparison.shapeChanges "Forum.Thread.parents[]" (threadPair 3) (threadPair 4) =
        [Comparison.error .update
          "Forum.Thread.parents[] element size changed from 3 slots to 4 slots"] := by
  have nonCircular : NonCircular (.ofUnits (forumUnits [])) :=
    nonCircular_of_isMadeFromLower (fun id => 10 - id.toNat) (by decide)
  obtain ⟨ends, -, -, compared⟩ :=
    resolver_restores_its_state (forumUnits []) nonCircular "src/Forum.sol"
  refine ⟨nonCircular, ends _ _ ⟨[8], false⟩, ends _ _ ⟨[8], false⟩, ?_⟩
  have stands : StandsInDump (forumUnits []) .all (threadPair 3) :=
    ⟨_, _, _, [.member 1, .element 0], rfl, List.mem_singleton_self _,
      List.mem_cons_of_mem _ (List.mem_singleton_self _), rfl⟩
  have newStands : StandsInDump titledForumUnits .all (threadPair 4) :=
    ⟨_, _, _, [.member 1, .element 0], rfl, List.mem_singleton_self _,
      List.mem_cons_of_mem _ (List.mem_singleton_self _), rfl⟩
  exact compared titledForumUnits .all .all (haveMembers_of_entries .all rfl)
    (haveMembers_of_entries .all rfl) _ _ _ _ _ stands newStands (by decide)
    "Forum.Thread.parents[]"

end ModularRouter.Storage
