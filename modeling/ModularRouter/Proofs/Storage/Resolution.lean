import ModularRouter.Proofs.Results
import ModularRouter.Storage.Extraction

/-!
# Derivations of shapes

How the shape of a type comes about, without a bound on the references followed. `Resolves` says
which shape a type has inside some structs, and has one case for every way in which `Site.follow`
and `Site.typeShape` succeed; `resolves_of_typeShape` and `membersResolve_of_structLayout` lead from
a shape that is found to its derivation. What holds of all shapes that are found is then proved by
induction on derivations.
-/

namespace ModularRouter.Storage

open Ast (NodeId TypeName VariableDeclaration StructDefinition Expression)
open Results (bind_eq_ok_iff mapM_cons_eq_ok_iff)

mutual

/-- The shape of a type inside some structs. -/
inductive Resolves (site : Site) : Surroundings → TypeName → Shape → Prop
  | elementary {around : Surroundings} {name : String} {type : ElementaryType}
      (known : ElementaryType.parse? name = some type) :
      Resolves site around (.elementary name) (.builtin (.ofType type))
  | function {around : Surroundings} {visibility : String} :
      Resolves site around (.function visibility)
        (.builtin (.ofType (.function (visibility == "external"))))
  | mapping {around : Surroundings} {key value : TypeName} {subject : String} {keyShape : Shape}
      {builtin : Builtin} {shape : Shape} (keyResolves : Resolves site around key keyShape)
      (isKey : site.mappingKey subject keyShape = .ok builtin)
      (valueResolves : Resolves site around value shape) :
      Resolves site around (.mapping key value) (.mapping none builtin shape)
  | dynamic {around : Surroundings} {base : TypeName} {shape : Shape}
      (baseResolves : Resolves site around base shape) :
      Resolves site around (.array base none) (.array none shape none)
  | fixed {around : Surroundings} {base : TypeName} {expression : Expression} {length : Nat}
      {shape : Shape} (baseResolves : Resolves site around base shape)
      (constant : arrayLength? site.index expression = some length) :
      Resolves site around (.array base (some expression)) (.array none shape (some length))
  | enumeration {around : Surroundings} {reference : NodeId} {path name : Option String}
      {definition : Ast.EnumDefinition}
      (found : site.index.get? reference = some (.enumeration definition)) :
      Resolves site around (.user reference path name)
        (.enum definition.name none definition.members)
  | contract {around : Surroundings} {reference : NodeId} {path name : Option String}
      (found : site.index.get? reference = some .contract) :
      Resolves site around (.user reference path name) (.builtin (.ofType .address))
  | valueType {around : Surroundings} {reference : NodeId} {path name : Option String}
      {definition : Ast.ValueTypeDefinition} {shape : Shape}
      (found : site.index.get? reference = some (.valueType definition))
      (underlying : Resolves site around definition.underlying shape) :
      Resolves site around (.user reference path name) shape
  /-- A struct inside itself while one is measured. -/
  | cut {around : Surroundings} {reference : NodeId} {path name : Option String}
      {definition : StructDefinition}
      (found : site.index.get? reference = some (.structure definition))
      (inside : definition.id ∈ around.structs) (sizing : around.sizing = true) :
      Resolves site around (.user reference path name) (.struct definition.name none [] none)
  /-- A struct inside itself, which is measured. -/
  | measured {around : Surroundings} {reference : NodeId} {path name : Option String}
      {definition : StructDefinition} {members : List Shape}
      (found : site.index.get? reference = some (.structure definition))
      (inside : definition.id ∈ around.structs) (sizing : around.sizing = false)
      (resolved : MembersResolve site ⟨definition.id :: around.structs, true⟩ definition.members
        members) :
      Resolves site around (.user reference path name)
        (.struct definition.name none [] (some (max 1 (packing members).slots)))
  /-- A struct that is not inside itself. -/
  | inlined {around : Surroundings} {reference : NodeId} {path name : Option String}
      {definition : StructDefinition} {members : List Shape}
      (found : site.index.get? reference = some (.structure definition))
      (outside : definition.id ∉ around.structs)
      (resolved : MembersResolve site ⟨definition.id :: around.structs, around.sizing⟩
        definition.members members) :
      Resolves site around (.user reference path name) (.struct definition.name none members none)

/-- The shapes of the members of a struct inside some structs. -/
inductive MembersResolve (site : Site) :
    Surroundings → List VariableDeclaration → List Shape → Prop
  | nil {around : Surroundings} : MembersResolve site around [] []
  | cons {around : Surroundings} {member : VariableDeclaration} {rest : List VariableDeclaration}
      {type : TypeName} {shape : Shape} {shapes : List Shape}
      (typed : member.typeName = some type) (resolves : Resolves site around type shape)
      (others : MembersResolve site around rest shapes) :
      MembersResolve site around (member :: rest) (shape.named member.name :: shapes)

end

/-! ## From shapes to derivations -/

section

variable {site : Site} {around : Surroundings}

/-- Derivations of what references lead to make derivations of types. -/
theorem resolves_of_typeShape {follow : Reference → Except ExtractionError Shape}
    (references : ∀ subject reference path name shape,
      follow ⟨subject, reference, Ast.displayName reference path name⟩ = .ok shape →
        Resolves site around (.user reference path name) shape)
    {subject : String} {type : TypeName} {shape : Shape}
    (found : site.typeShape follow subject type = .ok shape) : Resolves site around type shape := by
  -- What references lead to is given, so the recursion is the one over the type.
  induction type generalizing shape with
  | elementary name =>
    rw [Site.typeShape] at found
    split at found
    · next type known =>
      cases found
      exact .elementary known
    · cases found
  | function visibility =>
    cases found
    exact .function
  | mapping key value keyIh valueIh =>
    rw [Site.typeShape, bind_eq_ok_iff] at found
    obtain ⟨keyShape, keyFound, found⟩ := found
    obtain ⟨builtin, isKey, found⟩ := bind_eq_ok_iff.1 found
    obtain ⟨valueShape, valueFound, found⟩ := bind_eq_ok_iff.1 found
    cases found
    exact .mapping (keyIh keyFound) isKey (valueIh valueFound)
  | array base length ih =>
    cases length with
    | none =>
      rw [Site.typeShape, bind_eq_ok_iff] at found
      obtain ⟨baseShape, baseFound, found⟩ := found
      cases found
      exact .dynamic (ih baseFound)
    | some expression =>
      rw [Site.typeShape, bind_eq_ok_iff] at found
      obtain ⟨baseShape, baseFound, found⟩ := found
      cases constant : arrayLength? site.index expression with
      | none => simp [constant] at found
      | some length =>
        simp only [constant] at found
        cases found
        exact .fixed (ih baseFound) constant
  | user reference path name => exact references subject reference path name shape found

/-- Derivations of what references lead to make derivations of members. -/
theorem membersResolve_of_mapM {follow : Reference → Except ExtractionError Shape}
    (references : ∀ subject reference path name shape,
      follow ⟨subject, reference, Ast.displayName reference path name⟩ = .ok shape →
        Resolves site around (.user reference path name) shape)
    {members : List VariableDeclaration} {shapes : List Shape}
    (found : members.mapM (site.memberShape follow) = .ok shapes) :
    MembersResolve site around members shapes := by
  induction members generalizing shapes with
  | nil =>
    cases found
    exact .nil
  | cons member rest ih =>
    obtain ⟨shape, others, own, later, rfl⟩ := mapM_cons_eq_ok_iff.1 found
    rw [Site.memberShape] at own
    split at own
    · next type typed =>
      obtain ⟨typeShape, typeFound, own⟩ := bind_eq_ok_iff.1 own
      cases own
      exact .cons typed (resolves_of_typeShape references typeFound) (ih later)
    · cases own

/-- What a reference leads to has a derivation. -/
theorem resolves_of_follow {steps : Nat} {subject : String} {reference : NodeId}
    {path name : Option String} {shape : Shape}
    (found : site.follow steps around ⟨subject, reference, Ast.displayName reference path name⟩ =
      .ok shape) : Resolves site around (.user reference path name) shape := by
  induction steps generalizing around subject reference path name shape with
  | zero => cases found
  | succ steps ih =>
    rw [Site.follow] at found
    split at found
    · next definition declared =>
      -- Inside the struct fewer references are followed.
      have members {sizing : Bool} {shapes : List Shape}
          (read : site.membersShape (site.follow steps ⟨definition.id :: around.structs, sizing⟩)
            definition = .ok shapes) :
          MembersResolve site ⟨definition.id :: around.structs, sizing⟩ definition.members shapes :=
        membersResolve_of_mapM (fun _ _ _ _ _ => ih) read
      by_cases inside : definition.id ∈ around.structs
      · rw [if_pos inside] at found
        cases sizing : around.sizing with
        | true =>
          rw [sizing, if_pos rfl] at found
          cases found
          exact .cut declared inside sizing
        | false =>
          rw [sizing, if_neg Bool.false_ne_true] at found
          obtain ⟨shapes, read, found⟩ := bind_eq_ok_iff.1 found
          cases found
          exact .measured declared inside sizing (members read)
      · rw [if_neg inside] at found
        obtain ⟨shapes, read, found⟩ := bind_eq_ok_iff.1 found
        cases found
        exact .inlined declared inside (members read)
    · next definition declared =>
      cases found
      exact .enumeration declared
    · next declared =>
      cases found
      exact .contract declared
    · next definition declared =>
      exact .valueType declared (resolves_of_typeShape (fun _ _ _ _ _ => ih) found)
    · cases found

/-- The members of a layout have derivations. -/
theorem membersResolve_of_structLayout {definition : StructDefinition} {layout : StructLayout}
    (found : site.structLayout definition = .ok layout) :
    layout.name = definition.name ∧
      MembersResolve site ⟨[definition.id], false⟩ definition.members layout.members := by
  obtain ⟨members, read, found⟩ := bind_eq_ok_iff.1 found
  cases found
  exact ⟨rfl, membersResolve_of_mapM (fun _ _ _ _ _ => resolves_of_follow) read⟩

end

end ModularRouter.Storage
