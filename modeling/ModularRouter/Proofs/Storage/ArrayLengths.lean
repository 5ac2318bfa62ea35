import Mathlib.Data.Nat.Find
import ModularRouter.Proofs.Ast.Declarations
import ModularRouter.Storage.Extraction

/-!
# Lengths of arrays

`HasLength` says which length an expression stands for, without a bound on the constants that are
followed. `arrayLength?` finds exactly these lengths (`arrayLength?_eq_some_iff`): a way through
constants that leads to a number passes none of them twice.
-/

namespace ModularRouter.Storage

open Ast (NodeId Expression Literal VariableDeclaration DeclarationIndex)

variable {index : DeclarationIndex}

/-- Whether an expression is a length: a number literal, or a constant that was declared with a
length. -/
inductive HasLength (index : DeclarationIndex) : Expression → Nat → Prop
  | literal {literal : Literal} {text : String} {length : Nat} (kind : literal.kind = .number)
      (value : literal.value = some text) (whole : integerLiteral? text = some length) :
      HasLength index (.literal literal) length
  | constant {name : String} {reference : NodeId} {declaration : VariableDeclaration}
      {value : Expression} {length : Nat}
      (found : index.get? reference = some (.constant declaration))
      (initial : declaration.value = some value) (hasLength : HasLength index value length) :
      HasLength index (.identifier name (some reference)) length

/-- What a constant stands for is what its initializer stands for. -/
theorem constantLength?_succ {steps : Nat} {name : String} {reference : NodeId}
    {declaration : VariableDeclaration} {value : Expression}
    (found : index.get? reference = some (.constant declaration))
    (initial : declaration.value = some value) :
    constantLength? index (steps + 1) (.identifier name (some reference)) =
      constantLength? index steps value := by
  rw [constantLength?, found]
  dsimp only
  rw [initial, Option.bind_some]

/-- A whole number that a literal spells is a length. -/
theorem hasLength_of_literal {literal : Literal} {length : Nat}
    (found : (if literal.kind = .number then literal.value.bind integerLiteral? else none) =
      some length) : HasLength index (.literal literal) length := by
  split at found
  · next kind =>
    obtain ⟨text, value, whole⟩ := Option.bind_eq_some_iff.1 found
    exact .literal kind value whole
  · cases found

/-- A length that is found is one. -/
theorem hasLength_of_constantLength? {steps length : Nat} {expression : Expression}
    (found : constantLength? index steps expression = some length) :
    HasLength index expression length := by
  induction steps generalizing expression with
  | zero =>
    cases expression with
    | literal literal =>
      rw [constantLength?] at found
      exact hasLength_of_literal found
    | identifier _ reference => cases reference <;> cases found
    | call _ _ | member _ _ | other => cases found
  | succ steps ih =>
    cases expression with
    | literal literal =>
      rw [constantLength?] at found
      exact hasLength_of_literal found
    | identifier name reference =>
      cases reference with
      | none => cases found
      | some reference =>
        rw [constantLength?] at found
        split at found
        · next declaration declared =>
          obtain ⟨value, initial, inner⟩ := Option.bind_eq_some_iff.1 found
          exact .constant declared initial (ih inner)
        · cases found
    | call _ _ | member _ _ | other => cases found

/-- A length is found if enough constants may be followed. -/
theorem HasLength.exists_steps {expression : Expression} {length : Nat}
    (hasLength : HasLength index expression length) :
    ∃ steps, constantLength? index steps expression = some length := by
  induction hasLength with
  | literal kind value whole =>
    exact ⟨0, by rw [constantLength?, if_pos kind, value, Option.bind_some, whole]⟩
  | constant found initial _ ih =>
    obtain ⟨steps, inner⟩ := ih
    exact ⟨steps + 1, by rw [constantLength?_succ found initial, inner]⟩

/-- How many constants have to be followed behind a constant. -/
def NeedsSteps (index : DeclarationIndex) (length : Nat) (id : NodeId) (steps : Nat) : Prop :=
  ∃ declaration value, index.get? id = some (.constant declaration) ∧
    declaration.value = some value ∧ constantLength? index steps value = some length

/-- No length needs more constants to be followed than there are declarations. -/
theorem constantLength?_within_size {steps length : Nat} {expression : Expression}
    (found : constantLength? index steps expression = some length) {ids : List NodeId}
    (passed : index.Passed (NeedsSteps index length) steps ids) :
    constantLength? index (index.size - ids.length) expression = some length := by
  induction steps using Nat.strongRecOn generalizing expression ids with
  | ind steps ih =>
    cases hasLength_of_constantLength? found with
    | literal kind value whole =>
      rw [constantLength?, if_pos kind, value, Option.bind_some, whole]
    | @constant name reference declaration value _ declared initial _ =>
      cases steps with
      | zero => cases found
      | succ steps =>
        classical
        rw [constantLength?_succ declared initial] at found
        have some : ∃ steps, constantLength? index steps value = some length := ⟨steps, found⟩
        -- The way from the constant on is taken with the fewest steps.
        have least : Nat.find some ≤ steps := Nat.find_min' some found
        have longer :
            index.Passed (NeedsSteps index length) (Nat.find some) (reference :: ids) := by
          refine passed.cons declared ⟨declaration, value, declared, initial, Nat.find_spec some⟩
            (by omega) ?_
          rintro other ⟨again, otherValue, redeclared, otherInitial, inner⟩
          cases declared.symm.trans redeclared
          cases initial.symm.trans otherInitial
          exact Nat.find_min' some inner
        have inner := ih (Nat.find some) (by omega) (Nat.find_spec some) longer
        have count := longer.length_le
        rw [List.length_cons] at count inner
        have same : index.size - ids.length = index.size - (ids.length + 1) + 1 := by omega
        rw [same, constantLength?_succ declared initial, inner]

/-- The length of an array is found exactly if its expression is a length. -/
theorem arrayLength?_eq_some_iff {expression : Expression} {length : Nat} :
    arrayLength? index expression = some length ↔ HasLength index expression length := by
  constructor
  · exact hasLength_of_constantLength?
  · intro hasLength
    obtain ⟨steps, found⟩ := hasLength.exists_steps
    exact constantLength?_within_size found .nil

/-- An expression is one length only. -/
theorem HasLength.unique {expression : Expression} {length other : Nat}
    (hasLength : HasLength index expression length) (again : HasLength index expression other) :
    length = other := by
  have found := arrayLength?_eq_some_iff.2 hasLength
  rw [arrayLength?_eq_some_iff.2 again] at found
  exact (Option.some.inj found).symm

end ModularRouter.Storage
