import ModularRouter.Proofs.Storage.Erasure
import ModularRouter.Proofs.Storage.StepLimit

/-!
# Types under their names in dumps

A type may be written in several ways in a source, `uint` and `uint256` for instance, and has one
name in dumps. By that name it is known again (`ElementaryType.parse?_canonical`), so that what an
extraction finds is canonical (`isCanonical_of_resolves`): the space of every value in it can be
told from the name of its type alone.
-/

namespace ModularRouter.Storage

open Ast (TypeName VariableDeclaration)

/-! ## Elementary types -/

namespace ElementaryType

/-- Whether the width or the length of a type is one that types have. -/
def isSized : ElementaryType → Bool
  | .uint bits | .int bits => 0 < bits && bits ≤ 256 && bits % 8 == 0
  | .fixedBytes length => 1 ≤ length && length ≤ wordSize
  | _ => true

/-- A type that has a name is one of those that there are. -/
theorem isSized_of_parse? {name : String} {type : ElementaryType}
    (known : parse? name = some type) : type.isSized = true := by
  have sized {digits : List Char} {bits : Nat} (read : bits? digits = some bits) :
      (0 < bits && bits ≤ 256 && bits % 8 == 0) = true :=
    (Option.filter_eq_some_iff.1 read).2
  rw [parse?] at known
  split at known
  case h_12 =>
    rw [sized?] at known
    split at known
    · obtain ⟨bits, read, rfl⟩ := Option.map_eq_some_iff.1 known
      exact sized read
    · split at known
      · obtain ⟨bits, read, rfl⟩ := Option.map_eq_some_iff.1 known
        exact sized read
      · split at known
        · obtain ⟨length, read, rfl⟩ := Option.map_eq_some_iff.1 known
          exact (Option.filter_eq_some_iff.1 read).2
        · cases known
  all_goals
    cases known
    rfl

/-- The names of all widths and lengths are read as what they are. -/
theorem parse?_sized : ∀ bytes < wordSize + 1, 0 < bytes →
    parse? (uint (8 * bytes)).canonical = some (uint (8 * bytes)) ∧
      parse? (int (8 * bytes)).canonical = some (int (8 * bytes)) ∧
      parse? (fixedBytes bytes).canonical = some (fixedBytes bytes) := by
  decide +kernel

/-- A type stands in dumps under a name by which it is known. -/
theorem parse?_canonical {type : ElementaryType} (sized : type.isSized = true) :
    parse? type.canonical = some type := by
  have whole {bits : Nat} (width : (0 < bits && bits ≤ 256 && bits % 8 == 0) = true) :
      ∃ bytes < wordSize + 1, 0 < bytes ∧ bits = 8 * bytes := by
    simp only [Bool.and_eq_true, decide_eq_true_eq, beq_iff_eq] at width
    exact ⟨bits / 8, by rw [wordSize]; omega, by omega, by omega⟩
  cases type with
  | uint bits =>
    obtain ⟨bytes, bound, some, rfl⟩ := whole sized
    exact (parse?_sized bytes bound some).1
  | int bits =>
    obtain ⟨bytes, bound, some, rfl⟩ := whole sized
    exact (parse?_sized bytes bound some).2.1
  | fixedBytes length =>
    simp only [isSized, Bool.and_eq_true, decide_eq_true_eq] at sized
    exact (parse?_sized length (by omega) sized.1).2.2
  | function external => cases external <;> rfl
  | address | bool | bytes | string => rfl

end ElementaryType

/-! ## Shapes of types -/

/-- The type of a value is the one it was made of. -/
theorem elementaryType?_ofType {type : ElementaryType} (sized : type.isSized = true) :
    (Builtin.ofType type).elementaryType? = some type :=
  ElementaryType.parse?_canonical sized

/-- A value of a type stands under the name of the type. -/
theorem isCanonical_ofType {type : ElementaryType} (sized : type.isSized = true) :
    (Builtin.ofType type).isCanonical = true := by
  rw [Builtin.isCanonical, elementaryType?_ofType sized]
  exact beq_self_eq_true _

namespace Shape

/-- Shapes are canonical together when each of them is. -/
theorem areCanonical_eq_all (shapes : List Shape) :
    areCanonical shapes = (shapes.map isCanonical).all id := by
  induction shapes with
  | nil => rfl
  | cons shape rest ih => rw [areCanonical, ih, List.map_cons, List.all_cons, id]

/-- A name of a variable changes nothing about the names of types. -/
theorem isCanonical_named (shape : Shape) (name : String) :
    (shape.named name).isCanonical = shape.isCanonical := by
  cases shape with
  | builtin value => rw [named, isCanonical, isCanonical]; rfl
  | struct structName own members slots => rw [named, isCanonical, isCanonical]
  | mapping own key value => rw [named, isCanonical, isCanonical]
  | array own value length => rw [named, isCanonical, isCanonical]
  | enum enumName own members => rfl

end Shape

section

variable {site : Site}

/-- The key that a canonical shape makes is canonical. -/
theorem isCanonical_of_mappingKey {subject : String} {shape : Shape} {key : Builtin}
    (canonical : shape.isCanonical = true) (isKey : site.mappingKey subject shape = .ok key) :
    key.isCanonical = true := by
  cases shape with
  | builtin value =>
    rw [Shape.isCanonical] at canonical
    rw [Site.mappingKey] at isKey
    split at isKey
    · split at isKey
      · cases isKey
        exact canonical
      · cases isKey
    · cases isKey
  | enum enumName name members =>
    cases isKey
    refine isCanonical_ofType ?_
    rw [enumSize]
    split <;> rfl
  | struct _ _ _ _ => cases isKey
  | mapping _ _ _ => cases isKey
  | array _ _ _ => cases isKey

mutual

/-- Elementary types in the shape of a type stand under their names in dumps. -/
theorem isCanonical_of_resolves {around : Surroundings} {type : TypeName} {shape : Shape} :
    Resolves site around type shape → shape.isCanonical = true
  | .elementary known => by
    rw [Shape.isCanonical]
    exact isCanonical_ofType (ElementaryType.isSized_of_parse? known)
  | .function => by
    rw [Shape.isCanonical]
    exact isCanonical_ofType rfl
  | .mapping keyResolves isKey valueResolves => by
    have key := isCanonical_of_mappingKey (isCanonical_of_resolves keyResolves) isKey
    rw [Shape.isCanonical, key, isCanonical_of_resolves valueResolves]
    rfl
  | .dynamic baseResolves => by
    rw [Shape.isCanonical]
    exact isCanonical_of_resolves baseResolves
  | .fixed baseResolves _ => by
    rw [Shape.isCanonical]
    exact isCanonical_of_resolves baseResolves
  | .enumeration _ => rfl
  | .contract _ => by
    rw [Shape.isCanonical]
    exact isCanonical_ofType rfl
  | .valueType _ underlying => isCanonical_of_resolves underlying
  | .cut .. => rfl
  | .measured .. => rfl
  | .inlined _ _ resolved => by
    rw [Shape.isCanonical]
    exact areCanonical_of_membersResolve resolved

/-- Elementary types in the shapes of members stand under their names in dumps. -/
theorem areCanonical_of_membersResolve {around : Surroundings} {members : List VariableDeclaration}
    {shapes : List Shape} :
    MembersResolve site around members shapes → Shape.areCanonical shapes = true
  | .nil => rfl
  | .cons _ resolves others => by
    rw [Shape.areCanonical, Shape.isCanonical_named, isCanonical_of_resolves resolves,
      areCanonical_of_membersResolve others]
    rfl

end

end

end ModularRouter.Storage
