import Mathlib.Data.List.Find
import Mathlib.Data.List.Nodup
import Mathlib.Data.List.Perm.Basic
import ModularRouter.Proofs.Results

/-!
# Lists in another order

`ReorderedBy` relates two lists of which the second one has the items of the first in another order,
each of them changed no more than a relation allows. What is made of every item is then found again
in another order, and what is looked up under a name that no two items share is found again itself.
-/

namespace ModularRouter

/-- What is found under a name that no two items have is found whatever their order. -/
theorem find?_name_eq_of_perm {α : Type} {name : α → String} {items moved : List α}
    (perm : items.Perm moved) (distinct : (items.map name).Nodup) (own : String) :
    (items.find? fun item => name item == own) = moved.find? fun item => name item == own := by
  refine List.find?_eq_find?_of_perm perm ?_
  rintro item ⟨mem, named⟩ other ⟨inside, same⟩
  exact List.inj_on_of_nodup_map distinct mem inside
    ((beq_iff_eq.1 named).trans (beq_iff_eq.1 same).symm)

/-- Whether a list has the items of another one in another order, each related to the one it stands
for. -/
def ReorderedBy {α β : Type} (relation : α → β → Prop) (items : List α) (others : List β) : Prop :=
  ∃ moved, items.Perm moved ∧ List.Forall₂ relation moved others

namespace ReorderedBy

variable {α β γ : Type} {relation : α → β → Prop} {items : List α} {others : List β}

/-- The first items are the second ones in another order. -/
theorem symm {back : β → α → Prop} (same : ReorderedBy relation items others)
    (turn : ∀ item other, relation item other → back other item) :
    ReorderedBy back others items := by
  obtain ⟨moved, perm, each⟩ := same
  obtain ⟨rearranged, inPlace, restored⟩ := List.perm_comp_forall₂ perm each
  exact ⟨rearranged, restored.symm, inPlace.flip.imp fun other item => turn item other⟩

/-- Every item of the second list stands for one of the first. -/
theorem exists_mem (same : ReorderedBy relation items others) {other : β} (mem : other ∈ others) :
    ∃ item ∈ items, relation item other := by
  obtain ⟨moved, perm, each⟩ := same
  obtain ⟨item, inside, related⟩ := Results.exists_mem_of_forall₂ each.flip mem
  exact ⟨item, perm.mem_iff.2 inside, related⟩

/-- What related items have in common is found in another order. -/
theorem map_perm {first : α → γ} {second : β → γ} (same : ReorderedBy relation items others)
    (keeps : ∀ item other, relation item other → second other = first item) :
    (items.map first).Perm (others.map second) := by
  obtain ⟨moved, perm, each⟩ := same
  rw [Results.map_eq_map_of_forall₂ each keeps]
  exact perm.map first

/-- Lists made of related items, which are the same but for their order, make up two lists that are
the same but for their order. -/
theorem flatMap_perm {first : α → List γ} {second : β → List γ}
    (same : ReorderedBy relation items others)
    (keeps : ∀ item ∈ items, ∀ other, relation item other → (first item).Perm (second other)) :
    (items.flatMap first).Perm (others.flatMap second) := by
  obtain ⟨moved, perm, each⟩ := same
  refine (perm.flatMap_right first).trans ?_
  have inside (item : α) (mem : item ∈ moved) := keeps item (perm.mem_iff.2 mem)
  clear perm keeps
  induction each with
  | nil => exact .nil
  | @cons item other _ _ own _ ih =>
    exact (inside item (List.mem_cons_self ..) other own).append
      (ih fun later mem => inside later (List.mem_cons_of_mem _ mem))

/-- What is found under a name that no two items have stands for what was found under it. -/
theorem rel_find? {first : α → String} {second : β → String}
    (same : ReorderedBy relation items others) (distinct : (items.map first).Nodup)
    (keeps : ∀ item other, relation item other → second other = first item) (name : String) :
    Option.Rel relation (items.find? fun item => first item == name)
      (others.find? fun other => second other == name) := by
  obtain ⟨moved, perm, each⟩ := same
  rw [find?_name_eq_of_perm perm distinct]
  clear perm distinct
  induction each with
  | nil => exact .none
  | @cons item other _ _ own _ ih =>
    rw [List.find?_cons, List.find?_cons, keeps item other own]
    cases first item == name with
    | true => exact .some own
    | false => exact ih

end ReorderedBy

end ModularRouter
