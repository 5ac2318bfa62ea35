import Mathlib.Data.List.Forall2

/-!
# Results that are no errors

What is known when a chain of steps, each of which may fail, succeeds.
-/

namespace ModularRouter.Results

variable {ε α β γ : Type}

/-- Two steps succeed when the first one does and the second one does with what it finds. -/
theorem bind_eq_ok_iff {first : Except ε α} {second : α → Except ε β} {result : β} :
    first >>= second = .ok result ↔ ∃ value, first = .ok value ∧ second value = .ok result := by
  cases first with
  | error fault => simp [bind, Except.bind]
  | ok value => simp [bind, Except.bind]

/-- A step for each item of a list succeeds when it does for the first item and for the others. -/
theorem mapM_cons_eq_ok_iff {step : α → Except ε β} {item : α} {items : List α} {results : List β} :
    (item :: items).mapM step = .ok results ↔
      ∃ result others, step item = .ok result ∧ items.mapM step = .ok others ∧
        results = result :: others := by
  rw [List.mapM_cons, bind_eq_ok_iff]
  constructor
  · rintro ⟨result, own, later⟩
    obtain ⟨others, rest, equal⟩ := bind_eq_ok_iff.1 later
    cases equal
    exact ⟨result, others, own, rest, rfl⟩
  · rintro ⟨result, others, own, rest, rfl⟩
    exact ⟨result, own, bind_eq_ok_iff.2 ⟨others, rest, rfl⟩⟩

/-- A step for each item of two lists succeeds when it does for the items of each of them. -/
theorem mapM_append_eq_ok_iff {step : α → Except ε β} {items more : List α} {results : List β} :
    (items ++ more).mapM step = .ok results ↔
      ∃ first others, items.mapM step = .ok first ∧ more.mapM step = .ok others ∧
        results = first ++ others := by
  induction items generalizing results with
  | nil =>
    constructor
    · exact fun done => ⟨[], results, rfl, done, rfl⟩
    · rintro ⟨first, others, none, done, rfl⟩
      cases none
      exact done
  | cons item items ih =>
    rw [List.cons_append, mapM_cons_eq_ok_iff]
    constructor
    · rintro ⟨result, rest, own, done, rfl⟩
      obtain ⟨first, others, before, after, rfl⟩ := ih.1 done
      exact ⟨result :: first, others, mapM_cons_eq_ok_iff.2 ⟨result, first, own, before, rfl⟩,
        after, rfl⟩
    · rintro ⟨first, others, done, after, rfl⟩
      obtain ⟨result, rest, own, before, rfl⟩ := mapM_cons_eq_ok_iff.1 done
      exact ⟨result, rest ++ others, own, ih.2 ⟨rest, others, before, after, rfl⟩, rfl⟩

/-- A step succeeds for all items together if it does for each of them. -/
theorem exists_mapM_eq_ok {step : α → Except ε β} {items : List α}
    (each : ∀ item ∈ items, ∃ result, step item = .ok result) :
    ∃ results, items.mapM step = .ok results := by
  induction items with
  | nil => exact ⟨[], rfl⟩
  | cons item items ih =>
    obtain ⟨result, own⟩ := each item (List.mem_cons_self ..)
    obtain ⟨others, rest⟩ := ih fun other mem => each other (List.mem_cons_of_mem _ mem)
    exact ⟨result :: others, mapM_cons_eq_ok_iff.2 ⟨result, others, own, rest, rfl⟩⟩

/-- What a step finds for the items of a list is found for one of them. -/
theorem exists_of_mem_of_mapM_eq_ok {step : α → Except ε β} {items : List α} {results : List β}
    (done : items.mapM step = .ok results) {result : β} (mem : result ∈ results) :
    ∃ item ∈ items, step item = .ok result := by
  induction items generalizing results with
  | nil =>
    cases done
    cases mem
  | cons item items ih =>
    obtain ⟨own, others, first, rest, rfl⟩ := mapM_cons_eq_ok_iff.1 done
    rcases List.mem_cons.1 mem with rfl | later
    · exact ⟨item, List.mem_cons_self .., first⟩
    · obtain ⟨other, inside, found⟩ := ih rest later
      exact ⟨other, List.mem_cons_of_mem _ inside, found⟩

/-- Steps that agree on the items of a list do so one after the other. -/
theorem mapM_congr {step other : α → Except ε β} {items : List α}
    (agree : ∀ item ∈ items, step item = other item) : items.mapM step = items.mapM other := by
  induction items with
  | nil => rfl
  | cons item items ih =>
    rw [List.mapM_cons, List.mapM_cons, agree item (List.mem_cons_self ..),
      ih fun other mem => agree other (List.mem_cons_of_mem _ mem)]

/-- A step finds the same for items that were changed in a way that it does not notice. -/
theorem mapM_map_eq {step : β → Except ε γ} {other : α → Except ε γ} {change : α → β}
    (same : ∀ item, step (change item) = other item) (items : List α) :
    (items.map change).mapM step = items.mapM other := by
  rw [List.mapM_map]
  exact mapM_congr fun item _ => same item

/-- A step for each item of some lists in turn is a step for each item of all of them. -/
theorem mapM_flatMap {step : β → Except ε γ} {pieces : α → List β} (items : List α) :
    (items.flatMap pieces).mapM step =
      (items.mapM fun item => (pieces item).mapM step) >>= fun lists => .ok lists.flatten := by
  induction items with
  | nil => rfl
  | cons item items ih =>
    rw [List.flatMap_cons, List.mapM_append, ih, List.mapM_cons]
    cases (pieces item).mapM step with
    | error fault => rfl
    | ok first => cases items.mapM fun item => (pieces item).mapM step <;> rfl

/-- A step for each item of a list succeeds with what it finds for each of them. -/
theorem mapM_eq_ok_iff {step : α → Except ε β} {items : List α} {results : List β} :
    items.mapM step = .ok results ↔
      List.Forall₂ (fun item result => step item = .ok result) items results := by
  induction items generalizing results with
  | nil =>
    rw [List.forall₂_nil_left_iff]
    exact ⟨fun done => by cases done; rfl, fun same => by rw [same]; rfl⟩
  | cons item items ih =>
    rw [mapM_cons_eq_ok_iff, List.forall₂_cons_left_iff]
    simp only [ih]

/-- Two lists agree on something on which their items agree one by one. -/
theorem map_eq_map_of_forall₂ {relation : α → β → Prop} {first : α → γ} {second : β → γ}
    {items : List α} {results : List β} (each : List.Forall₂ relation items results)
    (same : ∀ item result, relation item result → second result = first item) :
    results.map second = items.map first := by
  induction each with
  | nil => rfl
  | cons own _ ih => rw [List.map_cons, List.map_cons, same _ _ own, ih]

/-- Every item of a list is related to one of the list that is related to it item by item. -/
theorem exists_mem_of_forall₂ {relation : α → β → Prop} {items : List α} {results : List β}
    (each : List.Forall₂ relation items results) {item : α} (mem : item ∈ items) :
    ∃ result ∈ results, relation item result := by
  induction each with
  | nil => cases mem
  | cons own _ ih =>
    rcases List.mem_cons.1 mem with rfl | later
    · exact ⟨_, List.mem_cons_self .., own⟩
    · obtain ⟨result, inside, related⟩ := ih later
      exact ⟨result, List.mem_cons_of_mem _ inside, related⟩

/-- What a step finds for an item of a list is among what it finds for all of them. -/
theorem exists_mem_of_mapM_eq_ok {step : α → Except ε β} {items : List α} {results : List β}
    (done : items.mapM step = .ok results) {item : α} (mem : item ∈ items) :
    ∃ result ∈ results, step item = .ok result :=
  exists_mem_of_forall₂ (mapM_eq_ok_iff.1 done) mem

/-- A step that finds nothing for some items is as good as one that is left out for them. -/
theorem map_filterMap_mapM {step : α → Except ε (Option β)} {own : α → Except ε β}
    {skips : α → Bool}
    (each : ∀ item, step item = if skips item then .ok none else (own item).map some)
    (items : List α) :
    (items.mapM step).map (List.filterMap id) =
      (items.filter fun item => !skips item).mapM own := by
  induction items with
  | nil => rfl
  | cons item items ih =>
    rw [List.mapM_cons, each, List.filter_cons]
    cases skips item with
    | true =>
      refine Eq.trans ?_ ih
      cases items.mapM step <;> rfl
    | false =>
      refine Eq.trans ?_ (List.mapM_cons ..).symm
      rw [← ih]
      cases own item with
      | error fault => rfl
      | ok result => cases items.mapM step <;> rfl

/-- A step for those items of a list that are kept finds what it finds for them among all items. -/
theorem mapM_filter_eq_ok {step : α → Except ε β} {items : List α} {results : List β}
    (done : items.mapM step = .ok results) (keeps : α → Bool) :
    (items.filter keeps).mapM step =
      .ok (((items.zip results).filter fun pair => keeps pair.1).map Prod.snd) := by
  induction mapM_eq_ok_iff.1 done with
  | nil => rfl
  | @cons item result items results own others ih =>
    have rest := ih (mapM_eq_ok_iff.2 others)
    rw [List.zip_cons_cons, List.filter_cons, List.filter_cons]
    cases keeps item with
    | true => exact mapM_cons_eq_ok_iff.2 ⟨result, _, own, rest, rfl⟩
    | false => exact rest

/-- An error is no result. -/
theorem not_exists_error_eq_ok {fault : ε} :
    ¬ ∃ value : α, (Except.error fault : Except ε α) = .ok value := by
  rintro ⟨value, found⟩
  cases found

/-- A result that passes a check is no error. -/
theorem exists_eq_ok_of_any {result : Except ε α} {check : α → Bool}
    (passed : result.toOption.any check = true) :
    ∃ value, result = .ok value ∧ check value = true := by
  cases result with
  | error fault => cases passed
  | ok value => exact ⟨value, rfl, passed⟩

end ModularRouter.Results
