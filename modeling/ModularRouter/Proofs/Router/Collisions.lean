import ModularRouter.Proofs.Grouping
import ModularRouter.Router.Collision

/-!
# Shared selectors

A call names a function by its selector alone, so every selector that two functions have is reported,
each once, with all functions that have it. `shared_selectors_reported` says so by counting: a
selector is reported exactly when it occurs twice or more in the given functions, and the reports
stand in the order in which the selectors first occur in them.
-/

namespace ModularRouter.Router

/-- A selector occurs as often as there are functions in its group. -/
theorem length_filter_selector (functions : List Function) (selector : Selector) :
    (functions.filter fun function => function.selector == selector).length =
      (functions.map Function.selector).count selector := by
  rw [List.count_eq_length_filter, List.filter_map, List.length_map]
  rfl

/-- A collision is a selector that occurs twice or more with all functions that have it. -/
theorem mem_collisions_iff {functions : List Function} {collision : Collision} :
    collision ∈ collisions functions ↔
      2 ≤ (functions.map Function.selector).count collision.selector ∧
        collision.functions =
          functions.filter fun function => function.selector == collision.selector := by
  obtain ⟨selector, group⟩ := collision
  unfold collisions
  rw [List.mem_filterMap]
  constructor
  · rintro ⟨⟨own, functionsOfOwn⟩, grouped, reported⟩
    obtain ⟨-, all⟩ := mem_groupByKey_iff.1 grouped
    dsimp only at all reported
    split at reported
    · next several =>
      cases reported
      subst all
      rw [length_filter_selector] at several
      exact ⟨several, rfl⟩
    · cases reported
  · rintro ⟨several, all⟩
    dsimp only at several all
    have known : selector ∈ functions.map Function.selector := by
      apply List.count_pos_iff.1
      omega
    refine ⟨(selector, group), mem_groupByKey_iff.2 ⟨known, all⟩, ?_⟩
    have long : group.length > 1 := by
      rw [all, length_filter_selector]
      omega
    exact if_pos long

/-- There are no collisions exactly when no two functions share a selector. -/
theorem collisions_eq_nil_iff (functions : List Function) :
    collisions functions = [] ↔ (functions.map Function.selector).Nodup := by
  rw [List.nodup_iff_count, List.eq_nil_iff_forall_not_mem]
  constructor
  · intro none selector
    by_contra several
    refine none ⟨selector, functions.filter fun function => function.selector == selector⟩ ?_
    exact mem_collisions_iff.2 ⟨by dsimp only; omega, rfl⟩
  · intro distinct collision mem
    have several := (mem_collisions_iff.1 mem).1
    have single := distinct collision.selector
    omega

/-- The selectors of collisions are some of all selectors, each kept where it first occurs. -/
theorem map_selector_collisions_sublist (functions : List Function) :
    ((collisions functions).map Collision.selector).Sublist
      (functions.map Function.selector).eraseDups := by
  have kept : (collisions functions).map Collision.selector =
      (functions.map Function.selector).eraseDups.filter fun selector =>
        (functions.filter fun function => function.selector == selector).length > 1 := by
    unfold collisions
    rw [groupByKey_eq_map, List.map_filterMap, List.filterMap_map, ← List.filterMap_eq_filter]
    refine List.filterMap_congr fun selector _ => ?_
    by_cases several : (functions.filter fun function => function.selector == selector).length > 1
    · simp [Option.guard, several]
    · simp [Option.guard, several]
  rw [kept]
  exact List.filter_sublist

/-- A selector is that of a collision exactly when it occurs twice or more. -/
theorem mem_map_selector_collisions_iff {functions : List Function} {selector : Selector} :
    selector ∈ (collisions functions).map Collision.selector ↔
      2 ≤ (functions.map Function.selector).count selector := by
  rw [List.mem_map]
  constructor
  · rintro ⟨collision, mem, rfl⟩
    exact (mem_collisions_iff.1 mem).1
  · intro several
    exact ⟨⟨selector, functions.filter fun function => function.selector == selector⟩,
      mem_collisions_iff.2 ⟨several, rfl⟩, rfl⟩

/-- The selectors that occur twice or more in some functions are reported, each once and no others,
in the order in which they first occur. What is reported with a selector are all functions that have
it, in the order of the list. So nothing is reported exactly when no two functions share a
selector. -/
theorem shared_selectors_reported (functions : List Function) :
    (∀ selector, ((collisions functions).map Collision.selector).count selector =
      if 2 ≤ (functions.map Function.selector).count selector then 1 else 0) ∧
    ((collisions functions).map Collision.selector).Pairwise (fun first second =>
      (functions.map Function.selector).idxOf first <
        (functions.map Function.selector).idxOf second) ∧
    (∀ collision, collision ∈ collisions functions ↔
      2 ≤ (functions.map Function.selector).count collision.selector ∧
        collision.functions =
          functions.filter fun function => function.selector == collision.selector) ∧
    (collisions functions = [] ↔ (functions.map Function.selector).Nodup) := by
  have kept := map_selector_collisions_sublist functions
  refine ⟨fun selector => ?_, (pairwise_idxOf_eraseDups _).sublist kept,
    fun collision => mem_collisions_iff, collisions_eq_nil_iff functions⟩
  have once : ((collisions functions).map Collision.selector).Nodup :=
    kept.nodup (nodup_eraseDups _)
  rw [List.Nodup.count once]
  exact if_congr mem_map_selector_collisions_iff rfl rfl

end ModularRouter.Router
