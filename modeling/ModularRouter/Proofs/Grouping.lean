import Mathlib.Data.List.Induction
import Mathlib.Data.List.Nodup
import Mathlib.Data.List.Perm.Subperm
import ModularRouter.Grouping
import ModularRouter.Proofs.Association

/-!
# Groups and their keys

`List.eraseDups` keeps the first of equal items, so the groups of a list have different keys. Each of
them holds all items of its key: that the table of groups has the items so far is what one more item
keeps (`HasGroups.concat`), and taking out one group leaves those of the keys that come later
(`takeGroups_eq_map`).
-/

namespace ModularRouter

section

variable {α : Type} [BEq α] [LawfulBEq α]

/-- A last item is kept if it is not there already. -/
theorem eraseDups_concat [DecidableEq α] (items : List α) (last : α) :
    (items ++ [last]).eraseDups =
      if last ∈ items then items.eraseDups else items.eraseDups ++ [last] := by
  rw [List.eraseDups_append, List.removeAll]
  by_cases mem : last ∈ items
  · simp [mem]
  · simp [mem, List.eraseDups_cons]

/-- No item is kept twice. -/
theorem nodup_eraseDups (items : List α) : items.eraseDups.Nodup := by
  classical
  induction items using List.reverseRecOn with
  | nil => exact List.nodup_nil
  | append_singleton items last ih =>
    rw [eraseDups_concat]
    split
    · exact ih
    · next absent =>
      refine List.nodup_append.2 ⟨ih, List.nodup_singleton last, ?_⟩
      rintro item mem other same rfl
      rw [List.mem_eraseDups, List.mem_singleton.1 same] at mem
      exact absent mem

/-- The kept items are among all of them. -/
theorem eraseDups_subperm (items : List α) : items.eraseDups.Subperm items :=
  List.subperm_of_subset (nodup_eraseDups items) fun _ mem => List.mem_eraseDups.1 mem

/-- The kept items stand in the order in which they first occur. -/
theorem pairwise_idxOf_eraseDups (items : List α) :
    items.eraseDups.Pairwise fun first second => items.idxOf first < items.idxOf second := by
  classical
  -- A last item that is kept first occurs at the end, and so behind all others.
  induction items using List.reverseRecOn with
  | nil => exact List.Pairwise.nil
  | append_singleton items last ih =>
    have before {item : α} (mem : item ∈ items.eraseDups) :
        (items ++ [last]).idxOf item = items.idxOf item :=
      List.idxOf_append_of_mem (List.mem_eraseDups.1 mem)
    have ordered : items.eraseDups.Pairwise fun first second =>
        (items ++ [last]).idxOf first < (items ++ [last]).idxOf second := by
      refine ih.imp_of_mem fun firstMem secondMem less => ?_
      rwa [before firstMem, before secondMem]
    rw [eraseDups_concat]
    split
    · exact ordered
    · next absent =>
      refine List.pairwise_append.2 ⟨ordered, List.pairwise_singleton _ _, ?_⟩
      intro first firstMem second secondMem
      obtain rfl := List.mem_singleton.1 secondMem
      have inside : items.idxOf first < items.length :=
        List.idxOf_lt_length_of_mem (List.mem_eraseDups.1 firstMem)
      have atEnd : (items ++ [second]).idxOf second = items.length := by
        rw [List.idxOf_append_of_notMem absent, List.idxOf_cons_self, Nat.add_zero]
      rw [before firstMem, atEnd]
      exact inside

/-- All items are kept exactly when no two of them are equal. -/
theorem length_eraseDups_eq_iff {items : List α} :
    items.eraseDups.length = items.length ↔ items.Nodup := by
  constructor
  · intro all
    have same := (eraseDups_subperm items).perm_of_length_le (Nat.le_of_eq all.symm)
    exact same.nodup_iff.1 (nodup_eraseDups items)
  · intro distinct
    have kept : items.Subperm items.eraseDups :=
      List.subperm_of_subset distinct fun _ mem => List.mem_eraseDups.2 mem
    exact Nat.le_antisymm (eraseDups_subperm items).length_le kept.length_le

/-- At most one item is kept exactly when all of them are equal. -/
theorem length_eraseDups_le_one_iff {items : List α} :
    items.eraseDups.length ≤ 1 ↔ ∀ item ∈ items, ∀ other ∈ items, item = other := by
  have distinct := nodup_eraseDups items
  have kept : (∀ item ∈ items, ∀ other ∈ items, item = other) ↔
      ∀ item ∈ items.eraseDups, ∀ other ∈ items.eraseDups, item = other := by
    simp only [List.mem_eraseDups]
  rw [kept]
  generalize items.eraseDups = kept at distinct
  cases kept with
  | nil => simp
  | cons first rest =>
    cases rest with
    | nil => simp
    | cons second rest =>
      have different : first ≠ second := by
        rintro rfl
        simp at distinct
      simp only [List.length_cons]
      constructor
      · intro short
        omega
      · intro same
        exact absurd (same first (by simp) second (by simp)) different

end

section

variable {α β : Type} [DecidableEq β] {key : α → β} {items : List α}

/-- Whether a table has the groups of some items: under every key of an item all items that have it,
in their order, and nothing under other keys. -/
def HasGroups (key : α → β) (items : List α) (groups : List (β × List α)) : Prop :=
  ∀ own, groups.lookup own =
    if own ∈ items.map key then some (items.filter fun item => key item == own) else none

/-- What a table has under a key, or else nothing, are the items with that key. -/
theorem HasGroups.getD_lookup {groups : List (β × List α)} (has : HasGroups key items groups)
    (own : β) : (groups.lookup own).getD [] = items.filter fun item => key item == own := by
  rw [has]
  split
  · rfl
  · next absent =>
    symm
    rw [Option.getD_none, List.filter_eq_nil_iff]
    intro item mem shared
    exact absent (List.mem_map.2 ⟨item, mem, eq_of_beq shared⟩)

/-- An item that is put into its group is put there behind the items that came before it. -/
theorem HasGroups.concat {groups : List (β × List α)} (has : HasGroups key items groups)
    (item : α) : HasGroups key (items ++ [item]) (addToGroup (key item) item groups) := by
  intro own
  have known : own ∈ (items ++ [item]).map key ↔ own ∈ items.map key ∨ own = key item := by
    rw [List.map_append, List.mem_append, List.map_singleton, List.mem_singleton]
  rw [addToGroup, Association.lookup_put, has.getD_lookup, List.filter_append,
    List.filter_singleton]
  -- Only what is found under the key of the item changes.
  by_cases same : own = key item
  · rw [if_pos same, if_pos (known.2 (.inr same)), same, beq_self_eq_true, cond_true]
  · rw [if_neg same, has, beq_false_of_ne (Ne.symm same), cond_false, List.append_nil]
    exact if_congr (known.trans (or_iff_left same)).symm rfl rfl

/-- The table that is filled with some items has their groups. -/
theorem hasGroups_fillGroups (key : α → β) (items : List α) :
    HasGroups key items (fillGroups key items) := by
  induction items using List.reverseRecOn with
  | nil => exact fun _ => rfl
  | append_singleton items last ih =>
    rw [fillGroups, List.foldl_concat]
    exact ih.concat last

/-- The groups of different keys are taken out of a table one by one, since taking one out leaves
those of the later keys in it. -/
theorem takeGroups_eq_map {keys : List β} {groups : List (β × List α)} {group : β → List α}
    (distinct : keys.Nodup) (found : ∀ own ∈ keys, groups.lookup own = some (group own)) :
    takeGroups keys groups = keys.map fun own => (own, group own) := by
  induction keys generalizing groups with
  | nil => rfl
  | cons first rest ih =>
    obtain ⟨fresh, others⟩ := List.nodup_cons.1 distinct
    -- The first key does not come again, so the groups of all later ones are still in the table.
    have left (own : β) (mem : own ∈ rest) :
        (Association.erase first groups).lookup own = some (group own) := by
      rw [Association.lookup_erase_of_ne (ne_of_mem_of_not_mem mem fresh)]
      exact found own (List.mem_cons_of_mem _ mem)
    rw [takeGroups, found first List.mem_cons_self, List.map_cons, ← ih others left]

/-- The groups of a list are the items of each of its keys, in the order in which the keys first
occur. -/
theorem groupByKey_eq_map (key : α → β) (items : List α) :
    groupByKey key items =
      (items.map key).eraseDups.map fun own => (own, items.filter fun item => key item == own) := by
  refine takeGroups_eq_map (nodup_eraseDups _) fun own mem => ?_
  rw [hasGroups_fillGroups key items own, if_pos (List.mem_eraseDups.1 mem)]

/-- The groups of a list stand in the order in which their keys first occur. -/
theorem map_fst_groupByKey (key : α → β) (items : List α) :
    (groupByKey key items).map Prod.fst = (items.map key).eraseDups := by
  rw [groupByKey_eq_map, List.map_map]
  exact List.map_id _

/-- The groups of a list are the items of each of its keys. -/
theorem mem_groupByKey_iff {group : β × List α} :
    group ∈ groupByKey key items ↔
      group.1 ∈ items.map key ∧ group.2 = items.filter fun item => key item == group.1 := by
  rw [groupByKey_eq_map, List.mem_map]
  constructor
  · rintro ⟨own, mem, rfl⟩
    exact ⟨List.mem_eraseDups.1 mem, rfl⟩
  · rintro ⟨mem, same⟩
    exact ⟨group.1, List.mem_eraseDups.2 mem, by rw [← same]⟩

end

end ModularRouter
