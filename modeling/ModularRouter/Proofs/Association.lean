import ModularRouter.Association

/-!
# Looking keys up

What `List.lookup` finds in a list of keys with values.
-/

namespace ModularRouter.Association

variable {α β : Type} [BEq α] [LawfulBEq α] {entries : List (α × β)} {key : α} {value : β}

/-- Where no key stands twice, the value of a key is the one it stands with. -/
theorem lookup_eq_some_of_mem (distinct : (entries.map Prod.fst).Nodup)
    (mem : (key, value) ∈ entries) : entries.lookup key = some value := by
  induction entries with
  | nil => cases mem
  | cons entry rest ih =>
    obtain ⟨own, later⟩ := List.nodup_cons.1 distinct
    rcases List.mem_cons.1 mem with rfl | inside
    · rw [List.lookup_cons_self]
    · have other : (key == entry.1) = false := by
        rw [beq_eq_false_iff_ne]
        rintro rfl
        exact own (List.mem_map.2 ⟨_, inside, rfl⟩)
      rw [List.lookup_cons, other]
      exact ih later inside

/-- A value that is found stands in the list. -/
theorem mem_of_lookup_eq_some (found : entries.lookup key = some value) :
    (key, value) ∈ entries := by
  obtain ⟨before, after, rfl, -⟩ := List.lookup_eq_some_iff.1 found
  exact List.mem_append_right _ (List.mem_cons_self ..)

/-- Nothing is found under a key that no value stands with. -/
theorem lookup_eq_none_iff_notMem : entries.lookup key = none ↔ key ∉ entries.map Prod.fst := by
  rw [List.lookup_eq_none_iff, List.mem_map, not_exists]
  refine forall_congr' fun entry => ?_
  rw [not_and, bne_iff_ne]
  exact forall_congr' fun _ => ne_comm

section

variable {α β : Type} [DecidableEq α] {entries : List (α × β)} {key other : α} {value : β}

/-- The first value of a list is found under its key. -/
theorem lookup_cons_eq_ite :
    ((key, value) :: entries).lookup other =
      if other = key then some value else entries.lookup other := by
  rw [List.lookup_cons]
  by_cases same : other = key
  · rw [if_pos same, beq_iff_eq.2 same]
  · rw [if_neg same, beq_false_of_ne same]

/-- A value that is put in is found under its key, and every other key keeps its own. -/
theorem lookup_put :
    (put key value entries).lookup other =
      if other = key then some value else entries.lookup other := by
  induction entries with
  | nil =>
    rw [put]
    exact lookup_cons_eq_ite
  | cons entry rest ih =>
    obtain ⟨own, before⟩ := entry
    rw [put]
    by_cases same : own = key
    · subst same
      rw [if_pos rfl, lookup_cons_eq_ite, lookup_cons_eq_ite]
      split
      · rfl
      · rfl
    · rw [if_neg same, lookup_cons_eq_ite, lookup_cons_eq_ite, ih]
      by_cases found : other = own
      · subst found
        rw [if_pos rfl, if_neg same, if_pos rfl]
      · rw [if_neg found, if_neg found]

/-- A key that is taken out leaves every other one its value. -/
theorem lookup_erase_of_ne (different : other ≠ key) :
    (erase key entries).lookup other = entries.lookup other := by
  unfold erase
  induction entries with
  | nil => rfl
  | cons entry rest ih =>
    obtain ⟨own, before⟩ := entry
    by_cases same : own = key
    · subst same
      rw [List.filter_cons_of_neg (by simp), ih, lookup_cons_eq_ite, if_neg different]
    · rw [List.filter_cons_of_pos (by simpa using same), lookup_cons_eq_ite, lookup_cons_eq_ite, ih]

/-- What stands in a list after a value has been put into it is the value or stood there before. -/
theorem eq_or_mem_of_mem_put {entry : α × β} (mem : entry ∈ put key value entries) :
    entry = (key, value) ∨ entry ∈ entries := by
  induction entries with
  | nil => exact .inl (List.mem_singleton.1 mem)
  | cons first rest ih =>
    rw [put] at mem
    split at mem
    · rcases List.mem_cons.1 mem with same | later
      · exact .inl same
      · exact .inr (List.mem_cons_of_mem _ later)
    · rcases List.mem_cons.1 mem with rfl | later
      · exact .inr (List.mem_cons_self ..)
      · exact (ih later).imp_right (List.mem_cons_of_mem _)

end

end ModularRouter.Association
