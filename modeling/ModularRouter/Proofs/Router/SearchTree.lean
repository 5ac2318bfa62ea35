import ModularRouter.Router.DispatchTree

/-!
# Dispatch trees as search trees

A tree that `DispatchTree.build` returns holds the functions it was built over, no leaf of it is
empty, and its selectors increase from left to right. `Searchable` states this of a tree, and
`Searchable.branch` hands it down: the split of a branch is above every selector of its left side
and above none of its right side.
-/

namespace ModularRouter.Router.DispatchTree

/-- Functions in the order a tree is searched by: every selector is above all those before it. -/
abbrev Increasing (functions : List Function) : Prop :=
  functions.Pairwise fun a b => a.selector < b.selector

/-- A tree in which a selector is found by comparing it with the splits of the branches. -/
structure Searchable (tree : DispatchTree) : Prop where
  /-- Every leaf holds a function. -/
  filled : [] ∉ tree.leaves
  /-- The selectors increase from left to right. -/
  increasing : Increasing tree.functions

/-! ## Building -/

/-- Two neighbours are told first if they are out of order. -/
theorem unsorted?_cons_cons (function next : Function) (rest : List Function) :
    unsorted? (function :: next :: rest) =
      if next.selector ≤ function.selector then some (function.selector, next.selector)
      else unsorted? (next :: rest) := rfl

/-- Functions are in order exactly when no two neighbours are out of order. -/
theorem unsorted?_eq_none_iff (functions : List Function) :
    unsorted? functions = none ↔ Increasing functions := by
  induction functions with
  | nil => simp [unsorted?]
  | cons function rest ih =>
    cases rest with
    | nil => simp [unsorted?]
    | cons next rest =>
      rw [unsorted?_cons_cons]
      constructor
      · intro checked
        have above : ¬ next.selector ≤ function.selector := by
          intro below
          rw [if_pos below] at checked
          cases checked
        have first : function.selector < next.selector := BitVec.not_le.1 above
        have later : Increasing (next :: rest) := by
          rw [if_neg above] at checked
          exact ih.1 checked
        refine List.pairwise_cons.2 ⟨?_, later⟩
        -- What comes after the next function is above it and so above this one.
        intro other mem
        rcases List.mem_cons.1 mem with rfl | mem
        · exact first
        · exact BitVec.lt_trans first ((List.pairwise_cons.1 later).1 other mem)
      · intro increasing
        obtain ⟨first, later⟩ := List.pairwise_cons.1 increasing
        have above : ¬ next.selector ≤ function.selector :=
          BitVec.not_le.2 (first next (List.mem_cons_self ..))
        rw [if_neg above]
        exact ih.2 later

section

variable {maxLeafSize : Nat} (pos : 0 < maxLeafSize) (functions : List Function)

/-- Halving keeps all functions and their order. -/
@[simp]
theorem functions_halve : (halve pos functions).functions = functions := by
  fun_induction halve pos functions with
  | case1 => rfl
  | case2 functions long left right =>
    rw [DispatchTree.functions, left, right, List.take_append_drop]

/-- Halving leaves no side without functions. -/
theorem nil_notMem_leaves_halve (nonempty : functions ≠ []) :
    [] ∉ (halve pos functions).leaves := by
  fun_induction halve pos functions with
  | case1 functions short => simpa [leaves] using nonempty.symm
  | case2 functions long left right =>
    have some : 0 < functions.length := List.length_pos_iff.2 nonempty
    -- Two functions or more leave at least one on each side.
    have front : functions.take ((functions.length + 1) / 2) ≠ [] := by
      rw [← List.length_pos_iff, List.length_take]
      omega
    have back : functions.drop ((functions.length + 1) / 2) ≠ [] := by
      rw [← List.length_pos_iff, List.length_drop]
      omega
    rw [leaves, List.mem_append, not_or]
    exact ⟨left front, right back⟩

end

/-- A tree is built exactly over functions in order, of which there is at least one. -/
theorem build_eq_ok_iff {maxLeafSize : Nat} {functions : List Function} {tree : DispatchTree} :
    build maxLeafSize functions = .ok tree ↔
      ∃ pos : 0 < maxLeafSize,
        functions ≠ [] ∧ Increasing functions ∧ tree = halve pos functions := by
  rw [build]
  by_cases pos : 0 < maxLeafSize
  · simp only [pos, dif_pos, exists_true_left]
    cases functions with
    | nil => simp
    | cons function rest =>
      cases checked : unsorted? (function :: rest) with
      | none =>
        have increasing := (unsorted?_eq_none_iff _).1 checked
        simpa [checked, increasing] using eq_comm
      | some unsorted =>
        have out : ¬ Increasing (function :: rest) := by
          rw [← unsorted?_eq_none_iff, checked]
          simp
        simp [out]
  · simp [pos]

/-- A tree that is built can be searched for the functions it was built over. -/
theorem searchable_of_build {maxLeafSize : Nat} {functions : List Function} {tree : DispatchTree}
    (built : build maxLeafSize functions = .ok tree) :
    tree.Searchable ∧ tree.functions = functions := by
  obtain ⟨pos, nonempty, increasing, rfl⟩ := build_eq_ok_iff.1 built
  have same := functions_halve pos functions
  refine ⟨⟨nil_notMem_leaves_halve pos functions nonempty, ?_⟩, same⟩
  rwa [same]

/-! ## Searching -/

/-- A tree without empty leaves holds a function. -/
theorem functions_ne_nil {tree : DispatchTree} (filled : [] ∉ tree.leaves) :
    tree.functions ≠ [] := by
  induction tree with
  | leaf functions =>
    rintro rfl
    exact filled (List.mem_singleton_self _)
  | branch left right leftIh _ =>
    rw [leaves, List.mem_append, not_or] at filled
    intro none
    exact leftIh filled.1 (List.append_eq_nil_iff.1 none).1

/-- The least selector of a tree is that of its first function. -/
theorem min?_eq_head? {tree : DispatchTree} (filled : [] ∉ tree.leaves) :
    tree.min? = tree.functions.head?.map Function.selector := by
  induction tree with
  | leaf functions => rfl
  | branch left right leftIh _ =>
    rw [leaves, List.mem_append, not_or] at filled
    -- The first function stands on the left, since the left side is not empty.
    rw [min?, leftIh filled.1, functions, List.head?_append]
    cases front : left.functions with
    | nil => exact absurd front (functions_ne_nil filled.1)
    | cons function rest => rfl

/-- What a search relies on at a branch. -/
theorem Searchable.branch {left right : DispatchTree}
    (searchable : (branch left right).Searchable) :
    left.Searchable ∧ right.Searchable ∧
      ∃ split, right.min? = some split ∧
        (∀ function ∈ left.functions, function.selector < split) ∧
        ∀ function ∈ right.functions, split ≤ function.selector := by
  obtain ⟨filled, increasing⟩ := searchable
  rw [leaves, List.mem_append, not_or] at filled
  rw [functions, Increasing, List.pairwise_append] at increasing
  obtain ⟨inLeft, inRight, across⟩ := increasing
  refine ⟨⟨filled.1, inLeft⟩, ⟨filled.2, inRight⟩, ?_⟩
  -- The split is the selector of the first function on the right.
  cases back : right.functions with
  | nil => exact absurd back (functions_ne_nil filled.2)
  | cons first rest =>
    rw [back] at across inRight
    refine ⟨first.selector, ?_, ?_, ?_⟩
    · rw [min?_eq_head? filled.2, back]
      rfl
    · intro function mem
      exact across function mem first (List.mem_cons_self ..)
    · intro function mem
      rcases List.mem_cons.1 mem with rfl | later
      · exact BitVec.le_refl _
      · exact BitVec.le_of_lt ((List.pairwise_cons.1 inRight).1 function later)

end ModularRouter.Router.DispatchTree
