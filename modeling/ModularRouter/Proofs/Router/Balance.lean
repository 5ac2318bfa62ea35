import Mathlib.Algebra.Group.Nat.Defs
import Mathlib.Order.Bounds.Basic
import ModularRouter.Proofs.Router.SearchTree

/-!
# Dispatch trees of least depth

How many comparisons a call costs is decided by the depth of the tree and the length of its leaves.
A tree whose leaves are not too long holds at most so many functions for its depth
(`size_le_of_leaves`), and halving does not waste any depth: the sides of a branch differ by one
function at most, so a tree made by halving is as deep as its functions need
(`depth_halve_le_iff`) and no tree with such leaves is less deep.
-/

namespace ModularRouter.Router.DispatchTree

/-- The two sides of each branch. -/
def branches : DispatchTree → List (DispatchTree × DispatchTree)
  | .leaf _ => []
  | .branch left right => (left, right) :: (left.branches ++ right.branches)

/-- The functions of a tree are those of its leaves, one leaf after the other. -/
theorem flatten_leaves (tree : DispatchTree) : tree.leaves.flatten = tree.functions := by
  induction tree with
  | leaf functions => exact List.flatten_singleton
  | branch left right leftIh rightIh =>
    rw [leaves, List.flatten_append, leftIh, rightIh, functions]

/-- There are as many functions in a branch as on its two sides. -/
theorem size_branch (left right : DispatchTree) :
    (branch left right).size = left.size + right.size :=
  List.length_append

/-- A leaf of a tree without empty leaves holds a function. -/
theorem length_pos_of_mem_leaves {tree : DispatchTree} (filled : [] ∉ tree.leaves)
    {leaf : List Function} (mem : leaf ∈ tree.leaves) : 1 ≤ leaf.length := by
  rw [Nat.succ_le_iff, List.length_pos_iff]
  rintro rfl
  exact filled mem

/-- A branch inside a tree that can be searched can be searched. -/
theorem Searchable.of_mem_branches {tree left right : DispatchTree} (searchable : tree.Searchable)
    (mem : (left, right) ∈ tree.branches) : (DispatchTree.branch left right).Searchable := by
  induction tree with
  | leaf functions => cases mem
  | branch first second firstIh secondIh =>
    obtain ⟨inFirst, inSecond, -⟩ := searchable.branch
    rcases List.mem_cons.1 mem with same | inside
    · cases same
      exact searchable
    · rcases List.mem_append.1 inside with below | below
      · exact firstIh inFirst below
      · exact secondIh inSecond below

/-! ## How many functions a tree holds -/

/-- Each branch on the way down doubles what a tree may hold. -/
theorem size_le_of_leaves {maxLeafSize : Nat} {tree : DispatchTree}
    (short : ∀ leaf ∈ tree.leaves, leaf.length ≤ maxLeafSize) :
    tree.size ≤ maxLeafSize * 2 ^ tree.depth := by
  induction tree with
  | leaf functions =>
    have own : functions.length ≤ maxLeafSize := short functions (List.mem_singleton_self _)
    rwa [depth, Nat.pow_zero, Nat.mul_one]
  | branch left right leftIh rightIh =>
    have inLeft := leftIh fun leaf mem => short leaf (List.mem_append_left _ mem)
    have inRight := rightIh fun leaf mem => short leaf (List.mem_append_right _ mem)
    -- Each side holds no more than it would if it were as deep as the deeper one.
    have leftDeep : 2 ^ left.depth ≤ 2 ^ max left.depth right.depth :=
      Nat.pow_le_pow_right (by decide) (Nat.le_max_left ..)
    have rightDeep : 2 ^ right.depth ≤ 2 ^ max left.depth right.depth :=
      Nat.pow_le_pow_right (by decide) (Nat.le_max_right ..)
    rw [size_branch, depth, Nat.add_comm 1, Nat.pow_succ, Nat.mul_two, Nat.mul_add]
    exact Nat.add_le_add (Nat.le_trans inLeft (Nat.mul_le_mul_left _ leftDeep))
      (Nat.le_trans inRight (Nat.mul_le_mul_left _ rightDeep))

/-! ## Halving -/

section

variable {maxLeafSize : Nat} (pos : 0 < maxLeafSize) (functions : List Function)

/-- There are as many functions in a tree made by halving as it was made of. -/
theorem size_halve : (halve pos functions).size = functions.length := by
  rw [size, functions_halve]

/-- Halving stops only at leaves that are short enough. -/
theorem length_le_of_mem_leaves_halve {leaf : List Function}
    (mem : leaf ∈ (halve pos functions).leaves) : leaf.length ≤ maxLeafSize := by
  fun_induction halve pos functions with
  | case1 functions short =>
    rw [List.mem_singleton.1 mem]
    exact short
  | case2 functions long inLeft inRight =>
    rcases List.mem_append.1 mem with front | back
    · exact inLeft front
    · exact inRight back

/-- The left side of a branch made by halving has as many functions as the right one, or one
more. -/
theorem size_le_of_mem_branches_halve {left right : DispatchTree}
    (mem : (left, right) ∈ (halve pos functions).branches) :
    right.size ≤ left.size ∧ left.size ≤ right.size + 1 := by
  fun_induction halve pos functions with
  | case1 functions short => cases mem
  | case2 functions long inLeft inRight =>
    rcases List.mem_cons.1 mem with same | inside
    · cases same
      rw [size_halve, size_halve, List.length_take, List.length_drop]
      omega
    · rcases List.mem_append.1 inside with front | back
      · exact inLeft front
      · exact inRight back

/-- A tree made by halving is no deeper than some number exactly if the leaves of a tree of that
depth can hold its functions. -/
theorem depth_halve_le_iff {depth : Nat} :
    (halve pos functions).depth ≤ depth ↔ functions.length ≤ maxLeafSize * 2 ^ depth := by
  fun_induction halve pos functions generalizing depth with
  | case1 functions short =>
    have some : 1 ≤ 2 ^ depth := Nat.one_le_two_pow
    exact iff_of_true (Nat.zero_le _) (Nat.le_trans short (Nat.le_mul_of_pos_right _ some))
  | case2 functions long left right =>
    cases depth with
    | zero =>
      rw [DispatchTree.depth, Nat.pow_zero, Nat.mul_one]
      exact iff_of_false (by omega) long
    | succ depth =>
      -- Both halves fit into a tree that is less deep by one exactly if the longer one does.
      have double : maxLeafSize * 2 ^ (depth + 1) = 2 * (maxLeafSize * 2 ^ depth) := by
        rw [Nat.pow_succ, ← Nat.mul_assoc, Nat.mul_comm]
      rw [DispatchTree.depth, Nat.add_comm 1, Nat.succ_le_succ_iff, Nat.max_le, left, right, double,
        List.length_take, List.length_drop]
      omega

end

/-! ## Trees that are built -/

/-- A tree that is searched with as few comparisons as its leaves allow. -/
structure IsOptimal (maxLeafSize : Nat) (functions : List Function) (tree : DispatchTree) :
    Prop where
  /-- Its leaves hold the functions in their order. -/
  leaves : tree.leaves.flatten = functions
  /-- No leaf is empty or too long. -/
  leafSizes : ∀ leaf ∈ tree.leaves, 1 ≤ leaf.length ∧ leaf.length ≤ maxLeafSize
  /-- The split of a branch is above every selector on its left side and above none on its right
  side. -/
  splits : ∀ left right, (left, right) ∈ tree.branches →
    ∃ split, (branch left right).split? = some split ∧
      (∀ function ∈ left.functions, function.selector < split) ∧
      ∀ function ∈ right.functions, split ≤ function.selector
  /-- The left side of a branch has as many functions as the right one, or one more. -/
  balance : ∀ left right, (left, right) ∈ tree.branches →
    right.size ≤ left.size ∧ left.size ≤ right.size + 1
  /-- It is as deep as its functions need. -/
  depth : IsLeast {depth | functions.length ≤ maxLeafSize * 2 ^ depth} tree.depth
  /-- No tree with leaves that are short enough for as many functions is less deep. -/
  least : ∀ other : DispatchTree, (∀ leaf ∈ other.leaves, leaf.length ≤ maxLeafSize) →
    functions.length ≤ other.size → tree.depth ≤ other.depth

/-- Halving makes an optimal tree of functions in order. -/
theorem isOptimal_halve {maxLeafSize : Nat} (pos : 0 < maxLeafSize) {functions : List Function}
    (nonempty : functions ≠ []) (increasing : Increasing functions) :
    (halve pos functions).IsOptimal maxLeafSize functions := by
  have filled := nil_notMem_leaves_halve pos functions nonempty
  have searchable : (halve pos functions).Searchable :=
    ⟨filled, by rwa [functions_halve]⟩
  refine ⟨?leaves, ?leafSizes, ?splits, ?balance, ?depth, ?least⟩
  case leaves => rw [flatten_leaves, functions_halve]
  case leafSizes =>
    intro leaf mem
    exact ⟨length_pos_of_mem_leaves filled mem, length_le_of_mem_leaves_halve pos functions mem⟩
  case splits =>
    intro left right mem
    exact (searchable.of_mem_branches mem).branch.2.2
  case balance =>
    intro left right mem
    exact size_le_of_mem_branches_halve pos functions mem
  case depth =>
    refine ⟨(depth_halve_le_iff pos functions).1 (Nat.le_refl _), ?_⟩
    intro depth enough
    exact (depth_halve_le_iff pos functions).2 enough
  case least =>
    intro other short size
    exact (depth_halve_le_iff pos functions).2 (Nat.le_trans size (size_le_of_leaves short))

/-- A tree is built exactly over functions in order, of which there is at least one, with room for
one in a leaf. It is then a search tree over all of them whose sides are balanced at every branch,
and no tree whose leaves are as short is less deep. -/
theorem build_is_optimal (maxLeafSize : Nat) (functions : List Function) :
    ((∃ tree, build maxLeafSize functions = .ok tree) ↔
      1 ≤ maxLeafSize ∧ functions ≠ [] ∧ Increasing functions) ∧
    ∀ tree, build maxLeafSize functions = .ok tree → tree.IsOptimal maxLeafSize functions := by
  constructor
  · constructor
    · rintro ⟨tree, built⟩
      obtain ⟨pos, nonempty, increasing, -⟩ := build_eq_ok_iff.1 built
      exact ⟨pos, nonempty, increasing⟩
    · rintro ⟨pos, nonempty, increasing⟩
      exact ⟨halve pos functions, build_eq_ok_iff.2 ⟨pos, nonempty, increasing, rfl⟩⟩
  · intro tree built
    obtain ⟨pos, nonempty, increasing, rfl⟩ := build_eq_ok_iff.1 built
    exact isOptimal_halve pos nonempty increasing

end ModularRouter.Router.DispatchTree
