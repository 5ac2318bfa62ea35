import ModularRouter.Router.Error

/-!
# Dispatch trees

A router finds the function that a call names by binary search: a branch compares the selector with
the least one of its right side, a leaf compares it with each of its own. The tree is built over
functions with increasing selectors by halving whatever is too long for a leaf.
-/

namespace ModularRouter.Router

/-- A search tree over functions. -/
inductive DispatchTree where
  /-- The functions that are told apart one by one. -/
  | leaf (functions : List Function)
  /-- The functions below some selector and those from it on. -/
  | branch (left right : DispatchTree)
  deriving Repr, DecidableEq

namespace DispatchTree

/-- How many functions a leaf holds at most, unless another number is given. -/
def defaultLeafSize : Nat := 9

/-- The functions, from left to right. -/
def functions : DispatchTree → List Function
  | .leaf functions => functions
  | .branch left right => left.functions ++ right.functions

/-- How many functions there are. -/
def size (tree : DispatchTree) : Nat :=
  tree.functions.length

/-- The functions of each leaf, from left to right. -/
def leaves : DispatchTree → List (List Function)
  | .leaf functions => [functions]
  | .branch left right => left.leaves ++ right.leaves

/-- How many branches stand above the deepest leaf. -/
def depth : DispatchTree → Nat
  | .leaf _ => 0
  | .branch left right => 1 + max left.depth right.depth

/-- The selector of the first function of the leftmost leaf. -/
def min? : DispatchTree → Option Selector
  | .leaf functions => functions.head?.map Function.selector
  | .branch left _ => left.min?

/-- The selector that tells the sides of a branch apart. -/
def split? : DispatchTree → Option Selector
  | .leaf _ => none
  | .branch _ right => right.min?

/-- The tree over functions whose leaves hold at most `maxLeafSize` of them. A longer list is
halved; of an odd number the left side gets one more. -/
def halve {maxLeafSize : Nat} (pos : 0 < maxLeafSize) (functions : List Function) : DispatchTree :=
  if functions.length ≤ maxLeafSize then .leaf functions
  else
    .branch (halve pos (functions.take ((functions.length + 1) / 2)))
      (halve pos (functions.drop ((functions.length + 1) / 2)))
termination_by functions.length
decreasing_by all_goals simp only [List.length_take, List.length_drop]; omega

/-- The selectors of the first two neighbours that do not increase. -/
def unsorted? : List Function → Option (Selector × Selector)
  | [] => none
  | function :: rest =>
    match rest.head? with
    | some next =>
      if next.selector ≤ function.selector then some (function.selector, next.selector)
      else unsorted? rest
    | none => none

/-- The tree over functions with increasing selectors whose leaves hold at most `maxLeafSize`
of them. -/
def build (maxLeafSize : Nat) (functions : List Function) : Except RouterError DispatchTree :=
  if pos : 0 < maxLeafSize then
    if functions.isEmpty then .error .noSelectors
    else
      match unsorted? functions with
      | some (previous, next) => .error (.unsortedSelectors previous next)
      | none => .ok (halve pos functions)
  else .error .invalidLeafSize

end DispatchTree

end ModularRouter.Router
