import ModularRouter.Association

/-!
# Grouping

The items of a list that share a key, group by group. The groups stand in the order in which their
keys first occur, the items of a group in the order of the list. One pass over the items fills a
table of groups, whose own order is of no account, and one over the different keys takes each group
out of it.
-/

namespace ModularRouter

variable {α β : Type} [DecidableEq β]

/-- Puts an item behind the others of its key, or into a new group. -/
def addToGroup (key : β) (item : α) (groups : List (β × List α)) : List (β × List α) :=
  Association.put key ((groups.lookup key).getD [] ++ [item]) groups

/-- The table of the groups of all items. -/
def fillGroups (key : α → β) (items : List α) : List (β × List α) :=
  items.foldl (fun groups item => addToGroup (key item) item groups) []

/-- Takes the groups of some keys out of a table, one after the other. -/
def takeGroups : (keys : List β) → (groups : List (β × List α)) → List (β × List α)
  | [], _ => []
  | key :: keys, groups =>
    match groups.lookup key with
    | none => takeGroups keys groups
    | some group => (key, group) :: takeGroups keys (Association.erase key groups)

/-- The keys of the items of a list, each with the items that have it. -/
def groupByKey (key : α → β) (items : List α) : List (β × List α) :=
  takeGroups (items.map key).eraseDups (fillGroups key items)

end ModularRouter
