/-!
# Association lists

Lists of keys with values in which every key stands once, in the order in which keys were first put
in. They are read with `List.lookup`.
-/

namespace ModularRouter.Association

variable {α β : Type} [DecidableEq α]

/-- Puts a value in place of the one of its key, or after all others. -/
def put (key : α) (value : β) : List (α × β) → List (α × β)
  | [] => [(key, value)]
  | entry :: rest =>
    if entry.1 = key then (key, value) :: rest else entry :: put key value rest

/-- Takes a key and its value out. -/
def erase (key : α) (entries : List (α × β)) : List (α × β) :=
  entries.filter fun entry => entry.1 ≠ key

end ModularRouter.Association
