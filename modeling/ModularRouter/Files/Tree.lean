import ModularRouter.Association
import ModularRouter.Files.Path

/-!
# File trees

A directory with all the files below it, as a value. Paths are relative to the directory; nothing
stands outside of it.
-/

namespace ModularRouter.Files

/-- A directory or a file. -/
inductive Tree where
  /-- A file. -/
  | file (contents : String)
  /-- A directory and its entries. -/
  | directory (entries : List (String × Tree))
  deriving Repr

namespace Tree

/-- The directory without entries. -/
def empty : Tree := .directory []

/-- Whether a tree is a directory. -/
def isDirectory : Tree → Bool
  | .directory _ => true
  | .file _ => false

/-- What stands at the end of a list of names. -/
def at? : Tree → List String → Option Tree
  | tree, [] => some tree
  | .file _, _ :: _ => none
  | .directory entries, name :: rest =>
    match entries.lookup name with
    | some entry => entry.at? rest
    | none => none

/-- The tree with another one at the end of a list of names, where the directory that holds it has
to be. -/
def put? (inner : Tree) : List String → Tree → Option Tree
  | [], _ => some inner
  | _ :: _, .file _ => none
  | name :: rest, .directory entries =>
    match entries.lookup name, rest with
    | some entry, rest =>
      (put? inner rest entry).map fun entry => .directory (Association.put name entry entries)
    | none, [] => some (.directory (Association.put name inner entries))
    | none, _ :: _ => none

/-- The tree without what stands at the end of a list of names. -/
def erase : List String → Tree → Tree
  | name :: rest, .directory entries =>
    match entries.lookup name, rest with
    | some entry, _ :: _ => .directory (Association.put name (erase rest entry) entries)
    | _, _ => .directory (Association.erase name entries)
  | _, tree => tree

mutual

/-- The names that lead to each file. -/
def files : Tree → List (List String)
  | .file _ => [[]]
  | .directory entries => filesOfEntries entries

/-- The names that lead to each file below some entries. -/
def filesOfEntries : List (String × Tree) → List (List String)
  | [] => []
  | (name, entry) :: rest => (files entry).map (name :: ·) ++ filesOfEntries rest

end

/-! ## Paths -/

/-- The names that a path leads to from a place. Everything on the way has to be a directory. -/
def resolve? (tree : Tree) (place : List String) : List Component → Option (List String)
  | [] => some place
  | component :: rest =>
    if ((tree.at? place).map isDirectory).getD false then
      match component with
      | .root => none
      | .current => resolve? tree place rest
      | .parent => if place.isEmpty then none else resolve? tree place.dropLast rest
      | .name name => resolve? tree (place ++ [name]) rest
    else none

/-- The names that a path leads to. -/
def names? (tree : Tree) (path : String) : Option (List String) :=
  if isUsable path then tree.resolve? [] (components path) else none

/-- The contents of a file. -/
def read? (tree : Tree) (path : String) : Option String := do
  match ← tree.at? (← tree.names? path) with
  | .file contents => if asksDirectory path then none else some contents
  | .directory _ => none

/-- Whether the directory that holds a file below another directory has a path of its own. -/
def isReachable (path : String) (names : List String) : Bool :=
  names.length ≤ 1 || isUsable (join path names.dropLast)

/-- The names that lead from a directory to each file below it. -/
def filesBelow? (tree : Tree) (path : String) : Option (List (List String)) := do
  match ← tree.at? (← tree.names? path) with
  | .directory entries => some ((filesOfEntries entries).filter (isReachable path))
  | .file _ => none

/-- The tree with a file, whose directory has to be there. -/
def write? (tree : Tree) (path contents : String) : Option Tree := do
  let names ← tree.names? path
  if asksDirectory path || ((tree.at? names).map isDirectory).getD false then none
  else put? (.file contents) names tree

/-- The tree with the directories on the way of a path from a place. -/
def makeDirectories? (place : List String) : List Component → Tree → Option Tree
  | [], tree => some tree
  | .root :: _, _ => none
  | .current :: rest, tree => makeDirectories? place rest tree
  | .parent :: rest, tree => makeDirectories? place.dropLast rest tree
  | .name name :: rest, tree =>
    match tree.at? (place ++ [name]) with
    | some (.file _) => none
    | some (.directory _) => makeDirectories? (place ++ [name]) rest tree
    | none => do makeDirectories? (place ++ [name]) rest (← put? empty (place ++ [name]) tree)

/-- The tree with a file and the directories that lead to it. -/
def save? (tree : Tree) (path contents : String) : Option Tree := do
  (← makeDirectories? [] (components path).dropLast tree).write? path contents

/-- The tree without the file of a path; nothing but a file is removed. -/
def remove (tree : Tree) (path : String) : Tree :=
  match tree.names? path with
  | some names => if (tree.read? path).isSome then erase names tree else tree
  | none => tree

end Tree

end ModularRouter.Files
