import ModularRouter.CommandLine.Program
import ModularRouter.Files.Tree

/-!
# Runs on file trees

The program run on a tree in place of real files: everything it reads is taken from the tree, and
what it writes is put into it.
-/

namespace ModularRouter.CommandLine

open Artifact (Contents)
open Files (Tree)

/-- The files of a tree. -/
def FileAccess.ofTree : FileAccess (StateM Tree) where
  read path := do return ((← get).read? path).map Contents.text
  filesBelow path := do
    match (← get).filesBelow? path with
    | some files => return .ok files
    | none => return .error path
  write path text := do
    match (← get).write? path text with
    | some tree => set tree; return true
    | none => return false

/-- A run on a tree, with the tree that it leaves. The environment file is the one at the top. -/
def runOnTree (digest : Digest) (shell : Variables) (arguments : List String) (tree : Tree) :
    Outcome × Tree :=
  (run digest .ofTree shell (tree.read? ".env") arguments).run tree

end ModularRouter.CommandLine
