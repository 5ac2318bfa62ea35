import ModularRouter.Text.Search

/-!
# Paths

A path as the list of its components. Slashes that repeat or stand at the end, and dots that name
the directory they stand in, make no component, but for a dot at the start.
-/

namespace ModularRouter.Files

/-- A component of a path. -/
inductive Component where
  /-- The top of all directories. -/
  | root
  /-- The directory itself, at the start of a path. -/
  | current
  /-- The directory above. -/
  | parent
  /-- An entry of a directory. -/
  | name (text : String)
  deriving Repr, DecidableEq

/-- The component that a piece of a path between slashes is, unless it is none. -/
def Component.ofPiece? (piece : List Char) : Option Component :=
  if piece = [] ∨ piece = ['.'] then none
  else if piece = ['.', '.'] then some .parent
  else some (.name (String.ofList piece))

/-- How a path starts, if that is a component of its own. -/
def leading (path : List Char) : List Component :=
  match Text.pieces '/' path with
  | ['.'] :: _ => [.current]
  | [] :: _ :: _ => [.root]
  | _ => []

/-- The components of a path. -/
def components (path : String) : List Component :=
  leading path.toList ++ (Text.pieces '/' path.toList).filterMap Component.ofPiece?

/-- Whether a path can only be that of a directory, from the way it ends. -/
def asksDirectory (path : String) : Bool :=
  match (Text.pieces '/' path.toList).getLast? with
  | some piece => piece = [] || piece = ['.'] || piece = ['.', '.']
  | none => false

/-- How many bytes a path may take. -/
def maxPathSize : Nat := 4095

/-- How many bytes the name of an entry may take. -/
def maxNameSize : Nat := 255

/-- Whether a component can be that of an entry. -/
def Component.isUsable : Component → Bool
  | .name text => text.utf8ByteSize ≤ maxNameSize && !text.toList.contains '\x00'
  | _ => true

/-- Whether a path can lead anywhere: it is neither empty nor too long, and no name in it is too
long. -/
def isUsable (path : String) : Bool :=
  !path.isEmpty && path.utf8ByteSize ≤ maxPathSize && (components path).all Component.isUsable

/-- The path of an entry below a directory. -/
def join (directory : String) (names : List String) : String :=
  let slash := if directory.toList.getLast? = some '/' then "" else "/"
  directory ++ slash ++ "/".intercalate names

/-- Whether one list of names stands before another one or equals it: name by name, and by their
characters. -/
def namesLe : List String → List String → Bool
  | [], _ => true
  | _ :: _, [] => false
  | a :: as, b :: bs => if a = b then namesLe as bs else decide (a < b)

end ModularRouter.Files
