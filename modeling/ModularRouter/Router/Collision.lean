import ModularRouter.Grouping
import ModularRouter.Router.Function

/-!
# Collisions of selectors

Two functions with one selector cannot stand behind one router, since a call could not tell them
apart.
-/

namespace ModularRouter.Router

/-- A selector and the functions that share it. -/
structure Collision where
  /-- The selector. -/
  selector : Selector
  /-- All functions with the selector, in the order they were given. -/
  functions : List Function
  deriving Repr, DecidableEq

namespace Collision

/-- The contracts that declare the functions, each once. -/
def contractNames (collision : Collision) : List String :=
  (collision.functions.map Function.contract).eraseDups

/-- A collision as it is shown. -/
def toText (collision : Collision) : String :=
  "selector " ++ collision.selector.toText ++ " is declared by " ++
    ", ".intercalate (collision.functions.map Function.toText)

end Collision

/-- The selectors that more than one function has, in the order in which they first occur. -/
def collisions (functions : List Function) : List Collision :=
  (groupByKey Function.selector functions).filterMap fun (selector, group) =>
    if group.length > 1 then some ⟨selector, group⟩ else none

end ModularRouter.Router
