import ModularRouter.Router.Collision
import ModularRouter.Router.Fragment

/-!
# Errors of the generator

Why there is no router over some module contracts.
-/

namespace ModularRouter.Router

/-- Why there is no router. -/
inductive RouterError where
  /-- There is no module contract. -/
  | noContracts
  /-- A fragment of an interface description cannot be used. -/
  | invalidFragment (fragment : InvalidFragment)
  /-- Functions share selectors. -/
  | selectorCollisions (collisions : List Collision)
  /-- A leaf of the dispatch tree may hold nothing. -/
  | invalidLeafSize
  /-- No function is left to be put behind the router. -/
  | noSelectors
  /-- A selector is not above the one before it. -/
  | unsortedSelectors (previous next : Selector)
  /-- A contract would get the constant of another one. -/
  | duplicateModule (contract constant : String)
  /-- A function belongs to none of the contracts. -/
  | unknownModule (contract : String) (selector : Selector)
  deriving Repr, DecidableEq

/-- What is said when there is no router. -/
def RouterError.message : RouterError → String
  | .noContracts => "router requires at least one module contract"
  | .invalidFragment fragment => fragment.message
  | .selectorCollisions collisions =>
    "duplicate selectors: " ++ "; ".intercalate (collisions.map Collision.toText)
  | .invalidLeafSize => "maximum number of selectors per dispatch leaf must be positive"
  | .noSelectors => "no selectors left to dispatch after filtering"
  | .unsortedSelectors previous next =>
    "selectors must be strictly increasing, " ++ previous.toText ++ " is followed by " ++
      next.toText
  | .duplicateModule contract constant =>
    "module " ++ contract ++ " clashes with another module on constant " ++ constant
  | .unknownModule contract selector =>
    "selector " ++ selector.toText ++ " refers to unknown module " ++ contract

end ModularRouter.Router
