/-!
# Filters

Which functions of a module are put behind the router, by their names.
-/

namespace ModularRouter.Router

/-- A choice of functions by their names. -/
structure Filter where
  /-- Whether a function of a name is chosen. -/
  accepts : String → Bool

namespace Filter

/-- Every function. -/
def all : Filter := ⟨fun _ => true⟩

/-- The functions whose name does not start with the given text. -/
def skip (start : String) : Filter := ⟨fun name => !start.toList.isPrefixOf name.toList⟩

/-- The start of the names of the functions that the instrumentation for coverage adds. -/
def coverageStart : String := "c_0x"

/-- All functions but those added for coverage, so that an instrumented build and a regular one are
put behind the same router. -/
def standard : Filter := .skip coverageStart

end Filter

end ModularRouter.Router
