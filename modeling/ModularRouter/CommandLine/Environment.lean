import ModularRouter.CommandLine.Dotenv
import ModularRouter.Text.Numeral

/-!
# Settings from the environment

Variables whose name starts with `ROUTER_` set what the command line leaves open. The case of the
rest of the name does not matter.
-/

namespace ModularRouter.CommandLine

/-- What the environment sets. -/
structure Environment where
  /-- The directory with the artifacts. -/
  artifactsDir : Option String
  /-- The file with the deployed addresses. -/
  deployments : Option String
  /-- The name of the router. -/
  name : Option String
  /-- How many functions a leaf of the dispatch tree holds at most. -/
  maxLeafSize : Option Nat
  deriving Repr, DecidableEq

namespace Environment

/-- What the names of the variables start with. -/
def mark : List Char := "ROUTER_".toList

/-- A name without the marks at its start, of which at most `count` are dropped. -/
def dropMarks : (count : Nat) → List Char → List Char
  | 0, name => name
  | count + 1, name =>
    match Text.dropStart? mark name with
    | some rest => dropMarks count rest
    | none => name

/-- The setting that a variable is for, in small letters. -/
def setting? (name : String) : Option String :=
  if mark.isPrefixOf name.toList then
    some (String.ofList ((dropMarks name.length name.toList).map Char.toLower))
  else none

/-- The values of a setting. -/
def valuesOf (setting : String) (known : Variables) : List String :=
  known.filterMap fun (name, value) =>
    if setting? name = some setting then some value else none

/-- The value of a setting, if it is not given twice. -/
def valueOf? (setting : String) (known : Variables) : Option (Option String) :=
  match valuesOf setting known with
  | [] => some none
  | [value] => some (some value)
  | _ => none

/-- A count as it is written. -/
def count? (text : String) : Option Nat :=
  Text.Numeral.unsigned? 10 (Nat.pow 2 64) text.toList

/-- The settings of some variables, if they can be understood. -/
def ofVariables? (known : Variables) : Option Environment := do
  let maxLeafSize ← match ← valueOf? "max_leaf_size" known with
    | some text => (count? text).map some
    | none => some none
  return {
    artifactsDir := ← valueOf? "artifacts_dir" known
    deployments := ← valueOf? "deployments" known
    name := ← valueOf? "name" known
    maxLeafSize := maxLeafSize }

end Environment

end ModularRouter.CommandLine
