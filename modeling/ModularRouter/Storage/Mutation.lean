/-!
# Mutations

What differs between the storage of two deployments, graded by what it does to the data that is
already stored, and the report on it.
-/

namespace ModularRouter.Storage

/-- What a difference does to stored data. -/
inductive Severity where
  /-- It is safe and expected. -/
  | log
  /-- It is safe for the data but deserves a look. -/
  | warn
  /-- Stored data would be read back wrong. -/
  | error
  deriving Repr, DecidableEq

namespace Severity

/-- The mark of a line of a report. -/
def mark : Severity → String
  | .log => "+"
  | .warn => "+-"
  | .error => "-"

/-- The grade in a word. -/
def toText : Severity → String
  | .log => "log"
  | .warn => "warn"
  | .error => "error"

/-- A grade by its word. -/
def ofText? : String → Option Severity
  | "log" => some .log
  | "warn" => some .warn
  | "error" => some .error
  | _ => none

end Severity

/-- Whether something came, changed or went. -/
inductive MutationKind where
  /-- Something is new. -/
  | add
  /-- Something changed. -/
  | update
  /-- Something is gone. -/
  | del
  deriving Repr, DecidableEq

namespace MutationKind

/-- The kind in a word. -/
def toText : MutationKind → String
  | .add => "add"
  | .update => "update"
  | .del => "del"

/-- A kind by its word. -/
def ofText? : String → Option MutationKind
  | "add" => some .add
  | "update" => some .update
  | "del" => some .del
  | _ => none

end MutationKind

/-- One difference between two dumps. -/
structure Mutation where
  /-- What it does to stored data. -/
  severity : Severity
  /-- Whether something came, changed or went. -/
  kind : MutationKind
  /-- What differs. -/
  message : String
  deriving Repr, DecidableEq

namespace Mutation

/-- Whether the difference has to block a deployment. -/
def isBreaking (mutation : Mutation) : Bool :=
  mutation.severity == .error

/-- The difference behind the mark of its grade. -/
def toText (mutation : Mutation) : String :=
  mutation.severity.mark ++ " " ++ mutation.message

end Mutation

/-- The differences, one a line. -/
def report (mutations : List Mutation) : String :=
  String.join (mutations.map fun mutation => mutation.toText ++ "\n")

/-- How many differences have a grade. -/
def countOf (severity : Severity) (mutations : List Mutation) : Nat :=
  mutations.countP fun mutation => mutation.severity == severity

/-- The differences that block a deployment. -/
structure BreakingMutations where
  /-- All of them, in the order of the report. -/
  mutations : List Mutation
  deriving Repr, DecidableEq

/-- What is said when a deployment is blocked. -/
def BreakingMutations.message (breaking : BreakingMutations) : String :=
  "breaking storage mutations: " ++ "; ".intercalate (breaking.mutations.map Mutation.toText)

/-- Lets a deployment pass unless one of the differences is breaking. -/
def ensureCompatible (mutations : List Mutation) : Except BreakingMutations Unit :=
  match mutations.filter Mutation.isBreaking with
  | [] => .ok ()
  | breaking => .error ⟨breaking⟩

end ModularRouter.Storage
