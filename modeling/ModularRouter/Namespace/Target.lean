import ModularRouter.Ast.Nesting
import ModularRouter.Text.Search

/-!
# Targets

The places in a routine where a slot is assigned to a storage pointer. Each is found together with
the assembly variables visible there. What a block declares ends with the block, but for the head of
a loop, which is visible in the whole loop.
-/

namespace ModularRouter.Namespace

open Ast (Statement YulExpression YulStatement)

/-- The assembly variables visible at a place, the latest first. -/
abbrev YulVariables := List (String × YulExpression)

/-- A place where a slot is assigned. -/
structure SlotTarget where
  /-- The storage pointer. -/
  pointer : String
  /-- What is assigned to it. -/
  value : Option YulExpression
  /-- The assembly variables visible there. -/
  visible : YulVariables
  deriving Repr

/-- The storage pointer of which a name is the slot. -/
def pointerOfSlot? (name : String) : Option String :=
  (Text.dropEnd? ".slot".toList name.toList).map String.ofList

/-- The variables visible behind a statement: a declaration of one variable with a value adds it. -/
def declare (visible : YulVariables) : YulStatement → YulVariables
  | .declaration [name] (some value) => (name, value) :: visible
  | _ => visible

/-- The variables visible behind the statements of a block, inside the block. -/
def declareAll (visible : YulVariables) (block : List YulStatement) : YulVariables :=
  block.foldl declare visible

mutual

/-- The targets in a statement of assembly. -/
def statementTargets (visible : YulVariables) : YulStatement → List SlotTarget
  | .assignment names value =>
    (names.filterMap pointerOfSlot?).map fun pointer => ⟨pointer, value, visible⟩
  | .block body => blockTargets visible body
  | .ifThen body => blockTargets visible body
  | .switch cases => casesTargets visible cases
  | .forLoop init body post =>
    blockTargets visible init ++ blockTargets (declareAll visible init) body ++
      blockTargets (declareAll visible init) post
  | _ => []

/-- The targets in a block of assembly. -/
def blockTargets (visible : YulVariables) : List YulStatement → List SlotTarget
  | [] => []
  | statement :: rest =>
    statementTargets visible statement ++ blockTargets (declare visible statement) rest

/-- The targets in the cases of a switch. -/
def casesTargets (visible : YulVariables) : List (List YulStatement) → List SlotTarget
  | [] => []
  | block :: rest => blockTargets visible block ++ casesTargets visible rest

end

/-- The blocks of assembly in a body, at any depth. -/
def assemblies (body : List Statement) : List (List YulStatement) :=
  (Statement.nestedList body).filterMap fun
    | .assembly block => some block
    | _ => none

/-- The targets in a body. -/
def targets (body : List Statement) : List SlotTarget :=
  (assemblies body).flatMap (blockTargets [])

end ModularRouter.Namespace
