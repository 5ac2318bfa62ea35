import ModularRouter.Storage.Comparison
import ModularRouter.Storage.Encoding
import ModularRouter.Storage.Extraction

/-!
# Upgrades

An upgrade takes the next version of a project, compares its storage with the recorded one and, if
nothing stored would be read back wrong, records it in turn. A version that is refused leaves the
record as it is.
-/

namespace ModularRouter.Storage

open Ast (SourceUnit)

/-- Why a version is not recorded. -/
inductive UpgradeError where
  /-- Its storage cannot be told. -/
  | extraction (error : ExtractionError)
  /-- The record is no dump. -/
  | unreadableRecord
  /-- Stored data would be read back wrong. -/
  | breaking (mutations : BreakingMutations)
  deriving Repr, DecidableEq

/-- The dump that is recorded of a version. -/
def versionDump (units : List SourceUnit) (selection : Selection) :
    Except ExtractionError Dump := do
  let dump ← extract units selection
  .ok dump.withPositions

/-- The dump of a record, if there is a record. -/
def recorded? (record : Option String) : Except UpgradeError (Option Dump) :=
  match record with
  | none => .ok none
  | some text =>
    match Dump.read? text with
    | some dump => .ok (some dump)
    | none => .error .unreadableRecord

/-- What an upgrade finds: the differences from the record, and what to record if they are
accepted. -/
structure Upgrade where
  /-- The differences. -/
  mutations : List Mutation
  /-- The record of the version. -/
  record : String
  deriving Repr, DecidableEq

namespace Upgrade

/-- Compares the dump of a version with the record. -/
def ofDump (record : Option String) (current : Dump) : Except UpgradeError Upgrade := do
  let previous ← recorded? record
  .ok ⟨compare? previous current, current.write⟩

/-- Compares a version with the record. -/
def ofVersion (record : Option String) (units : List SourceUnit) (selection : Selection) :
    Except UpgradeError Upgrade :=
  match versionDump units selection with
  | .error error => .error (.extraction error)
  | .ok current => ofDump record current

/-- The record of the version, if nothing stored would be read back wrong. -/
def accept (upgrade : Upgrade) : Except UpgradeError String :=
  match ensureCompatible upgrade.mutations with
  | .ok () => .ok upgrade.record
  | .error breaking => .error (.breaking breaking)

end Upgrade

/-- The record after one version, with what was found on the way. -/
def upgradeStep (selection : Selection) (record : Option String) (units : List SourceUnit) :
    Option String × Except UpgradeError Upgrade :=
  match Upgrade.ofVersion record units selection with
  | .error error => (record, .error error)
  | .ok upgrade =>
    match upgrade.accept with
    | .ok text => (some text, .ok upgrade)
    | .error _ => (record, .ok upgrade)

end ModularRouter.Storage
