import ModularRouter.Artifact.Loading
import ModularRouter.CommandLine.Arguments
import ModularRouter.Namespace.Collection
import ModularRouter.Router.Generation
import ModularRouter.Storage.Upgrade

/-!
# The program

Runs a command line. Files are reached through `FileAccess`, in any monad, so that a run can be
followed on a value that stands for a directory as well as on real files.
-/

namespace ModularRouter.CommandLine

open Artifact (Cache Contents LoadError MissingDeployment)
open Storage (Dump ExtractionError BreakingMutations UpgradeError)

/-- The ways to reach files. -/
structure FileAccess (m : Type → Type) where
  /-- What a file holds, unless it cannot be read. -/
  read : String → m (Option Contents)
  /-- The names that lead from a directory to the files below it, or the path of a directory that
  cannot be read. -/
  filesBelow : String → m (Except String (List (List String)))
  /-- Writes a file and says whether that worked. -/
  write : String → String → m Bool

/-! ## Errors -/

/-- A setting that is missing or wrong. -/
inductive ConfigurationError where
  /-- There is no registry of addresses. -/
  | noDeployments
  /-- There is no module. -/
  | noModules
  /-- A leaf of the dispatch tree may hold nothing. -/
  | zeroLeafSize
  deriving Repr, DecidableEq

/-- What is said about a setting. -/
def ConfigurationError.message : ConfigurationError → String
  | .noDeployments =>
    "Deployment registry not set, use --deployments or ROUTER_DEPLOYMENTS"
  | .noModules => "At least one module is required"
  | .zeroLeafSize => "max_leaf_size cannot be zero"

/-- Why a command fails. -/
inductive CommandError where
  /-- A setting is missing or wrong. -/
  | configuration (error : ConfigurationError)
  /-- An artifact or a registry cannot be used. -/
  | load (error : LoadError)
  /-- No artifact has the name of a module. -/
  | moduleNotFound (name : String)
  /-- A module has no address. -/
  | missingDeployment (missing : MissingDeployment)
  /-- The template lacks a placeholder. -/
  | template (missing : Router.MissingPlaceholder)
  /-- There is no router. -/
  | router (error : Router.RouterError)
  /-- A file cannot be read or written. -/
  | inaccessible (path : String)
  /-- The shape of a member cannot be told. -/
  | extraction (error : ExtractionError)
  /-- The dump of the last deployment is no dump. -/
  | unreadableDump
  /-- Stored data would be read back wrong. -/
  | breaking (mutations : BreakingMutations)
  /-- Namespaces are not known to be apart. -/
  | namespaces (error : Namespace.NamespaceError)
  deriving Repr, DecidableEq

/-- What is said when a command fails. -/
def CommandError.message : CommandError → String
  | .configuration error => "Configuration error: " ++ error.message
  | .load error => error.message
  | .moduleNotFound name => "Module " ++ name ++ " not found in artifacts"
  | .missingDeployment missing => missing.message
  | .template missing => "Invalid router template: " ++ missing.message
  | .router error => error.message
  | .inaccessible path => "Failed to access " ++ path
  | .extraction error => "storage error: " ++ error.message
  | .unreadableDump => "Storage dump JSON error"
  | .breaking mutations => mutations.message
  | .namespaces error => error.message

/-- Why an upgrade is refused, as a cause of failure of the command. -/
def CommandError.ofUpgrade : UpgradeError → CommandError
  | .extraction error => .extraction error
  | .unreadableRecord => .unreadableDump
  | .breaking mutations => .breaking mutations

/-! ## Steps -/

variable {m : Type → Type} [Monad m]

/-- A step of a command: it may fail, and it may print. -/
abbrev Step (m : Type → Type) := ExceptT CommandError (StateT String m)

/-- Prints a text. -/
def say (text : String) : Step m Unit :=
  modify (· ++ text)

/-- Goes on with a value, or fails for the cause that an error is. -/
def orFail {ε α : Type} (cause : ε → CommandError) : Except ε α → Step m α
  | .ok value => return value
  | .error error => throw (cause error)

/-- What a file holds, unless it cannot be read. -/
def contentsOf (access : FileAccess m) (path : String) : Step m (Option Contents) :=
  liftM (access.read path)

/-- The text of a file. -/
def readText (access : FileAccess m) (path : String) : Step m String := do
  match ← contentsOf access path with
  | some (.text text) => return text
  | _ => throw (.inaccessible path)

/-- Writes a file. -/
def writeText (access : FileAccess m) (path text : String) : Step m Unit := do
  let written : Bool ← liftM (access.write path text)
  if !written then throw (.inaccessible path)

/-- The artifacts in a directory. -/
def loadArtifacts (digest : Digest) (access : FileAccess m) (directory : String) :
    Step m (List Artifact) := do
  let found : Except String (List (List String)) ← liftM (access.filesBelow directory)
  let files ← orFail (fun path => .load (.unreadable path)) found
  let contents ← (Artifact.artifactPaths directory files).mapM fun path => do
    return (path, ← contentsOf access path)
  orFail .load (Cache.loadAll digest .empty contents).1

/-! ## Commands -/

/-- The settings of a router: an option goes before the environment. -/
def settingsOf (options : GenerateOptions) (environment : Environment) :
    Except ConfigurationError Router.Settings :=
  let maxLeafSize :=
    (options.maxLeafSize.or environment.maxLeafSize).getD Router.DispatchTree.defaultLeafSize
  if options.modules.isEmpty then .error .noModules
  else if maxLeafSize = 0 then .error .zeroLeafSize
  else .ok {
    routerName := (options.name.or environment.name).getD "Router"
    maxLeafSize := maxLeafSize
    filter := if options.includeCoverage then .all else .standard }

/-- The first artifact of a name. -/
def artifactNamed (artifacts : List Artifact) (name : String) : Except CommandError Artifact :=
  match artifacts.find? fun artifact => artifact.contractName == name with
  | some artifact => .ok artifact
  | none => .error (.moduleNotFound name)

/-- The module contracts that a router is asked for, in the order they are named. -/
def modulesOf (access : FileAccess m) (options : GenerateOptions) (environment : Environment)
    (artifacts : List Artifact) : Step m (List Router.ModuleContract) := do
  let modules ← orFail id (options.modules.mapM (artifactNamed artifacts))
  match options.deployments.or environment.deployments with
  | none => throw (.configuration .noDeployments)
  | some path =>
    let contents ← contentsOf access path
    let deployments ← orFail .load (Artifact.loadDeployments path contents)
    orFail .missingDeployment (Artifact.moduleContracts modules deployments)

/-- The template that a router is filled into. -/
def templateOf (access : FileAccess m) (path : Option String) : Step m Router.Template := do
  match path with
  | none => return .standard
  | some path =>
    let source ← readText access path
    let standard := Router.Template.standard
    orFail .template
      (Router.Template.ofSource source standard.constantsIndent standard.dispatchIndent)

/-- Generates the router over the named modules and writes it. -/
def generate (digest : Digest) (access : FileAccess m) (environment : Environment)
    (directory : String) (options : GenerateOptions) : Step m Unit := do
  let settings ← orFail .configuration (settingsOf options environment)
  let artifacts ← loadArtifacts digest access directory
  let contracts ← modulesOf access options environment artifacts
  let template ← templateOf access options.template
  let source ← orFail .router (Router.generate digest { settings with template } contracts)
  writeText access options.output source

/-- The text of a file, if one is named. -/
def readOptional (access : FileAccess m) : Option String → Step m (Option String)
  | none => return none
  | some path => return some (← readText access path)

/-- Compares the storage of a project with the last deployment, reports the differences and writes
the dump if none of them is breaking. -/
def storage (digest : Digest) (access : FileAccess m) (directory : String)
    (options : StorageOptions) : Step m Unit := do
  let artifacts ← loadArtifacts digest access directory
  let current ← orFail .extraction
    (Storage.versionDump (Artifact.sourceUnits artifacts) options.selection)
  let previous ← readOptional access options.previous
  let upgrade ← orFail .ofUpgrade (Storage.Upgrade.ofDump previous current)
  say (Storage.report upgrade.mutations)
  let record ← orFail .ofUpgrade upgrade.accept
  match options.output with
  | some path => writeText access path record
  | none => return

/-- Checks that no two contracts share a slot and prints where each slot is assigned. -/
def namespaces (digest : Digest) (access : FileAccess m) (directory : String)
    (selection : Storage.Selection) : Step m Unit := do
  let artifacts ← loadArtifacts digest access directory
  let assignments ← orFail .namespaces
    (Namespace.ensureUnique digest (Artifact.sourceUnits artifacts) selection)
  say (String.join (assignments.map fun assignment =>
    assignment.slot.toText ++ " " ++ assignment.toText ++ "\n"))

/-- Runs a command on the artifacts in a directory. -/
def runCommand (digest : Digest) (access : FileAccess m) (environment : Environment)
    (directory : String) : Command → Step m Unit
  | .generate options => generate digest access environment directory options
  | .storage options => storage digest access directory options
  | .namespaces selection => namespaces digest access directory selection

/-! ## Runs -/

/-- How a run ends. -/
structure Outcome where
  /-- The exit code. -/
  code : Nat
  /-- What is printed. -/
  output : String
  /-- What is said about a failure. -/
  error : Option String
  deriving Repr, DecidableEq

namespace Outcome

/-- A run that ends before any command. -/
def early (code : Nat) (error : Option String) : Outcome :=
  ⟨code, "", error⟩

/-- What is said when no directory with artifacts is given. -/
def noArtifactsDir : String :=
  "Invalid configuration: Artifacts directory not set, use --artifacts-dir or ROUTER_ARTIFACTS_DIR"

end Outcome

/-- Runs a command line with the variables of the shell and of the environment file. -/
def run (digest : Digest) (access : FileAccess m) (shell : Variables) (dotenv : Option String)
    (arguments : List String) : m Outcome := do
  let known := match dotenv with
    | some text => Dotenv.extend shell text
    | none => shell
  match Environment.ofVariables? known with
  | none => return .early 1 (some "Failed to parse environment configuration")
  | some environment =>
    match Arguments.ofTexts arguments with
    | .error .help => return .early 0 none
    | .error .misuse => return .early 2 none
    | .ok arguments =>
      match arguments.artifactsDir.or environment.artifactsDir with
      | none => return .early 1 (some Outcome.noArtifactsDir)
      | some directory =>
        let (result, output) ←
          (runCommand digest access environment directory arguments.command).run.run ""
        match result with
        | .ok () => return ⟨0, output, none⟩
        | .error error => return ⟨1, output, some error.message⟩

end ModularRouter.CommandLine
