import ModularRouter.CommandLine.Environment
import ModularRouter.Storage.Selection

/-!
# Arguments

The command and its options, as they are given on the command line. An option is given by its name
behind two dashes, with its value behind an equals sign or as the next argument.
-/

namespace ModularRouter.CommandLine

open Storage (Selection)

/-- The options of the command that generates a router. -/
structure GenerateOptions where
  /-- The names of the modules. -/
  modules : List String
  /-- The file with the deployed addresses. -/
  deployments : Option String
  /-- The name of the router. -/
  name : Option String
  /-- How many functions a leaf of the dispatch tree holds at most. -/
  maxLeafSize : Option Nat
  /-- The file with the template. -/
  template : Option String
  /-- Whether functions added for coverage are put behind the router as well. -/
  includeCoverage : Bool
  /-- Where the source of the router goes. -/
  output : String
  deriving Repr, DecidableEq

/-- The options of the command that checks storage layouts. -/
structure StorageOptions where
  /-- What is looked at. -/
  selection : Selection
  /-- The file with the dump of the last deployment. -/
  previous : Option String
  /-- Where the dump goes. -/
  output : Option String
  deriving Repr, DecidableEq

/-- What is to be done. -/
inductive Command where
  /-- Generate a router. -/
  | generate (options : GenerateOptions)
  /-- Check storage layouts. -/
  | storage (options : StorageOptions)
  /-- Check the slots of namespaces. -/
  | namespaces (selection : Selection)
  deriving Repr, DecidableEq

/-- The command line. -/
structure Arguments where
  /-- The directory with the artifacts. -/
  artifactsDir : Option String
  /-- What is to be done. -/
  command : Command
  deriving Repr, DecidableEq

/-- Why a command line is not run. -/
inductive Stop where
  /-- It asks for help. -/
  | help
  /-- It cannot be understood. -/
  | misuse
  deriving Repr, DecidableEq

/-! ## Options -/

/-- What an option takes. -/
inductive OptionKind where
  /-- Nothing. -/
  | flag
  /-- Any text. -/
  | text
  /-- A path, which is not empty. -/
  | path
  /-- A count. -/
  | count
  /-- Texts between commas; the option may be given several times. -/
  | texts
  deriving Repr, DecidableEq

namespace OptionKind

/-- Whether an option can have a value. -/
def accepts (kind : OptionKind) (value : String) : Bool :=
  match kind with
  | .path => !value.isEmpty
  | .count => (Environment.count? value).isSome
  | _ => true

/-- Whether an option may be given several times. -/
def mayRepeat : OptionKind → Bool
  | .texts => true
  | _ => false

end OptionKind

/-- The options that can be given, by their names. -/
abbrev OptionTable := List (String × OptionKind)

/-- The options that are given, in their order; a flag has no text. -/
abbrev Given := List (String × String)

namespace Given

/-- The options with one more. -/
def add (given : Given) (name : String) (kind : OptionKind) (value : String) :
    Except Stop Given :=
  if !kind.accepts value || (!kind.mayRepeat && (given.lookup name).isSome) then .error .misuse
  else .ok (given ++ [(name, value)])

/-- The texts of an option that may be given several times. -/
def texts (given : Given) (name : String) : List String :=
  given.flatMap fun (other, value) =>
    if other = name then (Text.pieces ',' value.toList).map String.ofList else []

end Given

/-- What an argument is. -/
inductive Argument where
  /-- An option, with the value behind its equals sign. -/
  | option (name : String) (value : Option String)
  /-- A request for help. -/
  | help
  /-- The end of all options. -/
  | endOfOptions
  /-- Options of one letter, which there are none of. -/
  | short
  /-- Anything else. -/
  | plain

/-- What an argument is, by its text. -/
def Argument.ofText (text : String) : Argument :=
  match text.toList with
  | ['-', '-'] => .endOfOptions
  | '-' :: '-' :: rest =>
    match Text.splitOnce? ['='] rest with
    | some (name, value) => .option (String.ofList name) (some (String.ofList value))
    | none => if rest = "help".toList then .help else .option (String.ofList rest) none
  | '-' :: 'h' :: _ => .help
  | '-' :: _ :: _ => .short
  | _ => .plain

/-- Whether an argument can be the value of the option before it. -/
def isValue (text : String) : Bool :=
  match Argument.ofText text with
  | .plain => true
  | _ => false

/-- The options at the start of some arguments, and what follows them from the first argument that
is no option. -/
def readOptions (table : OptionTable) (given : Given) :
    List String → Except Stop (Given × List String)
  | [] => .ok (given, [])
  | text :: rest =>
    match Argument.ofText text with
    | .plain => .ok (given, text :: rest)
    | .help => .error .help
    | .short => .error .misuse
    | .endOfOptions => if rest.isEmpty then .ok (given, []) else .error .misuse
    | .option name value =>
      match table.lookup name, value, rest with
      | none, _, _ => .error .misuse
      | some .flag, none, rest => do readOptions table (← given.add name .flag "") rest
      | some .flag, some _, _ => .error .misuse
      | some kind, some value, rest => do readOptions table (← given.add name kind value) rest
      | some kind, none, value :: rest =>
        if isValue value then do readOptions table (← given.add name kind value) rest
        else .error .misuse
      | some _, none, [] => .error .misuse

/-! ## Commands -/

/-- The options of every command. -/
def commonTable : OptionTable :=
  [("artifacts-dir", .path)]

/-- The options that restrict what is looked at. -/
def selectionTable : OptionTable :=
  [("sources", .texts), ("contracts", .texts)]

/-- The options of the command that generates a router. -/
def generateTable : OptionTable :=
  commonTable ++ [("modules", .texts), ("deployments", .path), ("name", .text),
    ("max-leaf-size", .count), ("template", .path), ("include-coverage", .flag),
    ("output", .path)]

/-- The options of the command that checks storage layouts. -/
def storageTable : OptionTable :=
  commonTable ++ selectionTable ++ [("previous", .path), ("output", .path)]

/-- The options of the command that checks the slots of namespaces. -/
def namespacesTable : OptionTable :=
  commonTable ++ selectionTable

/-- What is looked at. -/
def selectionOf (given : Given) : Selection :=
  ⟨given.texts "sources", given.texts "contracts"⟩

/-- The command that generates a router. -/
def generateOf (given : Given) : Except Stop Command :=
  match given.lookup "output" with
  | none => .error .misuse
  | some output => .ok (.generate {
      modules := given.texts "modules"
      deployments := given.lookup "deployments"
      name := given.lookup "name"
      maxLeafSize := (given.lookup "max-leaf-size").bind Environment.count?
      template := given.lookup "template"
      includeCoverage := (given.lookup "include-coverage").isSome
      output := output })

/-- The command that checks storage layouts. -/
def storageOf (given : Given) : Except Stop Command :=
  .ok (.storage ⟨selectionOf given, given.lookup "previous", given.lookup "output"⟩)

/-- The command that checks the slots of namespaces. -/
def namespacesOf (given : Given) : Except Stop Command :=
  .ok (.namespaces (selectionOf given))

/-- The options of a command by its name, and the command with options given. -/
def commands : List (String × OptionTable × (Given → Except Stop Command)) :=
  [("generate", generateTable, generateOf), ("storage", storageTable, storageOf),
    ("namespaces", namespacesTable, namespacesOf)]

/-- A request for help on one command, or on all of them. -/
def helpOn : List String → Stop
  | [] => .help
  | [name] => if (commands.lookup name).isSome || name == "help" then .help else .misuse
  | _ => .misuse

/-- The command line that arguments are. -/
def Arguments.ofTexts (texts : List String) : Except Stop Arguments := do
  let (before, rest) ← readOptions commonTable [] texts
  match rest with
  | [] => .error .misuse
  | name :: rest =>
    match commands.lookup name with
    | none => .error (if name = "help" then helpOn rest else .misuse)
    | some (table, command) =>
      let (given, rest) ← readOptions table [] rest
      if rest.isEmpty then
        let directory := (given.lookup "artifacts-dir").or (before.lookup "artifacts-dir")
        .ok ⟨directory, ← command given⟩
      else .error .misuse

end ModularRouter.CommandLine
