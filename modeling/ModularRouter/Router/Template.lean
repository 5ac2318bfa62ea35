import ModularRouter.Text.Search

/-!
# Templates

The source of a router with three placeholders: for its name, for the constants that hold the
addresses of the modules, and for the table that dispatches calls. The two blocks are put in as
they are, so a template also says how far their lines are indented.
-/

namespace ModularRouter.Router

/-- What is put into a template. -/
inductive Placeholder where
  /-- The name of the router. -/
  | routerName
  /-- The constants that hold the addresses of the modules. -/
  | moduleConstants
  /-- The table that dispatches calls. -/
  | dispatch
  deriving Repr, DecidableEq

namespace Placeholder

/-- The word of a placeholder. -/
def word : Placeholder → String
  | .routerName => "router_name"
  | .moduleConstants => "module_constants"
  | .dispatch => "dispatch"

/-- A placeholder as it stands in a template: its word in double braces. -/
def toText (placeholder : Placeholder) : String :=
  "\x7b\x7b" ++ placeholder.word ++ "\x7d\x7d"

end Placeholder

/-- A placeholder that a template lacks. -/
structure MissingPlaceholder where
  /-- The placeholder. -/
  placeholder : Placeholder
  deriving Repr, DecidableEq

/-- What is said about a template that lacks a placeholder. -/
def MissingPlaceholder.message (missing : MissingPlaceholder) : String :=
  "template has no " ++ missing.placeholder.toText ++ " placeholder"

/-- The source of a router with placeholders. -/
structure Template where
  /-- The source. -/
  source : String
  /-- How many steps the constants are indented. -/
  constantsIndent : Nat
  /-- How many steps the table is indented. -/
  dispatchIndent : Nat
  deriving Repr, DecidableEq

namespace Template

/-- Whether a source has a placeholder. -/
def hasPlaceholder (source : String) (placeholder : Placeholder) : Bool :=
  Text.occursIn placeholder.toText.toList source.toList

/-- The template with a source, which has to have all placeholders. -/
def ofSource (source : String) (constantsIndent dispatchIndent : Nat) :
    Except MissingPlaceholder Template :=
  let placeholders := [Placeholder.routerName, .moduleConstants, .dispatch]
  match placeholders.find? fun placeholder => !hasPlaceholder source placeholder with
  | some missing => .error ⟨missing⟩
  | none => .ok ⟨source, constantsIndent, dispatchIndent⟩

/-- Puts a text in place of a placeholder, wherever it stands. -/
def put (placeholder : Placeholder) (text : String) (source : List Char) : List Char :=
  Text.replaceAll placeholder.toText.toList text.toList source

/-- The source of a router: the name is put in first, then the constants, then the table. -/
def fill (template : Template) (routerName constants dispatch : String) : String :=
  String.ofList
    (put .dispatch dispatch
      (put .moduleConstants constants
        (put .routerName routerName template.source.toList)))

/-- The lines of the template that is used unless another one is given: a contract that delegates
every call to the module found by the table and refuses a call that names none. -/
def standardLines : List String :=
  ["// SPDX-License-Identifier: MIT",
  "pragma solidity ^0.8.0;",
  "",
  "// --------------------------------------------------------------------------------",
  "// GENERATED CODE - do not edit manually!!",
  "// --------------------------------------------------------------------------------",
  "",
  "contract \x7b\x7brouter_name\x7d\x7d \x7b",
  "    error UnknownSelector(bytes4 sel);",
  "",
  "\x7b\x7bmodule_constants\x7d\x7d",
  "",
  "    fallback() external payable \x7b",
  "        _forward();",
  "    \x7d",
  "",
  "    receive() external payable \x7b",
  "        _forward();",
  "    \x7d",
  "",
  "    function _forward() internal \x7b",
  "        // Lookup table: Function selector => implementation contract",
  "        bytes4 sig4 = msg.sig;",
  "        address implementation;",
  "",
  "        assembly \x7b",
  "            let sig32 := shr(224, sig4)",
  "",
  "            function findImplementation(sig) -> result \x7b",
  "\x7b\x7bdispatch\x7d\x7d",
  "            \x7d",
  "",
  "            implementation := findImplementation(sig32)",
  "        \x7d",
  "",
  "        if (implementation == address(0)) \x7b",
  "            revert UnknownSelector(sig4);",
  "        \x7d",
  "",
  "        // Delegatecall to the implementation contract",
  "        assembly \x7b",
  "            calldatacopy(0, 0, calldatasize())",
  "",
  "            let result := delegatecall(gas(), implementation, 0, calldatasize(), 0, 0)",
  "            returndatacopy(0, 0, returndatasize())",
  "",
  "            switch result",
  "            case 0 \x7b",
  "                revert(0, returndatasize())",
  "            \x7d",
  "            default \x7b",
  "                return(0, returndatasize())",
  "            \x7d",
  "        \x7d",
  "    \x7d",
  "\x7d",
  ""]

/-- The template that is used unless another one is given. -/
def standard : Template where
  source := "\n".intercalate standardLines
  constantsIndent := 1
  dispatchIndent := 4

end Template

end ModularRouter.Router
