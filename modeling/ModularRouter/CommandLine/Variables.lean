import ModularRouter.Text.Search

/-!
# Variables

The variables of a process, in the order they were set. Each is one text, its name and its value
around an equals sign; so a value that holds an equals sign also has the values of longer names.
-/

namespace ModularRouter.CommandLine

/-- Variables with their values. -/
abbrev Variables := List (String × String)

namespace Variables

/-- The variable that a text is: its name ends before the first equals sign that does not start
it. -/
def ofEntry? (entry : String) : Option (String × String) :=
  match entry.toList with
  | [] => none
  | first :: rest =>
    (Text.splitOnce? ['='] rest).map fun (name, value) =>
      (String.ofList (first :: name), String.ofList value)

/-- The variables that some texts are. -/
def ofEntries (entries : List String) : Variables :=
  entries.filterMap ofEntry?

/-- The text of a variable. -/
def entry (pair : String × String) : List Char :=
  pair.1.toList ++ '=' :: pair.2.toList

/-- The value of a name: what follows the name and an equals sign in the first variable that starts
with them. -/
def value? (known : Variables) (name : List Char) : Option (List Char) :=
  if name.isEmpty then none
  else known.findSome? fun pair => Text.dropStart? (name ++ ['=']) (entry pair)

/-- The variables with one more, unless its name has a value. -/
def add (known : Variables) (name value : String) : Variables :=
  if (known.value? name.toList).isSome then known else known ++ [(name, value)]

end Variables

end ModularRouter.CommandLine
