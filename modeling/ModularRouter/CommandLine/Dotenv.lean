import ModularRouter.CommandLine.Variables
import ModularRouter.Text.Alphanumeric
import ModularRouter.Text.Blank

/-!
# Environment files

Variables for the environment, one a line, behind an optional `export`. A value may be quoted:
between single quotes everything stands for itself, between double quotes and outside of quotes a
backslash escapes and a dollar stands before the name of a variable. A quoted value may go on over
several lines. Reading stops at the first line that cannot be understood, and what was read before
it stands.
-/

namespace ModularRouter.CommandLine

namespace Dotenv

/-! ## Lines -/

/-- What a reader of lines is inside of. -/
inductive LineState where
  /-- Nothing. -/
  | plain
  /-- Blanks, behind which a comment may start. -/
  | blank
  /-- Behind a backslash. -/
  | escape
  /-- Single quotes. -/
  | single
  /-- Behind a backslash inside single quotes. -/
  | singleEscape
  /-- Double quotes. -/
  | double
  /-- Behind a backslash inside double quotes. -/
  | doubleEscape
  deriving Repr, DecidableEq

/-- What a character outside of quotes leads to. -/
def LineState.afterPlain (c : Char) (other : LineState) : LineState :=
  if c = '\\' then .escape
  else if c = '"' then .double
  else if c = '\'' then .single
  else other

/-- What a character leads to. -/
def LineState.next (state : LineState) (c : Char) : LineState :=
  match state with
  | .plain =>
    if Text.isBlank c && c != '\n' && c != '\r' then .blank else .afterPlain c .plain
  | .blank => .afterPlain c .plain
  | .escape => .plain
  | .single => if c = '\\' then .singleEscape else if c = '\'' then .plain else .single
  | .singleEscape => .single
  | .double => if c = '\\' then .doubleEscape else if c = '"' then .plain else .double
  | .doubleEscape => .double

/-- The part of a line before a comment, and what the end of the line is inside of; nothing if there
is a comment. -/
def scanLine (state : LineState) : List Char → List Char × Option LineState
  | [] => ([], some state)
  | c :: rest =>
    if state = .blank ∧ c = '#' then ([], none)
    else
      let (seen, final) := scanLine (state.next c) rest
      (c :: seen, final)

/-- The lines of a text with their ends. -/
def physicalLines (text : List Char) : List (List Char) :=
  let lines := Text.pieces '\n' text
  let ended := lines.dropLast.map (· ++ ['\n'])
  match lines.getLast? with
  | some [] | none => ended
  | some last => ended ++ [last]

/-- A line without its end. -/
def dropLineEnd (line : List Char) : List Char :=
  match Text.dropEnd? ['\r', '\n'] line with
  | some line => line
  | none => (Text.dropEnd? ['\n'] line).getD line

/-- The lines that hold one variable each, with the quoted values that go on put together. A text
that ends inside of something has no last line. -/
def logicalLines (state : LineState) (begun : List Char) :
    List (List Char) → List (Option (List Char))
  | [] => if state = .plain then [] else [none]
  | line :: rest =>
    let whole := begun ++ line
    if (Text.trimStart whole).head? = some '#' then some [] :: logicalLines .plain [] rest
    else
      match scanLine state line with
      | (seen, none) => some (begun ++ seen) :: logicalLines .plain [] rest
      | (_, some .plain) => some (dropLineEnd whole) :: logicalLines .plain [] rest
      | (_, some state) => logicalLines state whole rest

/-! ## Values -/

/-- What a reader of values is inside of. Behind a dollar the name read so far is kept. -/
inductive ValueState where
  /-- Nothing, or double quotes. -/
  | text (quoted : Bool)
  /-- Single quotes. -/
  | single
  /-- Behind a backslash. -/
  | escape (quoted : Bool)
  /-- The name of a variable. -/
  | name (quoted : Bool) (seen : List Char)
  /-- The name of a variable in braces. -/
  | braced (quoted : Bool) (seen : List Char)
  /-- Behind the value. -/
  | ended

/-- The value of a variable, empty if there is none. -/
def valueOf (known : Variables) (name : List Char) : List Char :=
  (known.value? name).getD []

/-- The character that an escaped one stands for. -/
def unescape? (c : Char) : Option Char :=
  if c = 'n' then some '\n'
  else if c ∈ ['\\', '\'', '"', '$', ' '] then some c
  else none

/-- What one character adds to a value, and what follows it is inside of. -/
def ValueState.next (known : Variables) (state : ValueState) (c : Char) :
    Option (List Char × ValueState) :=
  match state with
  | .text quoted =>
    if c = '$' then some ([], .name quoted [])
    else if c = '\\' then some ([], .escape quoted)
    else if c = '"' then some ([], .text !quoted)
    else if quoted then some ([c], .text true)
    else if c = '\'' then some ([], .single)
    else if c = ' ' ∨ c = '\t' then some ([], .ended)
    else some ([c], .text false)
  | .single => if c = '\'' then some ([], .text false) else some ([c], .single)
  | .escape quoted => (unescape? c).map fun c => ([c], .text quoted)
  | .name quoted seen =>
    if Text.isAlphanumeric c then some ([], .name quoted (seen ++ [c]))
    else if c = '\x7b' ∧ seen = [] then some ([], .braced quoted [])
    else if c = '$' then some (valueOf known seen, .name quoted [])
    else some (valueOf known seen ++ [c], .text quoted)
  | .braced quoted seen =>
    if c = '\x7d' then some (valueOf known seen, .text quoted)
    else some ([], .braced quoted (seen ++ [c]))
  | .ended => if c = ' ' ∨ c = '\t' then some ([], .ended) else none

/-- The value that a text spells from some state on. -/
def valueFrom? (known : Variables) (state : ValueState) : List Char → Option (List Char)
  | [] =>
    match state with
    | .text false | .escape false | .ended => some []
    | .name false seen => some (valueOf known seen)
    | _ => none
  | c :: rest =>
    match state, c with
    | .ended, '#' => some []
    | state, c =>
      match state.next known c with
      | some (added, state) => (valueFrom? known state rest).map (added ++ ·)
      | none => none

/-! ## Variables -/

/-- Whether a character can start the name of a variable. -/
def startsKey (c : Char) : Bool :=
  c.isAlpha || c == '_'

/-- Whether a character can stand in the name of a variable. -/
def continuesKey (c : Char) : Bool :=
  c.isAlphanum || c == '_' || c == '.'

/-- The name that a text starts with, and what follows it and its blanks. -/
def key? (text : List Char) : Option (String × List Char) :=
  match text.head? with
  | some c =>
    if startsKey c then
      some (String.ofList (text.takeWhile continuesKey),
        Text.trimStart (text.dropWhile continuesKey))
    else none
  | none => none

/-- The name of a variable and the text of its value. -/
def assignment? (line : List Char) : Option (String × List Char) := do
  let (key, rest) ← key? line
  match rest with
  | '=' :: value => some (key, Text.trimStart value)
  | _ =>
    if key = "export" then
      match ← key? rest with
      | (key, '=' :: value) => some (key, Text.trimStart value)
      | _ => none
    else none

/-- The variable of a line, if it holds one; nothing at all if it cannot be understood. -/
def assigned? (known : Variables) (line : List Char) : Option (Option (String × String)) :=
  let line := Text.trim line
  if line = [] ∨ line.head? = some '#' then some none
  else do
    let (key, value) ← assignment? line
    if value = [] ∨ value.head? = some '#' then some (some (key, ""))
    else some (some (key, String.ofList (← valueFrom? known (.text false) value)))

/-- The variables with those of some lines; a variable that is there already is kept. -/
def addLines (known : Variables) : List (Option (List Char)) → Variables
  | [] => known
  | none :: _ => known
  | some line :: rest =>
    match assigned? known line with
    | none => known
    | some none => addLines known rest
    | some (some (key, value)) => addLines (known.add key value) rest

/-- The variables with those of a file; a variable that is there already is kept. -/
def extend (known : Variables) (text : String) : Variables :=
  let text := match text.toList with
    | '\uFEFF' :: rest => rest
    | text => text
  addLines known (logicalLines .plain [] (physicalLines text))

end Dotenv

end ModularRouter.CommandLine
