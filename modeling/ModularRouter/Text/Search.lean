/-!
# Searching and replacing text

Occurrences are found from left to right and never overlap. All functions work on characters, so
that they can be followed one character at a time.
-/

namespace ModularRouter.Text

/-- What follows `pattern` at the start of `text`. -/
def dropStart? : (pattern text : List Char) → Option (List Char)
  | [], text => some text
  | _ :: _, [] => none
  | p :: pattern, c :: text => if p = c then dropStart? pattern text else none

/-- What precedes `pattern` at the end of `text`. -/
def dropEnd? (pattern text : List Char) : Option (List Char) :=
  (dropStart? pattern.reverse text.reverse).map List.reverse

/-- Whether `pattern` occurs somewhere in `text`. -/
def occursIn (pattern : List Char) : List Char → Bool
  | [] => pattern.isEmpty
  | c :: text => pattern.isPrefixOf (c :: text) || occursIn pattern text

/-- Replaces the occurrences of `pattern` after the first `skip` characters, which are dropped. -/
def replaceAfter (pattern replacement : List Char) : (skip : Nat) → List Char → List Char
  | _, [] => []
  | skip + 1, _ :: text => replaceAfter pattern replacement skip text
  | 0, c :: text =>
    if pattern.isPrefixOf (c :: text) then
      replacement ++ replaceAfter pattern replacement (pattern.length - 1) text
    else c :: replaceAfter pattern replacement 0 text

/-- Replaces every occurrence of a non-empty `pattern`. -/
def replaceAll (pattern replacement text : List Char) : List Char :=
  replaceAfter pattern replacement 0 text

/-- The parts of `text` before and after the first occurrence of `pattern`. -/
def splitOnce? (pattern : List Char) : List Char → Option (List Char × List Char)
  | [] => if pattern.isEmpty then some ([], []) else none
  | c :: text =>
    match dropStart? pattern (c :: text) with
    | some rest => some ([], rest)
    | none => (splitOnce? pattern text).map fun (before, after) => (c :: before, after)

/-- The parts of `text` before and after the last `separator`. -/
def splitLast? (separator : Char) (text : List Char) : Option (List Char × List Char) :=
  match text.reverse.span (· ≠ separator) with
  | (_, []) => none
  | (after, _ :: before) => some (before.reverse, after.reverse)

/-- The pieces of `text` between separators; a text without separators is its own only piece. -/
def pieces (separator : Char) : List Char → List (List Char)
  | [] => [[]]
  | c :: text =>
    if c = separator then [] :: pieces separator text
    else
      match pieces separator text with
      | [] => [[c]]
      | piece :: rest => (c :: piece) :: rest

end ModularRouter.Text
