import ModularRouter.CommandLine.Program

/-!
# Command line

The program on real files.
-/

namespace ModularRouter.CommandLine

open Artifact (Contents)

/-- What a file holds, unless it cannot be read. -/
def readContents (path : String) : IO (Option Contents) := do
  try
    let bytes ← IO.FS.readBinFile path
    match String.fromUTF8? bytes with
    | some text => return some (.text text)
    | none => return some .bytes
  catch _ => return none

/-- The names that lead from a directory to the files below one of its directories, or the path of
a directory that cannot be read. -/
partial def listFiles (directory : String) (names : List String) :
    ExceptT String IO (List (List String)) := do
  let path := if names.isEmpty then directory else Files.join directory names
  let entries ← do
    try
      let entries ← (IO.FS.DirEntry.mk path ".").path.readDir
      pure entries.toList
    catch _ => throw path
  let below ← entries.mapM fun entry => do
    if ← entry.path.isDir then listFiles directory (names ++ [entry.fileName])
    else return [names ++ [entry.fileName]]
  return below.flatten

/-- Writes a file and says whether that worked. -/
def writeContents (path text : String) : IO Bool := do
  try
    IO.FS.writeFile path text
    return true
  catch _ => return false

/-- Real files. -/
def FileAccess.real : FileAccess IO where
  read := readContents
  filesBelow directory := (listFiles directory []).run
  write := writeContents

/-- The variables of the shell. -/
def shellVariables : IO Variables := do
  match ← readContents "/proc/self/environ" with
  | some (.text text) =>
    return Variables.ofEntries (text.splitOn "\x00")
  | _ => return []

/-- The nearest environment file, in this directory or one of the `steps` above it. -/
def nearestDotenv (up : String) : (steps : Nat) → IO (Option String)
  | 0 => return none
  | steps + 1 => do
    match ← readContents (up ++ ".env") with
    | some (.text text) => return some text
    | _ => nearestDotenv ("../" ++ up) steps

end ModularRouter.CommandLine

open ModularRouter CommandLine in
/-- Runs the command line. -/
def main (arguments : List String) : IO UInt32 := do
  let depth := (Files.components (← IO.currentDir).toString).length
  let dotenv ← nearestDotenv "" depth
  let shell ← shellVariables
  let outcome ← run Keccak.digest .real shell dotenv arguments
  IO.print outcome.output
  if let some error := outcome.error then
    IO.eprintln error
  return outcome.code.toUInt32
