import ModularRouter.Artifact.Basic
import ModularRouter.Files.Path

/-!
# Loading artifacts

Artifacts are read from files and kept until the contents of their files change. A file is known by
the components of its path, its contents by their digest. Every artifact that is read gets a serial
number, by which it can be told whether it was kept or read again.
-/

namespace ModularRouter.Artifact

open Files (Component)

/-! ## Finding files -/

/-- Whether the last of some names is that of an artifact: files with notes for debuggers stand
beside them. -/
def isArtifact (names : List String) : Bool :=
  match names.getLast? with
  | some name =>
    (Text.dropEnd? ".json".toList name.toList).isSome &&
      (Text.dropEnd? ".dbg.json".toList name.toList).isNone
  | none => false

/-- The paths of the artifacts among the files below a directory, in increasing order. -/
def artifactPaths (directory : String) (files : List (List String)) : List String :=
  ((files.filter isArtifact).mergeSort Files.namesLe).map (Files.join directory)

/-! ## Reading files -/

/-- What a file holds. -/
inductive Contents where
  /-- Text. -/
  | text (text : String)
  /-- Bytes that are no text. -/
  | bytes
  deriving Repr, DecidableEq

/-- Why a file cannot be used. -/
inductive LoadError where
  /-- It cannot be read. -/
  | unreadable (path : String)
  /-- It does not hold what it should. -/
  | malformed (path : String)
  deriving Repr, DecidableEq

/-- What is said about a file that cannot be used. -/
def LoadError.message : LoadError → String
  | .unreadable path => "failed to read " ++ path
  | .malformed path => "failed to parse " ++ path

/-- The registry of addresses in a file. -/
def loadDeployments (path : String) (contents : Option Contents) :
    Except LoadError Deployments :=
  match contents with
  | none => .error (.unreadable path)
  | some .bytes => .error (.malformed path)
  | some (.text text) =>
    match Deployments.read? text with
    | some deployments => .ok deployments
    | none => .error (.malformed path)

/-! ## Keeping artifacts -/

/-- An artifact and when it was read. -/
structure Loaded where
  /-- How many artifacts had been read before. -/
  serial : Nat
  /-- The artifact. -/
  artifact : Artifact
  deriving Repr

/-- An artifact that is kept. -/
structure Kept where
  /-- The digest of the contents it was read from. -/
  digest : Word
  /-- The artifact. -/
  loaded : Loaded
  deriving Repr

/-- The artifacts that are kept. -/
structure Cache where
  /-- The artifacts by the paths of their files. -/
  entries : List (List Component × Kept)
  /-- How many artifacts have been read. -/
  count : Nat
  deriving Repr

namespace Cache

/-- The cache without artifacts. -/
def empty : Cache := ⟨[], 0⟩

/-- How many artifacts are kept. -/
def size (cache : Cache) : Nat :=
  cache.entries.length

/-- The artifact that is kept of a path, if it was read from contents with a digest. -/
def kept? (cache : Cache) (path : String) (digest : Word) : Option Loaded :=
  match cache.entries.lookup (Files.components path) with
  | some kept => if kept.digest = digest then some kept.loaded else none
  | none => none

/-- Keeps an artifact that has been read. -/
def keep (cache : Cache) (path : String) (digest : Word) (artifact : Artifact) : Loaded × Cache :=
  let loaded := ⟨cache.count, artifact⟩
  (loaded, ⟨Association.put (Files.components path) ⟨digest, loaded⟩ cache.entries,
    cache.count + 1⟩)

/-- The artifact in a file with the given contents. It is read only if it is not kept. -/
def load (digest : Digest) (cache : Cache) (path : String) (contents : Option Contents) :
    Except LoadError Loaded × Cache :=
  match contents with
  | none => (.error (.unreadable path), cache)
  | some .bytes => (.error (.malformed path), cache)
  | some (.text text) =>
    let key := digest (Text.utf8 text)
    match cache.kept? path key with
    | some loaded => (.ok loaded, cache)
    | none =>
      match Artifact.read? text with
      | none => (.error (.malformed path), cache)
      | some artifact =>
        let (loaded, cache) := cache.keep path key artifact
        (.ok loaded, cache)

/-- Forgets the artifact of a path. -/
def invalidate (cache : Cache) (path : String) : Cache :=
  { cache with entries := Association.erase (Files.components path) cache.entries }

/-- The artifacts in several files, in their order. All files are looked at, also behind one that
cannot be used; the first one that cannot be used is the one that is told. -/
def loadAll (digest : Digest) (cache : Cache) :
    List (String × Option Contents) → Except LoadError (List Artifact) × Cache
  | [] => (.ok [], cache)
  | (path, contents) :: rest =>
    let (first, cache) := cache.load digest path contents
    let (others, cache) := loadAll digest cache rest
    match first, others with
    | .error error, _ => (.error error, cache)
    | .ok _, .error error => (.error error, cache)
    | .ok loaded, .ok artifacts => (.ok (loaded.artifact :: artifacts), cache)

end Cache

end ModularRouter.Artifact
