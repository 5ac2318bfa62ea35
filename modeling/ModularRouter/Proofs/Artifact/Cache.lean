import ModularRouter.Artifact.Loading
import ModularRouter.Proofs.Association
import ModularRouter.Proofs.Text.Utf8

/-!
# Loading with and without a cache

Every artifact that is kept is the one that some text describes, and is kept under the digest of
that text (`Cache.IsSound`). Where the digest tells the texts apart, a load therefore gives what
the file holds now (`Cache.IsSound.load_eq`), however files were written, removed, loaded and
forgotten before (`Session.answers_eq`).
-/

namespace ModularRouter.Artifact

/-! ## Without a cache -/

/-- The artifact in a file with the given contents, read without a cache. -/
def readContents (path : String) : Option Contents → Except LoadError Artifact
  | none => .error (.unreadable path)
  | some .bytes => .error (.malformed path)
  | some (.text text) =>
    match Artifact.read? text with
    | some artifact => .ok artifact
    | none => .error (.malformed path)

/-- Where a text describes an artifact the file is read as that artifact. -/
theorem readContents_eq_ok {path text : String} {artifact : Artifact}
    (read : Artifact.read? text = some artifact) :
    readContents path (some (.text text)) = .ok artifact := by
  rw [readContents, read]

/-- Where a text describes no artifact the file is malformed. -/
theorem readContents_eq_error {path text : String} (read : Artifact.read? text = none) :
    readContents path (some (.text text)) = .error (.malformed path) := by
  rw [readContents, read]

/-- What each path reads as at some moment. -/
abbrev Snapshot := String → Option Contents

/-- What happens to files and to the cache. -/
inductive Event where
  /-- Files are written and removed: from now on paths read as given. -/
  | change (files : Snapshot)
  /-- The artifact of a path is loaded. -/
  | load (path : String)
  /-- The artifact of a path is forgotten. -/
  | invalidate (path : String)

namespace Event

/-- What paths read as after an event. -/
def filesAfter (files : Snapshot) : Event → Snapshot
  | .change later => later
  | .load _ | .invalidate _ => files

/-- What a load gives without a cache. -/
def answerWithoutCache? (files : Snapshot) : Event → Option (Except LoadError Artifact)
  | .load path => some (readContents path (files path))
  | .change _ | .invalidate _ => none

/-- The text that a load finds. -/
def loadedText? (files : Snapshot) : Event → Option String
  | .load path =>
    match files path with
    | some (.text text) => some text
    | some .bytes | none => none
  | .change _ | .invalidate _ => none

end Event

/-- What the loads among some events give without a cache. -/
def answersWithoutCache : Snapshot → List Event → List (Except LoadError Artifact)
  | _, [] => []
  | files, event :: rest =>
    (event.answerWithoutCache? files).toList ++ answersWithoutCache (event.filesAfter files) rest

/-- The texts that the loads among some events find. -/
def loadedTexts : Snapshot → List Event → List String
  | _, [] => []
  | files, event :: rest =>
    (event.loadedText? files).toList ++ loadedTexts (event.filesAfter files) rest

/-! ## What is kept -/

/-- Whether no two of the given texts collide: different bytes have different digests. -/
def TellsApart (digest : Digest) (texts : List String) : Prop :=
  ∀ text ∈ texts, ∀ other ∈ texts,
    digest (Text.utf8 text) = digest (Text.utf8 other) → Text.utf8 text = Text.utf8 other

/-- Whether what a file holds, if it is text, is one of the given texts. -/
def IsAmong (texts : List String) (contents : Option Contents) : Prop :=
  ∀ text, contents = some (.text text) → text ∈ texts

/-- A load finds nothing but the text that it is said to find. -/
theorem Event.isAmong_of_loadedText? {texts : List String} {path : String} {files : Snapshot}
    (involved : ∀ text ∈ (Event.load path).loadedText? files, text ∈ texts) :
    IsAmong texts (files path) := by
  intro text contents
  refine involved text ?_
  rw [Option.mem_def, loadedText?, contents]

/-- Loads of some paths find what the paths read as. -/
theorem isAmong_loadedTexts {files : Snapshot} {paths : List String} {path : String}
    (mem : path ∈ paths) : IsAmong (loadedTexts files (paths.map .load)) (files path) := by
  induction paths with
  | nil => cases mem
  | cons first rest ih =>
    rw [List.map_cons, loadedTexts]
    rcases List.mem_cons.1 mem with rfl | later
    · exact Event.isAmong_of_loadedText? fun text own =>
        List.mem_append_left _ (Option.mem_toList.2 own)
    · exact fun text contents => List.mem_append_right _ (ih later text contents)

namespace Cache

/-- Whether each artifact that is kept is the one that one of the given texts describes, and is
kept under the digest of that text. -/
def IsSound (digest : Digest) (texts : List String) (cache : Cache) : Prop :=
  ∀ entry ∈ cache.entries, ∃ text ∈ texts, entry.2.digest = digest (Text.utf8 text) ∧
    Artifact.read? text = some entry.2.loaded.artifact

/-- An artifact that is found is kept, under the digest that was asked for. -/
theorem exists_mem_of_kept? {cache : Cache} {path : String} {key : Word} {loaded : Loaded}
    (found : cache.kept? path key = some loaded) :
    (Files.components path, (⟨key, loaded⟩ : Kept)) ∈ cache.entries := by
  unfold kept? at found
  split at found
  case h_1 kept inside =>
    split at found
    case isTrue same =>
      cases found
      cases same
      exact Association.mem_of_lookup_eq_some inside
    case isFalse => cases found
  case h_2 => cases found

/-- A load that fails leaves the cache as it is. -/
theorem load_of_error {digest : Digest} {cache : Cache} {path : String}
    {contents : Option Contents} {error : LoadError}
    (failed : (cache.load digest path contents).1 = .error error) :
    (cache.load digest path contents).2 = cache := by
  rcases contents with _ | _ | _
  · rfl
  · rw [load] at failed ⊢
    dsimp only at failed ⊢
    split at failed
    · cases failed
    · split at failed
      · rfl
      · cases failed
  · rfl

/-- Several loads in a row give the first artifact and then the others, or the first error. -/
theorem loadAll_cons {digest : Digest} {cache : Cache} {path : String} {contents : Option Contents}
    {rest : List (String × Option Contents)} :
    (cache.loadAll digest ((path, contents) :: rest)).1 = do
      let first ← (cache.load digest path contents).1.map Loaded.artifact
      let others ← ((cache.load digest path contents).2.loadAll digest rest).1
      return first :: others := by
  rw [loadAll]
  rcases cache.load digest path contents with ⟨_ | _, after⟩
  · rfl
  · dsimp only
    rcases after.loadAll digest rest with ⟨_ | _, _⟩ <;> rfl

namespace IsSound

variable {digest : Digest} {texts : List String} {cache : Cache}

/-- Nothing is kept in the beginning. -/
protected theorem empty : Cache.empty.IsSound digest texts := by
  intro entry mem
  cases mem

/-- Forgetting leaves the others as they are. -/
protected theorem invalidate (sound : cache.IsSound digest texts) (path : String) :
    (cache.invalidate path).IsSound digest texts :=
  fun entry mem => sound entry (List.mem_filter.1 mem).1

/-- The artifact that a text describes may be kept under its digest. -/
protected theorem keep (sound : cache.IsSound digest texts) {text : String} (mem : text ∈ texts)
    {artifact : Artifact} (read : Artifact.read? text = some artifact) (path : String) :
    (cache.keep path (digest (Text.utf8 text)) artifact).2.IsSound digest texts := by
  intro entry inside
  rcases Association.eq_or_mem_of_mem_put inside with rfl | before
  · exact ⟨text, mem, rfl, read⟩
  · exact sound entry before

/-- What is found under the digest of a text is the artifact that the text describes. -/
theorem read?_eq_of_kept? (sound : cache.IsSound digest texts) (apart : TellsApart digest texts)
    {text : String} (mem : text ∈ texts) {path : String} {loaded : Loaded}
    (found : cache.kept? path (digest (Text.utf8 text)) = some loaded) :
    Artifact.read? text = some loaded.artifact := by
  -- The entry may be older than the text; what it was read from is known by its digest only.
  obtain ⟨other, inside, same, read⟩ := sound _ (exists_mem_of_kept? found)
  have equal : text = other := Text.utf8_inj.1 (apart text mem other inside same)
  rw [equal]
  exact read

/-- A load gives what is read without a cache. -/
theorem load_eq (sound : cache.IsSound digest texts) (apart : TellsApart digest texts)
    (path : String) {contents : Option Contents}
    (involved : IsAmong texts contents) :
    (cache.load digest path contents).1.map Loaded.artifact = readContents path contents := by
  rcases contents with _ | text | _
  · rfl
  · have mem : text ∈ texts := involved text rfl
    rw [load]
    dsimp only
    split
    case h_1 loaded found =>
      exact (readContents_eq_ok (sound.read?_eq_of_kept? apart mem found)).symm
    case h_2 =>
      split
      case h_1 read => exact (readContents_eq_error read).symm
      case h_2 artifact read => exact (readContents_eq_ok read).symm
  · rfl

/-- A load keeps what it reads under the digest of what it was read from. -/
protected theorem load (sound : cache.IsSound digest texts) (path : String)
    {contents : Option Contents} (involved : IsAmong texts contents) :
    (cache.load digest path contents).2.IsSound digest texts := by
  rcases contents with _ | text | _
  · exact sound
  · rw [load]
    dsimp only
    split
    · exact sound
    · split
      case h_1 => exact sound
      case h_2 artifact read => exact sound.keep (involved text rfl) read path
  · exact sound

/-- Several loads in a row give what is read without a cache, or tell the first file that cannot
be used. -/
theorem loadAll_eq (sound : cache.IsSound digest texts) (apart : TellsApart digest texts)
    {items : List (String × Option Contents)}
    (involved : ∀ item ∈ items, IsAmong texts item.2) :
    (cache.loadAll digest items).1 = items.mapM fun item => readContents item.1 item.2 := by
  induction items generalizing cache with
  | nil => rfl
  | cons item rest ih =>
    obtain ⟨path, contents⟩ := item
    obtain ⟨own, later⟩ := List.forall_mem_cons.1 involved
    rw [loadAll_cons, List.mapM_cons, sound.load_eq apart path own,
      ih (sound.load path own) later]

end IsSound

end Cache

/-! ## Events -/

/-- The files and the cache at some moment. -/
structure Session where
  /-- The files. -/
  files : Snapshot
  /-- The cache. -/
  cache : Cache

namespace Session

/-- What there is after an event. -/
def after (digest : Digest) (session : Session) : Event → Session
  | .change files => { session with files }
  | .load path =>
    { session with cache := (session.cache.load digest path (session.files path)).2 }
  | .invalidate path => { session with cache := session.cache.invalidate path }

/-- What there is after some events. -/
def afterAll (digest : Digest) (session : Session) (events : List Event) : Session :=
  events.foldl (after digest) session

/-- What a load gives. -/
def answer? (digest : Digest) (session : Session) : Event → Option (Except LoadError Artifact)
  | .load path =>
    some ((session.cache.load digest path (session.files path)).1.map Loaded.artifact)
  | .change _ | .invalidate _ => none

/-- What the loads among some events give. -/
def answers (digest : Digest) : Session → List Event → List (Except LoadError Artifact)
  | _, [] => []
  | session, event :: rest =>
    (session.answer? digest event).toList ++ answers digest (session.after digest event) rest

variable {digest : Digest} {texts : List String} {session : Session} {event : Event}

/-- The cache makes no difference to files. -/
theorem files_after (digest : Digest) (session : Session) (event : Event) :
    (session.after digest event).files = event.filesAfter session.files := by
  cases event <;> rfl

/-- After an event, what is kept is described by the texts that were involved before and by the
one that it involves. -/
theorem isSound_after (sound : session.cache.IsSound digest texts)
    (involved : ∀ text ∈ event.loadedText? session.files, text ∈ texts) :
    (session.after digest event).cache.IsSound digest texts := by
  cases event with
  | change files => exact sound
  | load path => exact sound.load path (Event.isAmong_of_loadedText? involved)
  | invalidate path => exact sound.invalidate path

/-- A load gives what it gives without a cache. -/
theorem answer?_eq (sound : session.cache.IsSound digest texts) (apart : TellsApart digest texts)
    (involved : ∀ text ∈ event.loadedText? session.files, text ∈ texts) :
    session.answer? digest event = event.answerWithoutCache? session.files := by
  cases event with
  | change files => rfl
  | load path =>
    exact congrArg some (sound.load_eq apart path (Event.isAmong_of_loadedText? involved))
  | invalidate path => rfl

/-- What is kept is described by texts that were involved, whatever has happened. -/
theorem isSound_afterAll {events : List Event} (sound : session.cache.IsSound digest texts)
    (involved : ∀ text ∈ loadedTexts session.files events, text ∈ texts) :
    (session.afterAll digest events).cache.IsSound digest texts := by
  induction events generalizing session with
  | nil => exact sound
  | cons event rest ih =>
    obtain ⟨own, later⟩ := List.forall_mem_append.1 involved
    refine ih (isSound_after sound fun text mem => own text (Option.mem_toList.2 mem)) ?_
    rw [files_after]
    exact later

/-- Whatever happens, loads give what they give without a cache. -/
theorem answers_eq {events : List Event} (sound : session.cache.IsSound digest texts)
    (apart : TellsApart digest texts)
    (involved : ∀ text ∈ loadedTexts session.files events, text ∈ texts) :
    session.answers digest events = answersWithoutCache session.files events := by
  induction events generalizing session with
  | nil => rfl
  | cons event rest ih =>
    obtain ⟨own, later⟩ := List.forall_mem_append.1 involved
    have now : ∀ text ∈ event.loadedText? session.files, text ∈ texts :=
      fun text mem => own text (Option.mem_toList.2 mem)
    have soundAfter := isSound_after sound now
    rw [← files_after digest] at later
    rw [answers, answersWithoutCache, answer?_eq sound apart now, ih soundAfter later, files_after]

/-- Events and then others involve the texts that each of them involve. -/
theorem loadedTexts_append (digest : Digest) (session : Session) (events more : List Event) :
    loadedTexts session.files (events ++ more) =
      loadedTexts session.files events ++
        loadedTexts (session.afterAll digest events).files more := by
  induction events generalizing session with
  | nil => rfl
  | cons event rest ih =>
    rw [List.cons_append, loadedTexts, loadedTexts, ← files_after digest, ih, List.append_assoc]
    rfl

end Session

end ModularRouter.Artifact
