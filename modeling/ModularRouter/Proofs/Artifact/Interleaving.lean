import ModularRouter.Files.Tree
import ModularRouter.Hash.Keccak
import ModularRouter.Proofs.Artifact.Cache

/-!
# Loading at the same time

Loads that run at the same time share a cache: each of them asks it in one step and, if the
artifact was not kept, changes it in another one (`Stage.next`). With nothing between them the two
steps are a load (`Stage.next_next`), but others may take theirs there. What is kept stays sound all
the same (`Batch.IsSound.run`), so that it makes no difference which load comes when
(`cache_is_invisible`).
-/

namespace ModularRouter.Artifact

/-! ## One load step by step -/

/-- How far a load has come. -/
inductive Stage where
  /-- The cache is to be asked. -/
  | asking
  /-- The artifact was not kept. It has been read, and is to be kept under a digest. -/
  | keeping (key : Word) (artifact : Artifact)
  /-- The load is over. -/
  | ended (result : Except LoadError Loaded)

namespace Stage

/-- The stage after the next step of a load, and the cache then. The file has the same contents all
the while, so that it is no step of its own to read it. -/
def next (digest : Digest) (path : String) (contents : Option Contents) (cache : Cache) :
    Stage → Stage × Cache
  | .asking =>
    match contents with
    | none => (.ended (.error (.unreadable path)), cache)
    | some .bytes => (.ended (.error (.malformed path)), cache)
    | some (.text text) =>
      let key := digest (Text.utf8 text)
      match cache.kept? path key with
      | some loaded => (.ended (.ok loaded), cache)
      | none =>
        match Artifact.read? text with
        | none => (.ended (.error (.malformed path)), cache)
        | some artifact => (.keeping key artifact, cache)
  | .keeping key artifact =>
    let (loaded, cache) := cache.keep path key artifact
    (.ended (.ok loaded), cache)
  | .ended result => (.ended result, cache)

/-- How many steps a load may still take. -/
def stepsLeft : Stage → Nat
  | .asking => 2
  | .keeping .. => 1
  | .ended _ => 0

/-- What a load gave that is over. -/
def answer? : Stage → Option (Except LoadError Artifact)
  | .ended result => some (result.map Loaded.artifact)
  | .asking | .keeping .. => none

/-- Whether a load of a file with the given contents can have come to a stage and gives, if it is
over, what is read without a cache. -/
inductive IsSound (digest : Digest) (path : String) (contents : Option Contents) : Stage → Prop
  /-- A load starts with a question to the cache. -/
  | asking : IsSound digest path contents .asking
  /-- What is to be kept is the artifact of the file, under the digest of its text. -/
  | keeping {text : String} {artifact : Artifact} (holds : contents = some (.text text))
      (read : Artifact.read? text = some artifact) :
      IsSound digest path contents (.keeping (digest (Text.utf8 text)) artifact)
  /-- The load has given what is read without a cache. -/
  | ended {result : Except LoadError Loaded}
      (same : result.map Loaded.artifact = readContents path contents) :
      IsSound digest path contents (.ended result)

variable {digest : Digest} {texts : List String} {path : String} {contents : Option Contents}
  {cache : Cache} {stage : Stage}

/-- Two steps with nothing between them are a load. -/
theorem next_next (digest : Digest) (path : String) (contents : Option Contents) (cache : Cache) :
    (asking.next digest path contents cache).1.next digest path contents
        (asking.next digest path contents cache).2 =
      (.ended (cache.load digest path contents).1, (cache.load digest path contents).2) := by
  rcases contents with _ | text | _
  · rfl
  · rw [next, Cache.load]
    cases cache.kept? path (digest (Text.utf8 text)) with
    | some loaded => rfl
    | none => cases Artifact.read? text <;> rfl
  · rfl

/-- A step leaves fewer to take. -/
theorem stepsLeft_next :
    (stage.next digest path contents cache).1.stepsLeft ≤ stage.stepsLeft - 1 := by
  cases stage with
  | asking =>
    rcases contents with _ | text | _
    · exact Nat.zero_le 1
    · rw [next]
      cases cache.kept? path (digest (Text.utf8 text)) with
      | some loaded => exact Nat.zero_le 1
      | none =>
        cases Artifact.read? text with
        | none => exact Nat.zero_le 1
        | some artifact => exact Nat.le_refl 1
    · exact Nat.zero_le 1
  | keeping key artifact => exact Nat.le_refl 0
  | ended result => exact Nat.le_refl 0

/-- A step leads to a sound stage, and to a sound cache. -/
theorem IsSound.next (own : stage.IsSound digest path contents)
    (sound : cache.IsSound digest texts) (apart : TellsApart digest texts)
    (involved : IsAmong texts contents) :
    (stage.next digest path contents cache).1.IsSound digest path contents ∧
      (stage.next digest path contents cache).2.IsSound digest texts := by
  cases own with
  | asking =>
    rcases contents with _ | text | _
    · exact ⟨.ended rfl, sound⟩
    · rw [Stage.next]
      cases found : cache.kept? path (digest (Text.utf8 text)) with
      | some loaded =>
        have read := sound.read?_eq_of_kept? apart (involved text rfl) found
        exact ⟨.ended (readContents_eq_ok read).symm, sound⟩
      | none =>
        cases read : Artifact.read? text with
        | none => exact ⟨.ended (readContents_eq_error read).symm, sound⟩
        | some artifact => exact ⟨.keeping rfl read, sound⟩
    · exact ⟨.ended rfl, sound⟩
  | keeping holds read =>
    -- Others may have changed the cache since it was asked, but they have left it sound.
    subst holds
    exact ⟨.ended (readContents_eq_ok read).symm, sound.keep (involved _ rfl) read path⟩
  | ended same => exact ⟨.ended same, sound⟩

/-- A load that is over gave what is read without a cache. -/
theorem IsSound.answer?_eq (own : stage.IsSound digest path contents)
    {answer : Except LoadError Artifact} (given : stage.answer? = some answer) :
    answer = readContents path contents := by
  cases own with
  | asking => cases given
  | keeping => cases given
  | ended same =>
    cases given
    exact same

/-- A load with no steps left is over. -/
theorem exists_answer? (none : stage.stepsLeft = 0) : ∃ answer, stage.answer? = some answer := by
  cases stage with
  | asking => cases none
  | keeping key artifact => cases none
  | ended result => exact ⟨_, rfl⟩

end Stage

/-! ## Several loads -/

/-- A load among others. -/
structure Task where
  /-- The path of the file. -/
  path : String
  /-- How far the load has come. -/
  stage : Stage

/-- Loads that run at the same time. -/
structure Batch where
  /-- The loads. -/
  tasks : List Task
  /-- The cache that they share. -/
  cache : Cache

namespace Batch

/-- Loads of some paths that have not taken any step. -/
def start (cache : Cache) (paths : List String) : Batch :=
  ⟨paths.map fun path => ⟨path, .asking⟩, cache⟩

/-- One of the loads takes its next step, while files read as given. There is none for a number too
high. -/
def step (digest : Digest) (files : Snapshot) (batch : Batch) (turn : Nat) : Batch :=
  match batch.tasks[turn]? with
  | none => batch
  | some task =>
    let (stage, cache) := task.stage.next digest task.path (files task.path) batch.cache
    ⟨batch.tasks.set turn { task with stage }, cache⟩

/-- The loads take steps in turns. -/
def run (digest : Digest) (files : Snapshot) (batch : Batch) (turns : List Nat) : Batch :=
  turns.foldl (step digest files) batch

/-- What the loads give once all of them are over: the artifacts in the order of the paths, or the
first error in that order. -/
def result? (batch : Batch) : Option (Except LoadError (List Artifact)) :=
  (batch.tasks.mapM fun task : Task => task.stage.answer?).map fun answers => answers.mapM id

/-- How many steps a load may still take. -/
def stepsLeft (batch : Batch) (turn : Nat) : Nat :=
  match batch.tasks[turn]? with
  | none => 0
  | some task => task.stage.stepsLeft

/-- Whether loads of the given paths can have come where they are. -/
structure IsSound (digest : Digest) (texts : List String) (files : Snapshot) (paths : List String)
    (batch : Batch) : Prop where
  /-- There is a load for each path. -/
  paths : batch.tasks.map Task.path = paths
  /-- Each load can have come where it is. -/
  tasks : ∀ task ∈ batch.tasks, task.stage.IsSound digest task.path (files task.path)
  /-- What is kept is described by the texts. -/
  cache : batch.cache.IsSound digest texts

variable {digest : Digest} {texts : List String} {files : Snapshot} {paths : List String}
  {batch : Batch}

/-- Loads can start with a sound cache. -/
theorem isSound_start {cache : Cache} (sound : cache.IsSound digest texts) :
    (start cache paths).IsSound digest texts files paths where
  paths := by rw [start, List.map_map]; exact List.map_id _
  tasks task mem := by
    obtain ⟨path, -, rfl⟩ := List.mem_map.1 mem
    exact .asking
  cache := sound

/-- Where loads are sound, they are so after the step of any of them. -/
theorem IsSound.step (sound : batch.IsSound digest texts files paths)
    (apart : TellsApart digest texts)
    (involved : ∀ path ∈ paths, IsAmong texts (files path))
    (turn : Nat) : (batch.step digest files turn).IsSound digest texts files paths := by
  unfold Batch.step
  split
  case h_1 => exact sound
  case h_2 task found =>
    have mem : task ∈ batch.tasks := List.mem_of_getElem? found
    have listed : task.path ∈ paths := sound.paths ▸ List.mem_map_of_mem mem
    obtain ⟨own, after⟩ := (sound.tasks task mem).next sound.cache apart (involved _ listed)
    refine ⟨?_, fun other inside => ?_, after⟩
    · -- The step of a load does not change its path.
      have same : (batch.tasks.map Task.path)[turn]? = some task.path := by
        rw [List.getElem?_map, found, Option.map_some]
      obtain ⟨inside, path⟩ := List.getElem?_eq_some_iff.1 same
      rw [List.map_set, ← sound.paths, ← path]
      exact List.set_getElem_self inside
    · rcases List.mem_or_eq_of_mem_set inside with before | rfl
      · exact sound.tasks other before
      · exact own

/-- Where loads are sound, they stay so, whichever of them comes when. -/
theorem IsSound.run (sound : batch.IsSound digest texts files paths)
    (apart : TellsApart digest texts)
    (involved : ∀ path ∈ paths, IsAmong texts (files path))
    (turns : List Nat) : (batch.run digest files turns).IsSound digest texts files paths := by
  induction turns generalizing batch with
  | nil => exact sound
  | cons turn rest ih => exact ih (sound.step apart involved turn)

/-- What sound loads give that are over is what is read without a cache. -/
theorem answers_eq {tasks : List Task}
    (sound : ∀ task ∈ tasks, task.stage.IsSound digest task.path (files task.path))
    {answers : List (Except LoadError Artifact)}
    (all : (tasks.mapM fun task => task.stage.answer?) = some answers) :
    answers = (tasks.map Task.path).map fun path => readContents path (files path) := by
  induction tasks generalizing answers with
  | nil =>
    cases all
    rfl
  | cons task rest ih =>
    obtain ⟨own, later⟩ := List.forall_mem_cons.1 sound
    rw [List.mapM_cons] at all
    obtain ⟨answer, given, all⟩ := Option.bind_eq_some_iff.1 all
    obtain ⟨others, more, all⟩ := Option.bind_eq_some_iff.1 all
    cases all
    rw [own.answer?_eq given, ih later more]
    rfl

/-- Loads of which each is over are over together. -/
theorem exists_answers {tasks : List Task}
    (each : ∀ task ∈ tasks, ∃ answer, task.stage.answer? = some answer) :
    ∃ answers, (tasks.mapM fun task => task.stage.answer?) = some answers := by
  induction tasks with
  | nil => exact ⟨[], rfl⟩
  | cons task rest ih =>
    obtain ⟨⟨answer, given⟩, later⟩ := List.forall_mem_cons.1 each
    obtain ⟨others, more⟩ := ih later
    refine ⟨answer :: others, ?_⟩
    rw [List.mapM_cons, given, more]
    rfl

/-- What sound loads give together is what is read without a cache. -/
theorem IsSound.result_eq (sound : batch.IsSound digest texts files paths)
    {result : Except LoadError (List Artifact)} (given : batch.result? = some result) :
    result = paths.mapM fun path => readContents path (files path) := by
  obtain ⟨answers, all, rfl⟩ := Option.map_eq_some_iff.1 given
  rw [answers_eq sound.tasks all, sound.paths, List.mapM_map]
  rfl

/-- A step leaves its load fewer to take, and the others as many as before. -/
theorem stepsLeft_step (batch : Batch) (turn other : Nat) :
    (batch.step digest files turn).stepsLeft other ≤
      batch.stepsLeft other - if turn = other then 1 else 0 := by
  unfold step
  split
  case h_1 missing =>
    by_cases same : turn = other
    · subst same
      rw [stepsLeft, missing]
      exact Nat.zero_le _
    · rw [if_neg same]
      exact Nat.le_refl _
  case h_2 task found =>
    obtain ⟨inside, -⟩ := List.getElem?_eq_some_iff.1 found
    rw [stepsLeft, List.getElem?_set]
    by_cases same : turn = other
    · subst same
      rw [if_pos rfl, if_pos inside, if_pos rfl, stepsLeft, found]
      exact Stage.stepsLeft_next
    · rw [if_neg same, if_neg same]
      exact Nat.le_refl _

/-- Turns leave a load as many steps fewer as it has had turns. -/
theorem stepsLeft_run (batch : Batch) (turns : List Nat) (turn : Nat) :
    (batch.run digest files turns).stepsLeft turn ≤ batch.stepsLeft turn - turns.count turn := by
  induction turns generalizing batch with
  | nil => exact Nat.le_refl _
  | cons first rest ih =>
    have own : (batch.step digest files first).stepsLeft turn ≤ _ := stepsLeft_step batch first turn
    calc (batch.run digest files (first :: rest)).stepsLeft turn
        ≤ (batch.step digest files first).stepsLeft turn - rest.count turn := ih _
      _ ≤ batch.stepsLeft turn - (if first = turn then 1 else 0) - rest.count turn :=
          Nat.sub_le_sub_right own _
      _ = batch.stepsLeft turn - (first :: rest).count turn := by
          rw [Nat.sub_sub, Nat.add_comm]
          simp only [List.count_cons, beq_iff_eq]

/-- A load that starts takes no more than two steps. -/
theorem stepsLeft_start (cache : Cache) (paths : List String) (turn : Nat) :
    (start cache paths).stepsLeft turn ≤ 2 := by
  rw [stepsLeft, start, List.getElem?_map]
  cases paths[turn]? with
  | none => exact Nat.zero_le 2
  | some path => exact Nat.le_refl 2

/-- Loads that have no steps left are over. -/
theorem exists_result? (ended : ∀ turn < batch.tasks.length, batch.stepsLeft turn = 0) :
    ∃ result, batch.result? = some result := by
  have each : ∀ task ∈ batch.tasks, ∃ answer, task.stage.answer? = some answer := by
    intro task mem
    obtain ⟨turn, inside, rfl⟩ := List.getElem_of_mem mem
    refine Stage.exists_answer? ?_
    rw [← ended turn inside, stepsLeft, List.getElem?_eq_getElem inside]
  obtain ⟨answers, all⟩ : ∃ answers, (batch.tasks.mapM fun task => task.stage.answer?) =
      some answers := exists_answers each
  exact ⟨_, Option.map_eq_some_iff.2 ⟨answers, all, rfl⟩⟩

/-- Loads of which each has had two turns are over. -/
theorem exists_result?_run {cache : Cache} {turns : List Nat}
    (sound : ((start cache paths).run digest files turns).IsSound digest texts files paths)
    (enough : ∀ turn < paths.length, 2 ≤ turns.count turn) :
    ∃ result, ((start cache paths).run digest files turns).result? = some result := by
  refine exists_result? fun turn inside => ?_
  have length : _ = paths.length := congrArg List.length sound.paths
  rw [List.length_map] at length
  have left : ((start cache paths).run digest files turns).stepsLeft turn ≤ _ :=
    stepsLeft_run (start cache paths) turns turn
  have first := stepsLeft_start cache paths turn
  have had := enough turn (length ▸ inside)
  omega

end Batch

/-- The cache makes no difference. Whatever has happened to files and to the cache, each load gives
what the file holds then, read without a cache, and a load that fails leaves the cache as it is.
Loads of several paths, one after another or step by step in any order, give the artifacts in the
order of the paths or the first error in that order; they are over when each has had two turns. -/
theorem cache_is_invisible (digest : Digest) (files : Snapshot) (events : List Event)
    (paths : List String)
    (apart : TellsApart digest (loadedTexts files (events ++ paths.map .load))) :
    let session := Session.afterAll digest ⟨files, .empty⟩ events
    let direct := paths.mapM fun path => readContents path (session.files path)
    Session.answers digest ⟨files, .empty⟩ events = answersWithoutCache files events ∧
      (∀ (cache : Cache) (path : String) (contents : Option Contents) (error : LoadError),
        (cache.load digest path contents).1 = .error error →
          (cache.load digest path contents).2 = cache) ∧
      (session.cache.loadAll digest (paths.map fun path => (path, session.files path))).1 =
        direct ∧
      ∀ turns : List Nat,
        let batch := (Batch.start session.cache paths).run digest session.files turns
        (∀ result, batch.result? = some result → result = direct) ∧
          ((∀ turn < paths.length, 2 ≤ turns.count turn) → batch.result? = some direct) := by
  intro session direct
  -- The texts are those of what has happened and those of the loads that follow.
  have parts : loadedTexts files (events ++ paths.map .load) =
      loadedTexts files events ++ loadedTexts session.files (paths.map .load) :=
    Session.loadedTexts_append digest ⟨files, .empty⟩ events _
  generalize loadedTexts files (events ++ paths.map .load) = texts at apart parts
  have before : ∀ text ∈ loadedTexts files events, text ∈ texts := fun text mem =>
    parts ▸ List.mem_append_left _ mem
  have now : ∀ path ∈ paths, IsAmong texts (session.files path) :=
    fun path mem text contents =>
      parts ▸ List.mem_append_right _ (isAmong_loadedTexts mem text contents)
  have sound : session.cache.IsSound digest texts :=
    @Session.isSound_afterAll digest texts ⟨files, .empty⟩ events .empty before
  refine ⟨Session.answers_eq .empty apart before,
    fun cache path contents error => Cache.load_of_error, ?_, fun turns => ?_⟩
  · rw [sound.loadAll_eq apart, List.mapM_map]
    · rfl
    · intro item mem
      obtain ⟨path, inside, rfl⟩ := List.mem_map.1 mem
      exact now path inside
  · have after := (Batch.isSound_start sound).run apart now turns
    refine ⟨fun result => after.result_eq, fun enough => ?_⟩
    obtain ⟨result, given⟩ := Batch.exists_result?_run after enough
    rw [given, after.result_eq given]

/-- What the paths of a directory read as. -/
def Snapshot.ofTree (tree : Files.Tree) : Snapshot := fun path =>
  (tree.read? path).map .text

/-- A directory that holds the artifact of a contract. -/
def folder (contract : String) : Snapshot :=
  .ofTree (.directory
    [("Module.json", .file ("\x7b\"contractName\":\"" ++ contract ++ "\"\x7d"))])

/-- An artifact is loaded, replaced, loaded under another path and again, removed, asked for,
forgotten and put back. -/
def sampleEvents : List Event :=
  [.load "Module.json", .change (folder "Core"), .load "./Module.json", .load "Module.json",
    .change (.ofTree .empty), .load "Module.json", .invalidate "Module.json",
    .change (folder "Owner")]

/-- The name of a contract that was loaded, or what is said about the file. -/
def shown : Except LoadError Artifact → String
  | .ok artifact => artifact.contractName
  | .error error => error.message

/-- A replaced artifact is loaded again, and two loads that both find it missing in the cache give
the same. The digest of a text is the word that its bytes spell here. -/
theorem replaced_artifact_is_loaded_again :
    TellsApart Keccak.wordOfBytes (loadedTexts (folder "Owner")
      (sampleEvents ++ ["Module.json", "Module.json"].map .load)) ∧
    (Session.answers Keccak.wordOfBytes ⟨folder "Owner", .empty⟩ sampleEvents).map shown =
      ["Owner", "Core", "Core", "failed to read Module.json"] ∧
    (((Batch.start (Session.afterAll Keccak.wordOfBytes ⟨folder "Owner", .empty⟩ sampleEvents).cache
        ["Module.json", "Module.json"]).run Keccak.wordOfBytes (folder "Owner")
          [0, 1, 1, 0]).result?.bind Except.toOption).map (List.map Artifact.contractName) =
      some ["Owner", "Owner"] := by
  have apart : TellsApart Keccak.wordOfBytes (loadedTexts (folder "Owner")
      (sampleEvents ++ ["Module.json", "Module.json"].map .load)) := by
    unfold TellsApart
    decide +kernel
  obtain ⟨answers, -, -, together⟩ :=
    cache_is_invisible Keccak.wordOfBytes (folder "Owner") sampleEvents _ apart
  refine ⟨apart, ?_, ?_⟩
  · rw [answers]
    decide +kernel
  · have given := (together [0, 1, 1, 0]).2 (by decide)
    have files : (Session.afterAll Keccak.wordOfBytes ⟨folder "Owner", .empty⟩
        sampleEvents).files = folder "Owner" := rfl
    rw [files] at given
    rw [given]
    decide +kernel

end ModularRouter.Artifact
