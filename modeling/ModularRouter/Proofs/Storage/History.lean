import ModularRouter.Proofs.Storage.Compatibility
import ModularRouter.Proofs.Storage.DumpEncoding
import ModularRouter.Proofs.Storage.Preservation
import ModularRouter.Storage.Upgrade

/-!
# Histories of upgrades

Versions of a project are upgraded to one after the other, each compared with the record that the
ones before it have left. `Version.recordAfter_eq` says what one version does to the record: it
takes the place of the record if it is accepted, and otherwise nothing changes. What is read from
the record of an accepted version is the dump of that version, so every accepted version was
compared with the one accepted before it, and `storage_stays_put` follows by induction on the
versions: a member that is there all the time never moves.
-/

namespace ModularRouter.Storage

open Ast (SourceUnit)

/-- A version of a project with what is selected of it. -/
structure Version where
  /-- Its source units. -/
  units : List SourceUnit
  /-- What is looked at. -/
  selection : Selection

namespace Version

/-- The dump that would be recorded of a version. -/
def dump (version : Version) : Except ExtractionError Dump :=
  versionDump version.units version.selection

/-- The record after an upgrade to a version. -/
def recordAfter (record : Option String) (version : Version) : Option String :=
  (upgradeStep version.selection record version.units).1

/-- Whether an upgrade to a version is not accepted: its storage cannot be told, the record is no
dump, or stored data would be read back wrong. -/
inductive Refused (record : Option String) (version : Version) : Prop where
  /-- The storage cannot be told. -/
  | extraction {fault : ExtractionError} : version.dump = .error fault → Refused record version
  /-- The record is no dump. -/
  | record {fault : UpgradeError} : recorded? record = .error fault → Refused record version
  /-- Stored data would be read back wrong. -/
  | breaking {current : Dump} {previous : Option Dump} {mutations : BreakingMutations} :
      version.dump = .ok current → recorded? record = .ok previous →
      ensureCompatible (compare? previous current) = .error mutations → Refused record version

/-- The dump of a version, if the upgrade to it is accepted. -/
def accepted? (record : Option String) (version : Version) : Option Dump :=
  match version.dump, recorded? record with
  | .ok current, .ok previous =>
    match ensureCompatible (compare? previous current) with
    | .ok () => some current
    | .error _ => none
  | _, _ => none

/-- A version that is not accepted is refused. -/
theorem accepted?_eq_none_iff {record : Option String} {version : Version} :
    accepted? record version = none ↔ Refused record version := by
  rw [accepted?]
  constructor
  · intro none
    split at none
    · next current previous extracted read =>
      split at none
      · cases none
      · next mutations verdict => exact .breaking extracted read verdict
    · next other =>
      cases extracted : version.dump with
      | error fault => exact .extraction extracted
      | ok current =>
        cases read : recorded? record with
        | error fault => exact .record read
        | ok previous => exact absurd read (other current previous extracted)
  · intro refused
    cases refused with
    | extraction extracted => simp only [extracted]
    | record read =>
      rw [read]
      cases version.dump <;> rfl
    | breaking extracted read verdict => simp only [extracted, read, verdict]

/-- What an upgrade does to the record: an accepted version is recorded, any other one changes
nothing. -/
theorem recordAfter_eq (record : Option String) (version : Version) :
    version.recordAfter record = ((accepted? record version).map Dump.write).or record := by
  rw [recordAfter, upgradeStep, Upgrade.ofVersion, accepted?, ← dump]
  cases version.dump with
  | error fault => rfl
  | ok current =>
    cases read : recorded? record with
    | error fault =>
      dsimp only
      rw [Upgrade.ofDump, read]
      rfl
    | ok previous =>
      have found : Upgrade.ofDump record current =
          .ok ⟨compare? previous current, current.write⟩ := by
        rw [Upgrade.ofDump, read]
        rfl
      dsimp only
      rw [found]
      dsimp only [Upgrade.accept]
      cases ensureCompatible (compare? previous current) <;> rfl

/-- A version that is refused leaves the record as it is. -/
theorem Refused.recordAfter_eq {record : Option String} {version : Version}
    (refused : Refused record version) : version.recordAfter record = record := by
  rw [Version.recordAfter_eq, accepted?_eq_none_iff.2 refused]
  rfl

end Version

/-! ## Histories -/

/-- The record after upgrades to versions, one after the other. -/
def recordAfterAll (record : Option String) (versions : List Version) : Option String :=
  versions.foldl (fun record version => version.recordAfter record) record

/-- The dumps of the accepted versions, in their order. -/
def acceptedDumps (record : Option String) : List Version → List Dump
  | [] => []
  | version :: rest =>
    (version.accepted? record).toList ++ acceptedDumps (version.recordAfter record) rest

/-- The members of a struct of a layout, if the dump has them. -/
def Dump.members? (dump : Dump) (layoutName structName : String) : Option (List Shape) := do
  let layout ← dump.get? layoutName
  let struct ← layout.getStruct? structName
  some struct.members

/-- Whether a dump has a member at an index of a struct of a layout. -/
def Dump.HasMember (dump : Dump) (layoutName structName : String) (index : Nat) : Prop :=
  ∃ members, dump.members? layoutName structName = some members ∧ index < members.length

/-- Where a member of a struct of a layout stands, if the dump has it. -/
def Dump.memberPosition? (dump : Dump) (layoutName structName : String) (index : Nat) :
    Option Position := do
  let members ← dump.members? layoutName structName
  (packing members).positions[index]?

/-- A dump has the members of a struct when it has the layout and the layout has the struct. -/
theorem Dump.members?_eq_some_iff {dump : Dump} {layoutName structName : String}
    {members : List Shape} :
    dump.members? layoutName structName = some members ↔
      ∃ layout, dump.get? layoutName = some layout ∧
        ∃ struct, layout.getStruct? structName = some struct ∧ struct.members = members := by
  simp only [members?, Option.bind_eq_bind, Option.bind_eq_some_iff, Option.some_inj]

/-- A member that a dump has stands somewhere. -/
theorem Dump.HasMember.exists_memberPosition? {dump : Dump} {layoutName structName : String}
    {index : Nat} (has : dump.HasMember layoutName structName index) :
    ∃ position, dump.memberPosition? layoutName structName index = some position := by
  obtain ⟨members, found, inside⟩ := has
  have placed : index < (packing members).positions.length := by
    rwa [Packing.length_positions]
  rw [memberPosition?, found]
  exact ⟨_, List.getElem?_eq_getElem placed⟩

/-- A member that two dumps have is at one place if nothing between them is breaking. -/
theorem memberPosition?_eq_of_harmless {previous current : Dump}
    (harmless : Harmless (compare previous current)) {layoutName structName : String}
    {olds news : List Shape} (oldMembers : previous.members? layoutName structName = some olds)
    (newMembers : current.members? layoutName structName = some news) {index : Nat}
    (oldInside : index < olds.length) (newInside : index < news.length) :
    previous.memberPosition? layoutName structName index =
      current.memberPosition? layoutName structName index := by
  obtain ⟨before, inPrevious, old, inBefore, rfl⟩ := Dump.members?_eq_some_iff.1 oldMembers
  obtain ⟨layout, inCurrent, new, inLayout, rfl⟩ := Dump.members?_eq_some_iff.1 newMembers
  have layoutNamed : layout.name = layoutName := by simpa using List.find?_some inCurrent
  have structNamed : new.name = structName := by simpa using List.find?_some inLayout
  have kept := (compare_harmless_iff previous current).1 harmless layout
    (Dump.mem_of_get?_eq_some inCurrent) before (by rwa [layoutNamed]) new
    (Layout.mem_of_getStruct?_eq_some inLayout) old (by rwa [structNamed])
  rw [Dump.memberPosition?, Dump.memberPosition?, oldMembers, newMembers]
  exact kept.places index (by omega)

/-- What is read from the record of a dump is that dump. -/
theorem recorded?_write {dump : Dump} {previous : Option Dump}
    (read : recorded? (some dump.write) = .ok previous) : previous = some dump := by
  rw [recorded?, Dump.read?_write] at read
  cases fitting : dump.fits with
  | true =>
    rw [fitting] at read
    cases read
    rfl
  | false =>
    rw [fitting] at read
    cases read

/-- What was accepted after a dump was recorded breaks nothing of it. -/
theorem harmless_of_accepted? {previous current : Dump} {version : Version}
    (accepted : version.accepted? (some previous.write) = some current) :
    Harmless (compare previous current) := by
  rw [Version.accepted?] at accepted
  split at accepted
  · next found before extracted read =>
    split at accepted
    · next verdict =>
      cases accepted
      rw [recorded?_write read] at verdict
      exact (ensureCompatible_eq_ok_iff _).1 verdict
    · cases accepted
  · cases accepted

/-- The first version that is accepted after a dump was recorded breaks nothing of it. -/
theorem harmless_of_head?_acceptedDumps {previous current : Dump} {versions : List Version}
    (first : (acceptedDumps (some previous.write) versions).head? = some current) :
    Harmless (compare previous current) := by
  induction versions with
  | nil => cases first
  | cons version rest ih =>
    rw [acceptedDumps, Version.recordAfter_eq] at first
    cases accepted : version.accepted? (some previous.write) with
    | none =>
      rw [accepted] at first
      exact ih first
    | some dump =>
      rw [accepted] at first
      cases first
      exact harmless_of_accepted? accepted

/-- A version that is accepted breaks nothing of the one accepted before it. -/
theorem harmless_of_consecutive (versions : List Version) {record : Option String} {place : Nat}
    {previous current : Dump}
    (before : (acceptedDumps record versions)[place]? = some previous)
    (after : (acceptedDumps record versions)[place + 1]? = some current) :
    Harmless (compare previous current) := by
  induction versions generalizing record place with
  | nil => cases before
  | cons version rest ih =>
    rw [acceptedDumps, Version.recordAfter_eq] at before after
    cases accepted : version.accepted? record with
    | none =>
      rw [accepted] at before after
      exact ih before after
    | some dump =>
      rw [accepted] at before after
      cases place with
      | zero =>
        cases before
        -- The record that the others are compared with is now the one of the dump.
        exact harmless_of_head?_acceptedDumps (List.head?_eq_getElem?.trans after)
      | succ place => exact ih before after

/-- A member that all dumps from one to another one have is at one place in both. -/
theorem memberPosition?_eq_of_forall_hasMember {record : Option String} {versions : List Version}
    {layoutName structName : String} {index i j : Nat} (ordered : i ≤ j)
    (there : ∀ place, i ≤ place → place ≤ j → ∃ dump,
      (acceptedDumps record versions)[place]? = some dump ∧
        dump.HasMember layoutName structName index) {first last : Dump}
    (firstAt : (acceptedDumps record versions)[i]? = some first)
    (lastAt : (acceptedDumps record versions)[j]? = some last) :
    first.memberPosition? layoutName structName index =
      last.memberPosition? layoutName structName index := by
  induction ordered generalizing last with
  | refl =>
    cases firstAt.symm.trans lastAt
    rfl
  | @step j before ih =>
    obtain ⟨previous, previousAt, olds, oldMembers, oldInside⟩ := there j before (Nat.le_succ j)
    obtain ⟨current, currentAt, news, newMembers, newInside⟩ :=
      there (j + 1) (Nat.le_succ_of_le before) (Nat.le_refl _)
    cases currentAt.symm.trans lastAt
    have unchanged := ih
      (fun place above below => there place above (Nat.le_succ_of_le below)) previousAt
    have harmless := harmless_of_consecutive versions previousAt lastAt
    exact unchanged.trans
      (memberPosition?_eq_of_harmless harmless oldMembers newMembers oldInside newInside)

/-- The record is that of the version accepted last, or what it was before all versions. -/
theorem recordAfterAll_eq (record : Option String) (versions : List Version) :
    recordAfterAll record versions =
      ((acceptedDumps record versions).getLast?.map Dump.write).or record := by
  induction versions generalizing record with
  | nil => rfl
  | cons version rest ih =>
    rw [recordAfterAll, List.foldl_cons, ← recordAfterAll, ih, acceptedDumps,
      Version.recordAfter_eq]
    cases version.accepted? record with
    | none => rfl
    | some dump =>
      rw [Option.toList_some, List.singleton_append, List.getLast?_cons]
      dsimp only [Option.map_some, Option.some_or]
      cases (acceptedDumps (some dump.write) rest).getLast? <;> rfl

/-- Let versions of a project be upgraded to one after the other, from any record on. A version
whose upgrade is refused leaves the record as it was, so that the record is always the text of the
version accepted last. A member of a struct that all accepted versions from one to another one have
stands at the same place in both. -/
theorem storage_stays_put (record : Option String) (versions : List Version) :
    (∀ before version after, versions = before ++ version :: after →
      version.Refused (recordAfterAll record before) →
        recordAfterAll record (before ++ [version]) = recordAfterAll record before) ∧
    recordAfterAll record versions =
      ((acceptedDumps record versions).getLast?.map Dump.write).or record ∧
    ∀ (i j : Nat) (layoutName structName : String) (index : Nat), i ≤ j →
      (∀ place, i ≤ place → place ≤ j → ∃ dump : Dump,
        (acceptedDumps record versions)[place]? = some dump ∧
          dump.HasMember layoutName structName index) →
      ∃ (first last : Dump) (position : Position),
        (acceptedDumps record versions)[i]? = some first ∧
          (acceptedDumps record versions)[j]? = some last ∧
          first.memberPosition? layoutName structName index = some position ∧
          last.memberPosition? layoutName structName index = some position := by
  refine ⟨fun before version after _ refused => ?_, recordAfterAll_eq record versions,
    fun i j layoutName structName index ordered there => ?_⟩
  · rw [recordAfterAll, List.foldl_append, ← recordAfterAll]
    exact refused.recordAfter_eq
  · obtain ⟨first, firstAt, inFirst⟩ := there i (Nat.le_refl i) ordered
    obtain ⟨last, lastAt, -⟩ := there j ordered (Nat.le_refl j)
    obtain ⟨position, stands⟩ := inFirst.exists_memberPosition?
    refine ⟨first, last, position, firstAt, lastAt, stands, ?_⟩
    rw [← memberPosition?_eq_of_forall_hasMember ordered there firstAt lastAt, stands]

/-! ## A history -/

/-- A version of a library with one struct, of members of elementary types. -/
def vaultVersion (members : List (String × String)) : Version where
  units := [⟨"src/Vault.sol", [.contract ⟨1, "Vault", .library, [.structure ⟨2, "Data",
    members.map fun (type, name) => ⟨0, name, some (.elementary type), false, none⟩⟩]⟩]⟩]
  selection := .all

/-- The dump of such a version. -/
def vaultDump (members : List Builtin) : Dump :=
  ⟨[⟨.library, "Vault", [⟨"Data", members.map .builtin⟩]⟩]⟩

/-- The member of the first version. -/
def vaultTotal : Builtin where
  valueType := "uint256"
  name := some "total"
  slot := some 0
  offset := some 0
  size := some 32

/-- A member behind it. -/
def vaultCount : Builtin where
  valueType := "uint256"
  name := some "count"
  slot := some 1
  offset := some 0
  size := some 32

/-- The second version makes the member smaller and is refused. The third one adds a member and is
accepted with the first member where it was. -/
theorem vault_total_stays :
    acceptedDumps none [vaultVersion [("uint256", "total")], vaultVersion [("bool", "total")],
        vaultVersion [("uint256", "total"), ("uint256", "count")]] =
      [vaultDump [vaultTotal], vaultDump [vaultTotal, vaultCount]] ∧
    ∃ position, (vaultDump [vaultTotal]).memberPosition? "Vault" "Data" 0 = some position ∧
      (vaultDump [vaultTotal, vaultCount]).memberPosition? "Vault" "Data" 0 = some position := by
  have first : (vaultVersion [("uint256", "total")]).accepted? none =
      some (vaultDump [vaultTotal]) := rfl
  have record : recorded? (some (vaultDump [vaultTotal]).write) =
      .ok (some (vaultDump [vaultTotal])) := by
    rw [recorded?, Dump.read?_write, if_pos (by decide)]
  have second : (vaultVersion [("bool", "total")]).accepted?
      (some (vaultDump [vaultTotal]).write) = none := by
    rw [Version.accepted?, record]
    rfl
  have third : (vaultVersion [("uint256", "total"), ("uint256", "count")]).accepted?
      (some (vaultDump [vaultTotal]).write) = some (vaultDump [vaultTotal, vaultCount]) := by
    rw [Version.accepted?, record]
    rfl
  have dumps : acceptedDumps none [vaultVersion [("uint256", "total")],
      vaultVersion [("bool", "total")], vaultVersion [("uint256", "total"), ("uint256", "count")]] =
        [vaultDump [vaultTotal], vaultDump [vaultTotal, vaultCount]] := by
    simp only [acceptedDumps, Version.recordAfter_eq, first, second, third, Option.map_some,
      Option.map_none, Option.some_or, Option.none_or, Option.toList_some, Option.toList_none,
      List.nil_append, List.singleton_append]
  refine ⟨dumps, ?_⟩
  obtain ⟨-, -, stays⟩ := storage_stays_put none [vaultVersion [("uint256", "total")],
    vaultVersion [("bool", "total")], vaultVersion [("uint256", "total"), ("uint256", "count")]]
  rw [dumps] at stays
  have there : ∀ place, 0 ≤ place → place ≤ 1 → ∃ dump : Dump,
      [vaultDump [vaultTotal], vaultDump [vaultTotal, vaultCount]][place]? = some dump ∧
        dump.HasMember "Vault" "Data" 0 := by
    intro place _ below
    rcases Nat.le_one_iff_eq_zero_or_eq_one.1 below with rfl | rfl
    · exact ⟨_, rfl, _, rfl, by decide⟩
    · exact ⟨_, rfl, _, rfl, by decide⟩
  obtain ⟨_, _, position, firstAt, lastAt, old, new⟩ := stays 0 1 "Vault" "Data" 0 (by decide) there
  cases firstAt
  cases lastAt
  exact ⟨position, old, new⟩

end ModularRouter.Storage
