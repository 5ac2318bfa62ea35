import ModularRouter.Proofs.Storage.Extraction
import ModularRouter.Proofs.Storage.ReadableDumps
import ModularRouter.Proofs.Storage.Unchanged

/-!
# Dumps keyed by name

Layouts are looked up by name, and so are the layouts of two dumps when these are compared. In a
dump that is collected no two layouts have one name, and inserting keeps it so, but what is read is
taken as it is: a text that names a layout twice gives a dump that does, until it is collected again
(`keyed_by_name_iff`). A dump that is keyed finds every layout and does not differ from itself.
-/

namespace ModularRouter.Storage

namespace Dump

variable {dump : Dump}

/-- Whether no two layouts have one name. -/
def IsKeyed (dump : Dump) : Prop :=
  (dump.layouts.map Layout.name).Nodup

/-- Whether no two layouts of a dump and no two structs of a layout have one name. -/
structure HasDistinctNames (dump : Dump) : Prop where
  /-- No two layouts have one name. -/
  layouts : (dump.layouts.map Layout.name).Nodup
  /-- No two structs of a layout have one name. -/
  structs : ∀ layout ∈ dump.layouts, (layout.structs.map StructLayout.name).Nodup

/-- Inserting makes no difference to whether a dump is keyed. -/
theorem isKeyed_insert_iff {layout : Layout} : (dump.insert layout).IsKeyed ↔ dump.IsKeyed := by
  unfold IsKeyed insert
  by_cases known : layout.name ∈ dump.layouts.map Layout.name
  · -- The first layout of the name is replaced; a second one would stay.
    rw [map_name_insertInto_of_mem known]
  · rw [insertInto_of_notMem known, List.map_append, List.map_singleton, ← List.concat_eq_append,
      List.nodup_concat]
    exact and_iff_right known

/-- Every layout of a keyed dump is found under its name. -/
theorem IsKeyed.get?_eq (keyed : dump.IsKeyed) {layout : Layout} (mem : layout ∈ dump.layouts) :
    dump.get? layout.name = some layout :=
  Comparison.find?_eq_some_of_mem keyed mem

end Dump

/-! ## Comparing a dump with itself -/

namespace Comparison

mutual

/-- A shape does not differ from itself. -/
theorem shapeChanges_self (path : String) : (shape : Shape) → shapeChanges path shape shape = []
  | .builtin value => by rw [shapeChanges, builtinChanges, if_pos rfl]
  | .struct _ _ members _ => by
    rw [shapeChanges, typeRename, if_pos rfl, memberChanges_self (.start path members) members rfl]
    rfl
  | .mapping _ key value => by
    rw [shapeChanges, keyChanges, if_pos rfl, shapeChanges_self _ value]
    rfl
  | .array _ value length => by
    rw [shapeChanges, if_neg (not_not.2 rfl), if_neg fun moved => moved.1 rfl]
    exact shapeChanges_self _ value
  | .enum _ _ members => by
    rw [shapeChanges, typeRename, if_pos rfl, enumMemberChanges, if_pos rfl]
    rfl

/-- Members do not differ from themselves where they start at one position. -/
theorem memberChanges_self (progress : Progress) : (members : List Shape) →
    progress.old = progress.new → memberChanges progress members members = []
  | [], _ => by rw [memberChanges]; rfl
  | member :: rest, start => by
    have next : (progress.advance member member).old = (progress.advance member member).new := by
      rw [Progress.advance, start]
    rw [memberChanges, renameChanges_eq_nil_of_name?_eq rfl, start, positionChanges, if_pos rfl,
      shapeChanges_self _ member, memberChanges_self _ rest next]
    rfl

end

/-- A layout with structs of different names does not differ from itself. -/
theorem layoutChanges_self {layout : Layout}
    (distinct : (layout.structs.map StructLayout.name).Nodup) :
    layoutChanges layout layout = [] := by
  refine (layoutChanges_eq_nil_iff distinct distinct).2 ⟨rfl, fun _ => Iff.rfl, ?_⟩
  intro struct mem other inside same
  obtain rfl := List.inj_on_of_nodup_map distinct mem inside same
  exact memberChanges_self _ _ rfl

/-- A keyed dump does not differ from itself. -/
theorem compare_self {dump : Dump} (keyed : dump.IsKeyed)
    (structs : ∀ layout ∈ dump.layouts, (layout.structs.map StructLayout.name).Nodup) :
    compare dump dump = [] := by
  refine (compare_eq_nil_iff keyed keyed).2 ⟨fun _ => Iff.rfl, ?_⟩
  intro layout mem other inside same
  obtain rfl := List.inj_on_of_nodup_map keyed mem inside same
  exact layoutChanges_self (structs layout mem)

end Comparison

/-! ## How dumps come about -/

/-- Where a dump comes from. -/
inductive Origin where
  /-- It is new, without layouts. -/
  | new
  /-- It is collected from layouts. -/
  | collected (layouts : List Layout)
  /-- It is read from a text. -/
  | read (text : String)

/-- The dump that comes from there. -/
def Origin.dump? : Origin → Option Dump
  | .new => some .empty
  | .collected layouts => some (.ofLayouts layouts)
  | .read text => Dump.read? text

/-- What is done with a dump. -/
inductive Revision where
  /-- A layout is inserted. -/
  | insert (layout : Layout)
  /-- The places of members are recorded, and the layouts collected again. -/
  | recordPositions
  /-- The dump is written and read again. -/
  | reload

/-- The dump after a revision. -/
def Revision.apply? (dump : Dump) : Revision → Option Dump
  | .insert layout => some (dump.insert layout)
  | .recordPositions => some dump.withPositions
  | .reload => Dump.read? dump.write

/-- The dump from somewhere after some revisions. -/
def revised? (origin : Origin) (revisions : List Revision) : Option Dump := do
  revisions.foldlM Revision.apply? (← origin.dump?)

/-- A revision leaves a dump keyed that is, and makes it so only by collecting its layouts. -/
theorem isKeyed_iff_of_apply? {dump after : Dump} {revision : Revision}
    (done : revision.apply? dump = some after) :
    after.IsKeyed ↔ dump.IsKeyed ∨ revision = .recordPositions := by
  cases revision with
  | insert layout =>
    cases done
    rw [Dump.isKeyed_insert_iff]
    exact (or_iff_left nofun).symm
  | recordPositions =>
    cases done
    exact iff_of_true (Dump.nodup_map_name_ofLayouts _) (.inr rfl)
  | reload =>
    obtain rfl := Dump.eq_of_read?_write done
    exact (or_iff_left nofun).symm

/-- Revisions leave a dump keyed that is, and make it so only by collecting its layouts. -/
theorem isKeyed_iff_of_foldlM_apply? {dump after : Dump} {revisions : List Revision}
    (done : revisions.foldlM Revision.apply? dump = some after) :
    after.IsKeyed ↔ dump.IsKeyed ∨ .recordPositions ∈ revisions := by
  induction revisions generalizing dump with
  | nil =>
    cases done
    exact (or_iff_left List.not_mem_nil).symm
  | cons revision rest ih =>
    rw [List.foldlM_cons] at done
    obtain ⟨middle, first, later⟩ := Option.bind_eq_some_iff.1 done
    rw [ih later, isKeyed_iff_of_apply? first, List.mem_cons, or_assoc, eq_comm]

/-- A dump is keyed in the beginning unless it is read from a text that names a layout twice. -/
theorem Origin.isKeyed_iff {origin : Origin} {dump : Dump} (made : origin.dump? = some dump) :
    dump.IsKeyed ↔ ∀ text, origin = .read text → ∀ recorded, Dump.read? text = some recorded →
      (recorded.layouts.map Layout.name).Nodup := by
  cases origin with
  | new =>
    cases made
    exact iff_of_true List.nodup_nil nofun
  | collected layouts =>
    cases made
    exact iff_of_true (Dump.nodup_map_name_ofLayouts _) nofun
  | read text =>
    constructor
    · rintro keyed _ ⟨⟩ recorded found
      cases made.symm.trans found
      exact keyed
    · exact fun each => each text rfl dump made

/-- However a dump has come about, no two of its layouts have one name exactly if it was not read
from a text that names a layout twice or its layouts have been collected since. Then every layout is
found under its name, and, where no layout has two structs of one name, the dump does not differ
from itself. -/
theorem keyed_by_name_iff (origin : Origin) (revisions : List Revision) (dump : Dump)
    (made : revised? origin revisions = some dump) :
    ((dump.layouts.map Layout.name).Nodup ↔
      (∀ text, origin = .read text → ∀ recorded, Dump.read? text = some recorded →
        (recorded.layouts.map Layout.name).Nodup) ∨ .recordPositions ∈ revisions) ∧
    ((dump.layouts.map Layout.name).Nodup →
      (∀ layout ∈ dump.layouts, dump.get? layout.name = some layout) ∧
      ((∀ layout ∈ dump.layouts, (layout.structs.map StructLayout.name).Nodup) →
        compare? (some dump) dump = [])) := by
  obtain ⟨first, begun, done⟩ := Option.bind_eq_some_iff.1 made
  have keyed_iff := isKeyed_iff_of_foldlM_apply? done
  rw [Origin.isKeyed_iff begun] at keyed_iff
  exact ⟨keyed_iff, fun keyed =>
    ⟨fun layout => Dump.IsKeyed.get?_eq keyed, Comparison.compare_self keyed⟩⟩

/-- An account with a balance. -/
def balanceAccount : Layout :=
  ⟨.library, "Account", [⟨"Data", [.builtin ⟨"uint256", some "balance", none, none, some 32⟩]⟩]⟩

/-- An account with an owner. -/
def ownerAccount : Layout :=
  ⟨.library, "Account", [⟨"Data", [.builtin ⟨"address", some "owner", none, none, some 20⟩]⟩]⟩

/-- A dump with two layouts of one name. -/
def twinDump : Dump :=
  ⟨[balanceAccount, ownerAccount]⟩

/-- The text of the two layouts is read as both of them. -/
theorem read?_write_twinDump : Dump.read? twinDump.write = some twinDump :=
  (Dump.read?_write_eq_some_iff (by decide)).2 (by decide)

/-- Collected again, the layouts read from the text of two have different names, and do not differ
from themselves. -/
theorem collected_twins_are_one :
    revised? (.read twinDump.write) [.recordPositions] = some twinDump.withPositions ∧
      (twinDump.withPositions.layouts.map Layout.name).Nodup ∧
      compare? (some twinDump.withPositions) twinDump.withPositions = [] := by
  have made : revised? (.read twinDump.write) [.recordPositions] =
      some twinDump.withPositions := by
    rw [revised?, Origin.dump?, read?_write_twinDump]
    rfl
  obtain ⟨keyed_iff, consequences⟩ := keyed_by_name_iff _ _ _ made
  have keyed := keyed_iff.2 (.inr List.mem_cons_self)
  exact ⟨made, keyed, (consequences keyed).2 (by decide)⟩

/-- Two layouts of one name are read as they are and kept when they are written: the second one is
not found under its name, and the dump differs from itself by a breaking difference. -/
theorem read_twins_are_kept :
    revised? (.read twinDump.write) [.reload] = some twinDump ∧
      (∀ layout ∈ twinDump.layouts, (layout.structs.map StructLayout.name).Nodup) ∧
      ¬ (twinDump.layouts.map Layout.name).Nodup ∧
      (∃ layout ∈ twinDump.layouts, twinDump.get? layout.name ≠ some layout) ∧
      compare? (some twinDump) twinDump =
        [Comparison.log .update "Account.Data.balance renamed to owner",
          Comparison.error .update ("Account.Data.owner type changed from uint256 to address, " ++
            "size changed from 32 bytes to 20 bytes")] := by
  refine ⟨?_, by decide, by decide, ⟨ownerAccount, by decide, by decide⟩, by decide⟩
  rw [revised?, Origin.dump?, read?_write_twinDump, Option.bind_eq_bind, Option.bind_some,
    List.foldlM_cons, Revision.apply?, read?_write_twinDump]
  rfl

end ModularRouter.Storage
