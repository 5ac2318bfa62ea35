import Mathlib.Data.List.Nodup
import ModularRouter.Proofs.Storage.Erasure

/-!
# Comparisons that find nothing

Layouts of dumps and structs of layouts are paired by name, so a comparison of two dumps finds
nothing exactly when both have the same names and equally named structs have no differences
(`compare_eq_nil_iff`, `layoutChanges_eq_nil_iff`). Together with what is known of shapes this says
which changes a comparison is silent about: none but those of recorded places and sizes
(`silent_iff_agrees`).
-/

namespace ModularRouter.Storage

namespace Comparison

/-! ## Layouts and structs paired by name -/

section

variable {α : Type} {name : α → String} {olds news items : List α}

/-- What is looked up under a name has that name. -/
theorem name_eq_of_find?_eq_some {own : String} {item : α}
    (found : (items.find? fun other => name other == own) = some item) : name item = own :=
  beq_iff_eq.1 (List.find?_some (p := fun other => name other == own) found)

/-- What is looked up under the name of an item is the item, where all names are different. -/
theorem find?_eq_some_of_mem (distinct : (items.map name).Nodup) {item : α} (mem : item ∈ items) :
    (items.find? fun other => name other == name item) = some item := by
  cases found : items.find? fun other => name other == name item with
  | none => exact absurd (beq_self_eq_true _) (List.find?_eq_none.1 found item mem)
  | some other =>
    have same : name other = name item := name_eq_of_find?_eq_some found
    rw [List.inj_on_of_nodup_map distinct (List.mem_of_find?_eq_some found) mem same]

/-- Items that are paired by name give no difference exactly when both lists have the same names
and equally named items give none. Layouts of dumps and structs of layouts are paired so. -/
theorem pairedChanges_eq_nil_iff {changes : α → α → List Mutation}
    {newChanges oldChanges : α → List Mutation} (oldDistinct : (olds.map name).Nodup)
    (newDistinct : (news.map name).Nodup)
    (newSilent : ∀ new, newChanges new = [] ↔
      ∃ old, (olds.find? fun other => name other == name new) = some old ∧ changes old new = [])
    (oldSilent : ∀ old, oldChanges old = [] ↔
      ∃ new, (news.find? fun other => name other == name old) = some new) :
    news.flatMap newChanges ++ olds.flatMap oldChanges = [] ↔
      (∀ own, own ∈ olds.map name ↔ own ∈ news.map name) ∧
        ∀ old ∈ olds, ∀ new ∈ news, name old = name new → changes old new = [] := by
  simp only [List.append_eq_nil_iff, List.flatMap_eq_nil_iff, newSilent, oldSilent]
  constructor
  · rintro ⟨kept, gone⟩
    refine ⟨fun own => ⟨fun inOld => ?_, fun inNew => ?_⟩, fun old oldMem new newMem same => ?_⟩
    · obtain ⟨old, mem, rfl⟩ := List.mem_map.1 inOld
      obtain ⟨new, found⟩ := gone old mem
      rw [← name_eq_of_find?_eq_some found]
      exact List.mem_map_of_mem (List.mem_of_find?_eq_some found)
    · obtain ⟨new, mem, rfl⟩ := List.mem_map.1 inNew
      obtain ⟨old, found, -⟩ := kept new mem
      rw [← name_eq_of_find?_eq_some found]
      exact List.mem_map_of_mem (List.mem_of_find?_eq_some found)
    · obtain ⟨other, found, silent⟩ := kept new newMem
      rw [← same, find?_eq_some_of_mem oldDistinct oldMem] at found
      cases found
      exact silent
  · rintro ⟨names, silent⟩
    constructor
    · intro new mem
      obtain ⟨old, inOld, same⟩ := List.mem_map.1 ((names (name new)).2 (List.mem_map_of_mem mem))
      rw [← same]
      exact ⟨old, find?_eq_some_of_mem oldDistinct inOld, silent old inOld new mem same⟩
    · intro old mem
      obtain ⟨new, inNew, same⟩ := List.mem_map.1 ((names (name old)).1 (List.mem_map_of_mem mem))
      rw [← same]
      exact ⟨new, find?_eq_some_of_mem newDistinct inNew⟩

end

/-- Two layouts give no difference exactly when they are of one kind, have the same names of structs
and equally named structs give none. -/
theorem layoutChanges_eq_nil_iff {old new : Layout}
    (oldDistinct : (old.structs.map StructLayout.name).Nodup)
    (newDistinct : (new.structs.map StructLayout.name).Nodup) :
    layoutChanges old new = [] ↔
      old.kind = new.kind ∧
        (∀ name, name ∈ old.structs.map StructLayout.name ↔
          name ∈ new.structs.map StructLayout.name) ∧
        ∀ struct ∈ old.structs, ∀ other ∈ new.structs, struct.name = other.name →
          structChanges new.name struct other = [] := by
  rw [layoutChanges, List.append_assoc, List.append_eq_nil_iff]
  refine and_congr ?_ (pairedChanges_eq_nil_iff oldDistinct newDistinct ?_ ?_)
  · by_cases same : old.kind = new.kind <;> simp [same]
  · intro struct
    unfold Layout.getStruct?
    cases old.structs.find? fun other => other.name == struct.name <;> simp
  · intro struct
    unfold Layout.getStruct?
    cases new.structs.find? fun other => other.name == struct.name <;> simp

/-- Two dumps give no difference exactly when they have the same names of layouts and equally named
layouts give none. -/
theorem compare_eq_nil_iff {previous current : Dump}
    (oldDistinct : (previous.layouts.map Layout.name).Nodup)
    (newDistinct : (current.layouts.map Layout.name).Nodup) :
    compare previous current = [] ↔
      (∀ name, name ∈ previous.layouts.map Layout.name ↔
        name ∈ current.layouts.map Layout.name) ∧
        ∀ old ∈ previous.layouts, ∀ new ∈ current.layouts, old.name = new.name →
          layoutChanges old new = [] := by
  refine pairedChanges_eq_nil_iff oldDistinct newDistinct ?_ ?_
  · intro layout
    unfold Dump.get?
    cases previous.layouts.find? fun other => other.name == layout.name <;> simp
  · intro layout
    unfold Dump.get?
    cases current.layouts.find? fun other => other.name == layout.name <;> simp

end Comparison

/-! ## Dumps without a difference -/

/-- A dump in which a layout is known by its name, and a struct by its name inside its layout. -/
structure Dump.IsIndexed (dump : Dump) : Prop where
  /-- No two layouts have one name. -/
  layouts : (dump.layouts.map Layout.name).Nodup
  /-- No two structs of a layout have one name. -/
  structs : ∀ layout ∈ dump.layouts, (layout.structs.map StructLayout.name).Nodup
  /-- Elementary types stand under their names in dumps. -/
  canonical : ∀ layout ∈ dump.layouts, ∀ struct ∈ layout.structs,
    Shape.areCanonical struct.members = true

/-- A dump of the form that projects have in which no struct is nested in itself. -/
structure Dump.IsRegular (dump : Dump) : Prop extends dump.IsIndexed where
  /-- All members have names and are regular inside. -/
  regular : ∀ layout ∈ dump.layouts, ∀ struct ∈ layout.structs,
    Shape.areRegular struct.members = true

/-- Whether two layouts are of one kind and have the same structs, but for the recorded places and
sizes in them and for their order. -/
structure Layout.Agrees (old new : Layout) : Prop where
  /-- They are of one kind. -/
  kind : old.kind = new.kind
  /-- They have the same names of structs. -/
  names : ∀ name, name ∈ old.structs.map StructLayout.name ↔
    name ∈ new.structs.map StructLayout.name
  /-- Equally named structs have the same members in the same order. -/
  members : ∀ struct ∈ old.structs, ∀ other ∈ new.structs, struct.name = other.name →
    struct.members.map Shape.erased = other.members.map Shape.erased

/-- Whether two dumps have the same layouts, but for the recorded places and sizes in them and for
the order of layouts and structs. -/
structure Dump.Agrees (previous current : Dump) : Prop where
  /-- They have the same names of layouts. -/
  names : ∀ name, name ∈ previous.layouts.map Layout.name ↔
    name ∈ current.layouts.map Layout.name
  /-- Equally named layouts agree. -/
  layouts : ∀ old ∈ previous.layouts, ∀ new ∈ current.layouts, old.name = new.name →
    old.Agrees new

/-- Dumps that agree give no difference. -/
theorem compare_eq_nil_of_agrees {previous current : Dump} (oldIndexed : previous.IsIndexed)
    (newIndexed : current.IsIndexed) (agrees : previous.Agrees current) :
    compare previous current = [] := by
  refine (Comparison.compare_eq_nil_iff oldIndexed.layouts newIndexed.layouts).2 ⟨agrees.names, ?_⟩
  intro old oldMem new newMem same
  have inside := agrees.layouts old oldMem new newMem same
  refine (Comparison.layoutChanges_eq_nil_iff (oldIndexed.structs old oldMem)
    (newIndexed.structs new newMem)).2 ⟨inside.kind, inside.names, ?_⟩
  intro struct structMem other otherMem named
  have members := inside.members struct structMem other otherMem named
  rw [← Shape.erasedList_eq_map, ← Shape.erasedList_eq_map] at members
  exact Comparison.memberChanges_eq_nil _ _ _ rfl (oldIndexed.canonical old oldMem struct structMem)
    (newIndexed.canonical new newMem other otherMem) members

/-- Regular dumps that give no difference agree. -/
theorem agrees_of_compare_eq_nil {previous current : Dump} (oldRegular : previous.IsRegular)
    (newRegular : current.IsRegular) (silent : compare previous current = []) :
    previous.Agrees current := by
  obtain ⟨names, layouts⟩ :=
    (Comparison.compare_eq_nil_iff oldRegular.layouts newRegular.layouts).1 silent
  refine ⟨names, fun old oldMem new newMem same => ?_⟩
  obtain ⟨kind, structNames, structs⟩ := (Comparison.layoutChanges_eq_nil_iff
    (oldRegular.structs old oldMem) (newRegular.structs new newMem)).1
      (layouts old oldMem new newMem same)
  refine ⟨kind, structNames, fun struct structMem other otherMem named => ?_⟩
  rw [← Shape.erasedList_eq_map, ← Shape.erasedList_eq_map]
  exact Comparison.erased_eq_of_memberChanges_eq_nil _ _ _
    (oldRegular.regular old oldMem struct structMem)
    (newRegular.regular new newMem other otherMem) (structs struct structMem other otherMem named)

/-- The comparison of two regular dumps finds nothing exactly when they have the same layouts of the
same kinds with the same structs, whose members are the same but for recorded places and sizes. So
everything else that a dump says at any depth is compared, and nothing that stays is reported. -/
theorem silent_iff_agrees (previous current : Dump) (oldRegular : previous.IsRegular)
    (newRegular : current.IsRegular) :
    compare? (some previous) current = [] ↔ previous.Agrees current := by
  rw [compare?]
  exact ⟨agrees_of_compare_eq_nil oldRegular newRegular,
    compare_eq_nil_of_agrees oldRegular.toIsIndexed newRegular.toIsIndexed⟩

/-! ## The same project, recorded and extracted again -/

/-- Accounts as they are recorded, with the places of their members. -/
def recordedAccounts : Layout :=
  ⟨.library, "Accounts", [⟨"Data", [
    .builtin ⟨"address", some "owner", some 0, some 0, some 20⟩,
    .mapping (some "balances") ⟨"address", none, none, none, some 20⟩
      (.builtin ⟨"uint256", none, none, none, some 32⟩)]⟩]⟩

/-- Accounts as they are extracted. -/
def extractedAccounts : Layout :=
  ⟨.library, "Accounts", [⟨"Data", [
    .builtin ⟨"address", some "owner", none, none, some 20⟩,
    .mapping (some "balances") ⟨"address", none, none, none, some 20⟩
      (.builtin ⟨"uint256", none, none, none, some 32⟩)]⟩]⟩

/-- Markets, which have no member that is recorded with a place. -/
def markets : Layout :=
  ⟨.contract, "Markets", [⟨"Data", [
    .array (some "states") (.enum "State" none ["Open", "Closed"]) (some 4)]⟩]⟩

/-- Recorded places and the order of the layouts are no difference. -/
theorem recorded_places_are_silent :
    compare? (some ⟨[recordedAccounts, markets]⟩) ⟨[markets, extractedAccounts]⟩ = [] := by
  refine (silent_iff_agrees _ _ ?_ ?_).2 ⟨?_, ?_⟩
  · exact ⟨⟨by decide, by decide, by decide⟩, by decide⟩
  · exact ⟨⟨by decide, by decide, by decide⟩, by decide⟩
  · intro name
    simp only [recordedAccounts, markets, extractedAccounts, List.map_cons, List.map_nil,
      List.mem_cons, List.not_mem_nil, or_false]
    exact or_comm
  · intro old oldMem new newMem same
    have oldCases : old = recordedAccounts ∨ old = markets := by simpa using oldMem
    have newCases : new = markets ∨ new = extractedAccounts := by simpa using newMem
    rcases oldCases with rfl | rfl <;> rcases newCases with rfl | rfl
    · exact absurd same (by decide)
    · exact ⟨rfl, fun _ => Iff.rfl, by decide⟩
    · exact ⟨rfl, fun _ => Iff.rfl, by decide⟩
    · exact absurd same (by decide)

end ModularRouter.Storage
