import ModularRouter.Proofs.Storage.KeyedDumps

/-!
# Upgrades that only add

A layout may grow at its end, and projects may get new structs and new layouts. `GrownDump` tells an
upgrade that does no more than that: what was there, in its order, and between it what is new.
`growth_reported_exactly` shows that such an upgrade passes and that its report has one line for each
member, struct and layout that is new. It rests on two facts: members are not moved by what is put
behind them (`memberChanges_append`), and new items do not come between the old ones and their names
(`KeepsNames.find?_eq`).
-/

namespace ModularRouter.Storage

/-! ## What is new -/

/-- Something that an upgrade adds. -/
inductive Addition where
  /-- A member of a struct, behind those before its index. -/
  | member (layoutName structName : String) (index : Nat) (shape : Shape)
  /-- A struct of a layout. -/
  | struct (layoutName structName : String)
  /-- A layout. -/
  | layout (kind : LayoutKind) (name : String)
  deriving Repr, DecidableEq

/-- The line of a report on something new. -/
def Addition.mutation : Addition → Mutation
  | .member layoutName structName index shape =>
    ⟨.log, .add, layoutName ++ "." ++ structName ++ "." ++ Comparison.memberName shape index ++
      " added as " ++ shape.typeLabel⟩
  | .struct layoutName structName =>
    ⟨.log, .add, "struct " ++ layoutName ++ "." ++ structName ++ " added"⟩
  | .layout kind name => ⟨.log, .add, "namespace " ++ name ++ " (" ++ kind.toText ++ ") added"⟩

/-- A struct of a layout that has grown. -/
inductive GrownStruct where
  /-- One that was there before, with members put behind its own. -/
  | kept (struct : StructLayout) (behind : List Shape)
  /-- A new one. -/
  | new (struct : StructLayout)

namespace GrownStruct

/-- The struct before, if it was there. -/
def before? : GrownStruct → Option StructLayout
  | .kept struct _ => some struct
  | .new _ => none

/-- The struct after the upgrade. -/
def after : GrownStruct → StructLayout
  | .kept struct behind => ⟨struct.name, struct.members ++ behind⟩
  | .new struct => struct

/-- What is new about the struct. -/
def additions (layoutName : String) : GrownStruct → List Addition
  | .kept struct behind =>
    (behind.zipIdx struct.members.length).map fun (member, index) =>
      .member layoutName struct.name index member
  | .new struct => [.struct layoutName struct.name]

end GrownStruct

/-- A layout of a dump that has grown. -/
inductive GrownLayout where
  /-- One that was there before, with structs that have grown and new ones anywhere between them. -/
  | kept (kind : LayoutKind) (name : String) (structs : List GrownStruct)
  /-- A new one. -/
  | new (layout : Layout)

namespace GrownLayout

/-- The layout before, if it was there. -/
def before? : GrownLayout → Option Layout
  | .kept kind name structs => some ⟨kind, name, structs.filterMap GrownStruct.before?⟩
  | .new _ => none

/-- The layout after the upgrade. -/
def after : GrownLayout → Layout
  | .kept kind name structs => ⟨kind, name, structs.map GrownStruct.after⟩
  | .new layout => layout

/-- What is new about the layout. -/
def additions : GrownLayout → List Addition
  | .kept _ name structs => structs.flatMap (GrownStruct.additions name)
  | .new layout => [.layout layout.kind layout.name]

end GrownLayout

/-- A dump that has grown: its layouts, with new ones anywhere between them. -/
structure GrownDump where
  /-- The layouts after the upgrade, with what has become of each of them. -/
  layouts : List GrownLayout

namespace GrownDump

/-- The dump before. -/
def before (grown : GrownDump) : Dump :=
  ⟨grown.layouts.filterMap GrownLayout.before?⟩

/-- The dump after the upgrade. -/
def after (grown : GrownDump) : Dump :=
  ⟨grown.layouts.map GrownLayout.after⟩

/-- What is new, in the order of the dump after the upgrade. -/
def additions (grown : GrownDump) : List Addition :=
  grown.layouts.flatMap GrownLayout.additions

/-- Whether new layouts and new structs have new names. -/
structure HasNewNames (grown : GrownDump) : Prop where
  /-- No new layout has the name of one that was there. -/
  layouts : ∀ layout, .new layout ∈ grown.layouts →
    layout.name ∉ grown.before.layouts.map Layout.name
  /-- No new struct has the name of one that was in its layout. -/
  structs : ∀ kind name structs, .kept kind name structs ∈ grown.layouts →
    ∀ struct, .new struct ∈ structs →
      struct.name ∉ (structs.filterMap GrownStruct.before?).map StructLayout.name

end GrownDump

namespace Comparison

/-! ## Members behind others -/

/-- Members that only the current struct has are reported one by one. -/
theorem addedMembers_eq_map (layoutName structName : String) (members : List Shape) (index : Nat) :
    addedMembers (layoutName ++ "." ++ structName) index members =
      (members.zipIdx index).map fun entry =>
        (Addition.member layoutName structName entry.2 entry.1).mutation := by
  induction members generalizing index with
  | nil => rfl
  | cons member rest ih =>
    have others := ih (index + 1)
    rw [addedMembers] at others ⊢
    rw [unpairedMembers, others]
    rfl

/-- Members do not differ from themselves with others behind them, which are all that is new. -/
theorem memberChanges_append (progress : Progress) (members behind : List Shape)
    (start : progress.old = progress.new) :
    memberChanges progress members (members ++ behind) =
      addedMembers progress.path (progress.index + members.length) behind := by
  induction members generalizing progress with
  | nil =>
    rw [List.nil_append, memberChanges]
    rfl
  | cons member rest ih =>
    have next : (progress.advance member member).old = (progress.advance member member).new := by
      rw [Progress.advance, start]
    have count : (progress.advance member member).index + rest.length =
        progress.index + (member :: rest).length := by
      rw [Progress.advance, List.length_cons]
      exact Nat.succ_add_eq_add_succ ..
    rw [List.cons_append, memberChanges, renameChanges_eq_nil_of_name?_eq rfl, start,
      positionChanges, if_pos rfl, shapeChanges_self, ih _ next, count]
    rfl

/-- What is reported of a struct with members put behind its own. -/
theorem structChanges_kept (layoutName : String) (struct : StructLayout) (behind : List Shape) :
    structChanges layoutName struct (GrownStruct.kept struct behind).after =
      ((GrownStruct.kept struct behind).additions layoutName).map Addition.mutation := by
  rw [structChanges, GrownStruct.after, memberChanges_append _ _ _ rfl, Progress.start,
    Nat.zero_add, addedMembers_eq_map, GrownStruct.additions, List.map_map]
  rfl

/-! ## New items between others -/

section

variable {α γ : Type} {name : α → String} {before? : γ → Option α} {after : γ → α} {items : List γ}

/-- Whether those of some items that were there before have distinct names and keep them, and all
others get other names. Layouts of dumps and structs of layouts grow so. -/
structure KeepsNames (name : α → String) (before? : γ → Option α) (after : γ → α)
    (items : List γ) : Prop where
  /-- What was there keeps its name. -/
  kept : ∀ item ∈ items, ∀ old, before? item = some old → name (after item) = name old
  /-- No two items that were there have one name. -/
  distinct : ((items.filterMap before?).map name).Nodup
  /-- What is new has another name. -/
  fresh : ∀ item ∈ items, before? item = none →
    name (after item) ∉ (items.filterMap before?).map name

/-- An item is found before the upgrade under its name exactly if it was there. -/
theorem KeepsNames.find?_eq (keeps : KeepsNames name before? after items) {item : γ}
    (mem : item ∈ items) :
    ((items.filterMap before?).find? fun other => name other == name (after item)) =
      before? item := by
  cases state : before? item with
  | none =>
    rw [List.find?_eq_none]
    intro other inside same
    refine keeps.fresh item mem state (List.mem_map.2 ⟨other, inside, ?_⟩)
    exact beq_iff_eq.1 same
  | some old =>
    rw [keeps.kept item mem old state]
    exact find?_eq_some_of_mem keeps.distinct (List.mem_filterMap.2 ⟨item, mem, state⟩)

/-- What was there before the upgrade is found under its name after it. -/
theorem KeepsNames.exists_find?_eq_some (keeps : KeepsNames name before? after items) {old : α}
    (mem : old ∈ items.filterMap before?) :
    ∃ new, ((items.map after).find? fun other => name other == name old) = some new := by
  obtain ⟨item, inside, state⟩ := List.mem_filterMap.1 mem
  rw [← Option.isSome_iff_exists, List.find?_isSome]
  exact ⟨after item, List.mem_map_of_mem inside, beq_iff_eq.2 (keeps.kept item inside old state)⟩

/-- A comparison of items that finds nothing gone finds what is new about each of them. -/
theorem flatMap_after_append_flatMap_before {newChanges oldChanges : α → List Mutation}
    {additions : γ → List Addition}
    (new : ∀ item ∈ items, newChanges (after item) = (additions item).map Addition.mutation)
    (old : ∀ item ∈ items.filterMap before?, oldChanges item = []) :
    (items.map after).flatMap newChanges ++ (items.filterMap before?).flatMap oldChanges =
      (items.flatMap additions).map Addition.mutation := by
  rw [List.flatMap_eq_nil_iff.2 old, List.append_nil, List.flatMap_map, List.map_flatMap]
  exact List.flatMap_congr new

end

/-- What is reported of a layout that has grown. -/
theorem layoutChanges_kept (kind : LayoutKind) (name : String) {structs : List GrownStruct}
    (distinct : ((structs.filterMap GrownStruct.before?).map StructLayout.name).Nodup)
    (fresh : ∀ struct, .new struct ∈ structs →
      struct.name ∉ (structs.filterMap GrownStruct.before?).map StructLayout.name) :
    layoutChanges ⟨kind, name, structs.filterMap GrownStruct.before?⟩
        (GrownLayout.kept kind name structs).after =
      (GrownLayout.kept kind name structs).additions.map Addition.mutation := by
  have keeps : KeepsNames StructLayout.name GrownStruct.before? GrownStruct.after structs := by
    refine ⟨?_, distinct, ?_⟩
    · rintro (⟨struct, behind⟩ | struct) _ old ⟨⟩
      rfl
    · rintro (⟨struct, behind⟩ | struct) mem ⟨⟩
      exact fresh struct mem
  rw [layoutChanges, GrownLayout.after, if_pos rfl, List.nil_append]
  refine flatMap_after_append_flatMap_before ?_ ?_
  · intro item mem
    rw [Layout.getStruct?, keeps.find?_eq mem]
    cases item with
    | kept struct behind => exact structChanges_kept name struct behind
    | new struct => rfl
  · intro old mem
    obtain ⟨new, found⟩ := keeps.exists_find?_eq_some mem
    rw [Layout.getStruct?, found]

end Comparison

/-! ## Growth -/

/-- What is reported of a dump that has grown. -/
theorem compare_grown {grown : GrownDump} (distinct : grown.before.HasDistinctNames)
    (fresh : grown.HasNewNames) :
    compare grown.before grown.after = grown.additions.map Addition.mutation := by
  have keeps : Comparison.KeepsNames Layout.name GrownLayout.before? GrownLayout.after
      grown.layouts := by
    refine ⟨?_, distinct.layouts, ?_⟩
    · rintro (⟨kind, name, structs⟩ | layout) _ old ⟨⟩
      rfl
    · rintro (⟨kind, name, structs⟩ | layout) mem ⟨⟩
      exact fresh.layouts layout mem
  refine Comparison.flatMap_after_append_flatMap_before ?_ ?_
  · intro item mem
    rw [Dump.get?, GrownDump.before, keeps.find?_eq mem]
    cases item with
    | kept kind name inside =>
      refine Comparison.layoutChanges_kept kind name ?_ (fresh.structs kind name inside mem)
      exact distinct.structs _ (List.mem_filterMap.2 ⟨_, mem, rfl⟩)
    | new layout => rfl
  · intro old mem
    obtain ⟨new, found⟩ := keeps.exists_find?_eq_some mem
    rw [Dump.get?, GrownDump.after, found]

/-- Let no two layouts of a dump and no two structs of a layout have one name. If the dump grows by
members behind the others of a struct, and by structs and layouts of new names at any places, then
the comparison finds each of these additions, in the order of the new dump, and nothing else. All of
them are logged as something new, and the upgrade passes. -/
theorem growth_reported_exactly (grown : GrownDump) (distinct : grown.before.HasDistinctNames)
    (fresh : grown.HasNewNames) :
    compare? (some grown.before) grown.after = grown.additions.map Addition.mutation ∧
      (∀ addition : Addition, addition.mutation.severity = .log ∧ addition.mutation.kind = .add) ∧
      ensureCompatible (compare? (some grown.before) grown.after) = .ok () := by
  have logged (addition : Addition) :
      addition.mutation.severity = .log ∧ addition.mutation.kind = .add := by
    cases addition <;> exact ⟨rfl, rfl⟩
  have reported : compare? (some grown.before) grown.after =
      grown.additions.map Addition.mutation := compare_grown distinct fresh
  refine ⟨reported, logged, ?_⟩
  rw [reported, ensureCompatible_eq_ok_iff]
  intro mutation mem
  obtain ⟨addition, -, rfl⟩ := List.mem_map.1 mem
  rw [(logged addition).1]
  decide

/-- A ledger whose accounts refer to accounts. It gets a total and a kind of entries, and a contract
for fees comes before it. -/
def grownLedger : GrownDump :=
  ⟨[.new ⟨.contract, "Fees", []⟩,
    .kept .library "Ledger" [
      .new ⟨"Entry", [.enum "Side" (some "side") ["Debit", "Credit"]]⟩,
      .kept ⟨"Account", [
        .builtin ⟨"ufixed64x10", some "rate", some 0, some 0, some 8⟩,
        .mapping (some "parts") ⟨"address", none, none, none, some 20⟩
          (.struct "Account" none [] (some 2))]⟩
        [.builtin ⟨"bool", some "closed", none, none, some 1⟩,
          .array none (.struct "Account" none [] (some 2)) none]]]⟩

/-- The growth of the ledger is reported in four lines. -/
theorem ledger_growth_reported :
    compare? (some grownLedger.before) grownLedger.after =
      [⟨.log, .add, "namespace Fees (contract) added"⟩,
        ⟨.log, .add, "struct Ledger.Entry added"⟩,
        ⟨.log, .add, "Ledger.Account.closed added as bool"⟩,
        ⟨.log, .add, "Ledger.Account.#3 added as struct Account[]"⟩] := by
  have fresh : grownLedger.HasNewNames := by
    refine ⟨fun layout mem => ?_, fun kind name structs mem struct inside => ?_⟩
    · have own : layout = ⟨.contract, "Fees", []⟩ := by simpa [grownLedger] using mem
      rw [own]
      decide
    · simp only [grownLedger, List.mem_cons, GrownLayout.kept.injEq, List.not_mem_nil, or_false,
        reduceCtorEq, false_or] at mem
      obtain ⟨rfl, rfl, rfl⟩ := mem
      have own : struct = ⟨"Entry", [.enum "Side" (some "side") ["Debit", "Credit"]]⟩ := by
        simpa using inside
      rw [own]
      decide
  rw [(growth_reported_exactly grownLedger ⟨by decide, by decide⟩ fresh).1]
  decide

end ModularRouter.Storage
