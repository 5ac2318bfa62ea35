import ModularRouter.Namespace.Collection
import ModularRouter.Proofs.Association
import ModularRouter.Proofs.Namespace.Assembly
import ModularRouter.Proofs.Namespace.Locals
import ModularRouter.Proofs.Results

/-!
# Recorded and assigned slots

The slots of pointers are found without running the assembly, by following a name to what it was
declared with. `Follows` is what this has in common with a run at every place of a block in which
no variable is changed, so the recorded slots are those that the block assigns without its changes
of variables: `recorded_slots_assigned_iff`. `changed_variable_is_misread` is a block in which a
change makes a difference.
-/

namespace ModularRouter.Namespace

open Ast (Statement YulExpression YulStatement)
open Results (mapM_cons_eq_ok_iff mapM_append_eq_ok_iff)

/-! ## Following names -/

/-- Whether the names around a block of assembly have the values that they are resolved to. -/
def Scope.Holds (digest : Digest) (scope : Scope) (values : String → Slot) : Prop :=
  ∀ name value steps slot, scope.named? name = some value →
    scope.resolve digest steps value = .ok slot → values name = slot

/-- Whether no name around a block of assembly is the slot of a pointer. -/
def Scope.Undotted (scope : Scope) : Prop :=
  ∀ name, (pointerOfSlot? name).isSome → scope.named? name = none

section

variable {digest : Digest} {scope : Scope} {outside : String → Prop} {values : String → Slot}

/-- A new variable makes no difference to a value that is made of names seen before. -/
theorem resolveYul_cons {visible : YulVariables} {fresh : String} (initial : YulExpression)
    (unused : fresh ∉ visible.map Prod.fst) (inner : ¬ outside fresh)
    (closed : ∀ entry ∈ visible, ValueScoped outside (visible.map Prod.fst) entry.2)
    (steps : Nat) {value : YulExpression}
    (stands : ValueScoped outside (visible.map Prod.fst) value) :
    scope.resolveYul digest ((fresh, initial) :: visible) steps value =
      scope.resolveYul digest visible steps value := by
  induction steps generalizing value with
  | zero => rfl
  | succ steps ih =>
    cases value with
    | literal kind text bytes => rfl
    | call function arguments => rfl
    | identifier name =>
      have other : name ≠ fresh := by
        rintro rfl
        exact stands.elim unused inner
      have same : List.lookup name ((fresh, initial) :: visible) = visible.lookup name := by
        rw [List.lookup_cons, beq_false_of_ne other]
      rw [Scope.resolveYul, Scope.resolveYul, same]
      cases found : visible.lookup name with
      | none => rfl
      | some next => exact ih (closed _ (Association.mem_of_lookup_eq_some found))

/-- What following names and running the assembly have in common at one place of it. -/
structure Follows (digest : Digest) (scope : Scope) (outside : String → Prop)
    (values : String → Slot) (visible : YulVariables) (memory : Memory) : Prop where
  /-- The variables are the same. -/
  names : memory.inner.map Prod.fst = visible.map Prod.fst
  /-- They were declared with numbers, with each other or with names that stand for something
  outside. -/
  closed : ∀ entry ∈ visible, ValueScoped outside (visible.map Prod.fst) entry.2
  /-- None of them is the slot of a pointer. -/
  undotted : ∀ name ∈ visible.map Prod.fst, pointerOfSlot? name = none
  /-- Each of them has the value that its declaration is resolved to. -/
  inner : ∀ name value steps slot, visible.lookup name = some value →
    scope.resolveYul digest visible steps value = .ok slot → memory.inner.lookup name = some slot
  /-- All other names have the values they had before the assembly, but for slots of pointers. -/
  outer : ∀ name, pointerOfSlot? name = none → memory.outer name = values name

namespace Follows

variable {visible : YulVariables} {memory : Memory}

/-- A name is a variable in the one exactly when it is in the other. -/
theorem lookup_eq_none (follows : Follows digest scope outside values visible memory)
    {name : String} (free : visible.lookup name = none) : memory.inner.lookup name = none := by
  rw [Association.lookup_eq_none_iff_notMem] at free ⊢
  rwa [follows.names]

/-- A value that is resolved is the value of the expression. -/
theorem value?_eq (follows : Follows digest scope outside values visible memory)
    (holds : scope.Holds digest values) (undotted : scope.Undotted) {steps : Nat}
    {value : YulExpression} {slot : Slot}
    (resolved : scope.resolveYul digest visible steps value = .ok slot) :
    memory.value? value = some slot := by
  cases steps with
  | zero => cases resolved
  | succ steps =>
    cases value with
    | call function arguments => cases resolved
    | literal kind text bytes =>
      rw [Scope.resolveYul] at resolved
      split at resolved
      · next number =>
        rw [slotOfNumber] at resolved
        split at resolved
        · next word found =>
          cases resolved
          rw [Memory.value?, if_pos number, found, Option.map_some]
        · cases resolved
      · cases resolved
    | identifier name =>
      rw [Scope.resolveYul] at resolved
      rw [Memory.value?, Memory.read]
      split at resolved
      · next next found => rw [follows.inner name next steps slot found resolved]
      · next free =>
        split at resolved
        · next next found =>
          -- A name that stands for something around the assembly is not the slot of a pointer.
          have plain : pointerOfSlot? name = none := by
            cases dotted : pointerOfSlot? name with
            | none => rfl
            | some pointer =>
              rw [undotted name (by rw [dotted]; rfl)] at found
              cases found
          rw [follows.lookup_eq_none free, follows.outer name plain,
            holds name next steps slot found resolved]
        · cases resolved

/-- A declaration adds a variable with the value of its initializer. -/
theorem declare (follows : Follows digest scope outside values visible memory)
    (holds : scope.Holds digest values) (undotted : scope.Undotted) {name : String}
    {initial : YulExpression} {slot : Slot}
    (stands : ValueScoped outside (visible.map Prod.fst) initial)
    (unused : name ∉ visible.map Prod.fst) (inner : ¬ outside name)
    (plain : pointerOfSlot? name = none) (found : memory.value? initial = some slot) :
    Follows digest scope outside values ((name, initial) :: visible)
      (memory.declare name slot) where
  names := by rw [Memory.declare, List.map_cons, List.map_cons, follows.names]
  closed := by
    have widen {value : YulExpression} (stands : ValueScoped outside (visible.map Prod.fst) value) :
        ValueScoped outside (((name, initial) :: visible).map Prod.fst) value := by
      cases value with
      | literal kind text bytes => exact stands
      | identifier other => exact stands.imp_left (List.mem_cons_of_mem _)
      | call function arguments => exact stands
    intro entry mem
    rcases List.mem_cons.1 mem with rfl | before
    · exact widen stands
    · exact widen (follows.closed entry before)
  undotted := by
    intro other mem
    rcases List.mem_cons.1 mem with rfl | before
    · exact plain
    · exact follows.undotted other before
  inner := by
    intro other value steps result seen resolved
    rw [Memory.declare]
    by_cases same : other = name
    · subst same
      rw [List.lookup_cons_self] at seen ⊢
      cases seen
      rw [resolveYul_cons initial unused inner follows.closed steps stands] at resolved
      rw [← found, follows.value?_eq holds undotted resolved]
    · rw [List.lookup_cons, beq_false_of_ne same] at seen ⊢
      have closed := follows.closed _ (Association.mem_of_lookup_eq_some seen)
      rw [resolveYul_cons initial unused inner follows.closed steps closed] at resolved
      exact follows.inner other value steps result seen resolved
  outer := follows.outer

/-- The slot of a pointer is kept outside of the variables. -/
theorem write_slot (follows : Follows digest scope outside values visible memory)
    {name pointer : String} (dotted : pointerOfSlot? name = some pointer) (slot : Slot) :
    Follows digest scope outside values visible (memory.write name slot) ∧
      (memory.write name slot).inner = memory.inner := by
  have free : memory.inner.lookup name = none := by
    rw [Association.lookup_eq_none_iff_notMem, follows.names]
    intro mem
    rw [follows.undotted name mem] at dotted
    cases dotted
  have written : memory.write name slot =
      { memory with outer := fun other => if other = name then slot else memory.outer other } := by
    rw [Memory.write, free]
  rw [written]
  refine ⟨⟨follows.names, follows.closed, follows.undotted, follows.inner, ?_⟩, rfl⟩
  intro other plain
  have different : other ≠ name := by
    rintro rfl
    rw [dotted] at plain
    cases plain
  exact (if_neg different).trans (follows.outer other plain)

end Follows

/-- An assignment of a slot by its pointer and the slot. -/
def recordedSlot (assignment : SlotAssignment) : String × Slot :=
  (assignment.target, assignment.slot)

/-- What is recorded at a target is what it is resolved to. -/
theorem assignment_eq_ok {target : SlotTarget} {recorded : SlotAssignment}
    (done : assignment digest scope target = .ok recorded) :
    scope.targetSlot digest target = .ok recorded.slot ∧ recorded.target = target.pointer := by
  rw [assignment] at done
  split at done
  · next slot found =>
    cases done
    exact ⟨found, rfl⟩
  · cases done

/-- A statement that only changes variables has no targets and declares nothing. -/
theorem of_changesVariable {statement : YulStatement} (changes : changesVariable statement = true)
    (visible : YulVariables) :
    statementTargets visible statement = [] ∧ declare visible statement = visible ∧
      declaredNames statement = [] := by
  cases statement with
  | assignment names value =>
    rw [changesVariable, List.isEmpty_iff] at changes
    exact ⟨by rw [statementTargets, changes, List.map_nil], rfl, rfl⟩
  | _ => cases changes

/-- The variables visible behind a statement that keeps to the scopes. -/
theorem map_fst_declare (visible : YulVariables) {names : List String} {statement : YulStatement}
    (keeps : StatementScoped outside names statement) :
    (declare visible statement).map Prod.fst = declaredNames statement ++ visible.map Prod.fst := by
  unfold StatementScoped at keeps
  split at keeps
  · rfl
  · rfl
  · rfl
  · exact keeps.elim

/-- A block that was entered with some variables is left with them. -/
theorem Memory.leave_eq {memory inside : Memory} {added : List (String × Slot)}
    (grown : inside.inner = added ++ memory.inner) :
    memory.leave inside = ⟨memory.inner, inside.outer⟩ := by
  rw [Memory.leave, grown, List.length_append, Nat.add_sub_cancel, List.drop_left]

mutual

/-- The slots that are recorded for a statement are those that it assigns without the changes of
variables inside it. -/
theorem runStatement_frozen (holds : scope.Holds digest values) (undotted : scope.Undotted)
    {visible : YulVariables} {memory : Memory} {recorded : List SlotAssignment} :
    (statement : YulStatement) → Follows digest scope outside values visible memory →
      StatementScoped outside (visible.map Prod.fst) statement →
      changesVariable statement = false →
      (statementTargets visible statement).mapM (assignment digest scope) = .ok recorded →
      ∃ next, runStatement memory (frozenStatement statement) =
          some (next, recorded.map recordedSlot) ∧
        Follows digest scope outside values (declare visible statement) next ∧
        ∃ added, next.inner = added ++ memory.inner
  | .declaration [name] (some value), follows, keeps, _, walked => by
    obtain ⟨stands, unused, inner, plain⟩ := keeps
    obtain ⟨slot, found⟩ := memory.exists_value? stands
    cases walked
    refine ⟨memory.declare name slot, ?_,
      follows.declare holds undotted stands unused inner plain found, [(name, slot)], rfl⟩
    simp only [frozenStatement, runStatement, found, Option.map_some]
    rfl
  | .assignment [name] (some value), follows, _, sets, walked => by
    -- What changes no variable sets a slot.
    cases dotted : pointerOfSlot? name with
    | none => simp [changesVariable, dotted] at sets
    | some pointer =>
      have own : statementTargets visible (.assignment [name] (some value)) =
          [⟨pointer, some value, visible⟩] := by
        simp only [statementTargets, List.filterMap_cons, dotted, List.filterMap_nil, List.map_cons,
          List.map_nil]
      rw [own] at walked
      obtain ⟨only, others, done, none, rfl⟩ := mapM_cons_eq_ok_iff.1 walked
      cases none
      obtain ⟨resolved, same⟩ := assignment_eq_ok done
      have found : memory.value? value = some only.slot := follows.value?_eq holds undotted resolved
      obtain ⟨after, unchanged⟩ := follows.write_slot dotted only.slot
      refine ⟨memory.write name only.slot, ?_, after, [], unchanged⟩
      simp only [frozenStatement, runStatement, found, Option.map_some, dotted, Option.toList_some,
        List.map_cons, recordedSlot, same]
      rfl
  | .block body, follows, keeps, _, walked => by
    obtain ⟨last, run, after, added, grown⟩ :=
      runBlock_frozen holds undotted body follows keeps walked
    refine ⟨memory.leave last, ?_, ?_, [], ?_⟩
    · rw [frozenStatement, runStatement, run, Option.map_some]
    · rw [Memory.leave_eq grown]
      exact ⟨follows.names, follows.closed, follows.undotted, follows.inner, after.outer⟩
    · rw [Memory.leave_eq grown, List.nil_append]

/-- The slots that are recorded for a block are those that it assigns without its changes of
variables. -/
theorem runBlock_frozen (holds : scope.Holds digest values) (undotted : scope.Undotted)
    {visible : YulVariables} {memory : Memory} {recorded : List SlotAssignment} :
    (block : List YulStatement) → Follows digest scope outside values visible memory →
      BlockScoped outside (visible.map Prod.fst) block →
      (blockTargets visible block).mapM (assignment digest scope) = .ok recorded →
      ∃ last, runBlock memory (frozenBlock block) = some (last, recorded.map recordedSlot) ∧
        Follows digest scope outside values (declareAll visible block) last ∧
        ∃ added, last.inner = added ++ memory.inner
  | [], follows, _, walked => by
    cases walked
    exact ⟨memory, rfl, follows, [], rfl⟩
  | statement :: rest, follows, keeps, walked => by
    rw [blockTargets, mapM_append_eq_ok_iff] at walked
    obtain ⟨first, others, own, later, rfl⟩ := walked
    have behind := keeps.2
    rw [← map_fst_declare visible keeps.1] at behind
    cases changes : changesVariable statement with
    | true =>
      obtain ⟨noTargets, same, -⟩ := of_changesVariable changes visible
      rw [noTargets] at own
      cases own
      rw [same] at later behind
      rw [frozenBlock, if_pos changes]
      obtain ⟨last, run, after, grown⟩ :=
        runBlock_frozen holds undotted rest follows behind later
      refine ⟨last, run, ?_, grown⟩
      rw [declareAll, List.foldl_cons, same]
      exact after
    | false =>
      obtain ⟨next, run, after, added, grown⟩ :=
        runStatement_frozen holds undotted statement follows keeps.1 changes own
      obtain ⟨last, runRest, afterRest, more, grownMore⟩ :=
        runBlock_frozen holds undotted rest after behind later
      refine ⟨last, ?_, afterRest, more ++ added, ?_⟩
      · rw [frozenBlock, if_neg (by rw [changes]; exact Bool.false_ne_true), List.map_append]
        exact runBlock_cons run runRest
      · rw [grownMore, grown, List.append_assoc]

end

end

/-- Let the values be recorded for the targets of a block of assembly that keeps to the rules of
scopes, where the names around it have the values that they are resolved to. The block runs, and the
recorded slots are those that it assigns to the pointers without its changes of variables. So they
are the slots that it really assigns exactly when leaving the changes out makes no difference to
them, and always when no changed variable is read. -/
theorem recorded_slots_assigned_iff (digest : Digest) (scope : Scope) (values : String → Slot)
    (outside : String → Prop) (block : List YulStatement) (recorded : List SlotAssignment)
    (holds : scope.Holds digest values) (undotted : scope.Undotted)
    (keeps : BlockScoped outside [] block)
    (walked : (blockTargets [] block).mapM (assignment digest scope) = .ok recorded) :
    ∃ assigned, assignedSlots values block = some assigned ∧
      assignedSlots values (frozenBlock block) = some (recorded.map recordedSlot) ∧
      (recorded.map recordedSlot = assigned ↔
        assignedSlots values (frozenBlock block) = assignedSlots values block) ∧
      ((∀ name ∈ readNamesList block, name ∉ changedNamesList block) →
        recorded.map recordedSlot = assigned) := by
  have start : Follows digest scope outside values [] ⟨[], values⟩ :=
    ⟨rfl, nofun, nofun, nofun, fun _ _ => rfl⟩
  obtain ⟨last, run, -⟩ := runBlock_frozen holds undotted block start keeps walked
  have frozen : assignedSlots values (frozenBlock block) = some (recorded.map recordedSlot) := by
    rw [assignedSlots, run, Option.map_some]
  obtain ⟨⟨behind, assigned⟩, ran⟩ := exists_runBlock ⟨[], values⟩ block keeps
  have real : assignedSlots values block = some assigned := by
    rw [assignedSlots, ran, Option.map_some]
  refine ⟨assigned, real, frozen, ?_, fun unread => ?_⟩
  · rw [frozen, real, Option.some_inj]
  · have agree : Memory.AgreeBut (changedNamesList block) ⟨[], values⟩ ⟨[], values⟩ :=
      ⟨.nil, fun _ _ => rfl⟩
    obtain ⟨_, _, slots, ranAgain, ranFrozen, -⟩ :=
      runBlock_agree block keeps agree unread fun _ mem => mem
    rw [ran] at ranAgain
    rw [run] at ranFrozen
    cases ranAgain
    cases ranFrozen
    rfl

/-! ## Blocks with assignments -/

/-- A number in assembly. -/
def yulNumber (number : String) : YulExpression :=
  .literal "number" (some number) none

/-- A block that sets two slots through variables of one name, changes one that is not read, and
sets a third slot to a local variable. -/
def scatteredBlock : List YulStatement :=
  [.declaration ["base"] (some (yulNumber "0x01")),
    .block [.declaration ["x"] (some (.identifier "base")),
      .assignment ["first.slot"] (some (.identifier "x"))],
    .block [.declaration ["x"] (some (yulNumber "0x02")),
      .declaration ["unused"] (some (.identifier "x")),
      .assignment ["unused"] (some (yulNumber "0x03")),
      .assignment ["second.slot"] (some (.identifier "x"))],
    .assignment ["third.slot"] (some (.identifier "s"))]

/-- A routine with that block behind a local variable. -/
def scatteredBody : List Statement :=
  [declareNumber "s" "0x09", .assembly scatteredBlock]

/-- What the routine sees. -/
def scatteredScope : Scope :=
  .ofRoutine (.ofUnits []) (accountUnit scatteredBody) none ⟨"load", scatteredBody⟩

/-- The one name that stands for something around the block is that of the local variable. -/
theorem scatteredScope_named? (name : String) :
    scatteredScope.named? name =
      if name = "s" then some (.literal ⟨.number, some "0x09", none⟩) else none := by
  have locals : scatteredScope.locals = [("s", .literal ⟨.number, some "0x09", none⟩)] := rfl
  rw [Scope.named?, locals, List.lookup_cons, List.lookup_nil]
  split_ifs with same
  · rw [same, beq_self_eq_true]
  · rw [beq_false_of_ne same]
    rfl

/-- The slots of the block are those that it assigns. -/
theorem scattered_slots_are_assigned :
    assignedSlots (fun _ => .word 9) scatteredBlock =
      some [("first", .word 1), ("second", .word 2), ("third", .word 9)] := by
  have holds : scatteredScope.Holds (fun _ => 0) fun _ => .word 9 := by
    intro name value steps slot found resolved
    rw [scatteredScope_named?] at found
    split_ifs at found
    cases found
    cases steps with
    | zero => cases resolved
    | succ steps =>
      cases resolved
      rfl
  have undotted : scatteredScope.Undotted := by
    intro name dotted
    rw [scatteredScope_named?]
    split_ifs with same
    · subst same
      cases dotted
    · rfl
  have keeps : BlockScoped (· = "s") [] scatteredBlock := by
    simp only [scatteredBlock, BlockScoped, StatementScoped, ValueScoped, declaredNames, yulNumber]
    decide
  obtain ⟨assigned, real, -, -, same⟩ := recorded_slots_assigned_iff (fun _ => 0) scatteredScope
    (fun _ => .word 9) (· = "s") scatteredBlock _ holds undotted keeps rfl
  rw [real, ← same (by decide)]
  rfl

/-- A block that changes a variable before it sets a slot to it. -/
def changingBlock : List YulStatement :=
  [.declaration ["x"] (some (yulNumber "0x01")),
    .assignment ["x"] (some (yulNumber "0x02")),
    .assignment ["store.slot"] (some (.identifier "x"))]

/-- The block keeps to the rules of scopes and sets the slot to the second value of the variable,
but its first value is recorded. -/
theorem changed_variable_is_misread :
    BlockScoped (fun _ => False) [] changingBlock ∧
      assignedSlots (fun _ => .word 0) changingBlock = some [("store", .word 2)] ∧
      collectAssignments (fun _ => 0) [accountUnit [.assembly changingBlock]] .all =
        .ok [⟨"src/Account.sol", "Account", "load", "store", .word 1⟩] := by
  refine ⟨?_, rfl, rfl⟩
  simp only [changingBlock, BlockScoped, StatementScoped, ValueScoped, declaredNames, yulNumber]
  decide

end ModularRouter.Namespace
