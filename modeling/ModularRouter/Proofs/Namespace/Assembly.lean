import Mathlib.Data.List.Forall2
import ModularRouter.Association
import ModularRouter.Namespace.Scope

/-!
# Running assembly

What a block of assembly assigns to storage pointers when its statements are run one after the
other: `assignedSlots`. The block is made of blocks, declarations and assignments, and every value
is a number or a name. `frozenBlock` is the block without the assignments that change variables: it
assigns the same slots if none of the changed variables is read, by `runBlock_agree`.
-/

namespace ModularRouter.Namespace

open Ast (YulExpression YulStatement)

/-! ## Running -/

/-- The values of names while assembly runs. -/
structure Memory where
  /-- The variables of the assembly, the latest first. -/
  inner : List (String × Slot)
  /-- The values of all other names. -/
  outer : String → Slot

namespace Memory

/-- The value of a name. -/
def read (memory : Memory) (name : String) : Slot :=
  match memory.inner.lookup name with
  | some value => value
  | none => memory.outer name

/-- The value of an expression that is a number or a name. -/
def value? (memory : Memory) : YulExpression → Option Slot
  | .literal kind text _ =>
    if kind = "number" then (word? (text.getD "")).map .word else none
  | .identifier name => some (memory.read name)
  | .call _ _ => none

/-- The values behind the declaration of a variable. -/
def declare (memory : Memory) (name : String) (value : Slot) : Memory :=
  { memory with inner := (name, value) :: memory.inner }

/-- The values behind an assignment to a name. -/
def write (memory : Memory) (name : String) (value : Slot) : Memory :=
  match memory.inner.lookup name with
  | some _ => { memory with inner := Association.put name value memory.inner }
  | none =>
    { memory with outer := fun other => if other = name then value else memory.outer other }

/-- The values behind a block, of which those at its end are given: the variables of the block are
gone. -/
def leave (memory inside : Memory) : Memory :=
  { inside with inner := inside.inner.drop (inside.inner.length - memory.inner.length) }

end Memory

mutual

/-- Runs a statement. Returns the values behind it and the slots it assigns to pointers, or nothing
if the statement is of another kind. -/
def runStatement (memory : Memory) : YulStatement → Option (Memory × List (String × Slot))
  | .declaration [name] (some value) =>
    (memory.value? value).map fun slot => (memory.declare name slot, [])
  | .assignment [name] (some value) =>
    (memory.value? value).map fun slot =>
      (memory.write name slot, (pointerOfSlot? name).toList.map fun pointer => (pointer, slot))
  | .block body =>
    (runBlock memory body).map fun (inside, assigned) => (memory.leave inside, assigned)
  | _ => none

/-- Runs the statements of a block. -/
def runBlock (memory : Memory) : List YulStatement → Option (Memory × List (String × Slot))
  | [] => some (memory, [])
  | statement :: rest =>
    match runStatement memory statement with
    | none => none
    | some (next, first) =>
      (runBlock next rest).map fun (last, others) => (last, first ++ others)

end

/-- The slots that a block assigns to pointers, one after the other, where the names around it have
the given values. -/
def assignedSlots (values : String → Slot) (block : List YulStatement) :
    Option (List (String × Slot)) :=
  (runBlock ⟨[], values⟩ block).map Prod.snd

/-! ## Scopes -/

/-- Whether a value is a number of 256 bits or a name that stands for something. -/
def ValueScoped (outside : String → Prop) (names : List String) : YulExpression → Prop
  | .literal kind text _ => kind = "number" ∧ (word? (text.getD "")).isSome
  | .identifier name => name ∈ names ∨ outside name
  | .call _ _ => False

/-- The names that a statement declares for those behind it. -/
def declaredNames : YulStatement → List String
  | .declaration names _ => names
  | _ => []

mutual

/-- Whether a statement is a block, a declaration or an assignment that keeps to the rules of
scopes: a name that is read is one of the variables visible there or stands for something outside,
and one that is declared does neither and is no slot of a pointer. -/
def StatementScoped (outside : String → Prop) (names : List String) : YulStatement → Prop
  | .declaration [name] (some value) =>
    ValueScoped outside names value ∧ name ∉ names ∧ ¬ outside name ∧ pointerOfSlot? name = none
  | .assignment [_] (some value) => ValueScoped outside names value
  | .block body => BlockScoped outside names body
  | _ => False

/-- Whether the statements of a block keep to the rules of scopes. -/
def BlockScoped (outside : String → Prop) (names : List String) : List YulStatement → Prop
  | [] => True
  | statement :: rest =>
    StatementScoped outside names statement ∧
      BlockScoped outside (declaredNames statement ++ names) rest

end

/-! ## Blocks without changes -/

/-- Whether a statement changes variables and no slots. -/
def changesVariable : YulStatement → Bool
  | .assignment names _ => (names.filterMap pointerOfSlot?).isEmpty
  | _ => false

mutual

/-- A statement without the changes of variables inside it. -/
def frozenStatement : YulStatement → YulStatement
  | .block body => .block (frozenBlock body)
  | statement => statement

/-- A block without its changes of variables. -/
def frozenBlock : List YulStatement → List YulStatement
  | [] => []
  | statement :: rest =>
    if changesVariable statement then frozenBlock rest
    else frozenStatement statement :: frozenBlock rest

end

/-- The name that a value is. -/
def namesOf : Option YulExpression → List String
  | some (.identifier name) => [name]
  | _ => []

mutual

/-- The names that are read in a statement. -/
def readNames : YulStatement → List String
  | .declaration _ value => namesOf value
  | .assignment _ value => namesOf value
  | .block body => readNamesList body
  | _ => []

/-- The names that are read in a block. -/
def readNamesList : List YulStatement → List String
  | [] => []
  | statement :: rest => readNames statement ++ readNamesList rest

end

mutual

/-- The names of the variables that are changed in a statement. -/
def changedNames : YulStatement → List String
  | .assignment names _ => names.filter fun name => (pointerOfSlot? name).isNone
  | .block body => changedNamesList body
  | _ => []

/-- The names of the variables that are changed in a block. -/
def changedNamesList : List YulStatement → List String
  | [] => []
  | statement :: rest => changedNames statement ++ changedNamesList rest

end

/-- A block runs its first statement and then the others. -/
theorem runBlock_cons {memory next last : Memory} {statement : YulStatement}
    {rest : List YulStatement} {first others : List (String × Slot)}
    (own : runStatement memory statement = some (next, first))
    (later : runBlock next rest = some (last, others)) :
    runBlock memory (statement :: rest) = some (last, first ++ others) := by
  simp only [runBlock, own, later, Option.map_some]

/-! ## Every block that keeps to the scopes runs -/

/-- A value that stands for something has a value. -/
theorem Memory.exists_value? (memory : Memory) {outside : String → Prop} {names : List String}
    {value : YulExpression} (stands : ValueScoped outside names value) :
    ∃ slot, memory.value? value = some slot := by
  cases value with
  | literal kind text bytes =>
    obtain ⟨number, known⟩ := stands
    obtain ⟨word, found⟩ := Option.isSome_iff_exists.1 known
    exact ⟨.word word, by rw [Memory.value?, if_pos number, found, Option.map_some]⟩
  | identifier name => exact ⟨memory.read name, rfl⟩
  | call function arguments => cases stands

mutual

/-- A statement that keeps to the scopes runs. -/
theorem exists_runStatement {outside : String → Prop} {names : List String} (memory : Memory) :
    (statement : YulStatement) → StatementScoped outside names statement →
      ∃ behind, runStatement memory statement = some behind
  | .declaration [name] (some value), keeps => by
    obtain ⟨slot, found⟩ := memory.exists_value? keeps.1
    exact ⟨_, by rw [runStatement, found, Option.map_some]⟩
  | .assignment [name] (some value), keeps => by
    obtain ⟨slot, found⟩ := memory.exists_value? keeps
    exact ⟨_, by rw [runStatement, found, Option.map_some]⟩
  | .block body, keeps => by
    obtain ⟨behind, run⟩ := exists_runBlock memory body keeps
    exact ⟨_, by rw [runStatement, run, Option.map_some]⟩

/-- A block that keeps to the scopes runs. -/
theorem exists_runBlock {outside : String → Prop} {names : List String} (memory : Memory) :
    (block : List YulStatement) → BlockScoped outside names block →
      ∃ behind, runBlock memory block = some behind
  | [], _ => ⟨_, rfl⟩
  | statement :: rest, keeps => by
    obtain ⟨⟨next, first⟩, run⟩ := exists_runStatement memory statement keeps.1
    obtain ⟨⟨last, others⟩, later⟩ := exists_runBlock next rest keeps.2
    exact ⟨_, runBlock_cons run later⟩

end

/-! ## Changes that are not read -/

/-- Whether two variables have one name and, unless it may have changed, one value. -/
def SameBut (changed : List String) (entry twin : String × Slot) : Prop :=
  entry.1 = twin.1 ∧ (entry.1 ∉ changed → entry.2 = twin.2)

/-- Whether two memories differ in the values of some names at most. -/
structure Memory.AgreeBut (changed : List String) (memory frozen : Memory) : Prop where
  /-- The variables have the same names, and the same values but for those names. -/
  inner : List.Forall₂ (SameBut changed) memory.inner frozen.inner
  /-- All other names have the same values but for those names. -/
  outer : ∀ name, name ∉ changed → memory.outer name = frozen.outer name

/-- Variables of the same names are found under the same names. -/
theorem isSome_lookup_eq {changed : List String} {entries twins : List (String × Slot)}
    (agree : List.Forall₂ (SameBut changed) entries twins) (name : String) :
    (entries.lookup name).isSome = (twins.lookup name).isSome := by
  induction agree with
  | nil => rfl
  | cons first _ ih =>
    rw [List.lookup_cons, List.lookup_cons, ← first.1]
    split
    · rfl
    · exact ih

/-- A name that has not changed has one value among both variables. -/
theorem lookup_eq_of_notMem {changed : List String} {entries twins : List (String × Slot)}
    (agree : List.Forall₂ (SameBut changed) entries twins) {name : String}
    (unchanged : name ∉ changed) : entries.lookup name = twins.lookup name := by
  induction agree with
  | nil => rfl
  | cons first _ ih =>
    rw [List.lookup_cons, List.lookup_cons, ← first.1]
    split
    · next same =>
      rw [first.2 (by rwa [← eq_of_beq same])]
    · exact ih

/-- Variables that agree do so behind an assignment to one of them that may change. -/
theorem forall₂_put_left {changed : List String} {entries twins : List (String × Slot)}
    (agree : List.Forall₂ (SameBut changed) entries twins) {name : String}
    (changes : name ∈ changed) (value : Slot) (known : (entries.lookup name).isSome) :
    List.Forall₂ (SameBut changed) (Association.put name value entries) twins := by
  induction agree with
  | nil => cases known
  | @cons entry twin entries twins first rest ih =>
    rw [Association.put]
    split
    · next same =>
      exact .cons ⟨same.symm.trans first.1, fun unchanged => absurd changes unchanged⟩ rest
    · next other =>
      rw [List.lookup_cons, beq_false_of_ne (Ne.symm other)] at known
      exact .cons first (ih known)

/-- Variables that agree do so behind an assignment of one value to a name. -/
theorem forall₂_put {changed : List String} {entries twins : List (String × Slot)}
    (agree : List.Forall₂ (SameBut changed) entries twins) (name : String) (value : Slot) :
    List.Forall₂ (SameBut changed) (Association.put name value entries)
      (Association.put name value twins) := by
  induction agree with
  | nil => exact .cons ⟨rfl, fun _ => rfl⟩ .nil
  | cons first rest ih =>
    rw [Association.put, Association.put, ← first.1]
    split
    · exact .cons ⟨rfl, fun _ => rfl⟩ rest
    · exact .cons first ih

namespace Memory.AgreeBut

variable {changed : List String} {memory frozen : Memory}

/-- Values that are made of names which have not changed are the same. -/
theorem value?_eq (agree : memory.AgreeBut changed frozen) {value : YulExpression}
    (unchanged : ∀ name ∈ namesOf (some value), name ∉ changed) :
    memory.value? value = frozen.value? value := by
  cases value with
  | literal kind text bytes => rfl
  | call function arguments => rfl
  | identifier name =>
    have same : name ∉ changed := unchanged name (List.mem_singleton_self name)
    rw [Memory.value?, Memory.value?, Memory.read, Memory.read,
      lookup_eq_of_notMem agree.inner same, agree.outer name same]

/-- Memories that agree do so behind a declaration. -/
theorem declare (agree : memory.AgreeBut changed frozen) (name : String) (value : Slot) :
    (memory.declare name value).AgreeBut changed (frozen.declare name value) :=
  ⟨.cons ⟨rfl, fun _ => rfl⟩ agree.inner, agree.outer⟩

/-- Memories that agree do so behind an assignment to one of the names that may change. -/
theorem write_left (agree : memory.AgreeBut changed frozen) {name : String}
    (changes : name ∈ changed) (value : Slot) :
    (memory.write name value).AgreeBut changed frozen := by
  rw [Memory.write]
  split
  · next found =>
    exact ⟨forall₂_put_left agree.inner changes value (by rw [found]; rfl), agree.outer⟩
  · refine ⟨agree.inner, fun other unchanged => ?_⟩
    have different : other ≠ name := by
      rintro rfl
      exact unchanged changes
    exact (if_neg different).trans (agree.outer other unchanged)

/-- Memories that agree do so behind an assignment of one value to a name. -/
theorem write (agree : memory.AgreeBut changed frozen) (name : String) (value : Slot) :
    (memory.write name value).AgreeBut changed (frozen.write name value) := by
  have known := isSome_lookup_eq agree.inner name
  rw [Memory.write, Memory.write]
  cases found : memory.inner.lookup name with
  | some old =>
    rw [found, Option.isSome_some] at known
    obtain ⟨twin, foundTwin⟩ := Option.isSome_iff_exists.1 known.symm
    rw [foundTwin]
    exact ⟨forall₂_put agree.inner name value, agree.outer⟩
  | none =>
    rw [found, Option.isSome_none] at known
    rw [Option.isSome_eq_false_iff.1 known.symm |> Option.isNone_iff_eq_none.1]
    refine ⟨agree.inner, fun other unchanged => ?_⟩
    simp only [agree.outer other unchanged]

/-- Memories that agree do so behind a block. -/
theorem leave (agree : memory.AgreeBut changed frozen) {inside insideFrozen : Memory}
    (within : inside.AgreeBut changed insideFrozen) :
    (memory.leave inside).AgreeBut changed (frozen.leave insideFrozen) := by
  rw [Memory.leave, Memory.leave, agree.inner.length_eq, within.inner.length_eq]
  exact ⟨List.forall₂_drop _ within.inner, within.outer⟩

end Memory.AgreeBut

section

variable {outside : String → Prop} {changed : List String}

/-- A statement that changes a variable assigns no slots and makes no difference to other names. -/
theorem exists_runStatement_of_changesVariable {names : List String} {memory frozen : Memory} :
    (statement : YulStatement) → StatementScoped outside names statement →
      changesVariable statement = true → memory.AgreeBut changed frozen →
      (∀ name ∈ changedNames statement, name ∈ changed) →
      ∃ next, runStatement memory statement = some (next, []) ∧ next.AgreeBut changed frozen
  | .assignment [name] (some value), keeps, changes, agree, listed => by
    have plain : pointerOfSlot? name = none := by
      cases dotted : pointerOfSlot? name with
      | none => rfl
      | some pointer => simp [changesVariable, dotted] at changes
    have mem : name ∈ changed := listed name (by simp [changedNames, plain])
    obtain ⟨slot, found⟩ := memory.exists_value? keeps
    refine ⟨memory.write name slot, ?_, agree.write_left mem slot⟩
    simp only [runStatement, found, Option.map_some, plain]
    rfl

mutual

/-- A statement that changes no slots of variables assigns the same slots without the changes inside
it, if none of the changed names is read. -/
theorem runStatement_agree {names : List String} {memory frozen : Memory} :
    (statement : YulStatement) → StatementScoped outside names statement →
      memory.AgreeBut changed frozen → (∀ name ∈ readNames statement, name ∉ changed) →
      (∀ name ∈ changedNames statement, name ∈ changed) →
      ∃ next other assigned, runStatement memory statement = some (next, assigned) ∧
        runStatement frozen (frozenStatement statement) = some (other, assigned) ∧
        next.AgreeBut changed other
  | .declaration [name] (some value), keeps, agree, unread, _ => by
    obtain ⟨slot, found⟩ := memory.exists_value? keeps.1
    have same := agree.value?_eq unread
    refine ⟨_, _, [], ?_, ?_, agree.declare name slot⟩
    · rw [runStatement, found, Option.map_some]
    · simp only [frozenStatement, runStatement, ← same, found, Option.map_some]
  | .assignment [name] (some value), keeps, agree, unread, _ => by
    obtain ⟨slot, found⟩ := memory.exists_value? keeps
    have same := agree.value?_eq unread
    refine ⟨_, _, (pointerOfSlot? name).toList.map fun pointer => (pointer, slot), ?_, ?_,
      agree.write name slot⟩
    · rw [runStatement, found, Option.map_some]
    · simp only [frozenStatement, runStatement, ← same, found, Option.map_some]
  | .block body, keeps, agree, unread, listed => by
    obtain ⟨next, other, assigned, run, runFrozen, within⟩ :=
      runBlock_agree body keeps agree unread listed
    refine ⟨_, _, assigned, ?_, ?_, agree.leave within⟩
    · rw [runStatement, run, Option.map_some]
    · rw [frozenStatement, runStatement, runFrozen, Option.map_some]

/-- A block assigns the same slots without its changes of variables, if none of the changed names is
read. -/
theorem runBlock_agree {names : List String} {memory frozen : Memory} :
    (block : List YulStatement) → BlockScoped outside names block →
      memory.AgreeBut changed frozen → (∀ name ∈ readNamesList block, name ∉ changed) →
      (∀ name ∈ changedNamesList block, name ∈ changed) →
      ∃ last other assigned, runBlock memory block = some (last, assigned) ∧
        runBlock frozen (frozenBlock block) = some (other, assigned) ∧
        last.AgreeBut changed other
  | [], _, agree, _, _ => ⟨memory, frozen, [], rfl, rfl, agree⟩
  | statement :: rest, keeps, agree, unread, listed => by
    obtain ⟨unreadOwn, unreadRest⟩ := List.forall_mem_append.1 unread
    obtain ⟨listedOwn, listedRest⟩ := List.forall_mem_append.1 listed
    cases changes : changesVariable statement with
    | true =>
      obtain ⟨next, run, after⟩ :=
        exists_runStatement_of_changesVariable statement keeps.1 changes agree listedOwn
      obtain ⟨last, other, assigned, later, laterFrozen, agreeLast⟩ :=
        runBlock_agree rest keeps.2 after unreadRest listedRest
      refine ⟨last, other, assigned, runBlock_cons run later, ?_, agreeLast⟩
      rw [frozenBlock, if_pos changes, laterFrozen]
    | false =>
      obtain ⟨next, twin, first, run, runFrozen, after⟩ :=
        runStatement_agree statement keeps.1 agree unreadOwn listedOwn
      obtain ⟨last, other, assigned, later, laterFrozen, agreeLast⟩ :=
        runBlock_agree rest keeps.2 after unreadRest listedRest
      refine ⟨last, other, first ++ assigned, runBlock_cons run later, ?_, agreeLast⟩
      rw [frozenBlock, if_neg (by rw [changes]; exact Bool.false_ne_true)]
      exact runBlock_cons runFrozen laterFrozen

end

end

end ModularRouter.Namespace
