import ModularRouter.Storage.Resolver

/-!
# What a resolver leaves

A step of a resolver ends if there is a depth from which on it has an answer. A change of the state
is taken back behind an error too (`ends_between`), so that each part of the resolver leaves the
state as it was where the parts that it is made of do.
-/

namespace ModularRouter.Storage

open Ast (VariableDeclaration StructDefinition)

/-! ## Steps of a resolver -/

namespace Resolving

variable {α β : Type}

/-- Whether a step that is made in a state ends, with an answer and in another state: it does so
wherever calls may be nested deep enough. -/
def Runs (step : Nat → Resolving α) (before : Surroundings) (answer : Except ExtractionError α)
    (after : Surroundings) : Prop :=
  ∃ calls, ∀ depth, calls ≤ depth → (step depth).run.run before = some (answer, after)

/-- Whether a step ends with an answer and leaves the state as it was. -/
def Ends (step : Nat → Resolving α) (state : Surroundings) (answer : Except ExtractionError α) :
    Prop :=
  Runs step state answer state

section

variable {state before meanwhile after : Surroundings}

/-- A step that does not depend on the depth of calls. -/
theorem runs_of_eq {step : Resolving α} {answer : Except ExtractionError α}
    (runs : step.run.run before = some (answer, after)) :
    Runs (fun _ => step) before answer after :=
  ⟨0, fun _ _ => runs⟩

/-- A call is nested one deeper than what it is made in. -/
theorem Runs.of_succ {step : Nat → Resolving α} {answer : Except ExtractionError α}
    (runs : Runs (fun depth => step (depth + 1)) before answer after) :
    Runs step before answer after := by
  obtain ⟨calls, runs⟩ := runs
  refine ⟨calls + 1, fun depth deep => ?_⟩
  obtain ⟨depth, rfl⟩ := Nat.exists_eq_succ_of_ne_zero (Nat.ne_zero_of_lt deep)
  exact runs depth (Nat.le_of_succ_le_succ deep)

/-- A step ends with one answer only. -/
theorem Ends.unique {step : Nat → Resolving α} {answer other : Except ExtractionError α}
    (ends : Ends step state answer) (again : Ends step state other) : answer = other := by
  obtain ⟨calls, ends⟩ := ends
  obtain ⟨others, again⟩ := again
  have same := (ends _ (Nat.le_max_left calls others)).symm.trans
    (again _ (Nat.le_max_right calls others))
  exact congrArg Prod.fst (Option.some.inj same)

/-- A value ends at once. -/
theorem ends_pure (value : α) : Ends (fun _ => pure value) state (.ok value) := runs_of_eq rfl

/-- An error ends at once. -/
theorem ends_throw (fault : ExtractionError) :
    Ends (fun _ => (throw fault : Resolving α)) state (.error fault) := runs_of_eq rfl

/-- An answer ends at once. -/
theorem ends_give (answer : Except ExtractionError α) : Ends (fun _ => give answer) state answer :=
  runs_of_eq rfl

/-- The state is read without being changed. -/
theorem ends_get : Ends (fun _ => (get : Resolving Surroundings)) state (.ok state) :=
  runs_of_eq rfl

/-- A change of the state never fails. -/
theorem runs_modify (change : Surroundings → Surroundings) :
    Runs (fun _ => modify change) before (.ok ⟨⟩) (change before) := runs_of_eq rfl

/-- A step behind one that succeeds. -/
theorem Runs.bind {step : Nat → Resolving α} {next : Nat → α → Resolving β} {value : α}
    {answer : Except ExtractionError β} (first : Runs step before (.ok value) meanwhile)
    (later : Runs (fun depth => next depth value) meanwhile answer after) :
    Runs (fun depth => step depth >>= next depth) before answer after := by
  obtain ⟨calls, first⟩ := first
  obtain ⟨others, later⟩ := later
  -- Both steps have their answers from the greater one of the two depths on.
  refine ⟨max calls others, fun depth deep => ?_⟩
  obtain ⟨enoughBefore, enoughBehind⟩ := Nat.max_le.1 deep
  rw [ExceptT.run_bind, StateT.run_bind, first depth enoughBefore]
  exact later depth enoughBehind

/-- A step behind one that succeeds and leaves the state as it was. -/
theorem Ends.bind_ok {step : Nat → Resolving α} {next : Nat → α → Resolving β} {value : α}
    {answer : Except ExtractionError β} (first : Ends step state (.ok value))
    (later : Ends (fun depth => next depth value) state answer) :
    Ends (fun depth => step depth >>= next depth) state answer :=
  Runs.bind first later

/-- A step behind another one is made only if that one succeeds. -/
theorem Ends.bind {step : Nat → Resolving α} {next : Nat → α → Resolving β}
    {answer : Except ExtractionError α} {others : α → Except ExtractionError β}
    (first : Ends step state answer)
    (later : ∀ value, answer = .ok value →
      Ends (fun depth => next depth value) state (others value)) :
    Ends (fun depth => step depth >>= next depth) state (answer >>= others) := by
  cases answer with
  | ok value => exact first.bind_ok (later value rfl)
  | error fault =>
    obtain ⟨calls, first⟩ := first
    refine ⟨calls, fun depth deep => ?_⟩
    rw [ExceptT.run_bind, StateT.run_bind, first depth deep]
    rfl

/-- An answer that is looked at is no error of the step that looks at it. -/
theorem Runs.observed {step : Nat → Resolving α} {answer : Except ExtractionError α}
    (runs : Runs step before answer after) :
    Runs (fun depth => (Except.ok <$> (step depth).run : StateT Surroundings Option _)) before
      (.ok answer) after := by
  obtain ⟨calls, runs⟩ := runs
  refine ⟨calls, fun depth deep => ?_⟩
  show (Except.ok <$> (step depth).run).run before = some (.ok answer, after)
  rw [StateT.run_map, runs depth deep]
  rfl

/-- A step between two changes leaves the state as it was if the second one takes the first one
back. -/
theorem ends_between {enter leave : Surroundings → Surroundings} {step : Nat → Resolving α}
    {answer : Except ExtractionError α} (inside : Ends step (enter state) answer)
    (back : leave (enter state) = state) :
    Ends (fun depth => between enter leave (step depth)) state answer := by
  -- An error inside is observed as an answer, so the second change is made behind it too.
  have left : Runs (fun _ => modify leave) (enter state) (.ok ⟨⟩) state := by
    have changed : Runs (fun _ => modify leave) (enter state) (.ok ⟨⟩) (leave (enter state)) :=
      runs_modify leave
    rwa [back] at changed
  exact (runs_modify enter).bind (inside.observed.bind (left.bind (ends_give answer)))

/-- Steps that all leave the state as it was do so one after the other. -/
theorem ends_mapM {step : Nat → α → Resolving β} {answer : α → Except ExtractionError β}
    {items : List α}
    (each : ∀ item ∈ items, Ends (fun depth => step depth item) state (answer item)) :
    Ends (fun depth => items.mapM (step depth)) state (items.mapM answer) := by
  induction items with
  | nil => exact ends_pure []
  | cons item items ih =>
    obtain ⟨own, others⟩ := List.forall_mem_cons.1 each
    simp only [List.mapM_cons]
    exact own.bind fun _ _ => (ih others).bind fun _ _ => ends_pure _

end

end Resolving

/-! ## What its parts leave -/

section

variable {site : Site} {state : Surroundings} {definition : StructDefinition}

open Resolving

/-- A struct is taken off the stack again, also when one of its members has no shape. -/
theorem ends_members {answer : VariableDeclaration → Except ExtractionError Shape}
    (each : ∀ declaration ∈ definition.members, Ends (Resolver.member site declaration)
      ⟨definition.id :: state.structs, state.sizing⟩ (answer declaration)) :
    Ends (Resolver.members site definition) state (definition.members.mapM answer) := by
  refine .of_succ ?_
  simp only [Resolver.members]
  exact ends_between (ends_mapM each) rfl

/-- While a struct is measured no other one is. -/
theorem ends_words_of_sizing (sizing : state.sizing = true) :
    Ends (Resolver.words site definition) state (.ok none) := by
  refine .of_succ ?_
  simp only [Resolver.words]
  refine ends_get.bind_ok ?_
  simp only [sizing, if_true]
  exact ends_pure none

/-- The flag is set only while a struct is measured, also when one of its members has no shape. -/
theorem ends_words {answer : Except ExtractionError (List Shape)} (sizing : state.sizing = false)
    (measured : Ends (Resolver.members site definition) ⟨state.structs, true⟩ answer) :
    Ends (Resolver.words site definition) state
      (answer >>= fun shapes => .ok (some (max 1 (packing shapes).slots))) := by
  have back : { state with sizing := false } = state := by rw [← sizing]
  refine .of_succ ?_
  simp only [Resolver.words]
  refine ends_get.bind_ok ?_
  simp only [sizing, Bool.false_eq_true, if_false]
  exact (ends_between measured back).bind fun shapes _ => ends_pure _

/-- A member leaves the state as it was where its type does. -/
theorem ends_member {follow : Reference → Except ExtractionError Shape}
    {declaration : VariableDeclaration}
    (types : ∀ type, declaration.typeName = some type →
      Ends (Resolver.resolve site declaration.name type) state
        (site.typeShape follow declaration.name type)) :
    Ends (Resolver.member site declaration) state (site.memberShape follow declaration) := by
  refine .of_succ ?_
  rw [Site.memberShape]
  simp only [Resolver.member]
  cases typed : declaration.typeName with
  | none => exact ends_throw _
  | some type => exact (types type typed).bind fun _ _ => ends_pure _

end

end ModularRouter.Storage
