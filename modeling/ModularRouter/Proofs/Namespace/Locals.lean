import ModularRouter.Namespace.Collection
import ModularRouter.Proofs.Association

/-!
# Local variables by scope

A local variable is visible from its declaration to the end of the block around it, and a
declaration inside hides one outside. `scopedAssemblies` finds the blocks of assembly of a routine
together with the local variables that are visible there. A scope has one list of local variables
for the whole routine instead, in which the last declaration of a name counts wherever it stands:
`locals_resolve_by_scope_iff` says when that is the visible one, and
`sibling_scopes_share_last_local` is a routine in which it is not.
-/

namespace ModularRouter.Namespace

open Ast (Statement Expression YulExpression YulStatement SourceUnit ContractDefinition
  DeclarationIndex VariableDeclaration)

/-! ## Visible local variables -/

/-- Local variables, each with its initializer if it is declared alone and has one. -/
abbrev Locals := List (String × Option Expression)

/-- The variables that a statement declares for what follows it. -/
def declaredLocals : Statement → Locals
  | .declaration [some declared] value => [(declared.name, value)]
  | .declaration declared _ =>
    declared.filterMap fun declared => declared.map fun declared => (declared.name, none)
  | _ => []

/-- The variables that a statement which may be absent declares for what follows it. -/
def declaredByOption : Option Statement → Locals
  | some statement => declaredLocals statement
  | none => []

/-- The variables of a body, at any depth, in the order in which they are declared. -/
def declarations (body : List Statement) : Locals :=
  (Statement.nestedList body).flatMap declaredLocals

/-- A block of assembly and the local variables that are visible there, the latest first. -/
structure ScopedAssembly where
  /-- The block. -/
  block : List YulStatement
  /-- The variables. -/
  visible : Locals

mutual

/-- The blocks of assembly in a statement before which some variables are visible. -/
def scopedIn (visible : Locals) : Statement → List ScopedAssembly
  | .assembly block => [⟨block, visible⟩]
  | .block body => scopedInList visible body
  | .uncheckedBlock body => scopedInList visible body
  | .ifThen body alternative => scopedIn visible body ++ scopedInOption visible alternative
  | .forLoop init body =>
    scopedInOption visible init ++ scopedIn (declaredByOption init ++ visible) body
  | .whileLoop body => scopedIn visible body
  | .doWhileLoop body => scopedIn visible body
  | .tryCatch clauses => scopedInClauses visible clauses
  | _ => []

/-- The blocks of assembly in a statement that may be absent. -/
def scopedInOption (visible : Locals) : Option Statement → List ScopedAssembly
  | some statement => scopedIn visible statement
  | none => []

/-- The blocks of assembly in the statements of a block. What one statement declares is visible
behind it, up to the end of the block. -/
def scopedInList (visible : Locals) : List Statement → List ScopedAssembly
  | [] => []
  | statement :: rest =>
    scopedIn visible statement ++ scopedInList (declaredLocals statement ++ visible) rest

/-- The blocks of assembly in the blocks of clauses. -/
def scopedInClauses (visible : Locals) : List (List Statement) → List ScopedAssembly
  | [] => []
  | clause :: rest => scopedInList visible clause ++ scopedInClauses visible rest

end

/-- The blocks of assembly of a body, each with the local variables that are visible there. -/
def scopedAssemblies (body : List Statement) : List ScopedAssembly :=
  scopedInList [] body

/-! ## The same blocks -/

/-- The block of a statement that is assembly. -/
def assembly? : Statement → Option (List YulStatement)
  | .assembly block => some block
  | _ => none

mutual

/-- The blocks of assembly in a statement are those of the statements inside it. -/
theorem map_block_scopedIn (visible : Locals) : (statement : Statement) →
    (scopedIn visible statement).map ScopedAssembly.block = statement.nested.filterMap assembly?
  | .block body => by
    rw [scopedIn, Statement.nested, List.filterMap_cons_none rfl]
    exact map_block_scopedInList visible body
  | .uncheckedBlock body => by
    rw [scopedIn, Statement.nested, List.filterMap_cons_none rfl]
    exact map_block_scopedInList visible body
  | .ifThen body alternative => by
    rw [scopedIn, Statement.nested, List.filterMap_cons_none rfl, List.map_append,
      List.filterMap_append, map_block_scopedIn visible body,
      map_block_scopedInOption visible alternative]
  | .forLoop init body => by
    rw [scopedIn, Statement.nested, List.filterMap_cons_none rfl, List.map_append,
      List.filterMap_append, map_block_scopedInOption visible init,
      map_block_scopedIn _ body]
  | .whileLoop body => by
    rw [scopedIn, Statement.nested, List.filterMap_cons_none rfl]
    exact map_block_scopedIn visible body
  | .doWhileLoop body => by
    rw [scopedIn, Statement.nested, List.filterMap_cons_none rfl]
    exact map_block_scopedIn visible body
  | .tryCatch clauses => by
    rw [scopedIn, Statement.nested, List.filterMap_cons_none rfl]
    exact map_block_scopedInClauses visible clauses
  | .assembly _ | .declaration _ _ | .other => rfl

/-- The blocks of assembly in a statement that may be absent are those of the statements inside
it. -/
theorem map_block_scopedInOption (visible : Locals) : (statement : Option Statement) →
    (scopedInOption visible statement).map ScopedAssembly.block =
      (Statement.nestedOption statement).filterMap assembly?
  | some statement => map_block_scopedIn visible statement
  | none => rfl

/-- The blocks of assembly in a list of statements are those of the statements inside them. -/
theorem map_block_scopedInList (visible : Locals) : (body : List Statement) →
    (scopedInList visible body).map ScopedAssembly.block =
      (Statement.nestedList body).filterMap assembly?
  | [] => rfl
  | statement :: rest => by
    rw [scopedInList, Statement.nestedList, List.map_append, List.filterMap_append,
      map_block_scopedIn visible statement, map_block_scopedInList _ rest]

/-- The blocks of assembly in clauses are those of the statements inside them. -/
theorem map_block_scopedInClauses (visible : Locals) : (clauses : List (List Statement)) →
    (scopedInClauses visible clauses).map ScopedAssembly.block =
      (Statement.nestedClauses clauses).filterMap assembly?
  | [] => rfl
  | clause :: rest => by
    rw [scopedInClauses, Statement.nestedClauses, List.map_append, List.filterMap_append,
      map_block_scopedInList visible clause, map_block_scopedInClauses visible rest]

end

/-- Going by scope finds the blocks of assembly of a body in their order. -/
theorem map_block_scopedAssemblies (body : List Statement) :
    (scopedAssemblies body).map ScopedAssembly.block = assemblies body :=
  map_block_scopedInList [] body

/-- A target in a block of assembly that is found by scope is one of the body. -/
theorem mem_targets_of_scoped {body : List Statement} {assembly : ScopedAssembly}
    (found : assembly ∈ scopedAssemblies body) {target : SlotTarget}
    (inside : target ∈ blockTargets [] assembly.block) : target ∈ targets body := by
  refine List.mem_flatMap.2 ⟨assembly.block, ?_, inside⟩
  rw [← map_block_scopedAssemblies]
  exact List.mem_map.2 ⟨assembly, found, rfl⟩

/-! ## Visible variables are declared -/

/-- A statement is one of those at its place. -/
theorem mem_nested_self (statement : Statement) : statement ∈ statement.nested := by
  cases statement <;> exact List.mem_cons_self

/-- What a statement declares for what follows it is declared in it. -/
theorem mem_declared_of_mem_declaredLocals {statement : Statement}
    {entry : String × Option Expression} (mem : entry ∈ declaredLocals statement) :
    entry ∈ statement.nested.flatMap declaredLocals :=
  List.mem_flatMap.2 ⟨statement, mem_nested_self statement, mem⟩

/-- A statement that declares nothing adds nothing to what those behind it declare. -/
theorem flatMap_declaredLocals_cons {statement : Statement} (none : declaredLocals statement = [])
    (rest : List Statement) :
    (statement :: rest).flatMap declaredLocals = rest.flatMap declaredLocals := by
  rw [List.flatMap_cons, none, List.nil_append]

mutual

/-- What is visible inside a statement was visible before it or is declared in it. -/
theorem visible_of_mem_scopedIn {visible : Locals} {assembly : ScopedAssembly}
    {entry : String × Option Expression} (seen : entry ∈ assembly.visible) :
    (statement : Statement) → assembly ∈ scopedIn visible statement →
      entry ∈ visible ∨ entry ∈ statement.nested.flatMap declaredLocals
  | .assembly block, found => by
    cases List.mem_singleton.1 found
    exact .inl seen
  | .block body, found => visible_of_mem_scopedInList seen body found
  | .uncheckedBlock body, found => visible_of_mem_scopedInList seen body found
  | .ifThen body alternative, found => by
    rw [scopedIn, List.mem_append] at found
    rw [Statement.nested, flatMap_declaredLocals_cons rfl, List.flatMap_append]
    rcases found with found | found
    · exact (visible_of_mem_scopedIn seen body found).imp_right (List.mem_append_left _)
    · exact (visible_of_mem_scopedInOption seen alternative found).imp_right
        (List.mem_append_right _)
  | .forLoop init body, found => by
    rw [scopedIn, List.mem_append] at found
    rw [Statement.nested, flatMap_declaredLocals_cons rfl, List.flatMap_append]
    rcases found with found | found
    · exact (visible_of_mem_scopedInOption seen init found).imp_right (List.mem_append_left _)
    · rcases visible_of_mem_scopedIn seen body found with before | inside
      · refine (List.mem_append.1 before).symm.imp_right fun head => ?_
        -- The head of the loop is visible in its body.
        cases init with
        | none => cases head
        | some statement =>
          exact List.mem_append_left _ (mem_declared_of_mem_declaredLocals head)
      · exact .inr (List.mem_append_right _ inside)
  | .whileLoop body, found => visible_of_mem_scopedIn seen body found
  | .doWhileLoop body, found => visible_of_mem_scopedIn seen body found
  | .tryCatch clauses, found => visible_of_mem_scopedInClauses seen clauses found
  | .declaration _ _, found => by cases found
  | .other, found => by cases found

/-- What is visible inside a statement that may be absent was visible before it or is declared in
it. -/
theorem visible_of_mem_scopedInOption {visible : Locals} {assembly : ScopedAssembly}
    {entry : String × Option Expression} (seen : entry ∈ assembly.visible) :
    (statement : Option Statement) → assembly ∈ scopedInOption visible statement →
      entry ∈ visible ∨ entry ∈ (Statement.nestedOption statement).flatMap declaredLocals
  | some statement, found => visible_of_mem_scopedIn seen statement found
  | none, found => by cases found

/-- What is visible inside a list of statements was visible before it or is declared in it. -/
theorem visible_of_mem_scopedInList {visible : Locals} {assembly : ScopedAssembly}
    {entry : String × Option Expression} (seen : entry ∈ assembly.visible) :
    (body : List Statement) → assembly ∈ scopedInList visible body →
      entry ∈ visible ∨ entry ∈ (Statement.nestedList body).flatMap declaredLocals
  | [], found => by cases found
  | statement :: rest, found => by
    rw [scopedInList, List.mem_append] at found
    rw [Statement.nestedList, List.flatMap_append]
    rcases found with found | found
    · exact (visible_of_mem_scopedIn seen statement found).imp_right (List.mem_append_left _)
    · rcases visible_of_mem_scopedInList seen rest found with before | inside
      · exact (List.mem_append.1 before).symm.imp_right fun own =>
          List.mem_append_left _ (mem_declared_of_mem_declaredLocals own)
      · exact .inr (List.mem_append_right _ inside)

/-- What is visible inside clauses was visible before them or is declared in them. -/
theorem visible_of_mem_scopedInClauses {visible : Locals} {assembly : ScopedAssembly}
    {entry : String × Option Expression} (seen : entry ∈ assembly.visible) :
    (clauses : List (List Statement)) → assembly ∈ scopedInClauses visible clauses →
      entry ∈ visible ∨ entry ∈ (Statement.nestedClauses clauses).flatMap declaredLocals
  | [], found => by cases found
  | clause :: rest, found => by
    rw [scopedInClauses, List.mem_append] at found
    rw [Statement.nestedClauses, List.flatMap_append]
    rcases found with found | found
    · exact (visible_of_mem_scopedInList seen clause found).imp_right (List.mem_append_left _)
    · exact (visible_of_mem_scopedInClauses seen rest found).imp_right (List.mem_append_right _)

end

/-- What is visible in a block of assembly of a body is declared in the body. -/
theorem mem_declarations_of_visible {body : List Statement} {assembly : ScopedAssembly}
    (found : assembly ∈ scopedAssemblies body) {entry : String × Option Expression}
    (seen : entry ∈ assembly.visible) : entry ∈ declarations body :=
  (visible_of_mem_scopedInList seen body found).resolve_left List.not_mem_nil

/-! ## The last declaration of a name -/

/-- A variable with its initializer, if it has one. -/
def initialized? (entry : String × Option Expression) : Option (String × Expression) :=
  entry.2.map fun value => (entry.1, value)

/-- The variable that a statement declares alone and with an initializer. -/
def initializedLocal? : Statement → Option (String × Expression)
  | .declaration [some declared] (some value) => some (declared.name, value)
  | _ => none

/-- A statement declares at most one variable with an initializer. -/
theorem filterMap_declaredLocals (statement : Statement) :
    (declaredLocals statement).filterMap initialized? =
      (initializedLocal? statement).toList := by
  unfold declaredLocals
  split
  · next declared value =>
    cases value <;> rfl
  · next declared value many =>
    have alone : initializedLocal? (.declaration declared value) = none := by
      unfold initializedLocal?
      split
      · next single _ same =>
        cases same
        exact absurd rfl (many single)
      · rfl
    rw [alone, List.filterMap_filterMap, Option.toList_none, List.filterMap_eq_nil_iff]
    intro entry _
    cases entry <;> rfl
  · next other =>
    unfold initializedLocal?
    split
    · exact absurd rfl (other _ _)
    · rfl

/-- The local variables of a scope are those with initializers, the latest first. -/
theorem localsOf_eq (body : List Statement) :
    localsOf body = ((declarations body).filterMap initialized?).reverse := by
  have own : localsOf body =
      ((Statement.nestedList body).filterMap initializedLocal?).reverse := rfl
  rw [own, declarations]
  congr 1
  induction Statement.nestedList body with
  | nil => rfl
  | cons statement rest ih =>
    rw [List.flatMap_cons, List.filterMap_append, ← ih, filterMap_declaredLocals,
      List.filterMap_cons]
    cases initializedLocal? statement <;> rfl

/-- Whether a declaration of a name is the last one that has an initializer. -/
def IsLast (name : String) (value : Expression) (declared : Locals) : Prop :=
  ∃ before after, declared = before ++ (name, some value) :: after ∧
    ∀ later, (name, some later) ∉ after

/-- A variable with an initializer is one of some variables when it is among the initialized
ones. -/
theorem mem_filterMap_initialized?_iff {declared : Locals} {name : String} {value : Expression} :
    (name, value) ∈ declared.filterMap initialized? ↔ (name, some value) ∈ declared := by
  rw [List.mem_filterMap]
  constructor
  · rintro ⟨⟨own, initializer⟩, mem, found⟩
    cases initializer <;> cases found
    exact mem
  · exact fun mem => ⟨_, mem, rfl⟩

/-- The value found for a name in a routine is that of its last declaration. -/
theorem lookup_localsOf_eq_some_iff {body : List Statement} {name : String} {value : Expression} :
    (localsOf body).lookup name = some value ↔ IsLast name value (declarations body) := by
  rw [localsOf_eq, List.lookup_eq_some_iff]
  constructor
  · rintro ⟨after, before, split, others⟩
    have ordered := congrArg List.reverse split
    rw [List.reverse_reverse, List.reverse_append, List.reverse_cons, List.append_assoc,
      List.singleton_append] at ordered
    obtain ⟨front, back, whole, -, found⟩ := List.filterMap_eq_append_iff.1 ordered
    obtain ⟨skipped, entry, rest, rfl, -, own, later⟩ := List.filterMap_eq_cons_iff.1 found
    obtain ⟨declared, initializer⟩ := entry
    cases initializer <;> cases own
    refine ⟨front ++ skipped, rest, by rw [whole, List.append_assoc], fun value mem => ?_⟩
    have listed := mem_filterMap_initialized?_iff.2 mem
    rw [later, List.mem_reverse] at listed
    simpa using others _ listed
  · rintro ⟨before, after, split, none⟩
    refine ⟨(after.filterMap initialized?).reverse, (before.filterMap initialized?).reverse,
      by simp [split, initialized?], fun entry mem => ?_⟩
    rw [bne_iff_ne]
    rintro rfl
    exact none _ (mem_filterMap_initialized?_iff.1 (List.mem_reverse.1 mem))

/-! ## Targets -/

/-- The slot of a target to which a name is assigned that is no assembly variable. -/
theorem targetSlot_eq_of_named (digest : Digest) {scope : Scope} {target : SlotTarget}
    {name : String} {value : Expression} (assigned : target.value = some (.identifier name))
    (free : target.visible.lookup name = none) (found : scope.named? name = some value) :
    scope.targetSlot digest target = scope.resolve digest Scope.maxIndirections value := by
  simp only [Scope.targetSlot, assigned, Scope.resolveYul, free, found]

/-- A name that is declared with an initializer in a routine stands for the initializer of its last
declaration there. -/
theorem named?_eq_some_iff {body : List Statement} {scope : Scope}
    (locals : scope.locals = localsOf body) {name : String} {seen : Expression}
    (declared : (name, some seen) ∈ declarations body) (value : Expression) :
    scope.named? name = some value ↔ IsLast name value (declarations body) := by
  rw [← lookup_localsOf_eq_some_iff, Scope.named?, locals]
  cases found : (localsOf body).lookup name with
  | some _ => rfl
  | none =>
    -- A constant only counts where nothing is declared.
    have listed : (name, seen) ∈ localsOf body := by
      rw [localsOf_eq, List.mem_reverse]
      exact mem_filterMap_initialized?_iff.2 declared
    rw [List.lookup_eq_none_iff] at found
    simpa using found _ listed

/-- If all declarations of a name have one initializer, the last one has it. -/
theorem isLast_of_forall_eq {name : String} {value : Expression} {declared : Locals}
    (mem : (name, some value) ∈ declared)
    (same : ∀ later, (name, some later) ∈ declared → later = value) :
    IsLast name value declared := by
  induction declared with
  | nil => cases mem
  | cons entry rest ih =>
    by_cases again : ∃ later, (name, some later) ∈ rest
    · obtain ⟨later, inside⟩ := again
      have equal := same later (List.mem_cons_of_mem _ inside)
      rw [equal] at inside
      obtain ⟨before, after, rfl, none⟩ := ih inside fun later mem =>
        same later (List.mem_cons_of_mem _ mem)
      exact ⟨entry :: before, after, rfl, none⟩
    · rcases List.mem_cons.1 mem with rfl | inside
      · exact ⟨[], rest, rfl, not_exists.1 again⟩
      · exact absurd ⟨value, inside⟩ again

/-- Let a name that is no assembly variable be assigned to a pointer in a block of assembly, where a
declaration of the name with an initializer is visible. The name is resolved through that
initializer exactly when the last declaration of the name in the whole routine, at whatever depth,
has it, and so whenever all its declarations in the routine have one initializer. The slot is the
same at all places of the routine to which the name is assigned, whatever is visible there. -/
theorem locals_resolve_by_scope_iff (digest : Digest) (index : DeclarationIndex) (unit : SourceUnit)
    (contract : Option ContractDefinition) (routine : Routine) (assembly : ScopedAssembly)
    (found : assembly ∈ scopedAssemblies routine.body) (target : SlotTarget)
    (inside : target ∈ blockTargets [] assembly.block) (name : String)
    (assigned : target.value = some (.identifier name)) (free : target.visible.lookup name = none)
    (initializer : Expression) (seen : assembly.visible.lookup name = some (some initializer)) :
    let scope := Scope.ofRoutine index unit contract routine
    target ∈ targets routine.body ∧
      (scope.named? name = some initializer ↔
        IsLast name initializer (declarations routine.body)) ∧
      (IsLast name initializer (declarations routine.body) →
        scope.targetSlot digest target =
          scope.resolve digest Scope.maxIndirections initializer) ∧
      ((∀ value, (name, some value) ∈ declarations routine.body → value = initializer) →
        IsLast name initializer (declarations routine.body)) ∧
      ∀ twin ∈ targets routine.body, twin.value = some (.identifier name) →
        twin.visible.lookup name = none →
        scope.targetSlot digest twin = scope.targetSlot digest target := by
  intro scope
  have declared : (name, some initializer) ∈ declarations routine.body :=
    mem_declarations_of_visible found (Association.mem_of_lookup_eq_some seen)
  have named : scope.named? name = some initializer ↔
      IsLast name initializer (declarations routine.body) :=
    named?_eq_some_iff rfl declared initializer
  refine ⟨mem_targets_of_scoped found inside, named,
    fun last => targetSlot_eq_of_named digest assigned free (named.2 last),
    isLast_of_forall_eq declared, fun twin _ twinAssigned twinFree => ?_⟩
  simp only [Scope.targetSlot, assigned, twinAssigned, Scope.resolveYul, free, twinFree]

/-! ## Routines that declare a name twice -/

/-- A declaration of a local variable with a number as its initializer. -/
def declareNumber (name number : String) : Statement :=
  .declaration [some ⟨0, name, none, false, none⟩] (some (.literal ⟨.number, some number, none⟩))

/-- A block of assembly in which a name is assigned to a slot. -/
def anchorTo (slot name : String) : Statement :=
  .assembly [.assignment [slot] (some (.identifier name))]

/-- A library with one function. -/
def accountUnit (body : List Statement) : SourceUnit :=
  ⟨"src/Account.sol",
    [.contract ⟨1, "Account", .library, [.function ⟨2, "load", some body⟩]⟩]⟩

/-- A variable that hides one of the same name around a loop. -/
def hidingBody : List Statement :=
  [declareNumber "s" "0x01",
    .whileLoop (.block [declareNumber "s" "0x02", anchorTo "store.slot" "s"])]

/-- Two variables of one name in scopes side by side. -/
def siblingBody : List Statement :=
  [.block [declareNumber "s" "0x01", anchorTo "first.slot" "s"],
    .block [declareNumber "s" "0x02", anchorTo "second.slot" "s"]]

/-- The variable inside the loop is the last one of its name, so the slot is its number. -/
theorem hiding_local_is_anchored :
    (Scope.ofRoutine (.ofUnits []) (accountUnit hidingBody) none ⟨"load", hidingBody⟩).targetSlot
      (fun _ => 0) ⟨"store", some (.identifier "s"), []⟩ = .ok (.word 2) := by
  have resolved := locals_resolve_by_scope_iff (fun _ => 0) (.ofUnits []) (accountUnit hidingBody)
    none ⟨"load", hidingBody⟩ _ (List.mem_singleton_self _)
    ⟨"store", some (.identifier "s"), []⟩ (List.mem_singleton_self _) "s" rfl rfl
    (.literal ⟨.number, some "0x02", none⟩) rfl
  rw [resolved.2.2.1 ⟨[("s", some (.literal ⟨.number, some "0x01", none⟩))], [], rfl, nofun⟩]
  rfl

/-- Two scopes side by side that declare one name with different initializers get one slot, that of
the second scope, though the first one sees an initializer of its own. -/
theorem sibling_scopes_share_last_local :
    (scopedAssemblies siblingBody).map ScopedAssembly.visible =
        [[("s", some (.literal ⟨.number, some "0x01", none⟩))],
          [("s", some (.literal ⟨.number, some "0x02", none⟩))]] ∧
      (Scope.ofRoutine (.ofUnits []) (accountUnit siblingBody) none
        ⟨"load", siblingBody⟩).resolve (fun _ => 0) Scope.maxIndirections
          (.literal ⟨.number, some "0x01", none⟩) = .ok (.word 1) ∧
      collectAssignments (fun _ => 0) [accountUnit siblingBody] .all =
        .ok [⟨"src/Account.sol", "Account", "load", "first", .word 2⟩,
          ⟨"src/Account.sol", "Account", "load", "second", .word 2⟩] :=
  ⟨rfl, rfl, rfl⟩

end ModularRouter.Namespace
