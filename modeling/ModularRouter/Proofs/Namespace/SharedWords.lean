import ModularRouter.Proofs.Namespace.Collisions
import ModularRouter.Proofs.Namespace.Literals

/-!
# One word in several spellings

A word is written as a number, in decimal or hexadecimal digits, or as the hash of a string, and it
is reached through assembly variables, local variables and constants. `SlotSite.Writes` says this
without the order in which names are looked up. Where every variable is declared once, what is
written is what is found (`SlotSite.Writes.resolves`), so two contracts that write one word collide
however they spell it: `shared_word_collides`.
-/

namespace ModularRouter.Namespace

open Ast (Declaration DeclarationIndex Expression Literal LiteralKind SourceUnit Statement
  VariableDeclaration YulExpression)
open Storage (Selection)
open Text (Spells SpellsBytes SpellsDigit)

/-! ## Names -/

namespace SlotSite

/-- The constants of the contract. -/
def contractConstants (site : SlotSite) : List VariableDeclaration :=
  match site.contract with
  | some contract => contract.stateVariables.filter VariableDeclaration.constant
  | none => []

/-- The constants of the file that belong to no contract. -/
def fileConstants (site : SlotSite) : List VariableDeclaration :=
  site.unit.fileVariables.filter VariableDeclaration.constant

/-- The names of the assembly variables visible at a site and of the local variables of its
routine. -/
def variableNames (site : SlotSite) : List String :=
  site.visible.map Prod.fst ++ (declarations site.routine.body).map Prod.fst

/-- Whether every variable is declared once and hides no constant. -/
structure DeclaredOnce (site : SlotSite) : Prop where
  /-- No name is declared twice among the variables and the constants of the contract. -/
  contract : (site.variableNames ++ site.contractConstants.map VariableDeclaration.name).Nodup
  /-- No name is declared twice among the variables and the constants of the file. -/
  file : (site.variableNames ++ site.fileConstants.map VariableDeclaration.name).Nodup

/-- What a name stands for that is no assembly variable. -/
inductive StandsFor (site : SlotSite) (name : String) (value : Expression) : Prop where
  /-- A local variable stands for its initializer. -/
  | localVariable (declared : (name, some value) ∈ declarations site.routine.body)
  /-- So does a constant of the contract. -/
  | contractConstant {declaration : VariableDeclaration}
      (declared : declaration ∈ site.contractConstants) (named : declaration.name = name)
      (initialized : declaration.value = some value)
  /-- So does a constant of the file, if the contract has none of its name. -/
  | fileConstant {declaration : VariableDeclaration} (declared : declaration ∈ site.fileConstants)
      (named : declaration.name = name) (initialized : declaration.value = some value)
      (free : ∀ other ∈ site.contractConstants, other.name ≠ name)

end SlotSite

/-- A constant is found under its name if no other one has it. -/
theorem constant?_eq_some {known : List VariableDeclaration}
    (distinct : ((known.filter VariableDeclaration.constant).map
      VariableDeclaration.name).Nodup) {declaration : VariableDeclaration}
    (mem : declaration ∈ known.filter VariableDeclaration.constant) :
    Scope.constant? declaration.name known = some declaration := by
  obtain ⟨inside, isConstant⟩ := List.mem_filter.1 mem
  cases found : Scope.constant? declaration.name known with
  | none =>
    rw [Scope.constant?, List.find?_eq_none] at found
    exact absurd (by simp [isConstant]) (found declaration inside)
  | some other =>
    rw [Scope.constant?] at found
    have both := List.find?_some found
    obtain ⟨otherConstant, same⟩ := Bool.and_eq_true_iff.1 both
    have otherMem := List.mem_filter.2 ⟨List.mem_of_find?_eq_some found, otherConstant⟩
    rw [List.inj_on_of_nodup_map distinct otherMem mem (beq_iff_eq.1 same)]

/-- No constant is found under a name that none has. -/
theorem constant?_eq_none {known : List VariableDeclaration} {name : String}
    (free : ∀ declaration ∈ known.filter VariableDeclaration.constant,
      declaration.name ≠ name) :
    Scope.constant? name known = none := by
  rw [Scope.constant?, List.find?_eq_none]
  intro declaration inside both
  obtain ⟨isConstant, named⟩ := Bool.and_eq_true_iff.1 both
  exact free declaration (List.mem_filter.2 ⟨inside, isConstant⟩) (beq_iff_eq.1 named)

namespace SlotSite

section

variable {site : SlotSite} {index : DeclarationIndex} {name : String} {value : Expression}

/-- No constant of the contract has the name of a variable. -/
theorem DeclaredOnce.notMem_of_contractConstant (once : site.DeclaredOnce)
    {declaration : VariableDeclaration} (mem : declaration ∈ site.contractConstants) :
    declaration.name ∉ site.variableNames := by
  intro variableName
  exact (List.nodup_append.1 once.contract).2.2 _ variableName _
    (List.mem_map.2 ⟨declaration, mem, rfl⟩) rfl

/-- No constant of the file has the name of a variable. -/
theorem DeclaredOnce.notMem_of_fileConstant (once : site.DeclaredOnce)
    {declaration : VariableDeclaration} (mem : declaration ∈ site.fileConstants) :
    declaration.name ∉ site.variableNames := by
  intro variableName
  exact (List.nodup_append.1 once.file).2.2 _ variableName _
    (List.mem_map.2 ⟨declaration, mem, rfl⟩) rfl

/-- No variable visible in assembly has the name of a local variable, and no two local variables
have one name. -/
theorem DeclaredOnce.nodup_variableNames (once : site.DeclaredOnce) : site.variableNames.Nodup :=
  (List.nodup_append.1 once.contract).1

/-- A name that stands for something is no assembly variable. -/
theorem StandsFor.lookup_visible_eq (stands : site.StandsFor name value)
    (once : site.DeclaredOnce) : site.visible.lookup name = none := by
  rw [Association.lookup_eq_none_iff_notMem]
  intro visible
  have variableName : name ∈ site.variableNames := List.mem_append_left _ visible
  cases stands with
  | localVariable declared =>
    exact (List.nodup_append.1 once.nodup_variableNames).2.2 name visible name
      (List.mem_map.2 ⟨_, declared, rfl⟩) rfl
  | contractConstant declared named _ =>
    cases named
    exact once.notMem_of_contractConstant declared variableName
  | fileConstant declared named _ _ =>
    cases named
    exact once.notMem_of_fileConstant declared variableName

/-- Only declared names are local variables of the scope. -/
theorem lookup_locals_eq_none (free : name ∉ site.variableNames) :
    (site.scope index).locals.lookup name = none := by
  rw [Association.lookup_eq_none_iff_notMem]
  intro listed
  obtain ⟨⟨own, value⟩, mem, rfl⟩ := List.mem_map.1 listed
  rw [scope, Scope.ofRoutine, localsOf_eq, List.mem_reverse, mem_filterMap_initialized?_iff] at mem
  exact free (List.mem_append_right _ (List.mem_map.2 ⟨_, mem, rfl⟩))

/-- A name that is no variable has the value of the constant that is found. -/
theorem named?_eq_of_constant (free : name ∉ site.variableNames) {declaration : VariableDeclaration}
    (found : (site.scope index).constantNamed? name = some declaration) :
    (site.scope index).named? name = declaration.value := by
  rw [Scope.named?, lookup_locals_eq_none free]
  exact congrArg (Option.bind · VariableDeclaration.value) found

/-- What a name stands for is found. -/
theorem StandsFor.named?_eq (stands : site.StandsFor name value) (once : site.DeclaredOnce) :
    (site.scope index).named? name = some value := by
  cases stands with
  | localVariable declared =>
    have distinct := (List.nodup_append.1 once.nodup_variableNames).2.1
    refine (named?_eq_some_iff rfl declared value).2 (isLast_of_forall_eq declared ?_)
    intro later mem
    cases List.inj_on_of_nodup_map distinct mem declared rfl
    rfl
  | @contractConstant declaration declared named initialized =>
    have free := once.notMem_of_contractConstant declared
    have distinct := (List.nodup_append.1 once.contract).2.1
    subst named
    refine (named?_eq_of_constant free ?_).trans initialized
    unfold contractConstants at declared distinct
    split at declared
    · next contract inContract =>
      simp only [inContract] at distinct
      simp only [Scope.constantNamed?, scope, Scope.ofRoutine, inContract, Option.bind_some,
        constant?_eq_some distinct declared, Option.some_or]
    · cases declared
  | @fileConstant declaration declared named initialized free =>
    have notVariable := once.notMem_of_fileConstant declared
    have distinct := (List.nodup_append.1 once.file).2.1
    subst named
    refine (named?_eq_of_constant notVariable ?_).trans initialized
    have none : (site.contract.bind fun contract =>
        Scope.constant? declaration.name contract.stateVariables) = none := by
      unfold contractConstants at free
      split at free
      · next contract inContract =>
        rw [inContract, Option.bind_some, constant?_eq_none free]
      · next inContract => rw [inContract, Option.bind_none]
    simp only [Scope.constantNamed?, scope, Scope.ofRoutine, none, Option.none_or]
    exact constant?_eq_some distinct declared

end

/-! ## Values -/

/-- Whether an expression leads to a word through the initializers of as many names. -/
inductive Denotes (digest : Digest) (index : DeclarationIndex) (site : SlotSite) :
    Nat → Expression → Word → Prop where
  /-- A number. -/
  | number {literal : Literal} {text : String} {word : Word} (kind : literal.kind = .number)
      (given : literal.value = some text) (writes : WritesWord word text) :
      Denotes digest index site 0 (.literal literal) word
  /-- The hash of a string of any kind. -/
  | hash {reference : Option Ast.NodeId} {literal : Literal} {bytes : List UInt8}
      (kind : literal.kind ∈ [LiteralKind.string, .hexString, .unicodeString])
      (has : HasBytes literal bytes) :
      Denotes digest index site 0 (.call (.identifier "keccak256" reference) [.literal literal])
        (digest bytes)
  /-- A reference to a constant, of whatever contract or file. -/
  | reference {count : Nat} {name : String} {id : Ast.NodeId} {declaration : VariableDeclaration}
      {value : Expression} {word : Word} (found : index.get? id = some (.constant declaration))
      (initialized : declaration.value = some value)
      (leads : Denotes digest index site count value word) :
      Denotes digest index site (count + 1) (.identifier name (some id)) word
  /-- The name of a local variable or of a constant. -/
  | name {count : Nat} {name : String} {reference : Option Ast.NodeId} {value : Expression}
      {word : Word}
      (unknown : ∀ id declaration, reference = some id →
        index.get? id ≠ some (.constant declaration))
      (stands : site.StandsFor name value) (leads : Denotes digest index site count value word) :
      Denotes digest index site (count + 1) (.identifier name reference) word

/-- Whether an expression of assembly leads to a word through the initializers of as many names. -/
inductive YulDenotes (digest : Digest) (index : DeclarationIndex) (site : SlotSite) :
    Nat → YulExpression → Word → Prop where
  /-- A number. -/
  | number {text : String} {hexValue : Option String} {word : Word}
      (writes : WritesWord word text) :
      YulDenotes digest index site 0 (.literal "number" (some text) hexValue) word
  /-- The name of an assembly variable. -/
  | assemblyVariable {count : Nat} {name : String} {value : YulExpression} {word : Word}
      (declared : (name, value) ∈ site.visible)
      (leads : YulDenotes digest index site count value word) :
      YulDenotes digest index site (count + 1) (.identifier name) word
  /-- The name of a local variable or of a constant. -/
  | outer {count : Nat} {name : String} {value : Expression} {word : Word}
      (stands : site.StandsFor name value) (leads : site.Denotes digest index count value word) :
      YulDenotes digest index site (count + 1) (.identifier name) word

/-- Whether a word is assigned at a site, reached through at most 16 names. -/
def Writes (digest : Digest) (index : DeclarationIndex) (site : SlotSite) (word : Word) : Prop :=
  ∃ value, site.value = some value ∧
    ∃ count ≤ 16, site.YulDenotes digest index count value word

section

variable {digest : Digest} {index : DeclarationIndex} {site : SlotSite} {word : Word} {count : Nat}

/-- A string of any kind is one that is hashed. -/
theorem isString_of_mem {literal : Literal}
    (kind : literal.kind ∈ [LiteralKind.string, .hexString, .unicodeString]) :
    isString literal = true := by
  have each : ∀ kind ∈ [LiteralKind.string, .hexString, .unicodeString],
      isString ⟨kind, literal.value, literal.hexValue⟩ = true := by
    simp [isString]
  exact each literal.kind kind

/-- An expression that leads to a word is resolved to it in more steps than there are names on the
way. -/
theorem Denotes.resolve_eq {value : Expression}
    (denotes : site.Denotes digest index count value word) (once : site.DeclaredOnce) {steps : Nat}
    (enough : count < steps) :
    (site.scope index).resolve digest steps value = .ok (.word word) := by
  -- Each name that is followed takes one step, so the steps stay ahead of the names that are left.
  induction denotes generalizing steps with
  | number kind given writes =>
    obtain ⟨steps, rfl⟩ := Nat.exists_eq_add_of_lt enough
    simp only [Scope.resolve, kind, given, writes.slotOfNumber_eq, if_pos]
  | hash kind has =>
    obtain ⟨steps, rfl⟩ := Nat.exists_eq_add_of_lt enough
    simp only [Scope.resolve, calleeName?, slotOfHash, isString_of_mem kind,
      has.literalBytes?_eq, if_pos]
  | @reference count name id declaration value word found initialized _ ih =>
    obtain ⟨steps, rfl⟩ := Nat.exists_eq_add_of_lt enough
    have constant : (site.scope index).constantValue? (some id) = some value := by
      simp only [Scope.constantValue?, Option.bind_some, scope, Scope.ofRoutine, found, initialized]
    simp only [Scope.resolve, constant, Option.some_or]
    exact ih (by omega)
  | @name count name reference value word unknown stands _ ih =>
    obtain ⟨steps, rfl⟩ := Nat.exists_eq_add_of_lt enough
    have constant : (site.scope index).constantValue? reference = none := by
      unfold Scope.constantValue?
      split
      · next declaration found =>
        obtain ⟨id, given, known⟩ := Option.bind_eq_some_iff.1 found
        exact absurd known (unknown id declaration given)
      · rfl
    simp only [Scope.resolve, constant, Option.none_or, stands.named?_eq once]
    exact ih (by omega)

/-- So is an expression of assembly. -/
theorem YulDenotes.resolveYul_eq {value : YulExpression}
    (denotes : site.YulDenotes digest index count value word) (once : site.DeclaredOnce)
    {steps : Nat} (enough : count < steps) :
    (site.scope index).resolveYul digest site.visible steps value = .ok (.word word) := by
  induction denotes generalizing steps with
  | number writes =>
    obtain ⟨steps, rfl⟩ := Nat.exists_eq_add_of_lt enough
    simp only [Scope.resolveYul, writes.slotOfNumber_eq, if_pos]
  | @assemblyVariable count name value word declared _ ih =>
    obtain ⟨steps, rfl⟩ := Nat.exists_eq_add_of_lt enough
    have distinct := (List.nodup_append.1 once.nodup_variableNames).1
    simp only [Scope.resolveYul, Association.lookup_eq_some_of_mem distinct declared]
    exact ih (by omega)
  | @outer count name value word stands leads =>
    obtain ⟨steps, rfl⟩ := Nat.exists_eq_add_of_lt enough
    simp only [Scope.resolveYul, stands.lookup_visible_eq once, stands.named?_eq once]
    exact leads.resolve_eq once (by omega)

/-- Where every variable is declared once, a word that is assigned is what the value resolves
to. -/
theorem Writes.resolves (writes : site.Writes digest index word) (once : site.DeclaredOnce) :
    site.Resolves digest index (.word word) := by
  obtain ⟨value, assigned, count, few, denotes⟩ := writes
  exact ⟨value, assigned, denotes.resolveYul_eq once (Nat.lt_succ_of_le few)⟩

end

end SlotSite

/-! ## Collisions -/

/-- Let two contracts of different names write one word into slots, each as a number, decimal or
hexadecimal, or as the hash of a string of any kind, directly or through at most 16 assembly
variables, local variables and constants, in routines in which every variable is declared once and
hides nothing. If everything else that is assigned to slots resolves, the check reports collisions,
one of them for the word, and it lists both assignments. From assembly the constants of the contract
and the file are reached, from an initializer also those it refers to elsewhere. Functions that
belong to no contract collide like a contract that has the path of the file for its name. -/
theorem shared_word_collides (digest : Digest) (units : List SourceUnit) (selection : Selection)
    (word : Word) (first second : SlotSite) (firstMem : first ∈ slotSites units selection)
    (secondMem : second ∈ slotSites units selection) (apart : first.label ≠ second.label)
    (firstOnce : first.DeclaredOnce) (secondOnce : second.DeclaredOnce)
    (firstWrites : first.Writes digest (.ofUnits units) word)
    (secondWrites : second.Writes digest (.ofUnits units) word)
    (others : ∀ site ∈ slotSites units selection, site ≠ first → site ≠ second →
      ∃ slot, site.Resolves digest (.ofUnits units) slot) :
    ∃ collisions, ensureUnique digest units selection = .error (.collisions collisions) ∧
      ∃ collision ∈ collisions, collision.slot = .word word ∧
        (∀ other ∈ collisions, other.slot = .word word → other = collision) ∧
        (∃ recorded ∈ collision.assignments,
          first.Records recorded ∧ recorded.slot = .word word) ∧
        ∃ recorded ∈ collision.assignments,
          second.Records recorded ∧ recorded.slot = .word word := by
  have firstResolves := firstWrites.resolves firstOnce
  have secondResolves := secondWrites.resolves secondOnce
  obtain ⟨assignments, collected⟩ : ∃ assignments,
      collectAssignments digest units selection = .ok assignments := by
    refine exists_collected fun site mem => ?_
    by_cases isFirst : site = first
    · exact ⟨_, isFirst ▸ firstResolves⟩
    by_cases isSecond : site = second
    · exact ⟨_, isSecond ▸ secondResolves⟩
    exact others site mem isFirst isSecond
  obtain ⟨one, oneMem, oneRecords, oneResolves⟩ := exists_recorded_of_mem collected firstMem
  obtain ⟨two, twoMem, twoRecords, twoResolves⟩ := exists_recorded_of_mem collected secondMem
  -- What is recorded is what is written, since a value resolves to one slot.
  have oneSlot := oneResolves.unique firstResolves
  have twoSlot := twoResolves.unique secondResolves
  have different : one.contract ≠ two.contract := by
    rw [oneRecords.contract, twoRecords.contract]
    exact apart
  obtain ⟨collision, mem, slot⟩ :=
    exists_collision_iff.2 ⟨one, oneMem, two, twoMem, oneSlot, twoSlot, different⟩
  refine ⟨_, ensureUnique_eq_collisions collected mem, collision, mem, slot, ?_, ?_, ?_⟩
  · exact fun other otherMem same => eq_of_slot_eq otherMem mem (same.trans slot.symm)
  · exact ⟨one, (mem_assignments_iff mem).2 ⟨oneMem, oneSlot.trans slot.symm⟩, oneRecords, oneSlot⟩
  · exact ⟨two, (mem_assignments_iff mem).2 ⟨twoMem, twoSlot.trans slot.symm⟩, twoRecords, twoSlot⟩

/-! ## A hash and a number -/

/-- A function that assigns the hash of two bytes, which it keeps in a local variable. -/
def hashingRoutine : Routine :=
  ⟨"load",
    [.declaration [some ⟨3, "s", none, false, none⟩]
        (some (.call (.identifier "keccak256" none) [.literal ⟨.hexString, none, some "1aB0"⟩])),
      .block [.assembly [.declaration ["x"] (some (.identifier "s")),
        .assignment ["store.slot"] (some (.identifier "x"))]]]⟩

/-- A library with the function. -/
def hashingLibrary : Ast.ContractDefinition :=
  ⟨1, "Account", .library, [.function ⟨2, "load", some hashingRoutine.body⟩]⟩

/-- Where the hash is assigned. -/
def hashingSite : SlotSite :=
  ⟨⟨"src/Account.sol", [.contract hashingLibrary]⟩, some hashingLibrary, hashingRoutine,
    [("x", .identifier "s")], "store.slot", some (.identifier "x")⟩

/-- A modifier that assigns a constant. -/
def namingRoutine : Routine :=
  ⟨"open", [.assembly [.assignment ["book.slot"] (some (.identifier "SLOT"))]]⟩

/-- A library with the modifier, where the constant is written as a number. -/
def namingLibrary : Ast.ContractDefinition :=
  ⟨4, "Market", .library,
    [.variable ⟨5, "SLOT", none, true, some (.literal ⟨.number, some "0x0_01A", none⟩)⟩,
      .modifier ⟨"open", some namingRoutine.body⟩]⟩

/-- Where the constant is assigned. -/
def namingSite : SlotSite :=
  ⟨⟨"src/Market.sol", [.contract namingLibrary]⟩, some namingLibrary, namingRoutine, [],
    "book.slot", some (.identifier "SLOT")⟩

/-- If the two bytes hash to the number that the constant is, the libraries collide. -/
theorem hash_collides_with_number :
    ∃ collisions, ensureUnique (fun _ => 26) [hashingSite.unit, namingSite.unit] .all =
        .error (.collisions collisions) ∧
      ∃ collision ∈ collisions, collision.slot = .word 26 ∧
        (∀ other ∈ collisions, other.slot = .word 26 → other = collision) ∧
        (∃ recorded ∈ collision.assignments,
          hashingSite.Records recorded ∧ recorded.slot = .word 26) ∧
        ∃ recorded ∈ collision.assignments,
          namingSite.Records recorded ∧ recorded.slot = .word 26 := by
  have hashes : hashingSite.Writes (fun _ => 26)
      (.ofUnits [hashingSite.unit, namingSite.unit]) 26 := by
    refine ⟨_, rfl, 2, by decide, .assemblyVariable (.head _) ?_⟩
    refine .outer (.localVariable (.head _)) ?_
    have one : SpellsDigit 16 '1' 1 := ⟨by decide, .inl rfl⟩
    have ten : SpellsDigit 16 'a' 10 := ⟨by decide, .inl rfl⟩
    have eleven : SpellsDigit 16 'B' 11 := ⟨by decide, .inr rfl⟩
    have zero : SpellsDigit 16 '0' 0 := ⟨by decide, .inl rfl⟩
    have bytes : SpellsBytes "1aB0".toList [0x1a, 0xb0] := .cons one ten (.cons eleven zero .nil)
    exact .hash (by decide) (.digits rfl bytes)
  have names : namingSite.Writes (fun _ => 26)
      (.ofUnits [hashingSite.unit, namingSite.unit]) 26 := by
    refine ⟨_, rfl, 1, by decide, .outer (.contractConstant (.head _) rfl rfl) (.number rfl rfl ?_)⟩
    have zero : SpellsDigit 16 '0' 0 := ⟨by decide, .inl rfl⟩
    have one : SpellsDigit 16 '1' 1 := ⟨by decide, .inl rfl⟩
    have ten : SpellsDigit 16 'A' 10 := ⟨by decide, .inr rfl⟩
    have spells : Spells 16 ['0', '0', '1', 'A'] 26 :=
      ⟨[0, 0, 1, 10], .cons zero (.cons zero (.cons one (.cons ten .nil))), rfl⟩
    exact .hexadecimal rfl spells
  have hashing : hashingSite ∈ slotSites [hashingSite.unit, namingSite.unit] .all := by
    refine mem_slotSites_iff.2 ⟨_, .head _, _, _, .head _, _, .tail _ (.head _),
      .assembly hashingSite.visible (.assignment [hashingSite.name] hashingSite.value), ?_, .head _⟩
    exact .deeper (.deeper .here (.head _)) (.tail _ (.head _))
  have naming : namingSite ∈ slotSites [hashingSite.unit, namingSite.unit] .all := by
    refine mem_slotSites_iff.2 ⟨_, .tail _ (.head _), _, _, .head _, _, .head _,
      .assembly namingSite.visible (.assignment [namingSite.name] namingSite.value), ?_, .head _⟩
    exact .deeper .here (.head _)
  have collected : ∃ assignments, collectAssignments (fun _ => 26)
      [hashingSite.unit, namingSite.unit] .all = .ok assignments := ⟨_, rfl⟩
  obtain ⟨assignments, collected⟩ := collected
  refine shared_word_collides (fun _ => 26) _ .all 26 hashingSite namingSite hashing naming
    (by decide) ⟨by decide, by decide⟩ ⟨by decide, by decide⟩ hashes names fun site mem _ _ => ?_
  obtain ⟨recorded, -, -, resolves⟩ := exists_recorded_of_mem collected mem
  exact ⟨recorded.slot, resolves⟩

end ModularRouter.Namespace
