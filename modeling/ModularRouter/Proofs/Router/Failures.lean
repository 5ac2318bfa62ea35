import Mathlib.Data.List.Induction
import Mathlib.Data.List.Nodup
import ModularRouter.Proofs.Router.Dispatch

/-!
# Why there is no router

A router needs contracts, descriptions that can be read, functions with selectors of their own, room
in a leaf, a function to dispatch and a constant for every module. These are asked for one after the
other, and `FirstFault` relates an error to the first of them that is missing. Exactly one of
`Generable` and `FirstFault` holds (`generable_or_exists_firstFault`), and each of them settles what
`generate` returns, so that `exists_generate_iff` and `generate_eq_error_iff` follow without another
look at the steps.
That a sorted list is out of order or that a function belongs to no module is no `FirstFault`: the
dispatch tree is built over functions whose selectors are distinct (`dispatchTree_eq_ok_iff`), and
all of them come from the modules (`generate_eq_of_dispatchTree`).
-/

namespace ModularRouter.Router

open Results (bind_eq_ok_iff)

/-! ## Fragments -/

section

variable (digest : Digest) (filter : Filter)

/-- A fragment with nothing wrong, be it a function that the filter accepts or not. -/
def IsUsable (contract : String) (fragment : Json) : Prop :=
  ∃ found, functionOfFragment digest filter contract fragment = .ok found

/-- The function that a fragment describes, if it describes one and the filter accepts it. -/
def accepted? (contract : String) (fragment : Json) : Option Function :=
  (functionOfFragment digest filter contract fragment).toOption.join

/-- The first fault of a description and the place of its fragment: nothing is wrong with the
fragments before it. -/
structure IsFirstFault (contract : String) (abi : List Json) (place : Nat) (fault : FragmentFault) :
    Prop where
  /-- The fragments before it can be used. -/
  before : ∀ fragment ∈ abi.take place, IsUsable digest filter contract fragment
  /-- The fragment at the place has the fault. -/
  faulty : ∃ fragment, abi[place]? = some fragment ∧
    functionOfFragment digest filter contract fragment = .error fault

/-- Whether nothing is wrong with any fragment of some contracts. -/
def AllUsable (contracts : List ModuleContract) : Prop :=
  ∀ contract ∈ contracts, ∀ fragment ∈ contract.abi,
    IsUsable digest filter contract.name fragment

/-- The functions that contracts put behind a router: one contract after the other, one fragment
after the other. -/
def acceptedFunctions (contracts : List ModuleContract) : List Function :=
  contracts.flatMap fun contract => contract.abi.filterMap (accepted? digest filter contract.name)

/-- The first fragment of some contracts with something wrong: nothing is wrong with the contracts
before its own, nor with the fragments of its contract before it. -/
def IsFirstInvalid (contracts : List ModuleContract) (invalid : InvalidFragment) : Prop :=
  ∃ before contract after, contracts = before ++ contract :: after ∧
    AllUsable digest filter before ∧ invalid.contract = contract.name ∧
    IsFirstFault digest filter contract.name contract.abi invalid.index invalid.fault

end

section

variable {digest : Digest} {filter : Filter} {contract : String}

/-- A fragment is usable or has a fault. -/
theorem isUsable_or_exists_fault (fragment : Json) :
    IsUsable digest filter contract fragment ∨
      ∃ fault, functionOfFragment digest filter contract fragment = .error fault := by
  cases found : functionOfFragment digest filter contract fragment with
  | error fault => exact .inr ⟨fault, rfl⟩
  | ok function => exact .inl ⟨function, found⟩

/-- A description is read if all of its fragments are usable. -/
theorem functionsFrom_eq_ok {abi : List Json}
    (usable : ∀ fragment ∈ abi, IsUsable digest filter contract fragment) (index : Nat) :
    functionsFrom digest filter contract index abi =
      .ok (abi.filterMap (accepted? digest filter contract)) := by
  induction abi generalizing index with
  | nil => rfl
  | cons fragment rest ih =>
    obtain ⟨found, described⟩ := usable fragment (List.mem_cons_self ..)
    have later := ih (fun other mem => usable other (List.mem_cons_of_mem _ mem)) (index + 1)
    have own : accepted? digest filter contract fragment = found := by
      rw [accepted?, described]
      rfl
    rw [functionsFrom, described, List.filterMap_cons, own]
    simp only [later, bind, Except.bind]
    cases found <;> rfl

/-- A description is refused for its first fault. -/
theorem functionsFrom_eq_error {abi : List Json} {place : Nat} {fault : FragmentFault}
    (first : IsFirstFault digest filter contract abi place fault) (index : Nat) :
    functionsFrom digest filter contract index abi = .error ⟨contract, index + place, fault⟩ := by
  induction abi generalizing place index with
  | nil =>
    obtain ⟨fragment, found, -⟩ := first.faulty
    simp at found
  | cons fragment rest ih =>
    cases place with
    | zero =>
      obtain ⟨own, found, faulty⟩ := first.faulty
      cases found
      rw [functionsFrom, faulty]
      rfl
    | succ place =>
      obtain ⟨found, described⟩ := first.before fragment (List.mem_cons_self ..)
      have later : IsFirstFault digest filter contract rest place fault :=
        ⟨fun other mem => first.before other (List.mem_cons_of_mem _ mem), first.faulty⟩
      rw [functionsFrom, described]
      simp only [ih later (index + 1), bind, Except.bind, Nat.add_right_comm, Nat.add_assoc]

/-- A description with a fragment that is not usable has a first one. -/
theorem exists_isFirstFault {abi : List Json}
    (faulty : ¬ ∀ fragment ∈ abi, IsUsable digest filter contract fragment) :
    ∃ place fault, IsFirstFault digest filter contract abi place fault := by
  induction abi with
  | nil => simp at faulty
  | cons fragment rest ih =>
    rcases isUsable_or_exists_fault fragment with usable | ⟨fault, own⟩
    · obtain ⟨place, fault, before, first⟩ := ih fun later =>
        faulty (List.forall_mem_cons.2 ⟨usable, later⟩)
      exact ⟨place + 1, fault, List.forall_mem_cons.2 ⟨usable, before⟩, first⟩
    · exact ⟨0, fault, by simp, fragment, rfl, own⟩

/-- The functions of contracts are read if all fragments are usable. -/
theorem functionsOfContracts_eq_ok {contracts : List ModuleContract}
    (usable : AllUsable digest filter contracts) :
    functionsOfContracts digest filter contracts =
      .ok (acceptedFunctions digest filter contracts) := by
  induction contracts with
  | nil => rfl
  | cons contract rest ih =>
    obtain ⟨own, later⟩ := List.forall_mem_cons.1 usable
    rw [functionsOfContracts, functionsOfAbi, functionsFrom_eq_ok own, ih later]
    rfl

/-- Contracts are refused for their first fragment with something wrong. -/
theorem functionsOfContracts_eq_error {contracts : List ModuleContract} {invalid : InvalidFragment}
    (first : IsFirstInvalid digest filter contracts invalid) :
    functionsOfContracts digest filter contracts = .error invalid := by
  obtain ⟨before, contract, after, rfl, usable, named, faulty⟩ := first
  induction before with
  | nil =>
    rw [List.nil_append, functionsOfContracts, functionsOfAbi, functionsFrom_eq_error faulty,
      ← named, Nat.zero_add]
    rfl
  | cons earlier others ih =>
    obtain ⟨own, later⟩ := List.forall_mem_cons.1 usable
    rw [List.cons_append, functionsOfContracts, functionsOfAbi, functionsFrom_eq_ok own, ih later]
    rfl

/-- Contracts with a fragment that is not usable have a first one. -/
theorem exists_isFirstInvalid {contracts : List ModuleContract}
    (faulty : ¬ AllUsable digest filter contracts) :
    ∃ invalid, IsFirstInvalid digest filter contracts invalid := by
  induction contracts with
  | nil => exact absurd (fun _ mem => absurd mem List.not_mem_nil) faulty
  | cons contract rest ih =>
    by_cases own : ∀ fragment ∈ contract.abi, IsUsable digest filter contract.name fragment
    · obtain ⟨invalid, before, other, after, rfl, usable, first⟩ := ih fun later =>
        faulty (List.forall_mem_cons.2 ⟨own, later⟩)
      exact ⟨invalid, contract :: before, other, after, rfl,
        List.forall_mem_cons.2 ⟨own, usable⟩, first⟩
    · obtain ⟨place, fault, first⟩ := exists_isFirstFault own
      exact ⟨⟨contract.name, place, fault⟩, [], contract, rest, rfl,
        fun _ mem => absurd mem List.not_mem_nil, rfl, first⟩

/-- The functions of contracts are read exactly if all fragments are usable. -/
theorem functionsOfContracts_eq_ok_iff {contracts : List ModuleContract}
    {functions : List Function} :
    functionsOfContracts digest filter contracts = .ok functions ↔
      AllUsable digest filter contracts ∧
        functions = acceptedFunctions digest filter contracts := by
  by_cases usable : AllUsable digest filter contracts
  · rw [functionsOfContracts_eq_ok usable]
    simp [usable, eq_comm]
  · obtain ⟨invalid, first⟩ := exists_isFirstInvalid usable
    simp [functionsOfContracts_eq_error first, usable]

end

/-! ## Constants -/

/-- The first contract that would get the constant of another one: the contracts before it have
constants of their own. -/
structure IsFirstDuplicate (before : List ModuleContract) (contract : ModuleContract) : Prop where
  /-- The contracts before it are told apart by their constants. -/
  distinct : DistinctConstants before
  /-- One of them has its constant. -/
  declared : constantName contract.name ∈ before.map fun other => constantName other.name

/-- The first contract with the constant of another one is found. -/
theorem duplicate?_eq_some {before : List ModuleContract} {contract : ModuleContract}
    {declared : List String} (after : List ModuleContract)
    (fresh : ∀ other ∈ before, constantName other.name ∉ declared)
    (distinct : DistinctConstants before)
    (known : constantName contract.name ∈ declared ∨
      constantName contract.name ∈ before.map fun other => constantName other.name) :
    duplicate? declared (before ++ contract :: after) = some contract := by
  induction before generalizing declared with
  | nil => rw [List.nil_append, duplicate?, if_pos (by simpa using known)]
  | cons first rest ih =>
    obtain ⟨own, later⟩ := List.forall_mem_cons.1 fresh
    obtain ⟨apart, others⟩ := List.nodup_cons.1 distinct
    rw [List.cons_append, duplicate?, if_neg own]
    refine ih (fun other mem => ?_) others ?_
    · rw [List.mem_cons, not_or]
      exact ⟨fun same => apart (List.mem_map.2 ⟨other, mem, same⟩), later other mem⟩
    · rw [List.map_cons, List.mem_cons] at known
      rw [List.mem_cons]
      tauto

/-- Contracts that are not told apart by their constants have a first one with the constant of
another one. -/
theorem exists_isFirstDuplicate {contracts : List ModuleContract}
    (shared : ¬ DistinctConstants contracts) :
    ∃ before contract after, contracts = before ++ contract :: after ∧
      IsFirstDuplicate before contract := by
  induction contracts using List.reverseRecOn with
  | nil => exact absurd List.nodup_nil shared
  | append_singleton contracts last ih =>
    by_cases distinct : DistinctConstants contracts
    · refine ⟨contracts, last, [], rfl, distinct, ?_⟩
      by_contra fresh
      refine shared ?_
      rw [DistinctConstants, List.map_append, List.map_singleton]
      refine List.nodup_append.2 ⟨distinct, List.nodup_singleton _, ?_⟩
      rintro constant mem other same rfl
      rw [List.mem_singleton.1 same] at mem
      exact fresh mem
    · obtain ⟨before, contract, after, rfl, first⟩ := ih distinct
      exact ⟨before, contract, after ++ [last], by simp, first⟩

/-! ## Dispatch trees -/

/-- What a dispatch tree needs. -/
structure Dispatchable (digest : Digest) (settings : Settings) (contracts : List ModuleContract) :
    Prop where
  /-- There is a contract. -/
  nonempty : contracts ≠ []
  /-- All fragments are usable. -/
  usable : AllUsable digest settings.filter contracts
  /-- No two functions share a selector. -/
  selectors : ((acceptedFunctions digest settings.filter contracts).map Function.selector).Nodup
  /-- A leaf may hold a function. -/
  leafSize : 0 < settings.maxLeafSize
  /-- There is a function. -/
  functions : acceptedFunctions digest settings.filter contracts ≠ []

/-- Sorting keeps all functions. -/
theorem sortBySelector_perm (functions : List Function) :
    (sortBySelector functions).Perm functions :=
  List.mergeSort_perm functions _

/-- Functions of which no two share a selector increase when they are sorted. -/
theorem increasing_sortBySelector {functions : List Function}
    (distinct : (functions.map Function.selector).Nodup) :
    DispatchTree.Increasing (sortBySelector functions) := by
  have sorted : (sortBySelector functions).Pairwise fun a b => a.selector ≤ b.selector := by
    refine (List.pairwise_mergeSort ?_ ?_ functions).imp of_decide_eq_true
    · intro a b c
      simpa only [decide_eq_true_eq] using BitVec.le_trans
    · intro a b
      simpa only [Bool.or_eq_true, decide_eq_true_eq] using BitVec.le_total a.selector b.selector
  have apart : (sortBySelector functions).Pairwise fun a b => a.selector ≠ b.selector := by
    rw [← List.pairwise_map]
    exact ((sortBySelector_perm functions).map Function.selector).nodup_iff.2 distinct
  exact (sorted.and apart).imp fun ⟨below, other⟩ => BitVec.lt_of_le_ne below other

section

variable {digest : Digest} {settings : Settings} {contracts : List ModuleContract}

/-- Where functions share selectors, all that share one are told. -/
theorem collect_eq_error {filter : Filter} (usable : AllUsable digest filter contracts)
    (shared : ¬ ((acceptedFunctions digest filter contracts).map Function.selector).Nodup) :
    collect digest filter contracts =
      .error (.selectorCollisions (collisions (acceptedFunctions digest filter contracts))) := by
  rw [← collisions_eq_nil_iff] at shared
  rw [collect, functionsOfContracts_eq_ok usable]
  cases found : collisions (acceptedFunctions digest filter contracts) with
  | nil => exact absurd found shared
  | cons first rest => simp only [found]

/-- Over some contracts a tree is built from the functions that are collected. -/
theorem dispatchTree_eq_bind (nonempty : contracts ≠ []) :
    dispatchTree digest settings contracts =
      collect digest settings.filter contracts >>= fun functions =>
        DispatchTree.build settings.maxLeafSize (sortBySelector functions) :=
  if_neg (by simpa using nonempty)

/-- The tree of usable contracts is built over their sorted functions, if no two of them share a
selector. -/
theorem dispatchTree_eq_build (nonempty : contracts ≠ [])
    (usable : AllUsable digest settings.filter contracts)
    (selectors :
      ((acceptedFunctions digest settings.filter contracts).map Function.selector).Nodup) :
    dispatchTree digest settings contracts = DispatchTree.build settings.maxLeafSize
      (sortBySelector (acceptedFunctions digest settings.filter contracts)) := by
  rw [dispatchTree_eq_bind nonempty,
    collect_eq_ok_iff.2 ⟨functionsOfContracts_eq_ok usable, selectors⟩]
  rfl

/-- A tree is built exactly over contracts with all that it needs, from their sorted functions. -/
theorem dispatchTree_eq_ok_iff {tree : DispatchTree} :
    dispatchTree digest settings contracts = .ok tree ↔
      ∃ able : Dispatchable digest settings contracts, tree = DispatchTree.halve able.leafSize
        (sortBySelector (acceptedFunctions digest settings.filter contracts)) := by
  have sorted_ne_nil {functions : List Function} :
      sortBySelector functions ≠ [] ↔ functions ≠ [] := by
    rw [← List.length_pos_iff, ← List.length_pos_iff, (sortBySelector_perm functions).length_eq]
  constructor
  · intro made
    have nonempty : contracts ≠ [] := by
      rintro rfl
      cases made
    rw [dispatchTree_eq_bind nonempty] at made
    obtain ⟨functions, collected, built⟩ := bind_eq_ok_iff.1 made
    obtain ⟨read, selectors⟩ := collect_eq_ok_iff.1 collected
    obtain ⟨usable, rfl⟩ := functionsOfContracts_eq_ok_iff.1 read
    obtain ⟨leafSize, some, -, rfl⟩ := DispatchTree.build_eq_ok_iff.1 built
    exact ⟨⟨nonempty, usable, selectors, leafSize, sorted_ne_nil.1 some⟩, rfl⟩
  · rintro ⟨able, rfl⟩
    rw [dispatchTree_eq_build able.nonempty able.usable able.selectors]
    exact DispatchTree.build_eq_ok_iff.2 ⟨able.leafSize, sorted_ne_nil.2 able.functions,
      increasing_sortBySelector able.selectors, rfl⟩

/-- Every function of a tree comes from a module. -/
theorem exists_contract_of_mem {tree : DispatchTree}
    (made : dispatchTree digest settings contracts = .ok tree) {function : Function}
    (mem : function ∈ tree.functions) :
    ∃ contract ∈ contracts, contract.name = function.contract := by
  obtain ⟨functions, collected, -, same, -⟩ := dispatchTree_spec made
  obtain ⟨contract, inside, declares⟩ :=
    (mem_functionsOfContracts collected).1 (same.mem_iff.1 mem)
  exact ⟨contract, inside, declares.contract_eq.symm⟩

/-- Once there is a tree, a router is only refused for a constant that two modules share. -/
theorem generate_eq_of_dispatchTree {tree : DispatchTree}
    (made : dispatchTree digest settings contracts = .ok tree) :
    generate digest settings contracts =
      match duplicate? [] contracts with
      | some contract => .error (.duplicateModule contract.name (constantName contract.name))
      | none => .ok (settings.template.fill settings.routerName
          (constantsBlock digest settings.template.constantsIndent contracts)
          (tableBlock settings.template.dispatchIndent tree)) := by
  have nonempty : contracts.isEmpty = false := by
    cases contracts with
    | nil => cases made
    | cons contract rest => rfl
  have adopted : orphan? contracts tree = none := by
    rw [orphan?, List.find?_eq_none]
    intro function mem
    obtain ⟨contract, inside, named⟩ := exists_contract_of_mem made mem
    simpa using ⟨contract, inside, named⟩
  rw [generate, made]
  simp only [bind, Except.bind, source, nonempty, adopted]
  rfl

end

/-! ## Looking constants up -/

/-- The constants of modules by the names of the modules. -/
def constantTable (contracts : List ModuleContract) : List (String × String) :=
  contracts.map fun contract => (contract.name, constantName contract.name)

/-- The line of a function that assigns a constant. -/
def caseLineOf (indent : Nat) (function : Function) (constant : String) : String :=
  pad indent ++ "case " ++ function.selector.toText ++ " \x7b result := " ++ constant ++
    " \x7d // " ++ function.contract ++ "." ++ function.name ++ "()"

/-- The lines of a table whose constants are looked up, unless one of them is not there. -/
def indexedLines? (constants : List (String × String)) (indent : Nat) :
    DispatchTree → Option (List String)
  | .leaf functions => do
    let cases ← functions.mapM fun function =>
      (constants.lookup function.contract).map (caseLineOf indent function)
    some ((pad indent ++ "switch sig") :: (cases ++ [pad indent ++ "leave"]))
  | .branch left right => do
    let inside ← indexedLines? constants (indent + 1) left
    let behind ← indexedLines? constants indent right
    some ((pad indent ++ "if lt(sig, " ++ (right.min?.getD 0).toText ++ ") \x7b") ::
      (inside ++ (pad indent ++ "\x7d") :: behind))

/-- The constant of a module is found under its name. -/
theorem lookup_constantTable {contracts : List ModuleContract} {name : String}
    (listed : ∃ contract ∈ contracts, contract.name = name) :
    (constantTable contracts).lookup name = some (constantName name) := by
  induction contracts with
  | nil => simp at listed
  | cons contract rest ih =>
    rw [constantTable, List.map_cons, List.lookup_cons]
    cases same : name == contract.name with
    | true => rw [beq_iff_eq.1 same]
    | false =>
      have other : contract.name ≠ name := fun equal => by simp [equal] at same
      obtain ⟨own, mem, named⟩ := listed
      rcases List.mem_cons.1 mem with rfl | later
      · exact absurd named other
      · exact ih ⟨own, later, named⟩

/-- Where all functions come from modules, every constant is there, and the lines are those of the
table. -/
theorem indexedLines?_eq {contracts : List ModuleContract} (indent : Nat) {tree : DispatchTree}
    (listed : ∀ function ∈ tree.functions,
      ∃ contract ∈ contracts, contract.name = function.contract) :
    indexedLines? (constantTable contracts) indent tree = some (tableLines indent tree) := by
  induction tree generalizing indent with
  | leaf functions =>
    have cases : (functions.mapM fun function =>
        ((constantTable contracts).lookup function.contract).map (caseLineOf indent function)) =
          some (functions.map (caseLine indent)) := by
      induction functions with
      | nil => rfl
      | cons function rest ih =>
        obtain ⟨own, later⟩ := List.forall_mem_cons.1 listed
        rw [List.mapM_cons, lookup_constantTable own, ih later]
        rfl
    rw [indexedLines?, cases]
    rfl
  | branch left right leftIh rightIh =>
    rw [indexedLines?, leftIh (indent + 1) fun function mem => listed function
        (List.mem_append_left _ mem), rightIh indent fun function mem => listed function
        (List.mem_append_right _ mem)]
    rfl

/-! ## The first fault -/

/-- What a router needs. -/
structure Generable (digest : Digest) (settings : Settings) (contracts : List ModuleContract) :
    Prop extends Dispatchable digest settings contracts where
  /-- The modules are told apart by their constants. -/
  constants : DistinctConstants contracts

/-- The errors that tell the first thing a router lacks, in the order in which it is looked for. -/
inductive FirstFault (digest : Digest) (settings : Settings) (contracts : List ModuleContract) :
    RouterError → Prop where
  /-- There is no contract. -/
  | noContracts : contracts = [] → FirstFault digest settings contracts .noContracts
  /-- Something is wrong with a fragment. -/
  | invalidFragment {invalid : InvalidFragment} :
      IsFirstInvalid digest settings.filter contracts invalid →
      FirstFault digest settings contracts (.invalidFragment invalid)
  /-- Functions share selectors. -/
  | selectorCollisions : AllUsable digest settings.filter contracts →
      ¬ ((acceptedFunctions digest settings.filter contracts).map Function.selector).Nodup →
      FirstFault digest settings contracts
        (.selectorCollisions (collisions (acceptedFunctions digest settings.filter contracts)))
  /-- A leaf may hold nothing. -/
  | invalidLeafSize : contracts ≠ [] → AllUsable digest settings.filter contracts →
      ((acceptedFunctions digest settings.filter contracts).map Function.selector).Nodup →
      settings.maxLeafSize = 0 → FirstFault digest settings contracts .invalidLeafSize
  /-- There is no function. -/
  | noSelectors : contracts ≠ [] → AllUsable digest settings.filter contracts →
      0 < settings.maxLeafSize → acceptedFunctions digest settings.filter contracts = [] →
      FirstFault digest settings contracts .noSelectors
  /-- A module would get the constant of one before it. -/
  | duplicateModule {before : List ModuleContract} {contract : ModuleContract}
      {after : List ModuleContract} : Dispatchable digest settings contracts →
      contracts = before ++ contract :: after → IsFirstDuplicate before contract →
      FirstFault digest settings contracts
        (.duplicateModule contract.name (constantName contract.name))

section

variable {digest : Digest} {settings : Settings} {contracts : List ModuleContract}

/-- A router lacks something, or it has all that it needs. -/
theorem generable_or_exists_firstFault (digest : Digest) (settings : Settings)
    (contracts : List ModuleContract) :
    Generable digest settings contracts ∨ ∃ error, FirstFault digest settings contracts error := by
  by_cases nonempty : contracts = []
  · exact .inr ⟨_, .noContracts nonempty⟩
  by_cases usable : AllUsable digest settings.filter contracts
  case neg =>
    obtain ⟨invalid, first⟩ := exists_isFirstInvalid usable
    exact .inr ⟨_, .invalidFragment first⟩
  by_cases selectors :
    ((acceptedFunctions digest settings.filter contracts).map Function.selector).Nodup
  case neg => exact .inr ⟨_, .selectorCollisions usable selectors⟩
  rcases Nat.eq_zero_or_pos settings.maxLeafSize with leafSize | leafSize
  · exact .inr ⟨_, .invalidLeafSize nonempty usable selectors leafSize⟩
  by_cases functions : acceptedFunctions digest settings.filter contracts = []
  · exact .inr ⟨_, .noSelectors nonempty usable leafSize functions⟩
  have able : Dispatchable digest settings contracts :=
    ⟨nonempty, usable, selectors, leafSize, functions⟩
  by_cases constants : DistinctConstants contracts
  · exact .inl ⟨able, constants⟩
  · obtain ⟨before, contract, after, split, first⟩ := exists_isFirstDuplicate constants
    exact .inr ⟨_, .duplicateModule able split first⟩

/-- A router with all that it needs is generated. -/
theorem Generable.exists_generate (able : Generable digest settings contracts) :
    ∃ text, generate digest settings contracts = .ok text := by
  have apart : duplicate? [] contracts = none :=
    (duplicate?_eq_none_iff [] contracts).2 ⟨fun _ _ => List.not_mem_nil, able.constants⟩
  rw [generate_eq_of_dispatchTree (dispatchTree_eq_ok_iff.2 ⟨able.toDispatchable, rfl⟩), apart]
  exact ⟨_, rfl⟩

/-- What keeps the functions from being collected keeps the router from being generated. -/
theorem generate_eq_error_of_collect (nonempty : contracts ≠ []) {error : RouterError}
    (refused : collect digest settings.filter contracts = .error error) :
    generate digest settings contracts = .error error := by
  rw [generate, dispatchTree_eq_bind nonempty, refused]
  rfl

/-- A router is refused for the first thing it lacks. -/
theorem FirstFault.generate_eq {error : RouterError}
    (fault : FirstFault digest settings contracts error) :
    generate digest settings contracts = .error error := by
  cases fault with
  | noContracts none =>
    subst none
    rfl
  | @invalidFragment invalid first =>
    have nonempty : contracts ≠ [] := by
      obtain ⟨before, contract, after, rfl, -⟩ := first
      simp
    refine generate_eq_error_of_collect nonempty ?_
    rw [collect, functionsOfContracts_eq_error first]
  | selectorCollisions usable shared =>
    have nonempty : contracts ≠ [] := by
      rintro rfl
      exact shared List.nodup_nil
    exact generate_eq_error_of_collect nonempty (collect_eq_error usable shared)
  | invalidLeafSize nonempty usable selectors none =>
    rw [generate, dispatchTree_eq_build nonempty usable selectors, DispatchTree.build,
      dif_neg (by omega)]
    rfl
  | noSelectors nonempty usable leafSize none =>
    have selectors :
        ((acceptedFunctions digest settings.filter contracts).map Function.selector).Nodup := by
      rw [none]
      exact List.nodup_nil
    have sorted : sortBySelector [] = [] := List.mergeSort_nil
    rw [generate, dispatchTree_eq_build nonempty usable selectors, none, sorted,
      DispatchTree.build, dif_pos leafSize]
    rfl
  | @duplicateModule before contract after able split first =>
    have found : duplicate? [] contracts = some contract := by
      rw [split]
      exact duplicate?_eq_some after (fun _ _ => List.not_mem_nil) first.distinct
        (.inr first.declared)
    rw [generate_eq_of_dispatchTree (dispatchTree_eq_ok_iff.2 ⟨able, rfl⟩), found]

/-- A router is generated exactly if it has all that it needs. -/
theorem exists_generate_iff :
    (∃ text, generate digest settings contracts = .ok text) ↔
      Generable digest settings contracts := by
  refine ⟨?_, Generable.exists_generate⟩
  rintro ⟨text, generated⟩
  rcases generable_or_exists_firstFault digest settings contracts with able | ⟨error, fault⟩
  · exact able
  · rw [fault.generate_eq] at generated
    cases generated

/-- A router is refused exactly for the first thing it lacks. -/
theorem generate_eq_error_iff {error : RouterError} :
    generate digest settings contracts = .error error ↔
      FirstFault digest settings contracts error := by
  refine ⟨fun refused => ?_, FirstFault.generate_eq⟩
  rcases generable_or_exists_firstFault digest settings contracts with able | ⟨other, fault⟩
  · obtain ⟨text, generated⟩ := able.exists_generate
    rw [generated] at refused
    cases refused
  · rw [fault.generate_eq] at refused
    cases refused
    exact fault

end

/-- When a router is generated, and why it is not. It is generated exactly if there is a contract,
all fragments are usable, no two functions share a selector, a leaf may hold a function, there is a
function and no two modules share a constant. Otherwise the error tells the first of these that is
missing, with the first fragment that is not usable and the first module whose constant is taken.
Sorted functions are never out of order, no function is without its module, and every constant that
the table asks for is there. -/
theorem router_fails_with_first_fault (digest : Digest) (settings : Settings)
    (contracts : List ModuleContract) :
    ((∃ text, generate digest settings contracts = .ok text) ↔
      Generable digest settings contracts) ∧
    (∀ error, generate digest settings contracts = .error error ↔
      FirstFault digest settings contracts error) ∧
    (∀ previous next, generate digest settings contracts ≠
      .error (.unsortedSelectors previous next)) ∧
    (∀ contract selector, generate digest settings contracts ≠
      .error (.unknownModule contract selector)) ∧
    ∀ tree, dispatchTree digest settings contracts = .ok tree →
      ∀ indent, indexedLines? (constantTable contracts) indent tree =
        some (tableLines indent tree) := by
  refine ⟨exists_generate_iff, fun _ => generate_eq_error_iff, ?_, ?_, ?_⟩
  · intro previous next refused
    cases generate_eq_error_iff.1 refused
  · intro contract selector refused
    cases generate_eq_error_iff.1 refused
  · intro tree made indent
    exact indexedLines?_eq indent fun function mem => exists_contract_of_mem made mem

/-- Two modules of different names whose constants have one name. -/
def twinModules : List ModuleContract :=
  [⟨"CoreModule", 0xc0de, [plainFragment "owner"]⟩,
    ⟨"_coreModule", 0xfeed, [plainFragment "version"]⟩]

/-- The second of two modules that share a constant is told. -/
theorem twin_modules_clash :
    generate lengthDigest narrowSettings twinModules =
      .error (.duplicateModule "_coreModule" "_CORE_MODULE") := by
  have usable : AllUsable lengthDigest narrowSettings.filter twinModules := by
    simp only [AllUsable, twinModules, List.forall_mem_cons, List.not_mem_nil, false_imp_iff,
      implies_true, and_true]
    exact ⟨⟨_, rfl⟩, ⟨_, rfl⟩⟩
  refine ((router_fails_with_first_fault lengthDigest narrowSettings twinModules).2.1 _).2 ?_
  have able : Dispatchable lengthDigest narrowSettings twinModules :=
    ⟨by decide, usable, by decide, by decide, by decide⟩
  have split : twinModules = [⟨"CoreModule", 0xc0de, [plainFragment "owner"]⟩] ++
      ⟨"_coreModule", 0xfeed, [plainFragment "version"]⟩ :: [] := rfl
  exact .duplicateModule able split ⟨by decide, by decide⟩

end ModularRouter.Router
