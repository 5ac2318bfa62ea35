import ModularRouter.Proofs.Router.Collection
import ModularRouter.Proofs.Router.Constants
import ModularRouter.Proofs.Router.Table

/-!
# What a generated router dispatches

`router_dispatches_declared_functions` puts the parts together: the blocks of a generated router are
read as constants and a table, and the table, called with a selector, is left with the address of
the module that declares the function with that selector, or with zero if no module declares one.
The digest may be any function.
-/

namespace ModularRouter.Router

open Yul

variable {digest : Digest} {settings : Settings} {contracts : List ModuleContract}

/-- A router is written over the dispatch tree if every module gets a constant of its own. -/
theorem generate_spec {text : String} (generated : generate digest settings contracts = .ok text) :
    ∃ tree, dispatchTree digest settings contracts = .ok tree ∧ DistinctConstants contracts ∧
      text = settings.template.fill settings.routerName
        (constantsBlock digest settings.template.constantsIndent contracts)
        (tableBlock settings.template.dispatchIndent tree) := by
  obtain ⟨tree, made, filled⟩ := Results.bind_eq_ok_iff.1 generated
  rw [source] at filled
  split at filled
  · cases filled
  split at filled
  · cases filled
  · next distinct =>
    split at filled
    · cases filled
    · cases filled
      exact ⟨tree, made, ((duplicate?_eq_none_iff [] contracts).1 distinct).2, rfl⟩

/-- A tree over functions of which no two share a selector finds each of them under its own. -/
theorem functionOf?_of_perm {functions inTree : List Function} (same : inTree.Perm functions)
    (nodup : (functions.map Function.selector).Nodup) {function : Function}
    (mem : function ∈ functions) : functionOf? inTree function.selector = some function := by
  refine functionOf?_eq_some (same.mem_iff.2 mem) fun other inside equal => ?_
  have listed : other ∈ functions.filter fun other => other.selector == function.selector :=
    List.mem_filter.2 ⟨same.mem_iff.1 inside, beq_iff_eq.2 equal⟩
  rw [filter_selector_eq_singleton nodup mem] at listed
  exact List.mem_singleton.1 listed

/-- The value of the constant that the case of a function assigns. -/
def assignedValue (contracts : List ModuleContract) (function : Function) : Nat :=
  ((constantValues contracts).lookup (constantName function.contract).toList).getD 0

/-- The case of a function assigns the address of the module that declares the function. -/
theorem assignedValue_eq (distinct : DistinctConstants contracts) {contract : ModuleContract}
    (inside : contract ∈ contracts) {filter : Filter} {function : Function}
    (declares : Declares digest filter contract function) :
    assignedValue contracts function = contract.address.toNat := by
  rw [assignedValue, declares.contract_eq, lookup_constantValues distinct inside, Option.getD_some]

/-- A router calls what its modules declare and nothing else. -/
theorem router_dispatches_declared_functions {text : String}
    (generated : generate digest settings contracts = .ok text)
    (names : ∀ contract ∈ contracts, Abi.isName contract.name.toList)
    (lines : ∀ contract ∈ contracts, ∀ function, Declares digest settings.filter contract function →
      ∀ c ∈ function.name.toList, isLineBreak c = false) :
    ∃ functions tree constants table,
      functionsOfContracts digest settings.filter contracts = .ok functions ∧
      dispatchTree digest settings contracts = .ok tree ∧
      text = settings.template.fill settings.routerName
        (constantsBlock digest settings.template.constantsIndent contracts)
        (tableBlock settings.template.dispatchIndent tree) ∧
      constants? (tokens (constantsBlock digest settings.template.constantsIndent contracts)) =
        some constants ∧
      program? (tokens (tableBlock settings.template.dispatchIndent tree)) = some table ∧
      ∀ sig : Selector,
        (∃ result, table.Leaves constants sig result) ∧
        (∀ contract ∈ contracts, ∀ function, Declares digest settings.filter contract function →
          function.selector = sig →
            (functions.filter fun other => other.selector == sig) = [function] ∧
              table.Leaves constants sig contract.address.toNat) ∧
        ((∀ contract ∈ contracts, ∀ function, Declares digest settings.filter contract function →
          function.selector ≠ sig) → table.Leaves constants sig 0) := by
  obtain ⟨tree, made, distinct, written⟩ := generate_spec generated
  obtain ⟨functions, collected, nodup, same, searchable⟩ := dispatchTree_spec made
  have declared {function : Function} (mem : function ∈ tree.functions) :
      ∃ contract ∈ contracts, Declares digest settings.filter contract function :=
    (mem_functionsOfContracts collected).1 (same.mem_iff.1 mem)
  have printable : ∀ function ∈ tree.functions, function.Printable := by
    intro function mem
    obtain ⟨contract, inside, declares⟩ := declared mem
    refine ⟨?_, lines contract inside function declares⟩
    rw [declares.contract_eq]
    exact names contract inside
  refine ⟨functions, tree, constantValues contracts, program tree, collected, made, written,
    constants?_constantsBlock digest _ names distinct,
    program?_tableBlock _ searchable.filled printable, ?_⟩
  intro sig
  -- Every function of the tree comes from a module, whose constant is declared.
  have values : ∀ function ∈ tree.functions,
      value? (constantValues contracts) (entry sig) (constantName function.contract).toList =
        some (assignedValue contracts function) := by
    intro function mem
    obtain ⟨contract, inside, declares⟩ := declared mem
    rw [assignedValue_eq distinct inside declares, declares.contract_eq]
    exact value?_constantName distinct inside (names contract inside) small_entry
  have ran := leaves_program searchable values
  refine ⟨⟨_, ran⟩, ?_, ?_⟩
  · rintro contract inside function declares rfl
    have mem : function ∈ functions :=
      (mem_functionsOfContracts collected).2 ⟨contract, inside, declares⟩
    rw [functionOf?_of_perm same nodup mem, Option.map_some, Option.getD_some,
      assignedValue_eq distinct inside declares] at ran
    exact ⟨filter_selector_eq_singleton nodup mem, ran⟩
  · intro none
    have absent : functionOf? tree.functions sig = .none :=
      functionOf?_eq_none fun function mem => by
        obtain ⟨contract, inside, declares⟩ := declared mem
        exact none contract inside function declares
    rwa [absent] at ran

/-- A fragment that describes a function without parameters. -/
def plainFragment (name : String) : Json :=
  .obj [("type", .str "function"), ("name", .str name), ("inputs", .arr [])]

/-- Two modules that declare three functions. -/
def sampleContracts : List ModuleContract :=
  [⟨"CoreModule", 0xc0de, [plainFragment "owner", plainFragment "version"]⟩,
    ⟨"UpgradeModule", 0xfeed, [plainFragment "upgradeTo"]⟩]

/-- A digest by which the selector of a function is the length of its signature. -/
def lengthDigest : Digest := fun message => BitVec.ofNat 256 (message.length * 2 ^ 224)

/-- Settings under which a leaf holds one function. -/
def narrowSettings : Settings := { maxLeafSize := 1 }

/-- The functions of the two modules. -/
def sampleFunctions : List Function :=
  [⟨"CoreModule", "owner", "owner()", 7⟩, ⟨"CoreModule", "version", "version()", 9⟩,
    ⟨"UpgradeModule", "upgradeTo", "upgradeTo()", 11⟩]

/-- The functions of the two modules are collected. -/
theorem functionsOfContracts_sample :
    functionsOfContracts lengthDigest narrowSettings.filter sampleContracts =
      .ok sampleFunctions := by
  rfl

/-- There is a router over the two modules. -/
theorem exists_generate_sample :
    ∃ text, generate lengthDigest narrowSettings sampleContracts = .ok text := by
  have collected :
      collect lengthDigest narrowSettings.filter sampleContracts = .ok sampleFunctions :=
    collect_eq_ok_iff.2 ⟨functionsOfContracts_sample, by decide⟩
  have sorted : sortBySelector sampleFunctions = sampleFunctions :=
    List.mergeSort_of_pairwise (by decide)
  have made : dispatchTree lengthDigest narrowSettings sampleContracts =
      .ok (DispatchTree.halve (by decide : 0 < 1) sampleFunctions) := by
    rw [dispatchTree, collected]
    simp only [bind, Except.bind, sorted]
    exact DispatchTree.build_eq_ok_iff.2 ⟨by decide, by decide, by decide, rfl⟩
  have adopted : orphan? sampleContracts (DispatchTree.halve (by decide : 0 < 1) sampleFunctions) =
      none := by
    rw [orphan?, DispatchTree.functions_halve]
    decide
  have distinct : duplicate? [] sampleContracts = none := by decide
  rw [generate, made]
  simp only [bind, Except.bind, source, adopted, distinct]
  exact ⟨_, rfl⟩

/-- The router over the two modules leads to each of them. -/
theorem sample_router_dispatches :
    ∃ text tree constants table,
      generate lengthDigest narrowSettings sampleContracts = .ok text ∧
      dispatchTree lengthDigest narrowSettings sampleContracts = .ok tree ∧
      constants? (tokens (constantsBlock lengthDigest 1 sampleContracts)) = some constants ∧
      program? (tokens (tableBlock 4 tree)) = some table ∧
      table.Leaves constants 7 0xc0de ∧ table.Leaves constants 11 0xfeed ∧
      table.Leaves constants 8 0 := by
  obtain ⟨text, generated⟩ := exists_generate_sample
  have member {contract : ModuleContract} {function : Function}
      (inside : contract ∈ sampleContracts)
      (declares : Declares lengthDigest narrowSettings.filter contract function) :
      function ∈ sampleFunctions :=
    (mem_functionsOfContracts functionsOfContracts_sample).2 ⟨contract, inside, declares⟩
  have names : ∀ contract ∈ sampleContracts, Abi.isName contract.name.toList := by decide
  have lines : ∀ function ∈ sampleFunctions, ∀ c ∈ function.name.toList, isLineBreak c = false := by
    have none :
        (sampleFunctions.all fun function => !function.name.toList.any isLineBreak) = true := by
      decide
    simpa using none
  obtain ⟨functions, tree, constants, table, -, made, -, declared, read, run⟩ :=
    router_dispatches_declared_functions generated names fun contract inside function declares =>
      lines function (member inside declares)
  refine ⟨text, tree, constants, table, generated, made, declared, read, ?_, ?_, ?_⟩
  · exact ((run 7).2.1 _ (List.mem_cons_self ..) ⟨"CoreModule", "owner", "owner()", 7⟩
      ⟨plainFragment "owner", List.mem_cons_self .., rfl⟩ rfl).2
  · exact ((run 11).2.1 _ (List.mem_cons_of_mem _ (List.mem_cons_self ..))
      ⟨"UpgradeModule", "upgradeTo", "upgradeTo()", 11⟩
      ⟨plainFragment "upgradeTo", List.mem_cons_self .., rfl⟩ rfl).2
  · refine (run 8).2.2 fun contract inside function declares => ?_
    have other : ∀ function ∈ sampleFunctions, function.selector ≠ 8 := by decide
    exact other function (member inside declares)

end ModularRouter.Router
