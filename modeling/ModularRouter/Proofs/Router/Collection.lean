import ModularRouter.Proofs.Results
import ModularRouter.Proofs.Router.Collisions
import ModularRouter.Proofs.Router.SearchTree
import ModularRouter.Router.Generation

/-!
# The functions behind a router

Which functions `dispatchTree` puts into a tree. They are the functions that the contracts declare
(`Declares`), no two of them share a selector, and sorting changes only their order.
-/

namespace ModularRouter.Router

open Results (bind_eq_ok_iff)

/-! ## Collecting -/

section

variable {digest : Digest} {filter : Filter}

/-- A module contract declares a function if one of its fragments describes it and the filter
accepts it. -/
def Declares (digest : Digest) (filter : Filter) (contract : ModuleContract)
    (function : Function) : Prop :=
  ∃ fragment ∈ contract.abi,
    functionOfFragment digest filter contract.name fragment = .ok (some function)

/-- A function belongs to the contract whose fragment describes it. -/
theorem contract_of_functionOfFragment {contract : String} {fragment : Json} {function : Function}
    (described : functionOfFragment digest filter contract fragment = .ok (some function)) :
    function.contract = contract := by
  simp only [functionOfFragment, bind, Except.bind] at described
  repeat' split at described
  all_goals cases described
  rfl

/-- A function belongs to the contract that declares it. -/
theorem Declares.contract_eq {contract : ModuleContract} {function : Function}
    (declares : Declares digest filter contract function) : function.contract = contract.name := by
  obtain ⟨fragment, -, described⟩ := declares
  exact contract_of_functionOfFragment described

/-- From a description come the functions of its fragments. -/
theorem mem_functionsFrom {contract : String} {index : Nat} {abi : List Json}
    {functions : List Function} {function : Function}
    (collected : functionsFrom digest filter contract index abi = .ok functions) :
    function ∈ functions ↔
      ∃ fragment ∈ abi,
        functionOfFragment digest filter contract fragment = .ok (some function) := by
  induction abi generalizing index functions with
  | nil =>
    cases collected
    simp
  | cons fragment rest ih =>
    rw [functionsFrom] at collected
    split at collected
    · cases collected
    · next own described =>
      obtain ⟨others, later, collected⟩ := bind_eq_ok_iff.1 collected
      cases collected
      rw [List.mem_append, ih later]
      simp [described, eq_comm]

/-- From contracts come the functions that they declare. -/
theorem mem_functionsOfContracts {contracts : List ModuleContract} {functions : List Function}
    {function : Function}
    (collected : functionsOfContracts digest filter contracts = .ok functions) :
    function ∈ functions ↔ ∃ contract ∈ contracts, Declares digest filter contract function := by
  induction contracts generalizing functions with
  | nil =>
    cases collected
    simp
  | cons contract rest ih =>
    rw [functionsOfContracts, bind_eq_ok_iff] at collected
    obtain ⟨own, described, collected⟩ := collected
    obtain ⟨others, later, collected⟩ := bind_eq_ok_iff.1 collected
    cases collected
    rw [List.mem_append, ih later, mem_functionsFrom described]
    simp [Declares]

end

/-! ## Functions that share no selector -/

/-- Where no two functions share a selector, each of them is the only one with its own. -/
theorem filter_selector_eq_singleton {functions : List Function}
    (nodup : (functions.map Function.selector).Nodup) {function : Function}
    (mem : function ∈ functions) :
    (functions.filter fun other => other.selector == function.selector) = [function] := by
  have once : (functions.filter fun other => other.selector == function.selector).length ≤ 1 := by
    rw [length_filter_selector]
    exact List.nodup_iff_count.1 nodup function.selector
  have own : function ∈ functions.filter fun other => other.selector == function.selector :=
    List.mem_filter.2 ⟨mem, beq_self_eq_true _⟩
  cases found : functions.filter fun other => other.selector == function.selector with
  | nil => simp [found] at own
  | cons first rest =>
    rw [found] at once own
    have none : rest = [] := by simpa using once
    rw [none] at own ⊢
    rw [List.mem_singleton.1 own]

/-- Functions are collected if they can be read and no two of them share a selector. -/
theorem collect_eq_ok_iff {digest : Digest} {filter : Filter} {contracts : List ModuleContract}
    {functions : List Function} :
    collect digest filter contracts = .ok functions ↔
      functionsOfContracts digest filter contracts = .ok functions ∧
        (functions.map Function.selector).Nodup := by
  rw [← collisions_eq_nil_iff, collect]
  cases functionsOfContracts digest filter contracts with
  | error fragment => simp
  | ok all =>
    simp only [Except.ok.injEq]
    cases found : collisions all with
    | nil =>
      simp only [Except.ok.injEq]
      constructor
      · rintro rfl
        exact ⟨rfl, found⟩
      · exact And.left
    | cons first rest =>
      simp only [reduceCtorEq, false_iff]
      rintro ⟨rfl, none⟩
      simp [found] at none

/-- What is known of a tree over the functions of contracts. -/
theorem dispatchTree_spec {digest : Digest} {settings : Settings} {contracts : List ModuleContract}
    {tree : DispatchTree} (made : dispatchTree digest settings contracts = .ok tree) :
    ∃ functions, functionsOfContracts digest settings.filter contracts = .ok functions ∧
      (functions.map Function.selector).Nodup ∧ tree.functions.Perm functions ∧
      tree.Searchable := by
  rw [dispatchTree] at made
  split at made
  · cases made
  · obtain ⟨functions, collected, built⟩ := bind_eq_ok_iff.1 made
    obtain ⟨read, nodup⟩ := collect_eq_ok_iff.1 collected
    obtain ⟨searchable, same⟩ := DispatchTree.searchable_of_build built
    refine ⟨functions, read, nodup, ?_, searchable⟩
    rw [same]
    exact List.mergeSort_perm functions _

end ModularRouter.Router
