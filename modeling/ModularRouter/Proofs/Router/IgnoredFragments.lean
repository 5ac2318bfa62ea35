import Mathlib.Algebra.GroupWithZero.Nat
import ModularRouter.Proofs.Router.Failures

/-!
# Fragments that are passed over

A fragment that is no function is passed over, and so is a function that the filter rejects, however
its parameters are written (`functionOfFragment_eq_none_iff`). Such fragments may be put anywhere
into a description (`spread`), whose own fragments then stand further behind by the number of those
put before them (`getElem?_spread`): what is read of it stays the same, and if something is wrong
with one of its own fragments, only the place that is told moves with it (`functionsOfAbi_spread`).
So the router over builds of some modules that add such fragments is the router over the modules
(`ignored_fragments_do_not_matter`).
-/

namespace ModularRouter.Router

open Results (bind_eq_ok_iff map_eq_map_of_forall₂)

/-! ## What is passed over -/

/-- Whether a fragment is a function of a name with some inputs, whatever these are. -/
structure IsFunctionNamed (name : String) (fragment : Json) : Prop where
  /-- It is an object. -/
  isObject : fragment.isObject
  /-- If it says what it is, it says that it is a function. -/
  kind : ∀ kind, fragment.field? "type" = some kind → kind = .str "function"
  /-- Its name is the one given. -/
  named : fragment.field? "name" = some (.str name)
  /-- The name is not empty. -/
  nonempty : name ≠ ""
  /-- It has inputs. -/
  inputs : ∃ inputs, fragment.field? "inputs" = some inputs

/-- Whether a fragment is none of the functions that a filter lets through. -/
inductive IsIgnored (filter : Filter) (fragment : Json) : Prop where
  /-- It is an object of another type. -/
  | other {kind : String} : fragment.isObject → fragment.field? "type" = some (.str kind) →
      kind ≠ "function" → IsIgnored filter fragment
  /-- It is a function that the filter rejects. -/
  | rejected {name : String} : IsFunctionNamed name fragment → filter.accepts name = false →
      IsIgnored filter fragment

section

variable {digest : Digest} {filter : Filter} {contract : String} {fragment : Json}

/-- The name of a function is a text that is not empty. -/
theorem functionName_eq_ok_iff {name : String} :
    functionName fragment = .ok name ↔
      fragment.field? "name" = some (.str name) ∧ name ≠ "" := by
  have isEmpty_iff {text : String} : text.isEmpty = true ↔ text = "" := String.isEmpty_iff
  rw [functionName]
  split
  · next found written =>
    split
    · next empty =>
      rw [isEmpty_iff] at empty
      simp only [reduceCtorEq, written, Option.some.injEq, Json.str.injEq, false_iff, not_and,
        not_not]
      rintro rfl
      exact empty
    · next filled =>
      rw [isEmpty_iff] at filled
      simp only [Except.ok.injEq, written, Option.some.injEq, Json.str.injEq]
      constructor
      · rintro rfl
        exact ⟨rfl, filled⟩
      · exact And.left
  · next other =>
    simp only [reduceCtorEq, false_iff, not_and]
    exact fun written => absurd written (other name)

/-- What is a function says so or does not say what it is. -/
theorem isFunction_eq_ok_true_iff :
    isFunction fragment = .ok true ↔
      ∀ kind, fragment.field? "type" = some kind → kind = .str "function" := by
  rw [isFunction]
  split
  · next none => simp [none]
  · next kind told => simp [told]
  · next kind other told => simpa [told] using other "function"

/-- What is no function says what else it is. -/
theorem isFunction_eq_ok_false_iff :
    isFunction fragment = .ok false ↔
      ∃ kind, fragment.field? "type" = some (.str kind) ∧ kind ≠ "function" := by
  rw [isFunction]
  split
  · next none => simp [none]
  · next kind told => simp [told]
  · next kind other told =>
    simpa [told] using fun name same => absurd same (other name)

/-- The fragments that are passed over are the objects of other types and the functions that the
filter rejects. -/
theorem functionOfFragment_eq_none_iff :
    functionOfFragment digest filter contract fragment = .ok none ↔ IsIgnored filter fragment := by
  rw [functionOfFragment]
  constructor
  · intro passed
    split at passed
    · cases passed
    · next isObject =>
      rw [Bool.not_eq_true', Bool.not_eq_false] at isObject
      obtain ⟨function, told, passed⟩ := bind_eq_ok_iff.1 passed
      split at passed
      · next other =>
        rw [Bool.not_eq_true'] at other
        obtain ⟨kind, told, other⟩ := isFunction_eq_ok_false_iff.1 (other ▸ told)
        exact .other isObject told other
      · next function =>
        rw [Bool.not_eq_true', Bool.not_eq_false] at function
        obtain ⟨name, named, passed⟩ := bind_eq_ok_iff.1 passed
        obtain ⟨named, nonempty⟩ := functionName_eq_ok_iff.1 named
        split at passed
        · cases passed
        · next inputs given =>
          have known : IsFunctionNamed name fragment :=
            ⟨isObject, isFunction_eq_ok_true_iff.1 (function ▸ told), named, nonempty,
              inputs, given⟩
          split at passed
          · next rejected => exact .rejected known (by simpa using rejected)
          · split at passed <;> cases passed
  · intro ignored
    cases ignored with
    | other isObject told other =>
      rw [isObject, isFunction_eq_ok_false_iff.2 ⟨_, told, other⟩]
      rfl
    | rejected function rejected =>
      obtain ⟨inputs, given⟩ := function.inputs
      rw [function.isObject, isFunction_eq_ok_true_iff.2 function.kind,
        functionName_eq_ok_iff.2 ⟨function.named, function.nonempty⟩]
      simp [bind, Except.bind, given, rejected]

/-- A function whose name starts like those added for coverage is passed over by the filter that is
used unless another one is given. -/
theorem isIgnored_standard {name : String} (function : IsFunctionNamed name fragment)
    (added : Filter.coverageStart.toList <+: name.toList) : IsIgnored .standard fragment := by
  refine .rejected function ?_
  rw [Filter.standard, Filter.skip, Bool.not_eq_false']
  exact List.isPrefixOf_iff_prefix.2 added

end

/-! ## Putting fragments into a description -/

/-- A description with further fragments: those of the gap `0` before its first fragment, those of
the gap `1` before its second one and so on, those of one more gap behind its last one. -/
def spread (gaps : Nat → List Json) : List Json → List Json
  | [] => gaps 0
  | fragment :: rest => gaps 0 ++ fragment :: spread (fun place => gaps (place + 1)) rest

/-- Where a fragment stands when the gaps up to the one before it are filled. -/
def movedTo (gaps : Nat → List Json) (index : Nat) : Nat :=
  ((List.range (index + 1)).map fun place => (gaps place).length).sum + index

/-- Something wrong with a fragment when the gaps are filled. -/
def InvalidFragment.moved (gaps : Nat → List Json) (invalid : InvalidFragment) : InvalidFragment :=
  { invalid with index := movedTo gaps invalid.index }

/-- Before the first fragment stands the first gap. -/
theorem movedTo_zero (gaps : Nat → List Json) : movedTo gaps 0 = (gaps 0).length := by
  simp [movedTo]

/-- Before a later fragment stand the first gap, the first fragment and what is before it in the
rest. -/
theorem movedTo_succ (gaps : Nat → List Json) (index : Nat) :
    movedTo gaps (index + 1) =
      (gaps 0).length + 1 + movedTo (fun place => gaps (place + 1)) index := by
  rw [movedTo, List.range_succ_eq_map, List.map_cons, List.map_map, List.sum_cons, movedTo]
  simp only [Function.comp_def, Nat.succ_eq_add_one]
  omega

/-- Every fragment stands where it was moved to. -/
theorem getElem?_spread (gaps : Nat → List Json) {abi : List Json} {index : Nat}
    (inside : index < abi.length) : (spread gaps abi)[movedTo gaps index]? = abi[index]? := by
  induction abi generalizing gaps index with
  | nil => cases inside
  | cons fragment rest ih =>
    rw [spread]
    cases index with
    | zero =>
      rw [movedTo_zero, List.getElem?_append_right (Nat.le_refl _), Nat.sub_self]
      rfl
    | succ index =>
      have later := ih (fun place => gaps (place + 1)) (Nat.lt_of_succ_lt_succ inside)
      have behind : (gaps 0).length + 1 + movedTo (fun place => gaps (place + 1)) index -
          (gaps 0).length = movedTo (fun place => gaps (place + 1)) index + 1 := by
        omega
      rw [movedTo_succ, List.getElem?_append_right (by omega), behind, List.getElem?_cons_succ,
        later, List.getElem?_cons_succ]

section

variable {digest : Digest} {filter : Filter} {contract : String}

/-- The place at which a description starts is added to the places in it. -/
theorem functionsFrom_add (start index : Nat) (abi : List Json) :
    functionsFrom digest filter contract (start + index) abi =
      (functionsFrom digest filter contract index abi).mapError fun invalid =>
        { invalid with index := start + invalid.index } := by
  induction abi generalizing index with
  | nil => rfl
  | cons fragment rest ih =>
    rw [functionsFrom, functionsFrom]
    cases functionOfFragment digest filter contract fragment with
    | error fault => rfl
    | ok function =>
      simp only [Nat.add_assoc, ih]
      cases functionsFrom digest filter contract (index + 1) rest <;> rfl

/-- Ignored fragments only move what is behind them. -/
theorem functionsFrom_append_of_ignored {gap : List Json}
    (ignored : ∀ fragment ∈ gap, IsIgnored filter fragment) (index : Nat) (abi : List Json) :
    functionsFrom digest filter contract index (gap ++ abi) =
      functionsFrom digest filter contract (index + gap.length) abi := by
  induction gap generalizing index with
  | nil => rfl
  | cons fragment gap ih =>
    obtain ⟨own, others⟩ := List.forall_mem_cons.1 ignored
    rw [List.cons_append, functionsFrom, functionOfFragment_eq_none_iff.2 own, List.length_cons,
      Nat.add_comm gap.length, ← Nat.add_assoc]
    simp only [ih others]
    cases functionsFrom digest filter contract (index + 1 + gap.length) abi <;> rfl

/-- What is read of a description does not change when ignored fragments are put into it, and what
is wrong with it only moves. -/
theorem functionsFrom_spread {gaps : Nat → List Json}
    (ignored : ∀ place, ∀ fragment ∈ gaps place, IsIgnored filter fragment) (start : Nat)
    (abi : List Json) :
    functionsFrom digest filter contract start (spread gaps abi) =
      (functionsFrom digest filter contract 0 abi).mapError fun invalid =>
        { invalid with index := start + movedTo gaps invalid.index } := by
  induction abi generalizing gaps start with
  | nil =>
    have none : functionsFrom digest filter contract start (gaps 0 ++ []) =
        functionsFrom digest filter contract (start + (gaps 0).length) [] :=
      functionsFrom_append_of_ignored (ignored 0) start []
    rwa [List.append_nil] at none
  | cons fragment rest ih =>
    rw [spread, functionsFrom_append_of_ignored (ignored 0), functionsFrom, functionsFrom]
    cases functionOfFragment digest filter contract fragment with
    | error fault => rw [Except.mapError, movedTo_zero]
    | ok function =>
      have later : functionsFrom digest filter contract (0 + 1) rest =
          (functionsFrom digest filter contract 0 rest).mapError fun invalid =>
            { invalid with index := 1 + invalid.index } := functionsFrom_add 1 0 rest
      simp only [ih (fun place => ignored (place + 1)), later]
      cases functionsFrom digest filter contract 0 rest with
      | error invalid =>
        simp only [Except.mapError, bind, Except.bind, Nat.add_comm 1, movedTo_succ, Nat.add_assoc]
      | ok functions => rfl

/-- What is read of a description does not change when ignored fragments are put into it, and the
first thing wrong with it only moves. -/
theorem functionsOfAbi_spread {gaps : Nat → List Json}
    (ignored : ∀ place, ∀ fragment ∈ gaps place, IsIgnored filter fragment) (abi : List Json) :
    functionsOfAbi digest filter contract (spread gaps abi) =
      (functionsOfAbi digest filter contract abi).mapError (InvalidFragment.moved gaps) := by
  rw [functionsOfAbi, functionsFrom_spread ignored]
  simp only [Nat.zero_add]
  rfl

end

/-! ## Builds of modules -/

/-- Whether a module is another one with further fragments that a filter passes over. -/
def IsBuildOf (filter : Filter) (build contract : ModuleContract) : Prop :=
  ∃ gaps, (∀ place, ∀ fragment ∈ gaps place, IsIgnored filter fragment) ∧
    build = { contract with abi := spread gaps contract.abi }

section

variable {digest : Digest} {settings : Settings} {builds contracts : List ModuleContract}

/-- From builds of some modules come the functions of the modules. -/
theorem functionsOfContracts_builds {filter : Filter}
    (same : List.Forall₂ (IsBuildOf filter) builds contracts) {functions : List Function} :
    functionsOfContracts digest filter builds = .ok functions ↔
      functionsOfContracts digest filter contracts = .ok functions := by
  have mapError_eq_ok_iff {move : InvalidFragment → InvalidFragment}
      {result : Except InvalidFragment (List Function)} {own : List Function} :
      result.mapError move = .ok own ↔ result = .ok own := by
    cases result <;> simp [Except.mapError]
  induction same generalizing functions with
  | nil => rfl
  | cons first _ ih =>
    obtain ⟨gaps, ignored, rfl⟩ := first
    simp only [functionsOfContracts, bind_eq_ok_iff, functionsOfAbi_spread ignored,
      mapError_eq_ok_iff, ih]

/-- A tree is built over what is collected. -/
theorem dispatchTree_builds (same : List.Forall₂ (IsBuildOf settings.filter) builds contracts)
    {tree : DispatchTree} :
    dispatchTree digest settings builds = .ok tree ↔
      dispatchTree digest settings contracts = .ok tree := by
  have empty : builds.isEmpty = contracts.isEmpty := by
    cases same <;> rfl
  rw [dispatchTree, dispatchTree, empty]
  split
  · rfl
  · simp only [bind_eq_ok_iff, collect_eq_ok_iff, functionsOfContracts_builds same]

/-- A router is what the template makes of the constants of the modules and of the tree. -/
theorem generate_eq_ok_iff {text : String} :
    generate digest settings contracts = .ok text ↔
      ∃ tree, dispatchTree digest settings contracts = .ok tree ∧ DistinctConstants contracts ∧
        text = settings.template.fill settings.routerName
          (constantsBlock digest settings.template.constantsIndent contracts)
          (tableBlock settings.template.dispatchIndent tree) := by
  refine ⟨generate_spec, ?_⟩
  rintro ⟨tree, made, distinct, rfl⟩
  have apart : duplicate? [] contracts = none :=
    (duplicate?_eq_none_iff [] contracts).2 ⟨fun _ _ => List.not_mem_nil, distinct⟩
  rw [generate_eq_of_dispatchTree made, apart]

/-- Over builds of some modules the same router is generated as over the modules. -/
theorem generate_builds (same : List.Forall₂ (IsBuildOf settings.filter) builds contracts)
    {text : String} :
    generate digest settings builds = .ok text ↔ generate digest settings contracts = .ok text := by
  have names : (builds.map fun build => constantName build.name) =
      contracts.map fun contract => constantName contract.name := by
    refine (map_eq_map_of_forall₂ same ?_).symm
    rintro build contract ⟨gaps, -, rfl⟩
    rfl
  have constants (indent : Nat) :
      constantsBlock digest indent builds = constantsBlock digest indent contracts := by
    rw [constantsBlock, constantsBlock]
    congr 1
    refine (map_eq_map_of_forall₂ same ?_).symm
    rintro build contract ⟨gaps, -, rfl⟩
    rfl
  simp only [generate_eq_ok_iff, dispatchTree_builds same, DistinctConstants, names, constants]

end

/-- Fragments that are no functions and functions that the filter rejects, whatever their inputs
are, do not matter. Wherever they are put into a description, the same functions are read of it, and
if something else is wrong with it, the first such thing is told with its place moved by the number
of fragments put before it. Builds of modules that add such fragments have the same router as the
modules; for the filter that is used unless another one is given, these include all functions that
are named like those added for coverage. -/
theorem ignored_fragments_do_not_matter {digest : Digest} {filter : Filter}
    {gaps : Nat → List Json}
    (ignored : ∀ place, ∀ fragment ∈ gaps place, IsIgnored filter fragment) (contract : String)
    (abi : List Json) :
    functionsOfAbi digest filter contract (spread gaps abi) =
      (functionsOfAbi digest filter contract abi).mapError (InvalidFragment.moved gaps) ∧
    (∀ settings builds contracts, settings.filter = filter →
      List.Forall₂ (IsBuildOf filter) builds contracts → ∀ text,
        generate digest settings builds = .ok text ↔
          generate digest settings contracts = .ok text) ∧
    ∀ name fragment, IsFunctionNamed name fragment →
      Filter.coverageStart.toList <+: name.toList → IsIgnored .standard fragment := by
  refine ⟨functionsOfAbi_spread ignored abi, ?_, fun _ _ => isIgnored_standard⟩
  rintro settings builds contracts rfl same text
  exact generate_builds same

/-- A function that was added for coverage, with inputs that cannot be understood. -/
def coverageFragment : Json :=
  .obj [("type", .str "function"), ("name", .str "c_0x1f2e"), ("inputs", .str "none")]

/-- An event. -/
def eventFragment : Json :=
  .obj [("type", .str "event"), ("name", .str "Upgraded")]

/-- What is put before every fragment of an instrumented build and behind the last one. -/
def instrumentation : Nat → List Json :=
  fun _ => [coverageFragment, eventFragment]

/-- Instrumented builds of the two modules. -/
def instrumentedContracts : List ModuleContract :=
  sampleContracts.map fun contract => { contract with abi := spread instrumentation contract.abi }

/-- An instrumented build has the router of the two modules, and a fragment that is not usable is
told at its place in the build. -/
theorem instrumented_router :
    (∃ text, generate lengthDigest narrowSettings sampleContracts = .ok text ∧
      generate lengthDigest narrowSettings instrumentedContracts = .ok text) ∧
    functionsOfAbi lengthDigest .standard "CoreModule"
        (spread instrumentation [plainFragment "owner", plainFragment ""]) =
      .error ⟨"CoreModule", 5, .unnamed⟩ := by
  have ignored : ∀ place, ∀ fragment ∈ instrumentation place, IsIgnored .standard fragment := by
    have added : IsIgnored .standard coverageFragment :=
      .rejected ⟨rfl, fun _ told => (Option.some.inj told).symm, rfl, by decide, _, rfl⟩ rfl
    have event : IsIgnored .standard eventFragment := .other rfl rfl (by decide)
    intro place fragment mem
    rcases List.mem_cons.1 mem with rfl | mem
    · exact added
    · exact List.mem_singleton.1 mem ▸ event
  obtain ⟨moved, same, -⟩ := @ignored_fragments_do_not_matter lengthDigest .standard
    instrumentation ignored "CoreModule" [plainFragment "owner", plainFragment ""]
  constructor
  · obtain ⟨text, generated⟩ := exists_generate_sample
    refine ⟨text, generated, (same _ _ _ rfl ?_ text).2 generated⟩
    rw [instrumentedContracts, List.forall₂_map_left_iff, List.forall₂_same]
    exact fun contract _ => ⟨instrumentation, ignored, rfl⟩
  · rw [moved]
    rfl

end ModularRouter.Router
