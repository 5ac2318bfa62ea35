import ModularRouter.Proofs.Association
import ModularRouter.Proofs.Router.Words

/-!
# The constants of a router

The block of constants declares one constant for each module. A router is only written if no two
modules share a constant, so that its block is read back as the modules' addresses under the names
of their constants (`constants?_constantsBlock`).
-/

namespace ModularRouter.Router

open Yul

/-- No contract would get the constant of another one. -/
abbrev DistinctConstants (contracts : List ModuleContract) : Prop :=
  (contracts.map fun contract => constantName contract.name).Nodup

/-- Every contract has a constant of its own exactly when there is no first one that has not. -/
theorem duplicate?_eq_none_iff (declared : List String) (contracts : List ModuleContract) :
    duplicate? declared contracts = none ↔
      (∀ contract ∈ contracts, constantName contract.name ∉ declared) ∧
        DistinctConstants contracts := by
  induction contracts generalizing declared with
  | nil => simp [duplicate?, DistinctConstants]
  | cons contract rest ih =>
    rw [duplicate?]
    by_cases known : constantName contract.name ∈ declared
    · simp [known]
    · simp only [known, if_false, ih, DistinctConstants, List.map_cons, List.nodup_cons,
        List.mem_map, List.mem_cons, not_or, not_exists, not_and, forall_eq_or_imp,
        not_false_eq_true, true_and]
      constructor
      · rintro ⟨later, distinct⟩
        exact ⟨fun other mem => (later other mem).2, fun other mem => (later other mem).1, distinct⟩
      · rintro ⟨later, own, distinct⟩
        exact ⟨fun other mem => ⟨own other mem, later other mem⟩, distinct⟩

section

variable (digest : Digest)

/-- The addresses of contracts under the names of their constants. -/
def constantValues (contracts : List ModuleContract) : Values :=
  contracts.map fun contract => ((constantName contract.name).toList, contract.address.toNat)

/-- The tokens of a declaration. -/
def declarationTokens (contract : ModuleContract) : List Token :=
  [.word "address".toList, .word "constant".toList, .word (constantName contract.name).toList,
    .mark '=', .word (contract.address.toText digest).toList, .mark ';']

/-- The tokens of the line that declares a constant. -/
theorem tokens_constantLine (indent : Nat) {contract : ModuleContract}
    (name : Abi.isName contract.name.toList) :
    tokens (constantLine digest indent contract) = declarationTokens digest contract := by
  have constant := isName_constantName name
  have keywords (rest : List Char) :
      lex (.code []) ("address constant ".toList ++ rest) =
        .word "address".toList :: .word "constant".toList :: lex (.code []) rest := rfl
  have equals (rest : List Char) :
      lex (.code []) (" = ".toList ++ rest) = .mark '=' :: lex (.code []) rest := rfl
  have named (rest : List Char) :
      lex (.code []) ((constantName contract.name).toList ++ (" = ".toList ++ rest)) =
        .word (constantName contract.name).toList :: lex (.code []) (" = ".toList ++ rest) :=
    lex_word_cons _ (ne_nil_of_isName constant) (isWordChar_of_isName constant) rfl
  have value :
      lex (.code []) ((contract.address.toText digest).toList ++ ";".toList) =
        .word (contract.address.toText digest).toList :: lex (.code []) ";".toList :=
    lex_word_cons _ (by simp [toList_address]) (isWordChar_of_mem_address digest contract.address)
      rfl
  simp only [tokens, constantLine, pad, String.toList_append, String.toList_ofList,
    List.append_assoc, lex_blanks, keywords, named, equals, value]
  rfl

/-- The tokens of the block of constants. -/
theorem tokens_constantsBlock (indent : Nat) {contracts : List ModuleContract}
    (names : ∀ contract ∈ contracts, Abi.isName contract.name.toList) :
    tokens (constantsBlock digest indent contracts) =
      contracts.flatMap (declarationTokens digest) := by
  have line : ∀ contract ∈ contracts,
      tokens (constantLine digest indent contract) = declarationTokens digest contract :=
    fun contract mem => tokens_constantLine digest indent (names contract mem)
  rw [constantsBlock, tokens_lines, List.flatMap_map, List.flatMap_def, List.flatMap_def,
    List.map_congr_left line]

/-- The block of constants declares the modules' addresses under the names of their constants. -/
theorem constants?_constantsBlock (indent : Nat) {contracts : List ModuleContract}
    (names : ∀ contract ∈ contracts, Abi.isName contract.name.toList)
    (distinct : DistinctConstants contracts) :
    constants? (tokens (constantsBlock digest indent contracts)) =
      some (constantValues contracts) := by
  rw [tokens_constantsBlock digest indent names]
  induction contracts with
  | nil => rfl
  | cons contract rest ih =>
    obtain ⟨own, later⟩ := List.nodup_cons.1 distinct
    have others := ih (fun other mem => names other (List.mem_cons_of_mem _ mem)) later
    -- No declaration that follows has the name of this one.
    have fresh : (constantValues rest).lookup (constantName contract.name).toList = none := by
      rw [List.lookup_eq_none_iff]
      intro value mem
      obtain ⟨other, inside, rfl⟩ := List.mem_map.1 mem
      rw [bne_iff_ne]
      intro same
      exact own (List.mem_map.2 ⟨other, inside, (String.toList_injective same).symm⟩)
    have name := isName_constantName (names contract (List.mem_cons_self ..))
    rw [List.flatMap_cons, declarationTokens]
    simp only [List.cons_append, List.nil_append, constants?, name, and_self, if_true,
      number?_address, others, bind, Option.bind_some, fresh]
    rfl

end

/-- Under the name of its constant every module has its own address. -/
theorem lookup_constantValues {contracts : List ModuleContract}
    (distinct : DistinctConstants contracts) {contract : ModuleContract}
    (mem : contract ∈ contracts) :
    (constantValues contracts).lookup (constantName contract.name).toList =
      some contract.address.toNat := by
  refine Association.lookup_eq_some_of_mem ?_ (List.mem_map.2 ⟨contract, mem, rfl⟩)
  have names : (constantValues contracts).map Prod.fst =
      (contracts.map fun contract => constantName contract.name).map String.toList := by
    rw [constantValues, List.map_map, List.map_map]
    rfl
  rw [names]
  exact List.Pairwise.map String.toList (fun _ _ other same => other (String.toList_injective same))
    distinct

/-- A constant is read as the address of its module where all variables have small letters. -/
theorem value?_constantName {contracts : List ModuleContract}
    (distinct : DistinctConstants contracts) {contract : ModuleContract}
    (mem : contract ∈ contracts) (name : Abi.isName contract.name.toList) {state : Values}
    (small : ∀ entry ∈ state, ∃ c ∈ entry.1, c.isLower) :
    value? (constantValues contracts) state (constantName contract.name).toList =
      some contract.address.toNat := by
  have other : state.lookup (constantName contract.name).toList = none := by
    rw [List.lookup_eq_none_iff]
    intro entry inside
    rw [bne_iff_ne]
    rintro same
    obtain ⟨c, letter, lower⟩ := small entry inside
    rw [← same] at letter
    rw [(of_mem_constantName name letter).2] at lower
    cases lower
  rw [value?, number?_of_isName (isName_constantName name), List.lookup_append, other,
    Option.none_or, lookup_constantValues distinct mem]

end ModularRouter.Router
