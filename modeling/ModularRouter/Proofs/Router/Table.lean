import ModularRouter.Proofs.Router.SearchTree
import ModularRouter.Proofs.Router.Words

/-!
# The table of a router

The lines of a table are a program that finds the function of a selector. `program` is that program
as a tree of statements. The lines are taken apart into its tokens (`tokens_tableLines`), the tokens
are read as the program (`block?_tableTokens`), and running it on a tree that can be searched finds
the function with the selector, if there is one (`leaves_program`). A branch has no `else`: what
follows its block is only run if the block is not, since every table ends with `leave`.
-/

namespace ModularRouter.Router

open Yul

/-! ## Taking lines apart -/

/-- The tokens of the line of a function. -/
def caseTokens (function : Function) : List Token :=
  [.word "case".toList, .word function.selector.toText.toList, .mark '\x7b',
    .word "result".toList, .mark ':', .mark '=', .word (constantName function.contract).toList,
    .mark '\x7d']

/-- The tokens of a table. -/
def tableTokens : DispatchTree → List Token
  | .leaf functions =>
    .word "switch".toList :: .word "sig".toList ::
      (functions.flatMap caseTokens ++ [.word "leave".toList])
  | .branch left right =>
    [.word "if".toList, .word "lt".toList, .mark '(', .word "sig".toList, .mark ',',
      .word (right.min?.getD 0).toText.toList, .mark ')', .mark '\x7b'] ++
      (tableTokens left ++ .mark '\x7d' :: tableTokens right)

/-- A function whose line in a table is one line: its contract has a name and no line ends in its
own name. -/
structure Function.Printable (function : Function) : Prop where
  contract : Abi.isName function.contract.toList
  name : ∀ c ∈ function.name.toList, isLineBreak c = false

/-- The word of a selector ends where another character follows. -/
theorem lex_selector (selector : Selector) {c : Char} (rest : List Char)
    (other : isWordChar c = false) :
    lex (.code []) (selector.toText.toList ++ c :: rest) =
      .word selector.toText.toList :: lex (.code []) (c :: rest) := by
  have nonempty : selector.toText.toList ≠ [] := by
    rw [Selector.toText, Text.Hex.marked, String.toList_ofList]
    exact List.cons_ne_nil _ _
  exact lex_word_cons rest nonempty isWordChar_of_mem_selector other

/-- The remark that names a function runs to the end of its line. -/
theorem lex_remark_name {function : Function} (printable : function.Printable) :
    lex .remark
      (function.contract.toList ++ (".".toList ++ (function.name.toList ++ "()".toList))) = [] := by
  apply lex_remark
  intro c mem
  rcases List.mem_append.1 mem with contract | mem
  · exact not_isLineBreak_of_continuesName (continuesName_of_mem printable.contract contract)
  rcases List.mem_append.1 mem with dot | mem
  · rw [List.mem_singleton.1 dot]
    rfl
  rcases List.mem_append.1 mem with name | parentheses
  · exact printable.name c name
  rcases List.mem_cons.1 parentheses with rfl | parentheses
  · rfl
  · rw [List.mem_singleton.1 parentheses]
    rfl

/-- The tokens of the line of a function. The remark at its end is none. -/
theorem tokens_caseLine (indent : Nat) {function : Function} (printable : function.Printable) :
    tokens (caseLine indent function) = caseTokens function := by
  have constant := isName_constantName printable.contract
  have keyword (rest : List Char) :
      lex (.code []) ("case ".toList ++ rest) = .word "case".toList :: lex (.code []) rest := rfl
  have result (rest : List Char) :
      lex (.code []) (" \x7b result := ".toList ++ rest) =
        .mark '\x7b' :: .word "result".toList :: .mark ':' :: .mark '=' :: lex (.code []) rest :=
    rfl
  have named (rest : List Char) :
      lex (.code []) ((constantName function.contract).toList ++ (" \x7d // ".toList ++ rest)) =
        .word (constantName function.contract).toList ::
          lex (.code []) (" \x7d // ".toList ++ rest) :=
    lex_word_cons _ (ne_nil_of_isName constant) (isWordChar_of_isName constant) rfl
  have close (rest : List Char) :
      lex (.code []) (" \x7d // ".toList ++ rest) = .mark '\x7d' :: lex .remark rest := rfl
  have selector (rest : List Char) :
      lex (.code []) (function.selector.toText.toList ++ (" \x7b result := ".toList ++ rest)) =
        .word function.selector.toText.toList ::
          lex (.code []) (" \x7b result := ".toList ++ rest) :=
    lex_selector _ _ rfl
  simp only [tokens, caseLine, pad, String.toList_append, String.toList_ofList,
    List.append_assoc, lex_blanks, keyword, selector, result, named, close,
    lex_remark_name printable]
  rfl

/-- The tokens of the line that opens a branch. -/
theorem tokens_branchLine (indent : Nat) (selector : Selector) :
    tokens (pad indent ++ "if lt(sig, " ++ selector.toText ++ ") \x7b") =
      [.word "if".toList, .word "lt".toList, .mark '(', .word "sig".toList, .mark ',',
        .word selector.toText.toList, .mark ')', .mark '\x7b'] := by
  have call (rest : List Char) :
      lex (.code []) ("if lt(sig, ".toList ++ rest) =
        [.word "if".toList, .word "lt".toList, .mark '(', .word "sig".toList, .mark ','] ++
          lex (.code []) rest := rfl
  have split :
      lex (.code []) (selector.toText.toList ++ ") \x7b".toList) =
        .word selector.toText.toList :: lex (.code []) ") \x7b".toList :=
    lex_selector _ _ rfl
  rw [String.append_assoc, String.append_assoc, tokens_pad, tokens, String.toList_append,
    String.toList_append, call, split]
  rfl

/-- The tokens of the lines of a table. -/
theorem tokens_tableLines (indent : Nat) {tree : DispatchTree}
    (printable : ∀ function ∈ tree.functions, function.Printable) :
    (tableLines indent tree).flatMap tokens = tableTokens tree := by
  induction tree generalizing indent with
  | leaf functions =>
    have head :
        tokens (pad indent ++ "switch sig") = [.word "switch".toList, .word "sig".toList] := by
      rw [tokens_pad]
      rfl
    have last : tokens (pad indent ++ "leave") = [.word "leave".toList] := by
      rw [tokens_pad]
      rfl
    have line : ∀ function ∈ functions, tokens (caseLine indent function) = caseTokens function :=
      fun function mem => tokens_caseLine indent (printable function mem)
    have cases :
        (functions.map (caseLine indent)).flatMap tokens = functions.flatMap caseTokens := by
      rw [List.flatMap_map, List.flatMap_def, List.flatMap_def, List.map_congr_left line]
    rw [tableLines, tableTokens, List.flatMap_cons, List.flatMap_append, List.flatMap_singleton,
      head, last, cases]
    rfl
  | branch left right leftIh rightIh =>
    have close : tokens (pad indent ++ "\x7d") = [.mark '\x7d'] := by
      rw [tokens_pad]
      rfl
    have inLeft := leftIh (indent + 1) fun function mem =>
      printable function (List.mem_append_left _ mem)
    have inRight := rightIh indent fun function mem =>
      printable function (List.mem_append_right _ mem)
    rw [tableLines, tableTokens, List.flatMap_cons, List.flatMap_append, List.flatMap_cons,
      tokens_branchLine, close, inLeft, inRight]
    rfl

/-! ## Reading -/

/-- The cases of a leaf. -/
def caseList : List Function → Cases
  | [] => .nil
  | function :: rest =>
    .cons function.selector.toText.toList
      (.assign "result".toList (.atom (constantName function.contract).toList) .nil)
      (caseList rest)

/-- The statements of a table. -/
def program : DispatchTree → Block
  | .leaf functions => .select (.atom "sig".toList) (caseList functions) (.leave .nil)
  | .branch left right =>
    .branch (.less "sig".toList (right.min?.getD 0).toText.toList) (program left) (program right)

/-- Statements end at the end of the tokens and before a mark. -/
def EndsStatements (rest : List Token) : Prop :=
  ∀ fuel, block? (fuel + 1) rest = some (.nil, rest)

/-- Braces close statements. -/
theorem endsStatements_mark (c : Char) (rest : List Token) : EndsStatements (.mark c :: rest) :=
  fun _ => rfl

/-- The tokens between the braces of a case are read as an assignment. -/
theorem block?_result (fuel : Nat) (constant : List Char) (rest : List Token) :
    block? (fuel + 2) (.word "result".toList :: .mark ':' :: .mark '=' :: .word constant ::
        .mark '\x7d' :: rest) =
      some (.assign "result".toList (.atom constant) .nil, .mark '\x7d' :: rest) := rfl

/-- The tokens of the cases of a leaf are read as its cases. -/
theorem cases?_caseTokens {functions : List Function} {fuel : Nat} (rest : List Token)
    (enough : (functions.flatMap caseTokens).length < fuel) :
    cases? fuel (functions.flatMap caseTokens ++ .word "leave".toList :: rest) =
      some (caseList functions, .word "leave".toList :: rest) := by
  induction functions generalizing fuel with
  | nil =>
    cases fuel with
    | zero => cases enough
    | succ fuel => rfl
  | cons function others ih =>
    rw [List.flatMap_cons, caseTokens, List.length_append] at enough
    simp only [List.length_cons, List.length_nil] at enough
    -- The tokens of a case leave fuel for the assignment between its braces.
    obtain ⟨fuel, rfl⟩ : ∃ left, fuel = left + 3 := ⟨fuel - 3, by omega⟩
    have left : (others.flatMap caseTokens).length < fuel + 2 := by omega
    have later := ih left
    rw [List.flatMap_cons, caseTokens, caseList]
    simp only [List.cons_append, List.nil_append, cases?, if_true, braced?, after?, block?_result,
      later, bind, Option.bind_some]

/-- The tokens of a leaf are read as a switch that `leave` follows. -/
theorem block?_leaf {functions : List Function} (nonempty : functions ≠ []) {fuel : Nat}
    {rest : List Token} (ends : EndsStatements rest)
    (enough : (tableTokens (.leaf functions)).length < fuel) :
    block? fuel (tableTokens (.leaf functions) ++ rest) =
      some (program (.leaf functions), rest) := by
  cases functions with
  | nil => exact absurd rfl nonempty
  | cons function others =>
    rw [tableTokens] at enough ⊢
    simp only [List.length_cons, List.length_append, List.length_nil] at enough
    obtain ⟨fuel, rfl⟩ : ∃ left, fuel = left + 3 := ⟨fuel - 3, by omega⟩
    have left : ((function :: others).flatMap caseTokens).length < fuel + 2 := by omega
    have cases := cases?_caseTokens rest left
    have leave : block? (fuel + 2) (.word "leave".toList :: rest) = some (.leave .nil, rest) := by
      rw [block?, if_pos rfl, ends fuel]
      rfl
    simp only [List.flatMap_cons, caseTokens, List.cons_append, List.nil_append,
      List.append_assoc] at cases ⊢
    rw [block?, if_neg (by decide), if_neg (by decide), if_pos rfl]
    simp only [expr?, cases, leave, bind, Option.bind_some]
    rfl

/-- The tokens of a table are read as its statements. -/
theorem block?_tableTokens {tree : DispatchTree} (filled : [] ∉ tree.leaves) {fuel : Nat}
    {rest : List Token} (ends : EndsStatements rest) (enough : (tableTokens tree).length < fuel) :
    block? fuel (tableTokens tree ++ rest) = some (program tree, rest) := by
  induction tree generalizing fuel rest with
  | leaf functions =>
    refine block?_leaf ?_ ends enough
    rintro rfl
    exact filled (List.mem_singleton_self _)
  | branch left right leftIh rightIh =>
    rw [DispatchTree.leaves, List.mem_append, not_or] at filled
    rw [tableTokens] at enough ⊢
    simp only [List.length_cons, List.length_append, List.length_nil] at enough
    obtain ⟨fuel, rfl⟩ : ∃ left, fuel = left + 1 := ⟨fuel - 1, by omega⟩
    have inLeft : (tableTokens left).length < fuel := by omega
    have inRight : (tableTokens right).length < fuel := by omega
    -- The left side ends before the brace that closes it, the right side where the table ends.
    have body := leftIh filled.1 (endsStatements_mark '\x7d' (tableTokens right ++ rest)) inLeft
    have others := rightIh filled.2 ends inRight
    simp only [List.cons_append, List.nil_append, List.append_assoc] at body ⊢
    rw [block?, if_neg (by decide), if_pos rfl]
    simp only [expr?, if_true, braced?, after?, body, others, bind, Option.bind_some]
    rfl

/-- The block of a table is read as its statements. -/
theorem program?_tableBlock (indent : Nat) {tree : DispatchTree} (filled : [] ∉ tree.leaves)
    (printable : ∀ function ∈ tree.functions, function.Printable) :
    program? (tokens (tableBlock indent tree)) = some (program tree) := by
  have ends : EndsStatements [] := fun _ => rfl
  have read := block?_tableTokens filled ends (Nat.lt_succ_self (tableTokens tree).length)
  rw [List.append_nil] at read
  rw [tableBlock, tokens_lines, tokens_tableLines indent printable, program?, read]

/-! ## Running -/

/-- The first function with a selector. -/
def functionOf? (functions : List Function) (selector : Selector) : Option Function :=
  functions.find? fun function => function.selector == selector

/-- No function has a selector that is not there. -/
theorem functionOf?_eq_none {functions : List Function} {selector : Selector}
    (none : ∀ function ∈ functions, function.selector ≠ selector) :
    functionOf? functions selector = .none := by
  rw [functionOf?, List.find?_eq_none]
  intro function mem
  rw [beq_iff_eq]
  exact none function mem

/-- The only function with its selector is the first one. -/
theorem functionOf?_eq_some {functions : List Function} {function : Function}
    (mem : function ∈ functions)
    (only : ∀ other ∈ functions, other.selector = function.selector → other = function) :
    functionOf? functions function.selector = some function := by
  cases found : functionOf? functions function.selector with
  | none =>
    rw [functionOf?, List.find?_eq_none] at found
    exact absurd (beq_self_eq_true _) (found function mem)
  | some other =>
    rw [functionOf?, List.find?_eq_some_iff_append] at found
    obtain ⟨equal, before, after, rfl, -⟩ := found
    rw [only other (by simp) (beq_iff_eq.1 equal)]

/-- A side without the selector does not matter. -/
theorem functionOf?_append_of_forall_ne {functions others : List Function} {selector : Selector}
    (none : ∀ function ∈ functions, function.selector ≠ selector) :
    functionOf? (functions ++ others) selector = functionOf? others selector ∧
      functionOf? (others ++ functions) selector = functionOf? others selector := by
  have absent := functionOf?_eq_none none
  rw [functionOf?] at absent
  rw [functionOf?, functionOf?, functionOf?, List.find?_append, List.find?_append, absent]
  exact ⟨Option.none_or, Option.or_none⟩

section

variable {constants : Values} {selector : Selector} {valueOf : Function → Nat}

/-- The variables have small letters in their names. -/
theorem small_entry : ∀ value ∈ entry selector, ∃ c ∈ value.1, c.isLower := by
  intro value mem
  rcases List.mem_cons.1 mem with rfl | mem
  · exact ⟨'s', List.mem_cons_self .., rfl⟩
  · rw [List.mem_singleton.1 mem]
    exact ⟨'r', List.mem_cons_self .., rfl⟩

/-- The name `sig` stands for the selector that the table is run on. -/
theorem value?_sig : value? constants (entry selector) "sig".toList = some selector.toNat := rfl

/-- The word of a selector stands for its number. -/
theorem value?_selector (state : Values) (other : Selector) :
    value? constants state other.toText.toList = some other.toNat := by
  rw [value?, number?_selector]

/-- The cases of a leaf give the result the value of the function with the selector. -/
theorem run_caseList {functions : List Function}
    (values : ∀ function ∈ functions,
      value? constants (entry selector) (constantName function.contract).toList =
        some (valueOf function)) :
    ∃ state,
      (caseList functions).run constants selector.toNat (entry selector) =
        some (.through state) ∧
      state.lookup "result".toList =
        some (((functionOf? functions selector).map valueOf).getD 0) := by
  induction functions with
  | nil => exact ⟨entry selector, rfl, rfl⟩
  | cons function rest ih =>
    have own := values function (List.mem_cons_self ..)
    rw [caseList, Cases.run, number?_selector, functionOf?, List.find?_cons]
    -- Two selectors are one exactly when their numbers are, by which the cases are chosen.
    by_cases same : function.selector = selector
    · refine ⟨("result".toList, valueOf function) :: entry selector, ?_, ?_⟩
      · simp only [same, if_true, Block.run, Expr.value?, own]
        rfl
      · simp [same]
    · have other : ¬ function.selector.toNat = selector.toNat := fun equal =>
        same (BitVec.eq_of_toNat_eq equal)
      have apart : (function.selector == selector) = false := beq_eq_false_iff_ne.2 same
      simp only [other, if_false, apart]
      exact ih fun other mem => values other (List.mem_cons_of_mem _ mem)

/-- Running a table finds the function with the selector it is run on. -/
theorem leaves_program {tree : DispatchTree} (searchable : tree.Searchable)
    (values : ∀ function ∈ tree.functions,
      value? constants (entry selector) (constantName function.contract).toList =
        some (valueOf function)) :
    (program tree).Leaves constants selector
      (((functionOf? tree.functions selector).map valueOf).getD 0) := by
  induction tree with
  | leaf functions =>
    obtain ⟨state, ran, result⟩ := run_caseList values
    refine ⟨state, ?_, result⟩
    have subject : (Expr.atom "sig".toList).value? constants (entry selector) =
        some selector.toNat := by
      rw [Expr.value?, value?_sig]
    simp only [program, Block.run, subject]
    rw [DispatchTree.functions] at ran
    rw [ran]
  | branch left right leftIh rightIh =>
    obtain ⟨inLeft, inRight, split, least, below, above⟩ := searchable.branch
    have condition :
        (Expr.less "sig".toList (right.min?.getD 0).toText.toList).value? constants
          (entry selector) = some (if selector < split then 1 else 0) := by
      rw [least, Option.getD_some, Expr.value?, value?_sig, value?_selector]
      rfl
    rw [DispatchTree.functions] at values
    by_cases lower : selector < split
    · -- The block of the left side is run and leaves the function.
      have absent : ∀ function ∈ right.functions, function.selector ≠ selector := by
        rintro function mem rfl
        exact BitVec.not_le.2 lower (above function mem)
      obtain ⟨state, ran, result⟩ :=
        leftIh inLeft fun function mem => values function (List.mem_append_left _ mem)
      refine ⟨state, ?_, ?_⟩
      · simp only [program, Block.run, condition, lower, if_true, ran]
      · rw [DispatchTree.functions, (functionOf?_append_of_forall_ne absent).2, result]
    · -- The block of the left side is passed over.
      have absent : ∀ function ∈ left.functions, function.selector ≠ selector := by
        rintro function mem rfl
        exact lower (below function mem)
      obtain ⟨state, ran, result⟩ :=
        rightIh inRight fun function mem => values function (List.mem_append_right _ mem)
      refine ⟨state, ?_, ?_⟩
      · simp only [program, Block.run, condition, lower, if_false, ran]
      · rw [DispatchTree.functions, (functionOf?_append_of_forall_ne absent).1, result]

end

end ModularRouter.Router
