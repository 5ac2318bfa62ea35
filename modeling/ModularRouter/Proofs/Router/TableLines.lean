import Mathlib.Algebra.GroupWithZero.Nat
import ModularRouter.Proofs.Router.Failures
import ModularRouter.Proofs.Text.Search

/-!
# The lines of a table

The block of a table is joined from its lines and read line by line. Each branch has two lines, each
leaf has two, and each function has one, which ends in a remark with the function's name
(`LaidOut`). The names are put in as they are, so what is read are these lines exactly if no line
feed stands in the name of a function or of its module (`table_keeps_to_lines_iff`): each line feed
in the name of a function makes one more line, and each one in the name of a module makes two, since
the constant of the module has it too (`length_linesOf_tableBlock`).
-/

namespace ModularRouter.Router

/-! ## What a table should look like -/

/-- The lines of a text. -/
def linesOf (text : String) : List (List Char) :=
  text.toList.splitOn '\n'

/-- How many branches a tree has. -/
def DispatchTree.branchCount : DispatchTree → Nat
  | .leaf _ => 0
  | .branch left right => left.branchCount + right.branchCount + 1

/-- Whether a line holds some text behind blanks and nothing else. -/
def IsIndented (content : String) (line : List Char) : Prop :=
  ∃ indent, line = (pad indent ++ content).toList

/-- Whether a line is that of a function: a case for its selector, and then a remark, from the first
two slashes on, in which the whole name of the function stands last. -/
structure IsCaseLine (function : Function) (line : List Char) : Prop where
  /-- The line is a case for the selector. -/
  selector : ∃ indent, (pad indent ++ "case " ++ function.selector.toText).toList <+: line
  /-- The name stands in the remark. -/
  remark : ∃ code before, Text.splitOnce? "//".toList line =
    some (code, before ++ (function.name ++ "()").toList)

/-- Whether some lines are those of a table. -/
inductive LaidOut : DispatchTree → List (List Char) → Prop where
  /-- A leaf has a line before and a line behind the lines of its functions. -/
  | leaf {functions : List Function} {first last : List Char} {lines : List (List Char)} :
      IsIndented "switch sig" first → List.Forall₂ IsCaseLine functions lines →
      IsIndented "leave" last → LaidOut (.leaf functions) (first :: (lines ++ [last]))
  /-- A branch has a line before and a line behind the lines of its left side. -/
  | branch {left right : DispatchTree} {split : Selector} {first last : List Char}
      {inside behind : List (List Char)} :
      IsIndented ("if lt(sig, " ++ split.toText ++ ") \x7b") first → LaidOut left inside →
      IsIndented "\x7d" last → LaidOut right behind →
      LaidOut (.branch left right) (first :: (inside ++ last :: behind))

/-- How many lines a table has. -/
def DispatchTree.lineCount (tree : DispatchTree) : Nat :=
  2 * tree.branchCount + 2 * tree.leaves.length + tree.size

/-- A leaf has two lines besides those of its functions. -/
theorem lineCount_leaf (functions : List Function) :
    (DispatchTree.leaf functions).lineCount = functions.length + 2 := by
  rw [DispatchTree.lineCount, DispatchTree.size, DispatchTree.branchCount, DispatchTree.leaves,
    DispatchTree.functions, List.length_singleton]
  omega

/-- A branch has two lines besides those of its sides. -/
theorem lineCount_branch (left right : DispatchTree) :
    (DispatchTree.branch left right).lineCount = left.lineCount + right.lineCount + 2 := by
  simp only [DispatchTree.lineCount, DispatchTree.size, DispatchTree.branchCount,
    DispatchTree.leaves, DispatchTree.functions, List.length_append]
  omega

/-- A table has two lines for each branch, two for each leaf and one for each function. -/
theorem LaidOut.length_eq {tree : DispatchTree} {lines : List (List Char)}
    (laidOut : LaidOut tree lines) : lines.length = tree.lineCount := by
  induction laidOut with
  | leaf _ cases _ =>
    rw [lineCount_leaf, cases.length_eq, List.length_cons, List.length_append,
      List.length_singleton]
  | branch _ _ _ _ left right =>
    rw [lineCount_branch, List.length_cons, List.length_append, List.length_cons, left, right]
    omega

/-- The line of a function is what it should be, whatever the names are. -/
theorem isCaseLine_caseLine (indent : Nat) (function : Function) :
    IsCaseLine function (caseLine indent function).toList := by
  constructor
  · refine ⟨indent, ?_⟩
    simp only [caseLine, String.toList_append, List.append_assoc, List.prefix_append_right_inj]
    exact List.prefix_append ..
  · -- Two slashes stand in front of the names; if there are others, they stand before these.
    have slashes : "//".toList ≠ [] := by decide
    obtain ⟨code, between, split⟩ := Text.exists_splitOnce?_append slashes
      (pad indent ++ "case " ++ function.selector.toText ++ " \x7b result := " ++
        constantName function.contract ++ " \x7d ").toList
      (" " ++ function.contract ++ "." ++ function.name ++ "()").toList
    refine ⟨code, between ++ (" " ++ function.contract ++ ".").toList, ?_⟩
    have remark : " \x7d // ".toList = " \x7d ".toList ++ ("//".toList ++ " ".toList) := rfl
    simp only [String.toList_append, List.append_assoc] at split ⊢
    rw [caseLine]
    simp only [String.toList_append, List.append_assoc, remark]
    exact split

/-- The lines of a table are what they should be, whatever the names are. -/
theorem laidOut_tableLines (indent : Nat) (tree : DispatchTree) :
    LaidOut tree ((tableLines indent tree).map String.toList) := by
  induction tree generalizing indent with
  | leaf functions =>
    have cases : List.Forall₂ IsCaseLine functions
        ((functions.map (caseLine indent)).map String.toList) := by
      rw [List.map_map, List.forall₂_map_right_iff, List.forall₂_same]
      exact fun function _ => isCaseLine_caseLine indent function
    rw [tableLines, List.map_cons, List.map_append, List.map_singleton]
    exact .leaf ⟨indent, rfl⟩ cases ⟨indent, rfl⟩
  | branch left right leftIh rightIh =>
    have opens : IsIndented ("if lt(sig, " ++ (right.min?.getD 0).toText ++ ") \x7b")
        (pad indent ++ "if lt(sig, " ++ (right.min?.getD 0).toText ++ ") \x7b").toList :=
      ⟨indent, by simp only [String.append_assoc]⟩
    rw [tableLines, List.map_cons, List.map_append, List.map_cons]
    exact .branch opens (leftIh (indent + 1)) ⟨indent, rfl⟩ (rightIh indent)

/-! ## Counting line feeds -/

/-- How many line feeds stand in a text. -/
def lineFeeds (text : String) : Nat :=
  text.toList.count '\n'

/-- The line feeds of two texts in a row. -/
@[simp]
theorem lineFeeds_append (text more : String) :
    lineFeeds (text ++ more) = lineFeeds text + lineFeeds more := by
  rw [lineFeeds, String.toList_append, List.count_append, lineFeeds, lineFeeds]

/-- A text without a line feed has none to count. -/
theorem lineFeeds_eq_zero_iff {text : String} : lineFeeds text = 0 ↔ '\n' ∉ text.toList :=
  List.count_eq_zero

/-- There is one line more than there are line feeds. -/
theorem length_linesOf (text : String) : (linesOf text).length = lineFeeds text + 1 := by
  rw [linesOf, lineFeeds]
  induction text.toList with
  | nil => rfl
  | cons c rest ih =>
    rw [List.splitOn_eq_splitOnP] at ih ⊢
    rw [List.splitOnP_cons_eq_if_modifyHead, List.count_cons]
    split
    · rw [List.length_cons, ih]
    · rw [List.length_modifyHead, ih, Nat.add_zero]

/-- Joined lines have their own line feeds and one between every two of them. -/
theorem lineFeeds_intercalate {lines : List String} (nonempty : lines ≠ []) :
    lineFeeds ("\n".intercalate lines) + 1 = lines.length + (lines.map lineFeeds).sum := by
  induction lines with
  | nil => exact absurd rfl nonempty
  | cons line rest ih =>
    cases rest with
    | nil => simp [Nat.add_comm]
    | cons next rest =>
      have joined := ih (List.cons_ne_nil next rest)
      have between : lineFeeds "\n" = 1 := rfl
      rw [String.intercalate_cons_cons, lineFeeds_append, lineFeeds_append, between, List.map_cons,
        List.sum_cons, List.length_cons]
      omega

/-- Lines without line feeds are read as they were joined. -/
theorem linesOf_intercalate {lines : List String} (nonempty : lines ≠ [])
    (clear : ∀ line ∈ lines, '\n' ∉ line.toList) :
    linesOf ("\n".intercalate lines) = lines.map String.toList := by
  rw [linesOf, String.toList_intercalate]
  refine List.splitOn_intercalate '\n' ?_ (by simpa using nonempty)
  intro line mem
  obtain ⟨text, inside, rfl⟩ := List.mem_map.1 mem
  exact clear text inside

/-- There are no line feeds before a line. -/
@[simp]
theorem lineFeeds_pad (indent : Nat) : lineFeeds (pad indent) = 0 := by
  rw [lineFeeds_eq_zero_iff, pad, String.toList_ofList, List.mem_replicate]
  exact fun feed => absurd feed.2 (by decide)

/-- There are no line feeds in a selector. -/
@[simp]
theorem lineFeeds_selector (selector : Selector) : lineFeeds selector.toText = 0 := by
  rw [lineFeeds_eq_zero_iff]
  exact fun feed => absurd (isWordChar_of_mem_selector _ feed) (by decide)

/-- A character is a line feed exactly if its capital is. -/
theorem toUpper_eq_lineFeed_iff {c : Char} : c.toUpper = '\n' ↔ c = '\n' := by
  by_cases small : 'a'.val ≤ c.val ∧ c.val ≤ 'z'.val
  · have capital : c.toUpper = ⟨c.val + ('A'.val - 'a'.val), _⟩ := dif_pos small
    have low : 97 ≤ c.val.toNat := UInt32.le_iff_toNat_le.1 small.1
    have high : c.val.toNat ≤ 122 := UInt32.le_iff_toNat_le.1 small.2
    have down : ('A'.val - 'a'.val).toNat = 2 ^ 32 - 32 := rfl
    have feed : '\n'.val.toNat = 10 := rfl
    rw [capital, Char.ext_iff, Char.ext_iff, ← UInt32.toNat_inj, ← UInt32.toNat_inj, feed,
      UInt32.toNat_add, down]
    omega
  · have same : c.toUpper = c := dif_neg small
    rw [same]

/-- The name of a constant has the line feeds of the name of its module. -/
theorem count_constantChars (inRun : Bool) (text : List Char) :
    (constantChars inRun text).count '\n' = text.count '\n' := by
  induction text generalizing inRun with
  | nil => rfl
  | cons c rest ih =>
    rw [constantChars]
    split
    · rw [List.count_cons, List.count_cons, ih, List.count_cons]
      rfl
    · simp only [List.count_cons, ih, beq_iff_eq, toUpper_eq_lineFeed_iff]

/-- The name of a constant has the line feeds of the name of its module. -/
@[simp]
theorem lineFeeds_constantName (contract : String) :
    lineFeeds (constantName contract) = lineFeeds contract := by
  rw [lineFeeds, constantName, String.toList_ofList, count_constantChars, lineFeeds]

/-- How many lines a function has beyond its own: two for each line feed in the name of its module,
which stands in the constant and in the remark, and one for each in its own name. -/
def Function.extraLines (function : Function) : Nat :=
  2 * lineFeeds function.contract + lineFeeds function.name

/-- The line feeds in the line of a function are those of the names. -/
theorem lineFeeds_caseLine (indent : Nat) (function : Function) :
    lineFeeds (caseLine indent function) = function.extraLines := by
  have keyword : lineFeeds "case " = 0 := rfl
  have result : lineFeeds " \x7b result := " = 0 := rfl
  have slashes : lineFeeds " \x7d // " = 0 := rfl
  have dot : lineFeeds "." = 0 := rfl
  have call : lineFeeds "()" = 0 := rfl
  simp only [caseLine, lineFeeds_append, lineFeeds_pad, lineFeeds_selector, lineFeeds_constantName,
    keyword, result, slashes, dot, call, Function.extraLines]
  omega

/-- The lines of a table have the line feeds of the names in it. -/
theorem sum_lineFeeds_tableLines (indent : Nat) (tree : DispatchTree) :
    ((tableLines indent tree).map lineFeeds).sum =
      (tree.functions.map Function.extraLines).sum := by
  induction tree generalizing indent with
  | leaf functions =>
    have first : lineFeeds "switch sig" = 0 := rfl
    have last : lineFeeds "leave" = 0 := rfl
    have cases : (functions.map (caseLine indent)).map lineFeeds =
        functions.map Function.extraLines := by
      simp only [List.map_map, List.map_inj_left, Function.comp_apply, lineFeeds_caseLine,
        implies_true]
    simp only [tableLines, DispatchTree.functions, List.map_cons, List.map_append, List.map_nil,
      List.sum_cons, List.sum_append, List.sum_nil, lineFeeds_append, lineFeeds_pad, cases, first,
      last, Nat.zero_add, Nat.add_zero]
  | branch left right leftIh rightIh =>
    have opening : lineFeeds "if lt(sig, " = 0 := rfl
    have brace : lineFeeds ") \x7b" = 0 := rfl
    have closing : lineFeeds "\x7d" = 0 := rfl
    simp only [tableLines, DispatchTree.functions, List.map_cons, List.map_append, List.sum_cons,
      List.sum_append, lineFeeds_append, lineFeeds_pad, lineFeeds_selector, leftIh, rightIh,
      opening, brace, closing, Nat.zero_add]

/-- A table has a line. -/
theorem tableLines_ne_nil (indent : Nat) (tree : DispatchTree) : tableLines indent tree ≠ [] := by
  cases tree <;> exact List.cons_ne_nil _ _

/-- What is read of a table are its lines and one more for each line feed in a name. -/
theorem length_linesOf_tableBlock (indent : Nat) (tree : DispatchTree) :
    (linesOf (tableBlock indent tree)).length =
      tree.lineCount + (tree.functions.map Function.extraLines).sum := by
  have own := (laidOut_tableLines indent tree).length_eq
  rw [List.length_map] at own
  rw [length_linesOf, tableBlock, lineFeeds_intercalate (tableLines_ne_nil indent tree), own,
    sum_lineFeeds_tableLines]

/-- What is read of a table is laid out as it should be exactly if no name has a line feed. -/
theorem laidOut_linesOf_iff (indent : Nat) (tree : DispatchTree) :
    LaidOut tree (linesOf (tableBlock indent tree)) ↔
      ∀ function ∈ tree.functions,
        '\n' ∉ function.contract.toList ∧ '\n' ∉ function.name.toList := by
  have clear_iff : (tree.functions.map Function.extraLines).sum = 0 ↔
      ∀ function ∈ tree.functions,
        '\n' ∉ function.contract.toList ∧ '\n' ∉ function.name.toList := by
    simp only [List.sum_eq_zero_iff_forall_eq_nat, List.forall_mem_map, Function.extraLines,
      ← lineFeeds_eq_zero_iff]
    refine forall₂_congr fun function _ => ?_
    omega
  rw [← clear_iff]
  constructor
  · intro laidOut
    have size := laidOut.length_eq
    rw [length_linesOf_tableBlock] at size
    omega
  · intro none
    have clear : ∀ line ∈ tableLines indent tree, '\n' ∉ line.toList := by
      rw [← sum_lineFeeds_tableLines indent, List.sum_eq_zero_iff_forall_eq_nat] at none
      exact fun line mem => lineFeeds_eq_zero_iff.1 (none _ (List.mem_map_of_mem mem))
    rw [tableBlock, linesOf_intercalate (tableLines_ne_nil indent tree) clear]
    exact laidOut_tableLines indent tree

/-! ## The table of a router -/

/-- The table of a generated router has a case for each function that the modules declare. Its lines
are those of a table, each name in the remark of its own line, exactly if no line feed stands in the
name of a module that declares a function or of a function; otherwise there are more lines, as many
as there are line feeds in what the lines of the functions are made of. -/
theorem table_keeps_to_lines_iff {digest : Digest} {settings : Settings}
    {contracts : List ModuleContract} {text : String}
    (generated : generate digest settings contracts = .ok text) :
    ∃ functions tree, functionsOfContracts digest settings.filter contracts = .ok functions ∧
      dispatchTree digest settings contracts = .ok tree ∧ tree.functions.Perm functions ∧
      text = settings.template.fill settings.routerName
        (constantsBlock digest settings.template.constantsIndent contracts)
        (tableBlock settings.template.dispatchIndent tree) ∧
      (linesOf (tableBlock settings.template.dispatchIndent tree)).length =
        tree.lineCount + (functions.map Function.extraLines).sum ∧
      (LaidOut tree (linesOf (tableBlock settings.template.dispatchIndent tree)) ↔
        ∀ contract ∈ contracts, ∀ function, Declares digest settings.filter contract function →
          '\n' ∉ contract.name.toList ∧ '\n' ∉ function.name.toList) := by
  obtain ⟨tree, made, -, written⟩ := generate_spec generated
  obtain ⟨functions, read, -, same, -⟩ := dispatchTree_spec made
  refine ⟨functions, tree, read, made, same, written, ?_, ?_⟩
  · rw [length_linesOf_tableBlock, (same.map Function.extraLines).sum_nat]
  · rw [laidOut_linesOf_iff]
    constructor
    · intro clear contract inside function declares
      have mem : function ∈ tree.functions :=
        same.mem_iff.2 ((mem_functionsOfContracts read).2 ⟨contract, inside, declares⟩)
      rw [← declares.contract_eq]
      exact clear function mem
    · intro clear function mem
      obtain ⟨contract, inside, declares⟩ :=
        (mem_functionsOfContracts read).1 (same.mem_iff.1 mem)
      rw [declares.contract_eq]
      exact clear contract inside function declares

/-- A module and two functions whose names hold what stands in a table, but no line feed. -/
def oddlyNamed : List ModuleContract :=
  [⟨"Core//Module", 0xc0de, [plainFragment "\x7d leave", plainFragment "default \x7b // \x7d"]⟩]

/-- Names that hold code and slashes stay in their remarks. -/
theorem odd_names_keep_to_lines :
    ∃ text tree, generate lengthDigest narrowSettings oddlyNamed = .ok text ∧
      dispatchTree lengthDigest narrowSettings oddlyNamed = .ok tree ∧
      LaidOut tree (linesOf (tableBlock 4 tree)) := by
  have known : functionsOfContracts lengthDigest narrowSettings.filter oddlyNamed =
      .ok [⟨"Core//Module", "\x7d leave", "\x7d leave()", 9⟩,
        ⟨"Core//Module", "default \x7b // \x7d", "default \x7b // \x7d()", 16⟩] := rfl
  have usable := (functionsOfContracts_eq_ok_iff.1 known).1
  have able : Generable lengthDigest narrowSettings oddlyNamed :=
    ⟨⟨by decide, usable, by decide, by decide, by decide⟩, by decide⟩
  obtain ⟨text, generated⟩ := able.exists_generate
  obtain ⟨functions, tree, -, made, -, -, -, laidOut⟩ := table_keeps_to_lines_iff generated
  refine ⟨text, tree, generated, made, laidOut.2 ?_⟩
  intro contract inside function declares
  have mem := (mem_functionsOfContracts known).2 ⟨contract, inside, declares⟩
  rw [← declares.contract_eq]
  clear declares
  revert function
  decide

/-- A module with a function whose name goes on behind a line feed. -/
def brokenNamed : List ModuleContract :=
  [⟨"CoreModule", 0xc0de, [plainFragment "owner\nleave"]⟩]

/-- The function of the module. -/
def brokenFunction : Function :=
  ⟨"CoreModule", "owner\nleave", "owner\nleave()", 13⟩

/-- What stands behind the line feed in the name of a function is a line of the table. -/
theorem name_leaves_its_line :
    ∃ text, generate lengthDigest narrowSettings brokenNamed = .ok text ∧
      dispatchTree lengthDigest narrowSettings brokenNamed = .ok (.leaf [brokenFunction]) ∧
      (linesOf (tableBlock 4 (.leaf [brokenFunction]))).map (List.dropWhile (· == ' ')) =
        ["switch sig".toList,
          "case 0x0000000d \x7b result := _CORE_MODULE \x7d // CoreModule.owner".toList,
          "leave()".toList, "leave".toList] ∧
      ¬ LaidOut (.leaf [brokenFunction])
        (linesOf (tableBlock 4 (.leaf [brokenFunction]))) := by
  have known : functionsOfContracts lengthDigest narrowSettings.filter brokenNamed =
      .ok [brokenFunction] := rfl
  obtain ⟨usable, accepted⟩ := functionsOfContracts_eq_ok_iff.1 known
  have able : Generable lengthDigest narrowSettings brokenNamed :=
    ⟨⟨by decide, usable, by decide, by decide, by decide⟩, by decide⟩
  obtain ⟨text, generated⟩ := able.exists_generate
  have sorted : sortBySelector [brokenFunction] = [brokenFunction] :=
    List.mergeSort_of_pairwise (by decide)
  refine ⟨text, generated, dispatchTree_eq_ok_iff.2 ⟨able.toDispatchable, ?_⟩,
    by decide +kernel, ?_⟩
  · rw [← accepted, sorted, DispatchTree.halve]
    rfl
  · intro laidOut
    have clear := (laidOut_linesOf_iff 4 _).1 laidOut _ (List.mem_singleton_self _)
    exact clear.2 (by decide)

end ModularRouter.Router
