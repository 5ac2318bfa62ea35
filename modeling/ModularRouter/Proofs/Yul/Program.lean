import ModularRouter.Abi.TypeText
import ModularRouter.Proofs.Yul.Tokens

/-!
# Dispatch tables as programs

What the two generated blocks of a router mean to a compiler. The table is a program in a part of
Yul: comparisons, switches, assignments and `leave`. It is read from its tokens and run on a
selector, where a name stands for a variable of the surrounding function or for a constant of the
contract. The declarations of the constants are read from the tokens of the other block.
-/

namespace ModularRouter.Yul

/-- A name or a number, or whether one is less than another. -/
inductive Expr where
  | atom (word : List Char)
  | less (left right : List Char)
  deriving Repr, DecidableEq

mutual

/-- Statements, one before the other. -/
inductive Block where
  | nil
  /-- The end of the function. -/
  | leave (rest : Block)
  /-- A new value of a variable. -/
  | assign (target : List Char) (value : Expr) (rest : Block)
  /-- Statements that are run unless a value is zero. -/
  | branch (condition : Expr) (body rest : Block)
  /-- Statements that are run for some values. -/
  | select (subject : Expr) (cases : Cases) (rest : Block)

/-- Values, each with the statements that are run for it. -/
inductive Cases where
  | nil
  | cons (value : List Char) (body : Block) (rest : Cases)

end

/-! ## Reading -/

/-- The expression at the start of some tokens, and what follows it. -/
def expr? : List Token → Option (Expr × List Token)
  | .word called :: .mark '(' :: .word left :: .mark ',' :: .word right :: .mark ')' :: rest =>
    if called = "lt".toList then some (.less left right, rest) else none
  | .word word :: rest => some (.atom word, rest)
  | _ => none

/-- The tokens behind a mark. -/
def after? (c : Char) : List Token → Option (List Token)
  | .mark d :: rest => if d = c then some rest else none
  | _ => none

/-- What some reader finds between braces, and what follows them. -/
def braced? {α : Type} (inner? : List Token → Option (α × List Token)) (tokens : List Token) :
    Option (α × List Token) := do
  let (inner, rest) ← inner? (← after? '\x7b' tokens)
  some (inner, ← after? '\x7d' rest)

mutual

/-- The statements at the start of some tokens, and what follows them. -/
def block? : (fuel : Nat) → List Token → Option (Block × List Token)
  | 0, _ => none
  | fuel + 1, .word word :: rest =>
    if word = "leave".toList then do
      let (others, rest) ← block? fuel rest
      some (.leave others, rest)
    else if word = "if".toList then do
      let (condition, rest) ← expr? rest
      let (body, rest) ← braced? (block? fuel) rest
      let (others, rest) ← block? fuel rest
      some (.branch condition body others, rest)
    else if word = "switch".toList then do
      let (subject, rest) ← expr? rest
      let (cases, rest) ← cases? fuel rest
      let (others, rest) ← block? fuel rest
      match cases with
      | .nil => none
      | .cons .. => some (.select subject cases others, rest)
    else do
      let (value, rest) ← expr? (← after? '=' (← after? ':' rest))
      let (others, rest) ← block? fuel rest
      some (.assign word value others, rest)
  | _ + 1, tokens => some (.nil, tokens)

/-- The cases at the start of some tokens, and what follows them. -/
def cases? : (fuel : Nat) → List Token → Option (Cases × List Token)
  | 0, _ => none
  | fuel + 1, .word word :: rest =>
    if word = "case".toList then
      match rest with
      | .word value :: rest => do
        let (body, rest) ← braced? (block? fuel) rest
        let (others, rest) ← cases? fuel rest
        some (.cons value body others, rest)
      | _ => none
    else some (.nil, .word word :: rest)
  | _ + 1, tokens => some (.nil, tokens)

end

/-- The program of some tokens. No statement is shorter than a token. -/
def program? (tokens : List Token) : Option Block :=
  match block? (tokens.length + 1) tokens with
  | some (block, []) => some block
  | _ => none

/-- The number that a word spells: some digits behind the mark `0x`. -/
def number? : List Char → Option Nat
  | '0' :: 'x' :: digits => if digits.isEmpty then none else Text.Numeral.digits? 16 digits
  | _ => none

/-- The values of names. -/
abbrev Values := List (List Char × Nat)

/-- The constants that some tokens declare, no two of them with one name. -/
def constants? : List Token → Option Values
  | [] => some []
  | .word type :: .word kind :: .word name :: .mark '=' :: .word value :: .mark ';' :: rest =>
    if type = "address".toList ∧ kind = "constant".toList ∧ Abi.isName name then do
      let number ← number? value
      let others ← constants? rest
      if (others.lookup name).isSome then none else some ((name, number) :: others)
    else none
  | _ => none

/-! ## Running -/

/-- How some statements end, with the values of the variables. -/
inductive Outcome where
  /-- The function has been left. -/
  | left (state : Values)
  /-- What follows the statements is run next. -/
  | through (state : Values)

section

variable (constants : Values)

/-- The value of a name or a number. -/
def value? (state : Values) (word : List Char) : Option Nat :=
  match number? word with
  | some number => some number
  | none => (state ++ constants).lookup word

/-- The value of an expression. -/
def Expr.value? (state : Values) : Expr → Option Nat
  | .atom word => Yul.value? constants state word
  | .less left right => do
    let smaller ← Yul.value? constants state left
    let larger ← Yul.value? constants state right
    some (if smaller < larger then 1 else 0)

mutual

/-- Runs statements; there is no outcome if one of them makes no sense. -/
def Block.run : Block → Values → Option Outcome
  | .nil, state => some (.through state)
  | .leave _, state => some (.left state)
  | .assign target value rest, state =>
    match value.value? constants state, state.lookup target with
    | some number, some _ => rest.run ((target, number) :: state)
    | _, _ => none
  | .branch condition body rest, state =>
    match condition.value? constants state with
    | none => none
    | some 0 => rest.run state
    | some (_ + 1) =>
      match body.run state with
      | some (.through state) => rest.run state
      | outcome => outcome
  | .select subject cases rest, state =>
    match subject.value? constants state with
    | none => none
    | some number =>
      match cases.run number state with
      | some (.through state) => rest.run state
      | outcome => outcome

/-- Runs the statements for a value, if there are any. -/
def Cases.run : Cases → Nat → Values → Option Outcome
  | .nil, _, state => some (.through state)
  | .cons value body rest, subject, state =>
    match number? value with
    | none => none
    | some number => if number = subject then body.run state else rest.run subject state

end

/-- The variables of the function around a table when it is called with a selector: the selector and
a result of zero. -/
def entry (selector : BitVec 32) : Values :=
  [("sig".toList, selector.toNat), ("result".toList, 0)]

/-- Whether the function around a table is left with a result when it is called with a selector. -/
def Block.Leaves (program : Block) (selector : BitVec 32) (result : Nat) : Prop :=
  ∃ state, program.run constants (entry selector) = some (.left state) ∧
    state.lookup "result".toList = some result

end

end ModularRouter.Yul
