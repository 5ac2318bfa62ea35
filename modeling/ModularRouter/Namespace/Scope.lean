import ModularRouter.Ast.Declaration
import ModularRouter.Namespace.Slot
import ModularRouter.Namespace.Target
import ModularRouter.Text.Utf8

/-!
# Resolving slots

What a slot is assigned has to be known before the code runs. A value is followed through assembly
variables, local variables and constants to a number, to the hash of a string, or to the hash of an
encoding that starts with a string. `maxIndirections` names are followed at most, so circular
definitions are refused.
-/

namespace ModularRouter.Namespace

open Ast (Declaration DeclarationIndex Expression Literal SourceUnit ContractDefinition Statement
  VariableDeclaration YulExpression)

/-! ## Causes -/

/-- Why the slot of a target is not known. -/
inductive UnknownSlot where
  /-- More names would have to be followed than is allowed. -/
  | tooManyIndirections
  /-- Nothing is assigned. -/
  | withoutValue
  /-- A number is not written as one of 256 bits. -/
  | invalidNumber (text : String)
  /-- A literal of assembly is no number. -/
  | literalOfKind (kind : String)
  /-- A name stands for nothing known. -/
  | unknownIdentifier (name : String)
  /-- The value is computed by a function, unless it is another expression that is called. -/
  | computedBy (function : Option String)
  /-- The bytes of a string that is hashed are not known. -/
  | stringWithoutValue
  /-- The bytes of a seed are not known. -/
  | seedWithoutValue
  /-- The first value of an encoding is no string. -/
  | seedNotString
  /-- What is hashed is neither a string nor an encoding. -/
  | hashOfOther
  /-- The value is of any other form. -/
  | unsupported
  deriving Repr, DecidableEq

/-- What is said about a slot that is not known. -/
def UnknownSlot.message : UnknownSlot → String
  | .tooManyIndirections => "too many indirections"
  | .withoutValue => "slot assigned without a value"
  | .invalidNumber text => "invalid number literal " ++ text
  | .literalOfKind kind => kind ++ " literal used as slot"
  | .unknownIdentifier name => "unknown identifier " ++ name
  | .computedBy function => "slot computed by " ++ function.getD "an expression" ++ "()"
  | .stringWithoutValue => "string literal without a value"
  | .seedWithoutValue => "abi.encode seed without a value"
  | .seedNotString => "abi.encode seed is not a string literal"
  | .hashOfOther => "keccak256 over a non-literal value"
  | .unsupported => "unsupported slot expression"

/-! ## Literals -/

/-- A number of 256 bits as it is written: decimal, or hexadecimal behind `0x`, with underscores
anywhere. No digits at all are zero. -/
def word? (text : String) : Option Word :=
  let digits := text.toList.filter (· ≠ '_')
  let number := match Text.dropStart? ['0', 'x'] digits with
    | some digits => Text.Numeral.digits? 16 digits
    | none => Text.Numeral.digits? 10 digits
  (number.filter (· < Nat.pow 2 256)).map (BitVec.ofNat 256)

/-- The slot of a number. -/
def slotOfNumber (text : Option String) : Except UnknownSlot Slot :=
  match word? (text.getD "") with
  | some word => .ok (.word word)
  | none => .error (.invalidNumber (text.getD ""))

/-- Whether a literal is a string of any kind. -/
def isString (literal : Literal) : Bool :=
  match literal.kind with
  | .string | .hexString | .unicodeString => true
  | .number | .bool => false

/-- The bytes of a string: those given as digits, or else those of its text. -/
def literalBytes? (literal : Literal) : Option (List UInt8) :=
  match literal.hexValue with
  | some digits => Text.Hex.toBytes? (Text.Hex.dropMark digits.toList)
  | none => literal.value.map Text.utf8

/-- The text that identifies a seed: the bytes as text, or their digits if they are none. -/
def seedOfBytes (bytes : List UInt8) : String :=
  match Text.ofUtf8? bytes with
  | some text => text
  | none => "hex\"" ++ String.ofList (Text.Hex.ofBytes bytes) ++ "\""

/-! ## Hashes -/

/-- The name of a function that is called. -/
def calleeName? : Expression → Option String
  | .identifier name _ => some name
  | .member _ name => some name
  | _ => none

/-- Whether an expression is the function that encodes values. -/
def isAbiEncode : Expression → Bool
  | .member (.identifier object _) name => object == "abi" && name == "encode"
  | _ => false

/-- The slot that the hash of the given arguments is. -/
def slotOfHash (digest : Digest) : List Expression → Except UnknownSlot Slot
  | [.literal literal] =>
    if isString literal then
      match literalBytes? literal with
      | some bytes => .ok (.word (digest bytes))
      | none => .error .stringWithoutValue
    else .error .hashOfOther
  | [.call callee arguments] =>
    if isAbiEncode callee then
      match arguments.head? with
      | some (.literal literal) =>
        if isString literal then
          match literalBytes? literal with
          | some bytes => .ok (.seed (seedOfBytes bytes))
          | none => .error .seedWithoutValue
        else .error .seedNotString
      | _ => .error .seedNotString
    else .error .hashOfOther
  | _ => .error .hashOfOther

/-! ## Scopes -/

/-- The names that a routine sees. -/
structure Scope where
  /-- The declarations of the project. -/
  index : DeclarationIndex
  /-- The source file. -/
  unit : SourceUnit
  /-- The contract, unless the routine stands outside of all. -/
  contract : Option ContractDefinition
  /-- The name of the function or modifier. -/
  routine : String
  /-- The local variables with their initializers, the latest first. -/
  locals : List (String × Expression)

/-- The local variables of a body with their initializers, at any depth, the latest first. -/
def localsOf (body : List Statement) : List (String × Expression) :=
  ((Statement.nestedList body).filterMap fun
    | .declaration [some declared] (some value) => some (declared.name, value)
    | _ => none).reverse

namespace Scope

/-- What the assignments of a routine are counted for: its contract, or else its file. -/
def owner (scope : Scope) : String :=
  match scope.contract with
  | some contract => contract.name
  | none => scope.unit.path

/-- The first constant of a name. -/
def constant? (name : String) (declarations : List VariableDeclaration) :
    Option VariableDeclaration :=
  declarations.find? fun declaration => declaration.constant && declaration.name == name

/-- The constant of a name: that of the contract, or else that of the file. -/
def constantNamed? (scope : Scope) (name : String) : Option VariableDeclaration :=
  let ofContract := scope.contract.bind fun contract => constant? name contract.stateVariables
  ofContract.or (constant? name scope.unit.fileVariables)

/-- The value of a name: that of the local variable, or else that of the constant. -/
def named? (scope : Scope) (name : String) : Option Expression :=
  match scope.locals.lookup name with
  | some value => some value
  | none => (scope.constantNamed? name).bind VariableDeclaration.value

/-- The value of the constant that a declaration is. -/
def constantValue? (scope : Scope) (reference : Option Ast.NodeId) : Option Expression :=
  match reference.bind scope.index.get? with
  | some (.constant declaration) => declaration.value
  | _ => none

/-- The slot that an expression is; fewer than `steps` names are followed. -/
def resolve (digest : Digest) (scope : Scope) : (steps : Nat) → Expression →
    Except UnknownSlot Slot
  | 0, _ => .error .tooManyIndirections
  | steps + 1, value =>
    match value with
    | .literal literal =>
      if literal.kind = .number then slotOfNumber literal.value else .error .unsupported
    | .identifier name reference =>
      match (scope.constantValue? reference).or (scope.named? name) with
      | some value => resolve digest scope steps value
      | none => .error (.unknownIdentifier name)
    | .call callee arguments =>
      if calleeName? callee = some "keccak256" then slotOfHash digest arguments
      else .error (.computedBy (calleeName? callee))
    | _ => .error .unsupported

/-- The slot that an expression of assembly is; fewer than `steps` names are followed. -/
def resolveYul (digest : Digest) (scope : Scope) (visible : YulVariables) : (steps : Nat) →
    YulExpression → Except UnknownSlot Slot
  | 0, _ => .error .tooManyIndirections
  | steps + 1, value =>
    match value with
    | .literal kind value _ =>
      if kind = "number" then slotOfNumber value else .error (.literalOfKind kind)
    | .identifier name =>
      match visible.lookup name with
      | some value => resolveYul digest scope visible steps value
      | none =>
        match scope.named? name with
        | some value => scope.resolve digest steps value
        | none => .error (.unknownIdentifier name)
    | .call function _ => .error (.computedBy (some function))

/-- How many names are followed at most. -/
def maxIndirections : Nat := 16

/-- The slot of a target. -/
def targetSlot (digest : Digest) (scope : Scope) (target : SlotTarget) : Except UnknownSlot Slot :=
  match target.value with
  | some value => scope.resolveYul digest target.visible (maxIndirections + 1) value
  | none => .error .withoutValue

end Scope

end ModularRouter.Namespace
