import Mathlib.Algebra.GroupWithZero.Nat
import ModularRouter.Ast.Nesting

/-!
# Statements directly inside statements

What is nested in a statement is the statement itself and what is nested in the statements directly
inside it.
-/

namespace ModularRouter.Ast.Statement

/-- The statements directly inside a statement, in the order in which they are written. -/
def children : Statement → List Statement
  | .block body => body
  | .uncheckedBlock body => body
  | .ifThen body alternative => body :: alternative.toList
  | .forLoop init body => init.toList ++ [body]
  | .whileLoop body => [body]
  | .doWhileLoop body => [body]
  | .tryCatch clauses => clauses.flatten
  | .declaration _ _ | .assembly _ | .other => []

/-- What is nested in two lists of statements is what is nested in the one and then in the other. -/
theorem nestedList_append (body rest : List Statement) :
    nestedList (body ++ rest) = nestedList body ++ nestedList rest := by
  induction body with
  | nil => rfl
  | cons statement body ih =>
    rw [List.cons_append, nestedList, nestedList, ih, List.append_assoc]

/-- A list of one statement nests what the statement does. -/
theorem nestedList_singleton (statement : Statement) : nestedList [statement] = statement.nested :=
  List.append_nil _

/-- A statement that may be absent is a list of at most one. -/
theorem nestedList_toList (statement : Option Statement) :
    nestedList statement.toList = nestedOption statement := by
  cases statement with
  | none => rfl
  | some statement => exact nestedList_singleton statement

/-- The clauses of a call nest what their statements do, one clause after the other. -/
theorem nestedList_flatten (clauses : List (List Statement)) :
    nestedList clauses.flatten = nestedClauses clauses := by
  induction clauses with
  | nil => rfl
  | cons clause rest ih => rw [List.flatten_cons, nestedList_append, ih, nestedClauses]

/-- A statement nests itself and then what the statements directly inside it do. -/
theorem nested_eq_cons (statement : Statement) :
    statement.nested = statement :: nestedList statement.children := by
  cases statement with
  | ifThen body alternative =>
    rw [children, nestedList, nestedList_toList]
    rfl
  | forLoop init body =>
    rw [children, nestedList_append, nestedList_toList, nestedList_singleton]
    rfl
  | whileLoop body | doWhileLoop body =>
    rw [children, nestedList_singleton]
    rfl
  | tryCatch clauses =>
    rw [children, nestedList_flatten]
    rfl
  | block _ | uncheckedBlock _ | declaration _ _ | assembly _ | other => rfl

/-- Statements are smaller than their list. -/
theorem sum_sizeOf_lt (body : List Statement) : (body.map sizeOf).sum < sizeOf body := by
  induction body with
  | nil => simp
  | cons statement rest ih =>
    simp only [List.map_cons, List.sum_cons, List.cons.sizeOf_spec]
    omega

/-- The statements of clauses are smaller than the list of clauses. -/
theorem sum_sizeOf_flatten_lt (clauses : List (List Statement)) :
    (clauses.flatten.map sizeOf).sum < sizeOf clauses := by
  induction clauses with
  | nil => simp
  | cons clause rest ih =>
    have own := sum_sizeOf_lt clause
    simp only [List.flatten_cons, List.map_append, List.sum_append, List.cons.sizeOf_spec]
    omega

/-- The statements directly inside a statement are smaller than it. -/
theorem sum_sizeOf_children_lt (statement : Statement) :
    (statement.children.map sizeOf).sum < sizeOf statement := by
  cases statement with
  | block body | uncheckedBlock body =>
    have inside := sum_sizeOf_lt body
    simp only [children, block.sizeOf_spec, uncheckedBlock.sizeOf_spec]
    omega
  | ifThen body alternative =>
    cases alternative <;>
      simp only [children, Option.toList_none, Option.toList_some, List.map_cons, List.map_nil,
        List.sum_cons, List.sum_nil, ifThen.sizeOf_spec, Option.none.sizeOf_spec,
        Option.some.sizeOf_spec] <;>
      omega
  | forLoop init body =>
    cases init <;>
      simp only [children, Option.toList_none, Option.toList_some, List.nil_append,
        List.singleton_append, List.map_cons, List.map_nil, List.sum_cons, List.sum_nil,
        forLoop.sizeOf_spec, Option.none.sizeOf_spec, Option.some.sizeOf_spec] <;>
      omega
  | whileLoop body | doWhileLoop body => simp [children]
  | tryCatch clauses =>
    have inside := sum_sizeOf_flatten_lt clauses
    simp only [children, tryCatch.sizeOf_spec]
    omega
  | declaration _ _ | assembly _ | other =>
    simp only [children, List.map_nil, List.sum_nil, declaration.sizeOf_spec,
      assembly.sizeOf_spec, other.sizeOf_spec]
    omega

end ModularRouter.Ast.Statement
