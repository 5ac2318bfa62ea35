import ModularRouter.Ast.Basic

/-!
# Nested statements

The statements of a body at any depth, in the order they are written, each before those inside it.
-/

namespace ModularRouter.Ast

namespace Statement

mutual

/-- A statement and the statements inside it. -/
def nested : Statement → List Statement
  | .block body => .block body :: nestedList body
  | .uncheckedBlock body => .uncheckedBlock body :: nestedList body
  | .ifThen body alternative =>
    .ifThen body alternative :: (nested body ++ nestedOption alternative)
  | .forLoop init body => .forLoop init body :: (nestedOption init ++ nested body)
  | .whileLoop body => .whileLoop body :: nested body
  | .doWhileLoop body => .doWhileLoop body :: nested body
  | .tryCatch clauses => .tryCatch clauses :: nestedClauses clauses
  | statement => [statement]

/-- The statements of a list and the statements inside them. -/
def nestedList : List Statement → List Statement
  | [] => []
  | statement :: rest => nested statement ++ nestedList rest

/-- A statement that may be absent and the statements inside it. -/
def nestedOption : Option Statement → List Statement
  | none => []
  | some statement => nested statement

/-- The statements of the blocks of clauses and the statements inside them. -/
def nestedClauses : List (List Statement) → List Statement
  | [] => []
  | clause :: rest => nestedList clause ++ nestedClauses rest

end

end Statement

end ModularRouter.Ast
