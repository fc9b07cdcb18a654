import RecordSql.Dialect
import RecordSql.Predicate.Truth

/-!
# Boolean expressions of SQL

The tree that a predicate compiles to, before any dialect gives it text.  Every comparison, every
test for null and every join has exactly one pair of parentheses around it, so the text says how
it is nested.
-/

namespace RecordSql.Sql

/-- What stands on one side of a comparison. -/
inductive Operand where
  | column (name : Ident)
  | placeholder (name : Ident)
  | null
  | flag (value : Bool)
  | int (value : Int64)
  | real (value : Binary64)
  | text (value : String)
  deriving DecidableEq

/-- A boolean expression over columns, placeholders and literals. -/
inductive Expr where
  | constant (value : Bool)
  | join (op : Connective) (left right : Expr)
  | compare (op : Comparison) (left right : Operand)
  | nullTest (wanted : Bool) (operand : Operand)
  deriving DecidableEq

/-- Truth values are written as numbers. -/
def flagText (value : Bool) : String :=
  if value then "1" else "0"

namespace Operand

/-- The text of an operand. -/
def render (dialect : Dialect) : Operand → String
  | column name => dialect.quote name
  | placeholder name => dialect.placeholder name.name
  | null => "NULL"
  | flag value => flagText value
  | int value => toString value
  | real value => value.plain
  | text value => Dialect.textLiteral value

/-- The value of an operand, where columns and placeholders have values.  A truth value counts as
a number. -/
def value (columns placeholders : Ident → Value) : Operand → Value
  | column name => columns name
  | placeholder name => placeholders name
  | null => .null
  | flag value => .int (if value then 1 else 0)
  | int value => .int value
  | real value => .real value
  | text value => .text value

end Operand

namespace Expr

/-- The text of an expression. -/
def render (dialect : Dialect) : Expr → String
  | constant value => flagText value
  | join op left right =>
      "(" ++ left.render dialect ++ " " ++ op.symbol ++ " " ++ right.render dialect ++ ")"
  | compare op left right =>
      "(" ++ left.render dialect ++ " " ++ op.symbol ++ " " ++ right.render dialect ++ ")"
  | nullTest wanted operand =>
      "(" ++ operand.render dialect ++ (if wanted then " IS NULL" else " IS NOT NULL") ++ ")"

/-- The three-valued outcome of an expression, where columns and placeholders have values. -/
def truth (columns placeholders : Ident → Value) : Expr → Truth
  | constant value => some value
  | join op left right =>
      Truth.join op (left.truth columns placeholders) (right.truth columns placeholders)
  | compare op left right =>
      op.truth (left.value columns placeholders) (right.value columns placeholders)
  | nullTest wanted operand =>
      some ((operand.value columns placeholders).isNull == wanted)

end Expr

end RecordSql.Sql
