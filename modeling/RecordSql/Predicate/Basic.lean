import RecordSql.Binary64.Decimal
import RecordSql.Text.Escaped
import RecordSql.Value

/-!
# Predicates

A predicate is a boolean expression over the fields of a row and of a parameter.  It is compiled
to SQL or evaluated in process.
-/

namespace RecordSql

/-- A constant. -/
inductive Literal where
  | null
  | bool (value : Bool)
  | int (value : Int64)
  | real (value : Binary64)
  | text (value : String)
  deriving DecidableEq

namespace Literal

def toValue : Literal → Value
  | null => .null
  | bool value => .bool value
  | int value => .int value
  | real value => .real value
  | text value => .text value

/-- A literal as messages show it. -/
def shown : Literal → String
  | null => "null"
  | bool value => toString value
  | int value => toString value
  | real value => value.plain
  | text value => Text.escaped value

end Literal

/-- Whose field is read. -/
inductive Slot where
  | row
  | param
  deriving DecidableEq

/-- A comparison operator. -/
inductive Comparison where
  | eq
  | ne
  | gt
  | lt
  | ge
  | le
  deriving DecidableEq

namespace Comparison

/-- The operator in SQL. -/
def symbol : Comparison → String
  | eq => "="
  | ne => "!="
  | gt => ">"
  | lt => "<"
  | ge => ">="
  | le => "<="

/-- The operator in a shown predicate. -/
def shown : Comparison → String
  | eq => "=="
  | other => other.symbol

/-- The operator that says the same with the operands exchanged. -/
def flip : Comparison → Comparison
  | eq => eq
  | ne => ne
  | gt => lt
  | lt => gt
  | ge => le
  | le => ge

/-- Only these two can be asked about null. -/
def isEquality : Comparison → Bool
  | eq => true
  | ne => true
  | _ => false

/-- Whether the operator allows this order of its operands. -/
def allows : Comparison → Ordering → Bool
  | eq, order => order == .eq
  | ne, order => order != .eq
  | gt, order => order == .gt
  | lt, order => order == .lt
  | ge, order => order != .lt
  | le, order => order != .gt

theorem flip_flip (op : Comparison) : op.flip.flip = op := by
  cases op <;> rfl

theorem allows_flip (op : Comparison) (order : Ordering) :
    op.flip.allows order.swap = op.allows order := by
  cases op <;> cases order <;> rfl

end Comparison

/-- How two predicates are joined. -/
inductive Connective where
  | and
  | or
  deriving DecidableEq

namespace Connective

def symbol : Connective → String
  | and => "AND"
  | or => "OR"

def shown : Connective → String
  | and => "&&"
  | or => "||"

end Connective

/-- A boolean expression.  Not every one is well typed: a comparison needs fields or literals as
operands, and a join needs truth values. -/
inductive Predicate where
  | literal (value : Literal)
  | field (name : String) (slot : Slot)
  | compare (op : Comparison) (left right : Predicate)
  | join (op : Connective) (left right : Predicate)
  deriving DecidableEq

namespace Predicate

/-- A field of the row. -/
def row (name : String) : Predicate :=
  field name .row

/-- A field of the parameter. -/
def param (name : String) : Predicate :=
  field name .param

/-- The predicate of every row. -/
def always : Predicate :=
  literal (.bool true)

/-- The predicate of no row. -/
def never : Predicate :=
  literal (.bool false)

/-- Join a list from the left; the empty one is a constant. -/
def joinAll (op : Connective) (unit : Predicate) : List Predicate → Predicate
  | [] => unit
  | first :: rest => rest.foldl (join op) first

/-- Every predicate of a list. -/
def all (predicates : List Predicate) : Predicate :=
  joinAll .and always predicates

/-- Some predicate of a list. -/
def any (predicates : List Predicate) : Predicate :=
  joinAll .or never predicates

/-- The truth value of a predicate that is a constant. -/
def constant? : Predicate → Option Bool
  | literal (.bool value) => some value
  | _ => none

/-- A predicate as messages show it. -/
def shown : Predicate → String
  | literal value => value.shown
  | field name .row => "row." ++ name
  | field name .param => "param." ++ name
  | compare op left right => "(" ++ left.shown ++ " " ++ op.shown ++ " " ++ right.shown ++ ")"
  | join op left right => "(" ++ left.shown ++ " " ++ op.shown ++ " " ++ right.shown ++ ")"

end Predicate

end RecordSql
