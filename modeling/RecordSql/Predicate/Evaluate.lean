import RecordSql.Predicate.Operand
import RecordSql.Predicate.Truth

/-!
# Evaluation in process

A predicate is evaluated on a row as an SQL engine would do it: values are compared in their
stored form, and a row matches only when the outcome is true.  Both sides of a join are always
evaluated, so an ill-typed side is an error whatever the other one says.
-/

namespace RecordSql

/-- What a predicate is evaluated on. -/
structure Scope where
  table : Table
  row : FieldValues
  param : Option FieldValues

namespace Scope

/-- The stored form of a field of the row. -/
def rowValue (scope : Scope) (column : Column) : Except Error Value :=
  match scope.row column.field with
  | some value => column.serialize value
  | none => .error (.unknownField scope.table.record column.field)

/-- The parameter's value of a field; there has to be a parameter. -/
def paramValue (scope : Scope) (field : String) : Except Error Value :=
  match scope.param with
  | some param => boundField param field
  | none => .error (.validation (.unboundParam field))

/-- The value that an operand is compared as.  What is compared with a column takes the form that
the column compares with. -/
def operandValue (scope : Scope) (counterpart : Option Column) : Operand → Except Error Value
  | .column column => scope.rowValue column
  | .param field => do
      let value ← scope.paramValue field
      match counterpart with
      | some column => column.serializeOperand value
      | none => return value
  | .literal literal =>
      match counterpart with
      | some column => column.serializeOperand literal.toValue
      | none => .ok literal.toValue

/-- The outcome of a comparison. -/
def testTruth (scope : Scope) : Test → Except Error Truth
  | .null op operand => do
      let value ← scope.operandValue none operand
      let wanted ← nullTest op
      return some (value.isNull == wanted)
  | .compare op left right => do
      let a ← scope.operandValue none left
      let b ← scope.operandValue left.column? right
      return op.truth a b

/-- A value used as a predicate. -/
def valueTruth (field : String) : Value → Except Error Truth
  | .bool value => .ok (some value)
  | .null => .ok none
  | other => .error (.typeMismatch (.heldPredicate field other.kind))

/-- The outcome of a predicate. -/
def truth (scope : Scope) : Predicate → Except Error Truth
  | .literal (.bool value) => .ok (some value)
  | .literal other => .error (.typeMismatch (.literalPredicate other.shown))
  | .field name .row => do
      let column ← predicateColumn scope.table name
      let stored ← scope.rowValue column
      valueTruth name (← column.deserialize stored)
  | .field name .param => do
      valueTruth name (← scope.paramValue name)
  | .compare op left right => do
      let lookup field := (scope.paramValue field).map some
      scope.testTruth (← Test.ofComparison scope.table lookup op left right)
  | .join op left right => do
      let a ← scope.truth left
      let b ← scope.truth right
      return Truth.join op a b

end Scope

/-- Whether a row satisfies a predicate. -/
def Predicate.evaluate (predicate : Predicate) (table : Table) (row : FieldValues)
    (param : Option FieldValues) : Except Error Bool := do
  let outcome ← (Scope.mk table row param).truth predicate
  return outcome == some true

end RecordSql
