import RecordSql.Predicate.Basic
import RecordSql.Table

/-!
# Operands of a comparison

Before a comparison is compiled or evaluated its operands are looked up and put in order: columns
first, then parameters, then literals, and null last.  Then the kinds of the operands are checked,
and a comparison with null, or for equality with a parameter that is not set, becomes a test for
null.
-/

namespace RecordSql

/-- One side of a comparison, with the column of a row's field looked up. -/
inductive Operand where
  | column (column : Column)
  | param (field : String)
  | literal (value : Literal)

namespace Operand

/-- The place of an operand in a comparison. -/
def rank : Operand → Nat
  | column _ => 0
  | param _ => 1
  | literal .null => 3
  | literal _ => 2

def isNull : Operand → Bool
  | literal .null => true
  | _ => false

def column? : Operand → Option Column
  | column c => some c
  | _ => none

/-- The operand that a predicate is. -/
def ofPredicate (table : Table) : Predicate → Except Error Operand
  | .literal value => .ok (literal value)
  | .field name .row => (table.column name).map column
  | .field name .param => .ok (param name)
  | other => .error (.typeMismatch (.operand other.shown))

end Operand

/-- A value that may be compared with a column. -/
def checkFamily (column : Column) (value : Value) : Except Error Unit :=
  if column.family.accepts value then .ok ()
  else .error (.typeMismatch (.columnValue column.family column.field value.kind))

/-- Two values that may be compared: null with any, others within their kind, and numbers of
either kind. -/
def checkValues (a b : Value) : Except Error Unit :=
  if a.isNull || b.isNull || a.kind == b.kind || (a.isNumeric && b.isNumeric) then .ok ()
  else .error (.typeMismatch (.values a.kind b.kind))

/-- Two columns that may be compared. -/
def checkColumns (a b : Column) : Except Error Unit :=
  if a.family = b.family then .ok ()
  else .error (.typeMismatch (.columns a.family a.field b.family b.field))

/-- What a comparison asks once its operands are known. -/
inductive Test where
  | null (op : Comparison) (operand : Operand)
  | compare (op : Comparison) (left right : Operand)

/-- What is asked about null: to be it or not to be it. -/
def nullTest (op : Comparison) : Except Error Bool :=
  match op with
  | .eq => .ok true
  | .ne => .ok false
  | other => .error (.typeMismatch (.nullOrder other.symbol))

namespace Test

/-- Put operands in order; an exchange flips the operator. -/
def arrange (op : Comparison) (left right : Operand) : Comparison × Operand × Operand :=
  if right.rank < left.rank then (op.flip, right, left) else (op, left, right)

/-- The parameter's value of a field; nothing if there is no parameter yet. -/
abbrev Lookup := String → Except Error (Option Value)

/-- Check a comparison whose operands are in order. -/
def settle (lookup : Lookup) (op : Comparison) (left right : Operand) : Except Error Test :=
  if right.isNull then .ok (null op left)
  else
    match left, right with
    | .column a, .column b => do
        checkColumns a b
        return compare op left right
    | .column column, .literal value => do
        checkFamily column value.toValue
        return compare op left right
    | .column column, .param field => do
        match ← lookup field with
        | none => return compare op left right
        | some value =>
            checkFamily column value
            return if value.isDefault && op.isEquality then null op left
              else compare op left right
    | .param field, .literal value => do
        if let some bound ← lookup field then checkValues bound value.toValue
        return compare op left right
    | .param a, .param b => do
        let first ← lookup a
        let second ← lookup b
        if let (some x, some y) := (first, second) then checkValues x y
        return compare op left right
    | .literal a, .literal b => do
        checkValues a.toValue b.toValue
        return compare op left right
    | _, _ => .ok (compare op left right)

/-- What a comparison of two predicates asks. -/
def ofComparison (table : Table) (lookup : Lookup) (op : Comparison) (left right : Predicate) :
    Except Error Test := do
  let first ← Operand.ofPredicate table left
  let second ← Operand.ofPredicate table right
  let (op, first, second) := arrange op first second
  settle lookup op first second

end Test

/-- The column of a field that is used as a predicate. -/
def predicateColumn (table : Table) (name : String) : Except Error Column := do
  let column ← table.column name
  if column.family = .boolean then return column
  else throw (.typeMismatch (.fieldPredicate name column.family))

/-- A field that the parameter has. -/
def boundField (param : FieldValues) (field : String) : Except Error Value :=
  match param field with
  | some value => .ok value
  | none => .error (.unknownField "parameter" field)

end RecordSql
