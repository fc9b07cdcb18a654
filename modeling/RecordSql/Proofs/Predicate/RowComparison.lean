import RecordSql.Proofs.Table.Resolved
import RecordSql.Proofs.Table.Stored
import RecordSql.Proofs.Timestamp.Written
import RecordSql.Proofs.Uuid.Written
import RecordSql.Record

/-!
# Fields of a row that are compared

A field of a row is compared in its stored form, with a literal or a field of the parameter in the
form that the column compares with.  Uuids and timestamps are stored as text, and the order of the
texts is the order of what they are stored for.
-/

namespace RecordSql

namespace Predicate

section Evaluation

variable {table : Table} {row : FieldValues} {param : Option FieldValues} {field : String}
  {column : Column} {op : Comparison} {value stored operand : Value}

/-- A comparison of a row's field is decided by its stored form and the form of the other side. -/
theorem truth_row_of_settled {other : Predicate} {second : Operand}
    (hcolumn : table.find? field = some column) (hrow : row field = some value)
    (hstored : column.serialize value = .ok stored) (hother : Operand.Reads table other second)
    (hsettled : Test.Settled (fun name => ((Scope.mk table row param).paramValue name).map some) op
      (.column column) second (.compare op (.column column) second))
    (hoperand : (Scope.mk table row param).operandValue (some column) second = .ok operand) :
    (Scope.mk table row param).truth (compare op (.row field) other) =
      .ok (op.truth stored operand) := by
  have htest : Test.ofComparison table
      (fun name => ((Scope.mk table row param).paramValue name).map some) op (.row field) other =
        .ok (.compare op (.column column) second) :=
    Test.ofComparison_of_settled (.column hcolumn) hother (Or.inr ⟨Nat.zero_le _, hsettled⟩)
  have hvalue : (Scope.mk table row param).operandValue none (.column column) = .ok stored := by
    have hfield := (Table.mem_and_field_of_find? hcolumn).2
    simp [Scope.operandValue, Scope.rowValue, hfield, hrow, hstored]
  rw [Scope.truth]
  simp only [htest, bind, Except.bind, Scope.testTruth, hvalue, Operand.column?, hoperand]
  rfl

/-- A row satisfies a predicate where its outcome is true. -/
theorem evaluate_of_truth {predicate : Predicate} {outcome : Truth}
    (h : (Scope.mk table row param).truth predicate = .ok outcome) :
    predicate.evaluate table row param = .ok (outcome == some true) := by
  simp [evaluate, h, bind, Except.bind, pure, Except.pure]

/-- A row's field and a literal. -/
theorem evaluate_row_literal {literal : Literal} (hcolumn : table.find? field = some column)
    (hrow : row field = some value) (hstored : column.serialize value = .ok stored)
    (hvalue : literal ≠ .null) (hfamily : column.family.accepts literal.toValue = true)
    (hoperand : column.serializeOperand literal.toValue = .ok operand) :
    (compare op (.row field) (.literal literal)).evaluate table row param =
      .ok (op.truth stored operand == some true) :=
  evaluate_of_truth <|
    truth_row_of_settled hcolumn hrow hstored .literal (.columnLiteral hvalue hfamily) hoperand

/-- A row's field and a field of the parameter, which is set if they are compared for equality. -/
theorem truth_row_param {values : FieldValues} {name : String} {bound : Value}
    (hcolumn : table.find? field = some column) (hrow : row field = some value)
    (hstored : column.serialize value = .ok stored) (hbound : values name = some bound)
    (hfamily : column.family.accepts bound = true)
    (hset : op.isEquality = true → bound.isDefault = false)
    (hoperand : column.serializeOperand bound = .ok operand) :
    (Scope.mk table row (some values)).truth (compare op (.row field) (.param name)) =
      .ok (op.truth stored operand) := by
  have hparam : (Scope.mk table row (some values)).paramValue name = .ok bound :=
    boundField_eq_ok_iff.mpr hbound
  have hlookup : ((Scope.mk table row (some values)).paramValue name).map some =
      .ok (some bound) := map_eq_ok_iff.mpr ⟨bound, hparam, rfl⟩
  have hcompared : (bound.isDefault && op.isEquality) = false := by
    cases hop : op.isEquality with
    | true => simp [hset hop]
    | false => simp
  refine truth_row_of_settled hcolumn hrow hstored .param
    (.columnBound hlookup hfamily hcompared) ?_
  simp [Scope.operandValue, hparam, hoperand, bind, Except.bind]

/-- What is stored as text on both sides is decided by the order of the texts. -/
theorem evaluate_row_param_text {values : FieldValues} {name : String} {bound : Value}
    {text text' : String} (hcolumn : table.find? field = some column)
    (hrow : row field = some value) (hstored : column.serialize value = .ok (.text text))
    (hbound : values name = some bound) (hfamily : column.family.accepts bound = true)
    (hset : op.isEquality = true → bound.isDefault = false)
    (hoperand : column.serializeOperand bound = .ok (.text text')) :
    (compare op (.row field) (.param name)).evaluate table row (some values) =
      .ok (op.allows (Ord.compare text text')) := by
  rw [evaluate_of_truth (truth_row_param hcolumn hrow hstored hbound hfamily hset hoperand)]
  have htruth : op.truth (.text text) (.text text') =
      some (op.allows (Ord.compare text text')) := rfl
  simp [htruth]

end Evaluation

end Predicate

namespace Stock

def keyColumn : Column := ⟨"Key", ⟨"Key", by decide⟩, .uuid, .plain, .uuid⟩

def dueColumn : Column := ⟨"Due", ⟨"Due", by decide⟩, .timestamp, .plain, .timestamp⟩

/-- Deliveries with a key and a time. -/
def deliverySchema : Schema where
  name := "Delivery"
  table := none
  fields :=
    [⟨"ID", .int, some "id", true, .plain⟩, ⟨"Key", .uuid, none, false, .plain⟩,
      ⟨"Due", .timestamp, none, false, .plain⟩]

def deliveryTable : Table where
  record := "Delivery"
  name := ⟨"Delivery", by decide⟩
  leading := []
  identity := ⟨"ID", identityName, .int, .plain, .int⟩
  trailing := [keyColumn, dueColumn]

/-- Every digit of the key is the highest one. -/
def lastKey : Uuid := ⟨List.replicate 32 ⟨15, by decide⟩, rfl⟩

/-- A delivery whose key has no set bit, due in the last nanosecond of 1969. -/
def delivery : FieldValues :=
  FieldMap.get [("ID", .int 1), ("Key", .uuid Uuid.zero),
    ("Due", .timestamp ⟨-1, 999999999, by decide⟩)]

/-- The highest key, and the last microsecond of 1969. -/
def latest : FieldValues :=
  FieldMap.get [("Key", .uuid lastKey), ("Due", .timestamp ⟨-1, 999999000, by decide⟩)]

end Stock

end RecordSql
