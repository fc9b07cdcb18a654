import RecordSql.Registry
import RecordSql.Schema

/-!
# Tables

A schema that keeps the rules resolves to a table: its columns in order of declaration, each with
the handler of its type, and exactly one of them the identity.  The columns before and after the
identity are kept apart, so there is no table without an identity or with two.
-/

namespace RecordSql

/-- A stored field. -/
structure Column where
  field : String
  name : Ident
  type : SemanticType
  modifiers : Modifiers
  handler : Handler

namespace Column

def family (column : Column) : Family :=
  column.handler.family

/-- The full declaration of a column's type. -/
def storageType (column : Column) (dialect : Dialect) : String :=
  column.handler.storageType dialect column.modifiers ++ column.modifiers.nullability

/-- A failure of the handler is reported under the field. -/
def convert (column : Column) (conversion : Value → Except Error Value) (value : Value) :
    Except Error Value :=
  (conversion value).mapError fun error => .conversion column.field error.message

/-- The stored form of a value. -/
def serialize (column : Column) (value : Value) : Except Error Value :=
  column.convert column.handler.serialize value

/-- The logical form of a stored value. -/
def deserialize (column : Column) (value : Value) : Except Error Value :=
  column.convert column.handler.deserialize value

/-- Whether a real compared with the column keeps its value: the column is numeric but its type
is not real. -/
def comparesRealAsWritten (column : Column) : Bool :=
  column.family == .numeric && column.type ≠ .real

/-- The stored form of a value that is compared with the column.  A real compared with whole
numbers keeps its value, so `n > 2.5` means what it says. -/
def serializeOperand (column : Column) (value : Value) : Except Error Value :=
  match value with
  | .real r =>
      if column.comparesRealAsWritten then
        if r.isFinite then .ok (.real r)
        else .error (.validation (.comparedReal r column.field))
      else column.serialize (.real r)
  | other => column.serialize other

end Column

/-- A resolved record type. -/
structure Table where
  record : String
  name : Ident
  leading : List Column
  identity : Column
  trailing : List Column

namespace Table

/-- All columns in order of declaration. -/
def columns (table : Table) : List Column :=
  table.leading ++ table.identity :: table.trailing

/-- The columns other than the identity, in order of declaration. -/
def nonIdentity (table : Table) : List Column :=
  table.leading ++ table.trailing

/-- The column of a field. -/
def find? (table : Table) (field : String) : Option Column :=
  table.columns.find? (·.field == field)

/-- The column of a field, or the error that the record has no such field. -/
def column (table : Table) (field : String) : Except Error Column :=
  match table.find? field with
  | some column => .ok column
  | none => .error (.unknownField table.record field)

def hasField (table : Table) (field : String) : Bool :=
  (table.find? field).isSome

/-! ## Resolution -/

/-- The columns so far: before the identity, the identity once it is found, and after it. -/
structure Draft where
  leading : List Column
  rest : Option (Column × List Column)

namespace Draft

def empty : Draft := ⟨[], none⟩

def columns (draft : Draft) : List Column :=
  match draft.rest with
  | none => draft.leading
  | some (identity, trailing) => draft.leading ++ identity :: trailing

/-- Append a column that is not the identity. -/
def push (draft : Draft) (column : Column) : Draft :=
  match draft.rest with
  | none => ⟨draft.leading ++ [column], none⟩
  | some (identity, trailing) => ⟨draft.leading, some (identity, trailing ++ [column])⟩

/-- Append the identity. -/
def pushIdentity (draft : Draft) (column : Column) : Draft :=
  ⟨draft.leading, some (column, [])⟩

/-- An earlier column of the same field, or of the same storage name up to case. -/
def collision? (draft : Draft) (field : String) (name : Ident) : Option Column :=
  draft.columns.find? fun column => column.name.sameIgnoringCase name || column.field == field

end Draft

/-- A name from a schema. -/
def schemaName (record : String) (text : String) : Except Error Ident :=
  (Ident.parse text).mapError fun fault => .schema (.badName record fault)

/-- Add the column of one field.  Its name is checked first, then collisions, then that it is no
second identity, and its handler last. -/
def addField (registry : Registry) (record : String) (draft : Draft) (field : Field) :
    Except Error Draft := do
  let name ← schemaName record field.storageName
  if let some other := draft.collision? field.name name then
    throw (.schema (.collision record field.name other.field name.name))
  if field.isIdentity then
    if let some (identity, _) := draft.rest then
      throw (.schema (.secondIdentity record identity.field field.name))
  let some handler := registry.handler? field.type
    | throw (.unsupportedType (.unregisteredField record field.name field.type))
  let column : Column := ⟨field.name, name, field.type, field.modifiers, handler⟩
  return if field.isIdentity then draft.pushIdentity column else draft.push column

/-- Check a schema and attach the handlers of a registry. -/
def resolve (schema : Schema) (registry : Registry) : Except Error Table := do
  let name ← schemaName schema.name schema.tableName
  let draft ← schema.fields.foldlM (addField registry schema.name) Draft.empty
  match draft.rest with
  | some (identity, trailing) => return ⟨schema.name, name, draft.leading, identity, trailing⟩
  | none => throw (.schema (.noIdentity schema.name))

end Table

end RecordSql
