import RecordSql.SemanticType

/-!
# Schemas

What a record type declares about itself: its name, perhaps a table, and its fields in order.
Nothing is checked here.
-/

namespace RecordSql

/-- The declaration of one field. -/
structure Field where
  name : String
  type : SemanticType
  /-- The storage name, where it is not the field's own. -/
  column : Option String
  isIdentity : Bool
  modifiers : Modifiers

/-- The name under which a field is stored. -/
def Field.storageName (field : Field) : String :=
  field.column.getD field.name

/-- The declaration of a record type. -/
structure Schema where
  name : String
  table : Option String
  fields : List Field

/-- The name of the table, which is that of the record type unless another is declared. -/
def Schema.tableName (schema : Schema) : String :=
  schema.table.getD schema.name

end RecordSql
