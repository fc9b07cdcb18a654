import RecordSql.FieldType

/-!
# Declarations of record types

A record type can be declared as a structure with attributes: on the structure for its table and
a naming rule, on a field for its role and its column.
-/

namespace RecordSql

/-- What an attribute is given. -/
inductive Attribute.Argument where
  | none
  | text (value : String)
  | numbers (values : List Int)
  deriving DecidableEq

/-- One attribute as it is written. -/
structure Attribute where
  name : String
  argument : Attribute.Argument
  deriving DecidableEq

/-- What is declared; only a structure with named fields can be a record. -/
inductive Declaration.Form where
  | record
  | tuple
  | unit
  | enumeration
  | union
  deriving DecidableEq

/-- A field as it is declared. -/
structure Declaration.Member where
  name : String
  type : FieldType
  attributes : List Attribute

/-- A record type as it is declared. -/
structure Declaration where
  form : Declaration.Form
  name : String
  attributes : List Attribute
  members : List Declaration.Member

namespace Declaration

/-- A name without the mark that lets a keyword be one. -/
def plainName (written : String) : String :=
  match written.toList with
  | 'r' :: '#' :: rest => String.ofList rest
  | _ => written

/-- Why a declaration makes no record type. -/
inductive Fault where
  | unnamedFields
  | noStructure
  | recordAttribute
  | fieldAttribute
  | namingRule (name : String)
  | argument (expected : String)
  | missingNumber
  | signedNumber
  | largeNumber
  | surplus
  | nullability
  | skippedIdentity
  | secondIdentity
  | noIdentity
  deriving DecidableEq

namespace Fault

def message : Fault → String
  | unnamedFields => "Record can only be derived for structs with named fields"
  | noStructure => "Record can only be derived for structs"
  | recordAttribute => "unsupported record attribute; expected `table` or `rename_all`"
  | fieldAttribute =>
      "unsupported field attribute; expected one of `id`, `column`, `currency`, " ++
        "`precision`, `nullable`, `not_null`, `reference`, `skip`"
  | namingRule name =>
      s!"unknown rename rule `{name}`; expected PascalCase, camelCase, snake_case or " ++
        "SCREAMING_SNAKE_CASE"
  | argument expected => s!"expected {expected}"
  | missingNumber => "unexpected end of input, expected integer literal"
  | signedNumber => "invalid digit found in string"
  | largeNumber => "number too large to fit in target type"
  | surplus => "unexpected token, expected `)`"
  | nullability => "`nullable` and `not_null` are mutually exclusive"
  | skippedIdentity => "the identity field cannot be skipped"
  | secondIdentity => "Record allows only one #[orm(id)] field"
  | noIdentity => "Record requires one field marked #[orm(id)]"

end Fault

end Declaration

end RecordSql
