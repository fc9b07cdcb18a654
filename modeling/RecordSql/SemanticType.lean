import RecordSql.Value

/-!
# Types of fields

A field has a semantic type, which selects how its values are stored, and its column belongs to a
comparison family, which says what it may be compared with.  Modifiers refine the declared column
type.
-/

namespace RecordSql

/-- What a field means. -/
inductive SemanticType where
  | bool
  | int
  | real
  | text
  | ref
  | uuid
  | timestamp
  | json
  | custom (name : String)
  deriving DecidableEq

def SemanticType.name : SemanticType → String
  | .bool => "bool"
  | .int => "int"
  | .real => "real"
  | .text => "text"
  | .ref => "ref"
  | .uuid => "uuid"
  | .timestamp => "timestamp"
  | .json => "json"
  | .custom name => "custom:" ++ name

instance : ToString SemanticType := ⟨SemanticType.name⟩

/-- Columns compare only within a family. -/
inductive Family where
  | boolean
  | numeric
  | text
  | identifier
  | temporal
  | document
  deriving DecidableEq

namespace Family

def name : Family → String
  | boolean => "boolean"
  | numeric => "numeric"
  | text => "text"
  | identifier => "identifier"
  | temporal => "temporal"
  | document => "document"

instance : ToString Family := ⟨name⟩

/-- Whether a value may be compared with a column of the family; null always may, and text may
stand for what is stored as text. -/
def accepts : Family → Value → Bool
  | _, .null => true
  | boolean, .bool _ => true
  | numeric, .int _ => true
  | numeric, .real _ => true
  | text, .text _ => true
  | identifier, .uuid _ => true
  | identifier, .text _ => true
  | temporal, .timestamp _ => true
  | temporal, .text _ => true
  | document, .json _ => true
  | document, .text _ => true
  | _, _ => false

end Family

/-- Digits of a fixed-point column, in all and after the point. -/
structure Precision where
  total : Nat
  fractional : Nat
  deriving DecidableEq

/-- The precision of a currency column that names none. -/
def Precision.ofCurrency : Precision := ⟨19, 4⟩

/-- What a declaration adds to the type of a column. -/
structure Modifiers where
  precision : Option Precision
  currency : Option Precision
  nullable : Option Bool
  deriving DecidableEq

namespace Modifiers

/-- Nothing added. -/
def plain : Modifiers := ⟨none, none, none⟩

/-- The precision to declare; an explicit one wins over that of a currency. -/
def decimalPrecision (modifiers : Modifiers) : Option Precision :=
  modifiers.precision.or modifiers.currency

/-- What is said about null after the type of a column. -/
def nullability (modifiers : Modifiers) : String :=
  match modifiers.nullable with
  | some true => " NULL"
  | some false => " NOT NULL"
  | none => ""

end Modifiers

end RecordSql
