import RecordSql.Binary64.Basic
import RecordSql.Document.Basic
import RecordSql.Timestamp.Basic
import RecordSql.Uuid.Basic

/-!
# Values

What a field of a record, a literal or a placeholder can hold.  Every kind of value has one that
counts as not set.
-/

namespace RecordSql

/-- A value of one kind. -/
inductive Value where
  | null
  | bool (value : Bool)
  | int (value : Int64)
  | real (value : Binary64)
  | text (value : String)
  | uuid (value : Uuid)
  | timestamp (value : Timestamp)
  | json (value : Document)

/-- The kinds of value. -/
inductive Kind where
  | null
  | bool
  | int
  | real
  | text
  | uuid
  | timestamp
  | json
  deriving DecidableEq

def Kind.name : Kind → String
  | .null => "null"
  | .bool => "bool"
  | .int => "int"
  | .real => "real"
  | .text => "text"
  | .uuid => "uuid"
  | .timestamp => "timestamp"
  | .json => "json"

instance : ToString Kind := ⟨Kind.name⟩

namespace Value

def kind : Value → Kind
  | null => .null
  | bool _ => .bool
  | int _ => .int
  | real _ => .real
  | text _ => .text
  | uuid _ => .uuid
  | timestamp _ => .timestamp
  | json _ => .json

/-- Whether a value is the zero of its kind; such a value counts as not set. -/
def isDefault : Value → Bool
  | null => true
  | bool value => !value
  | int value => value == 0
  | real value => value.isZero
  | text value => value.isEmpty
  | uuid value => value.isZero
  | timestamp value => value == Timestamp.epoch
  | json value => value.isNull

def isNull : Value → Bool
  | null => true
  | _ => false

/-- Whole numbers and reals compare with each other. -/
def isNumeric : Value → Bool
  | int _ => true
  | real _ => true
  | _ => false

end Value

/-- The values under the field names of something that has fields; nothing for a name that is no
field of it. -/
abbrev FieldValues := String → Option Value

end RecordSql
