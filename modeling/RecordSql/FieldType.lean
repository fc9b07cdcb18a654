import RecordSql.Error

/-!
# Types of record fields

A field of a typed record holds only some values.  Reading turns a value into one that the field
holds, or says why it cannot: whole numbers have to be in range, and an optional field also holds
null.
-/

namespace RecordSql

/-- The fixed-width whole numbers. -/
inductive IntWidth where
  | int16
  | int32
  | int64
  | uint16
  | uint32
  deriving DecidableEq

namespace IntWidth

def name : IntWidth → String
  | int16 => "i16"
  | int32 => "i32"
  | int64 => "i64"
  | uint16 => "u16"
  | uint32 => "u32"

/-- The least number of the width. -/
def least : IntWidth → Int
  | int16 => -0x8000
  | int32 => -0x80000000
  | int64 => -0x8000000000000000
  | uint16 => 0
  | uint32 => 0

/-- The greatest number of the width. -/
def greatest : IntWidth → Int
  | int16 => 0x7fff
  | int32 => 0x7fffffff
  | int64 => 0x7fffffffffffffff
  | uint16 => 0xffff
  | uint32 => 0xffffffff

end IntWidth

/-- What a field holds. -/
inductive FieldType where
  | int (width : IntWidth)
  | bool
  | real
  | single
  | text
  | uuid
  | timestamp
  | json
  | optional (type : FieldType)
  deriving DecidableEq

namespace FieldType

/-- The type that selects how the field is stored. -/
def semanticType : FieldType → SemanticType
  | int _ => .int
  | bool => .bool
  | real => .real
  | single => .real
  | text => .text
  | uuid => .uuid
  | timestamp => .timestamp
  | json => .json
  | optional type => type.semanticType

/-- A field that is never set holds the zero of its type; an optional one holds null. -/
def initial : FieldType → Value
  | int _ => .int 0
  | bool => .bool false
  | real => .real (Binary64.zero false)
  | single => .real (Binary64.zero false)
  | text => .text ""
  | uuid => .uuid Uuid.zero
  | timestamp => .timestamp Timestamp.epoch
  | json => .json .null
  | optional _ => .null

/-- A value of another kind was expected. -/
def unexpected (expected : Kind) (value : Value) : Except Error Value :=
  .error (.validation (.unexpected expected value.kind))

def readInt (width : IntWidth) : Value → Except Error Value
  | .int value =>
      if width.least ≤ value.toInt && value.toInt ≤ width.greatest then .ok (.int value)
      else .error (.validation (.outOfRange value width.name (width.greatest < value.toInt)))
  | other => unexpected .int other

/-- Zero and one stand for booleans. -/
def readBool : Value → Except Error Value
  | .bool value => .ok (.bool value)
  | .int value =>
      if value = 0 then .ok (.bool false)
      else if value = 1 then .ok (.bool true)
      else unexpected .bool (.int value)
  | other => unexpected .bool other

/-- Whole numbers become reals. -/
def readReal (round : Binary64 → Binary64) : Value → Except Error Value
  | .real value => .ok (.real (round value))
  | .int value => .ok (.real (round (Binary64.ofInt value.toInt)))
  | other => unexpected .real other

/-- Null becomes the empty text. -/
def readText : Value → Except Error Value
  | .text value => .ok (.text value)
  | .null => .ok (.text "")
  | other => unexpected .text other

def readUuid : Value → Except Error Value
  | .uuid value => .ok (.uuid value)
  | other => unexpected .uuid other

def readTimestamp : Value → Except Error Value
  | .timestamp value => .ok (.timestamp value)
  | other => unexpected .timestamp other

/-- Null becomes the null document. -/
def readDocument : Value → Except Error Value
  | .json value => .ok (.json value)
  | .null => .ok (.json .null)
  | other => unexpected .json other

/-- The value that a field of the type holds after it was given this one. -/
def read : FieldType → Value → Except Error Value
  | int width, value => readInt width value
  | bool, value => readBool value
  | real, value => readReal id value
  | single, value => readReal Binary64.toSingle value
  | text, value => readText value
  | uuid, value => readUuid value
  | timestamp, value => readTimestamp value
  | json, value => readDocument value
  | optional _, .null => .ok .null
  | optional type, value => read type value

end FieldType

end RecordSql
