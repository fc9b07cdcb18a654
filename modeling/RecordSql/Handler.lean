import RecordSql.Dialect
import RecordSql.Document.Parser
import RecordSql.Error

/-!
# Handlers

A handler says how the values of a semantic type are stored: the comparison family and the
declared type of their columns, and how a logical value becomes a stored one and back.
-/

namespace RecordSql

/-- How values of one semantic type are stored.  A handler may fail on any value. -/
structure Handler where
  family : Family
  /-- The declared type of a column, without what is said about null. -/
  storageType : Dialect → Modifiers → String
  serialize : Value → Except Error Value
  deserialize : Value → Except Error Value

namespace Handler

/-- The handler of a type does not convert values of this kind. -/
def unconvertible (type : SemanticType) (value : Value) : Except Error Value :=
  .error (.validation (.unconvertible type value.kind))

/-- Booleans are stored as zero and one. -/
def bool : Handler where
  family := .boolean
  storageType dialect _ := dialect.types.boolean
  serialize
    | .bool value => .ok (.int (if value then 1 else 0))
    | .null => .ok .null
    | other => unconvertible .bool other
  deserialize
    | .int value =>
        if value = 0 then .ok (.bool false)
        else if value = 1 then .ok (.bool true)
        else unconvertible .bool (.int value)
    | .bool value => .ok (.bool value)
    | .null => .ok .null
    | other => unconvertible .bool other

/-- Whole numbers are stored as they are. -/
def keepInt : Value → Except Error Value
  | .int value => .ok (.int value)
  | .null => .ok .null
  | other => unconvertible .int other

def int : Handler where
  family := .numeric
  storageType dialect _ := dialect.types.integer
  serialize := keepInt
  deserialize := keepInt

/-- Reals are stored as they are if they are finite; whole numbers become reals. -/
def real : Handler where
  family := .numeric
  storageType dialect modifiers :=
    match modifiers.decimalPrecision with
    | some precision => s!"DECIMAL({precision.total}, {precision.fractional})"
    | none => dialect.types.real
  serialize
    | .real value =>
        if value.isFinite then .ok (.real value) else .error (.validation (.storedReal value))
    | .int value => .ok (.real (Binary64.ofInt value.toInt))
    | .null => .ok .null
    | other => unconvertible .real other
  deserialize
    | .real value => .ok (.real value)
    | .int value => .ok (.real (Binary64.ofInt value.toInt))
    | .null => .ok .null
    | other => unconvertible .real other

/-- Text is stored as it is. -/
def keepText : Value → Except Error Value
  | .text value => .ok (.text value)
  | .null => .ok .null
  | other => unconvertible .text other

def text : Handler where
  family := .text
  storageType dialect _ := dialect.types.text
  serialize := keepText
  deserialize := keepText

/-- A reference is the identity of another row; zero refers to none and is stored as null. -/
def ref : Handler where
  family := .numeric
  storageType dialect _ := dialect.types.integer
  serialize
    | .int value => .ok (if value = 0 then .null else .int value)
    | .null => .ok .null
    | other => unconvertible .ref other
  deserialize
    | .int value => .ok (.int value)
    | .null => .ok .null
    | other => unconvertible .ref other

/-- Uuids are stored as their written form; text is taken to be stored already. -/
def uuid : Handler where
  family := .identifier
  storageType dialect _ := dialect.types.uuid
  serialize
    | .uuid value => .ok (.text value.text)
    | .text value => .ok (.text value)
    | .null => .ok .null
    | other => unconvertible .uuid other
  deserialize
    | .text value =>
        match Uuid.read value with
        | .ok uuid => .ok (.uuid uuid)
        | .error fault => .error (.validation (.uuid value fault))
    | .uuid value => .ok (.uuid value)
    | .null => .ok .null
    | other => unconvertible .uuid other

/-- Timestamps are stored as text with six digits of a second. -/
def timestamp : Handler where
  family := .temporal
  storageType dialect _ := dialect.types.timestamp
  serialize
    | .timestamp value => .ok (.text (value.text .micros))
    | .text value => .ok (.text value)
    | .null => .ok .null
    | other => unconvertible .timestamp other
  deserialize
    | .text value =>
        match Timestamp.read value with
        | .ok timestamp => .ok (.timestamp timestamp)
        | .error fault => .error (.validation (.timestamp value fault))
    | .timestamp value => .ok (.timestamp value)
    | .null => .ok .null
    | other => unconvertible .timestamp other

/-- Documents are stored as compact text, and the null document as null. -/
def json : Handler where
  family := .document
  storageType dialect _ := dialect.types.json
  serialize
    | .json value => .ok (if value.isNull then .null else .text value.compact)
    | .text value => .ok (.text value)
    | .null => .ok .null
    | other => unconvertible .json other
  deserialize
    | .text value =>
        match Document.read? value with
        | some document => .ok (.json document)
        | none => .error (.validation .document)
    | .json value => .ok (.json value)
    | .null => .ok .null
    | other => unconvertible .json other

/-- The handler that stores a semantic type unless another one is registered; a custom type has
none. -/
def builtin? : SemanticType → Option Handler
  | .bool => some bool
  | .int => some int
  | .real => some real
  | .text => some text
  | .ref => some ref
  | .uuid => some uuid
  | .timestamp => some timestamp
  | .json => some json
  | .custom _ => none

end Handler

end RecordSql
