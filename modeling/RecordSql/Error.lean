import RecordSql.Binary64.Decimal
import RecordSql.Ident
import RecordSql.SemanticType
import RecordSql.Timestamp.Parser
import RecordSql.Uuid.Parser
import RecordSql.ValueText

/-!
# Errors

An error is one of eight classes, and within a class one cause.  None of them is transient.  An
application that brings its own handlers reports its own causes as text.
-/

namespace RecordSql

/-- What is wrong with the description of a record. -/
inductive SchemaFault where
  | badName (record : String) (fault : Ident.Fault)
  | collision (record field other name : String)
  | secondIdentity (record first second : String)
  | noIdentity (record : String)
  | reported (message : String)

/-- Which type has no handler, and for which field it was needed. -/
inductive TypeFault where
  | unregistered (type : SemanticType)
  | unregisteredField (record field : String) (type : SemanticType)
  | reported (message : String)

/-- Which operands do not fit together, or what is no predicate. -/
inductive MismatchFault where
  | literalPredicate (shown : String)
  | fieldPredicate (field : String) (family : Family)
  | boundPredicate (field : String) (kind : Kind)
  | heldPredicate (field : String) (kind : Kind)
  | operand (shown : String)
  | nullOrder (operator : String)
  | columns (family : Family) (field : String) (otherFamily : Family) (otherField : String)
  | columnValue (family : Family) (field : String) (kind : Kind)
  | values (kind other : Kind)
  | reported (message : String)

/-- Which name, value or request is not valid. -/
inductive ValidationFault where
  | name (fault : Ident.Fault)
  | unexpected (expected : Kind) (got : Kind)
  | outOfRange (value : Int64) (type : String) (tooLarge : Bool)
  | unconvertible (type : SemanticType) (kind : Kind)
  | storedReal (value : Binary64)
  | comparedReal (value : Binary64) (field : String)
  | literalReal (value : Binary64)
  | uuid (text : String) (fault : Uuid.Fault)
  | timestamp (text : String) (fault : Timestamp.Fault)
  | document
  | unboundParam (field : String)
  | noAssignments (record : String)
  | registryInstalled
  | reported (message : String)

/-- What is not there. -/
inductive AbsenceFault where
  | table (name : Ident)
  | row (record : String) (id : Int64)
  | storedIdentity (record field : String) (value : Value)
  | reported (message : String)

/-- The statements that create and drop a whole database. -/
inductive DatabaseAction where
  | create
  | drop
  deriving DecidableEq

def DatabaseAction.words : DatabaseAction → String
  | .create => "CREATE DATABASE"
  | .drop => "DROP DATABASE"

/-- Which statement a dialect does not have. -/
inductive DialectFault where
  | database (action : DatabaseAction) (dialect : String)
  | reported (message : String)

/-- An error by its class. -/
inductive Error where
  | schema (fault : SchemaFault)
  | unsupportedType (fault : TypeFault)
  | unknownField (record field : String)
  | typeMismatch (fault : MismatchFault)
  | validation (fault : ValidationFault)
  | conversion (field message : String)
  | notFound (fault : AbsenceFault)
  | unsupported (fault : DialectFault)

/-! ## Wording -/

def ValidationFault.message : ValidationFault → String
  | name fault => fault.message
  | unexpected expected got => s!"expected {expected} value, got {got}"
  | outOfRange value type tooLarge =>
      let size := if tooLarge then "large" else "small"
      s!"{value} out of range for {type}: number too {size} to fit in target type"
  | unconvertible type kind => s!"{type} handler cannot convert a {kind} value"
  | storedReal value => s!"non-finite real {value} cannot be stored"
  | comparedReal value field => s!"non-finite real {value} cannot be compared with field '{field}'"
  | literalReal value => s!"real literal {value} has no SQL rendering"
  | uuid text fault => s!"invalid uuid '{text}': {fault.message}"
  | timestamp text fault => s!"invalid timestamp '{text}': {fault.message}"
  | document => "invalid json document"
  | unboundParam field => s!"predicate reads param.{field} but no parameter was supplied"
  | noAssignments record => s!"update of '{record}' assigns no columns"
  | registryInstalled => "global type registry is already initialized"
  | reported message => message

/-- What stands in front of a validation fault. -/
def validationHeading : String := "Validation error: "

def SchemaFault.message : SchemaFault → String
  | badName record fault => s!"record '{record}': {validationHeading}{fault.message}"
  | collision record field other name =>
      s!"record '{record}': field '{field}' collides with field '{other}' (storage name '{name}')"
  | secondIdentity record first second =>
      s!"record '{record}' declares more than one identity field ('{first}' and '{second}')"
  | noIdentity record => s!"record '{record}' declares no identity field"
  | reported message => message

def TypeFault.message : TypeFault → String
  | unregistered type => s!"no handler registered for {type}"
  | unregisteredField record field type =>
      s!"record '{record}', field '{field}': no handler registered for {type}"
  | reported message => message

def MismatchFault.message : MismatchFault → String
  | literalPredicate shown => s!"literal {shown} is not a boolean predicate"
  | fieldPredicate field family =>
      s!"field '{field}' is {family} and cannot be used as a predicate"
  | boundPredicate field kind =>
      s!"param field '{field}' is {kind} and cannot be used as a predicate"
  | heldPredicate field kind =>
      s!"field '{field}' holds a {kind} value and cannot be used as a predicate"
  | operand shown => s!"comparison operands must be fields or literals, got {shown}"
  | nullOrder operator => s!"operator {operator} cannot compare against null"
  | columns family field otherFamily otherField =>
      s!"cannot compare {family} field '{field}' with {otherFamily} field '{otherField}'"
  | columnValue family field kind =>
      s!"cannot compare {family} field '{field}' with a {kind} value"
  | values kind other => s!"cannot compare a {kind} value with a {other} value"
  | reported message => message

def AbsenceFault.message : AbsenceFault → String
  | .table name => s!"table {name} does not exist"
  | row record id => s!"{record} with id {id}"
  | storedIdentity record field value =>
      s!"{record} without a stored identity ({field} = {value.shown})"
  | reported message => message

def DialectFault.message : DialectFault → String
  | database action dialect => s!"{action.words} is not supported by {dialect}"
  | reported message => message

namespace Error

/-- The full text of an error. -/
def message : Error → String
  | schema fault => s!"Schema error: {fault.message}"
  | unsupportedType fault => s!"Unsupported type: {fault.message}"
  | unknownField record field => s!"Unknown field '{field}' on record '{record}'"
  | typeMismatch fault => s!"Type mismatch: {fault.message}"
  | validation fault => s!"{validationHeading}{fault.message}"
  | conversion field message => s!"Conversion error on field '{field}': {message}"
  | notFound fault => s!"Not found: {fault.message}"
  | unsupported fault => s!"Unsupported statement: {fault.message}"

end Error

/-- A name, or the error that it is none. -/
def Ident.read (text : String) : Except Error Ident :=
  (Ident.parse text).mapError fun fault => .validation (.name fault)

end RecordSql
