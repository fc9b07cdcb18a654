import RecordSql.Declaration.Basic
import RecordSql.Text.Words

/-!
# Meaning of attributes

Attributes are read from left to right, and a later one replaces what an earlier one said; only
the two about null may not contradict each other.
-/

namespace RecordSql.Declaration

/-- What the attributes of a structure say. -/
structure RecordOptions where
  table : Option String
  namingRule : Option Text.NamingRule

/-- Nothing said. -/
def RecordOptions.empty : RecordOptions := ⟨none, none⟩

/-- The text that an attribute is set to. -/
def textArgument : Attribute.Argument → Except Fault String
  | .text value => .ok value
  | _ => .error (.argument "`=`")

/-- Read one attribute of a structure. -/
def RecordOptions.add (options : RecordOptions) (item : Attribute) :
    Except Fault RecordOptions :=
  match item.name with
  | "table" => do return { options with table := some (← textArgument item.argument) }
  | "rename_all" => do
      let name ← textArgument item.argument
      match Text.NamingRule.ofName? name with
      | some rule => return { options with namingRule := some rule }
      | none => throw (.namingRule name)
  | _ => throw .recordAttribute

/-- What the attributes of a field say. -/
structure FieldOptions where
  isIdentity : Bool
  column : Option String
  isCurrency : Bool
  precision : Option Precision
  nullable : Option Bool
  isReference : Bool
  isSkipped : Bool

/-- Nothing said. -/
def FieldOptions.empty : FieldOptions := ⟨false, none, false, none, none, false, false⟩

/-- An attribute that is given nothing. -/
def noArgument : Attribute.Argument → Except Fault Unit
  | .none => .ok ()
  | _ => .error (.argument "`,`")

/-- A number of one byte. -/
def byteNumber (number : Int) : Except Fault Nat :=
  if number < 0 then .error .signedNumber
  else if number < 256 then .ok number.toNat
  else .error .largeNumber

/-- Two numbers of one byte; numbers after them are left for the end of the list. -/
def precisionArgument : Attribute.Argument → Except Fault Precision
  | .numbers (total :: fractional :: _) => do
      return ⟨← byteNumber total, ← byteNumber fractional⟩
  | .numbers [_] => .error (.argument "`,`")
  | .numbers [] => .error .missingNumber
  | _ => .error (.argument "parentheses")

/-- Whether an attribute is given more numbers than any reads. -/
def hasSurplus (item : Attribute) : Bool :=
  match item.argument with
  | .numbers values => 2 < values.length
  | _ => false

/-- Say whether null is allowed, unless the opposite was said. -/
def FieldOptions.setNullable (options : FieldOptions) (nullable : Bool) :
    Except Fault FieldOptions :=
  if options.nullable = some (!nullable) then .error .nullability
  else .ok { options with nullable := some nullable }

/-- Read one attribute of a field. -/
def FieldOptions.add (options : FieldOptions) (item : Attribute) :
    Except Fault FieldOptions := do
  match item.name with
  | "id" =>
      noArgument item.argument
      return { options with isIdentity := true }
  | "column" => return { options with column := some (← textArgument item.argument) }
  | "currency" =>
      noArgument item.argument
      return { options with isCurrency := true }
  | "precision" =>
      return { options with precision := some (← precisionArgument item.argument) }
  | "nullable" =>
      let options ← options.setNullable true
      noArgument item.argument
      return options
  | "not_null" =>
      let options ← options.setNullable false
      noArgument item.argument
      return options
  | "reference" =>
      noArgument item.argument
      return { options with isReference := true }
  | "skip" =>
      noArgument item.argument
      return { options with isSkipped := true }
  | _ => throw .fieldAttribute

/-- All attributes of a structure. -/
def RecordOptions.read (attributes : List Attribute) : Except Fault RecordOptions :=
  attributes.foldlM RecordOptions.add RecordOptions.empty

/-- All attributes of a field.  Numbers that nothing reads are a fault only when each attribute
is right by itself; an identity is not skipped. -/
def FieldOptions.read (attributes : List Attribute) : Except Fault FieldOptions := do
  let options ← attributes.foldlM FieldOptions.add FieldOptions.empty
  if attributes.any hasSurplus then throw .surplus
  if options.isSkipped && options.isIdentity then throw .skippedIdentity
  return options

/-- The modifiers of the column. -/
def FieldOptions.modifiers (options : FieldOptions) : Modifiers where
  precision := options.precision
  currency := if options.isCurrency then some Precision.ofCurrency else none
  nullable := options.nullable

end RecordSql.Declaration
