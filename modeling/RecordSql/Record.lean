import RecordSql.Error
import RecordSql.FieldType
import RecordSql.Predicate.Basic
import RecordSql.Schema
import RecordSql.Table

/-!
# Records

A record type describes its fields by a schema, answers the value of a field by name, and can be
given an identity.  Two ways to have one are given here: a plain map with a schema, and a map
whose members have types, which hold only what their types allow.
-/

namespace RecordSql

/-- What a type has to give to be a record type.  A field that is not there has no value, and an
identity can be refused. -/
structure RecordType (R : Type) where
  schema : Schema
  get : R → FieldValues
  setIdentity : Int64 → R → Except Error R

/-- Values under names, one value a name. -/
abbrev FieldMap := List (String × Value)

namespace FieldMap

def get (map : FieldMap) : FieldValues :=
  fun name => map.lookup name

/-- Put a value under a name, over an earlier one. -/
def put (map : FieldMap) (name : String) (value : Value) : FieldMap :=
  if map.any (·.1 == name) then
    map.map fun (other, held) => if other == name then (name, value) else (other, held)
  else map ++ [(name, value)]

/-- A value that was put under a name is found there. -/
theorem get_put_self (map : FieldMap) (name : String) (value : Value) :
    (map.put name value).get name = some value := by
  induction map with
  | nil => simp [put, get]
  | cons entry rest ih =>
      obtain ⟨other, held⟩ := entry
      by_cases h : other = name
      · simp [put, get, h]
      · have hne : name ≠ other := Ne.symm h
        by_cases hr : rest.any (·.1 == name) <;>
          simp_all [put, get, List.lookup_cons, beq_eq_false_iff_ne.2 hne]

/-- No other name is touched. -/
theorem get_put_of_ne (map : FieldMap) {name other : String} (value : Value) (h : other ≠ name) :
    (map.put name value).get other = map.get other := by
  have hne : (other == name) = false := beq_eq_false_iff_ne.2 h
  have hmap : List.lookup other
      (map.map fun (held, old) => if held == name then (name, value) else (held, old)) =
        map.lookup other := by
    induction map with
    | nil => rfl
    | cons entry rest ih =>
        obtain ⟨held, old⟩ := entry
        cases hsame : held == name with
        | true =>
            obtain rfl := eq_of_beq hsame
            simp only [List.map_cons, hsame, if_true, List.lookup_cons, hne]
            exact ih
        | false =>
            simp only [List.map_cons, hsame, Bool.false_eq_true, if_false, List.lookup_cons]
            cases other == held with
            | true => rfl
            | false => exact ih
  unfold put get
  split
  · exact hmap
  · rw [List.lookup_append]
    simp [List.lookup_cons, hne]

end FieldMap

/-- The first field that a schema marks as the identity. -/
def Schema.identityField? (schema : Schema) : Option Field :=
  schema.fields.find? (·.isIdentity)

/-- Plain maps described by a schema; the identity is put under its name. -/
def RecordType.ofSchema (schema : Schema) : RecordType FieldMap where
  schema := schema
  get := FieldMap.get
  setIdentity id map :=
    match schema.identityField? with
    | some field => .ok (map.put field.name (.int id))
    | none => .ok map

/-- A typed member of a record; one that is not stored is no field of it. -/
structure Member where
  name : String
  type : FieldType
  isStored : Bool

/-- A record whose members have types. -/
structure RecordShape where
  schema : Schema
  members : List Member
  identity : Member

namespace RecordShape

/-- The stored values of a record that is given some of its members; the others are at the zero
of their type. -/
def build (shape : RecordShape) (given : FieldMap) : Except Error FieldMap := do
  let values ← shape.members.mapM fun member => do
    let value ← match given.get member.name with
      | some value => member.type.read value
      | none => pure member.type.initial
    return (member, value)
  return values.filterMap fun (member, value) =>
    if member.isStored then some (member.name, value) else none

/-- Typed maps; the identity has to fit its member. -/
def recordType (shape : RecordShape) : RecordType FieldMap where
  schema := shape.schema
  get := FieldMap.get
  setIdentity id map := do
    return map.put shape.identity.name (← shape.identity.type.read (.int id))

end RecordShape

/-- For every field but the identity that an example sets: the row's value equals the
parameter's.  The example itself is the parameter. -/
def Predicate.matching (table : Table) (example? : FieldValues) : Predicate :=
  let isSet (column : Column) : Bool :=
    match example? column.field with
    | some value => !value.isDefault
    | none => false
  Predicate.all ((table.nonIdentity.filter isSet).map fun column =>
    .compare .eq (.row column.field) (.param column.field))

end RecordSql
