import RecordSql.Predicate.Evaluate
import RecordSql.Record
import RecordSql.Sql.Log
import RecordSql.Store.Buckets
import RecordSql.Store.Change

/-!
# Stores

A table of records in memory.  It answers the predicates that a database would answer, and it
refuses a predicate that does not compile before it looks at any row.  A call is a pure function
of the store: what it answers, the store after it, the changes it made and what it logs come back
as one value.  A call that comes upon an identity without a bucket key breaks off there, with what
it has done so far.
-/

namespace RecordSql

namespace Table

/-- A field has to be there, and its value has to be storable. -/
def checkField (table : Table) (values : FieldValues) (column : Column) : Except Error Unit := do
  let some value := values column.field
    | throw (.unknownField table.record column.field)
  let _ ← column.serialize value

/-- Every field but the identity has to be there and storable. -/
def checkFields (table : Table) (values : FieldValues) : Except Error Unit :=
  table.nonIdentity.forM (table.checkField values)

/-- The identity among the values of a stored record; identities are positive. -/
def identityOf (table : Table) (values : FieldValues) : Except Error Int64 :=
  let field := table.identity.field
  match values field with
  | some (.int id) =>
      if 0 < id then .ok id
      else .error (.notFound (.storedIdentity table.record field (.int id)))
  | some other => .error (.notFound (.storedIdentity table.record field other))
  | none => .error (.unknownField table.record field)

end Table

/-- Every placeholder has to be bound. -/
def Sql.Fragment.checkBound (fragment : Sql.Fragment) : Except Error Unit :=
  match fragment.deferred with
  | [] => .ok ()
  | first :: _ => .error (.validation (.unboundParam first.field))

/-- A table in memory.  Before it is created, and after it is dropped, it has no rows; identities
are given out in order and never twice. -/
structure Store (R : Type) where
  recordType : RecordType R
  table : Table
  isCreated : Bool
  nextId : Int64
  buckets : Buckets R
  observers : Observers

/-- Why a call does not succeed: it reports an error, or it breaks off at an identity whose bucket
key overflows. -/
inductive Failure where
  | reported (error : Error)
  | overflow

namespace Failure

variable {α : Type}

/-- What fails with an error, as part of a call. -/
def lift (answer : Except Error α) : Except Failure α :=
  answer.mapError .reported

@[simp] theorem lift_ok (a : α) : lift (.ok a) = .ok a := rfl

@[simp] theorem lift_error (error : Error) :
    lift (.error error : Except Error α) = .error (.reported error) := rfl

end Failure

/-- What a call on a store does. -/
structure Outcome (R α : Type) where
  answer : Except Failure α
  store : Store R
  changes : List (Change R)
  events : List Event

namespace Outcome

variable {R α : Type}

/-- What the observers of the store note down of a call. -/
def notices (outcome : Outcome R α) : List (Nat × Change R) :=
  outcome.store.observers.notices outcome.changes

/-- The same call with another form of its answer. -/
def map {β : Type} (f : α → β) (outcome : Outcome R α) : Outcome R β :=
  { outcome with answer := outcome.answer.map f }

end Outcome

namespace Store

variable {R α : Type}

/-- A store for a record type, before its table is created. -/
def new (recordType : RecordType R) (size : BucketSize) : Except Error (Store R) := do
  let table ← Table.resolve recordType.schema Registry.builtin
  return ⟨recordType, table, false, 1, Buckets.empty size, []⟩

/-- A call that answers and leaves the store as it is. -/
def reply (store : Store R) (answer : Except Failure α) (events : List Event) : Outcome R α :=
  ⟨answer, store, [], events⟩

/-- The number of rows. -/
def size (store : Store R) : Nat :=
  store.buckets.count

/-- Add an observer behind the others. -/
def subscribe (store : Store R) (observer : Observer) : Store R :=
  { store with observers := store.observers ++ [observer] }

/-- A short description of the store, without its rows. -/
def shown (store : Store R) : String :=
  "MemoryTable \x7b table: Ident(" ++ Text.escaped store.table.name.name ++
    "), config: MemoryConfig \x7b bucket_size: " ++ toString store.buckets.size.count ++
    " \x7d, exists: " ++ toString store.isCreated ++
    ", next_id: " ++ toString store.nextId ++ ", .. \x7d"

/-! ## The table -/

/-- Create the table; the answer says whether it was not there. -/
def create (store : Store R) : Outcome R Bool where
  answer := .ok (!store.isCreated)
  store := { store with isCreated := true }
  changes := []
  events := [.tableCreated store.table.name.name (!store.isCreated)]

/-- Drop the table with all its rows; the answer says whether it was there.  Observers are not
told, and identities go on from where they were. -/
def drop (store : Store R) : Outcome R Bool where
  answer := .ok store.isCreated
  store := { store with isCreated := false, buckets := Buckets.empty store.buckets.size }
  changes := []
  events := [.tableDropped store.table.name.name store.isCreated]

/-- Without a table there is nothing to read or write. -/
def checkCreated (store : Store R) : Except Error Unit :=
  if store.isCreated then .ok () else .error (.notFound (.table store.table.name))

/-- The report of a change of rows. -/
def rowsEvent (store : Store R) (action : RowAction) (count : Nat) : Event :=
  .rowsChanged store.table.name.name action count

/-! ## Checks of records -/

/-- Every field but the identity has to be there and storable. -/
def checkFields (store : Store R) (record : R) : Except Error Unit :=
  store.table.checkFields (store.recordType.get record)

/-- The identity that a record was stored under. -/
def identityOf (store : Store R) (record : R) : Except Error Int64 :=
  store.table.identityOf (store.recordType.get record)

/-- The bucket of an identity has to have a key. -/
def checkKey (store : Store R) (id : Int64) : Except Failure Unit :=
  if (store.buckets.size.key? id).isSome then .ok () else .error .overflow

/-- All identities have to have a row. -/
def checkPresent (store : Store R) (ids : List Int64) : Except Failure Unit :=
  match store.buckets.missing? ids with
  | some id => do
      store.checkKey id
      throw (.reported (.notFound (.row store.table.record id)))
  | none => .ok ()

/-! ## Writing -/

/-- Give records identities, from a given one on.  The second result is the identity after the
last one that was given out, or tried. -/
def stage (setIdentity : Int64 → R → Except Error R) (next : Int64) :
    List R → Except Error (List (Int64 × R)) × Int64
  | [] => (.ok [], next)
  | record :: rest =>
      match setIdentity next record with
      | .error error => (.error error, next + 1)
      | .ok row =>
          let (rows, after) := stage setIdentity (next + 1) rest
          (rows.map ((next, row) :: ·), after)

/-- What has to hold before records are written. -/
def checkWrite (store : Store R) (records : List R) : Except Error Unit := do
  store.checkCreated
  records.forM store.checkFields

/-- Store new records, each under an identity of its own.  The answer has them as they are
stored.  If one of them is not valid none is stored.  At the first one whose bucket has no key the
call breaks off; those before it are stored, but nobody is told. -/
def write (store : Store R) (records : List R) : Outcome R (List R) :=
  match store.checkWrite records with
  | .error error => store.reply (.error (.reported error)) []
  | .ok () =>
      let (staged, nextId) := stage store.recordType.setIdentity store.nextId records
      let advanced := { store with nextId }
      match staged with
      | .error error => advanced.reply (.error (.reported error)) []
      | .ok rows =>
          let keyed := store.buckets.keyed rows
          let filled := { advanced with buckets := store.buckets.insertAll keyed }
          if keyed.length < rows.length then
            filled.reply (.error .overflow) []
          else
            let stored := rows.map (·.2)
            { answer := .ok stored
              store := filled
              changes := stored.map .created
              events := [store.rowsEvent .wrote rows.length] }

/-! ## Reading -/

/-- All rows. -/
def readAll (store : Store R) : Outcome R (List R) :=
  store.reply (Failure.lift do
    store.checkCreated
    return store.buckets.toList.map (·.2)) []

/-- The row of an identity. -/
def read (store : Store R) (id : Int64) : Outcome R (Option R) :=
  store.reply (do
    Failure.lift store.checkCreated
    store.checkKey id
    return store.buckets.get? id) []

/-- Compile a predicate in order to check it. -/
def compile (store : Store R) (predicate : Predicate) (param : Option FieldValues) :
    Except Error Sql.Fragment := do
  store.checkCreated
  Sql.compile store.table param predicate

/-- The report of a predicate, where it compiles. -/
def compileEvents (store : Store R) (predicate : Predicate) (param : Option FieldValues) :
    List Event :=
  match store.compile predicate param with
  | .ok fragment => [Sql.compiledEvent store.table Dialect.sqlite predicate fragment]
  | .error _ => []

/-- A predicate has to compile, with all its placeholders bound. -/
def checkPredicate (store : Store R) (predicate : Predicate) (param : Option FieldValues) :
    Except Error Unit := do
  let fragment ← store.compile predicate param
  fragment.checkBound

/-- Whether a row satisfies a predicate. -/
def satisfies (store : Store R) (predicate : Predicate) (param : Option FieldValues) (row : R) :
    Except Error Bool :=
  predicate.evaluate store.table (store.recordType.get row) param

/-- The rows that satisfy a predicate. -/
def readWhere (store : Store R) (predicate : Predicate) (param : Option FieldValues) :
    Outcome R (List R) :=
  store.reply (Failure.lift do
    store.checkPredicate predicate param
    (store.buckets.toList.map (·.2)).filterM (store.satisfies predicate param))
    (store.compileEvents predicate param)

/-- The rows that equal an example in every field but the identity that the example sets. -/
def readMatching (store : Store R) (record : R) : Outcome R (List R) :=
  let values := store.recordType.get record
  store.readWhere (Predicate.matching store.table values) (some values)

/-! ## Updating and deleting -/

/-- A record with the identity of the row that it replaces. -/
def checkReplacement (store : Store R) (record : R) : Except Error (Int64 × R) := do
  store.checkFields record
  return (← store.identityOf record, record)

/-- The replacements of a batch, where every record is valid and every row is there. -/
def checkUpdate (store : Store R) (records : List R) : Except Failure (List (Int64 × R)) := do
  Failure.lift store.checkCreated
  let rows ← Failure.lift (records.mapM store.checkReplacement)
  store.checkPresent (rows.map (·.1))
  return rows

/-- Replace rows one after another.  A later record of the batch sees the earlier ones. -/
def replaceAll (buckets : Buckets R) : List (Int64 × R) → List (Change R) × Buckets R
  | [] => ([], buckets)
  | (id, row) :: rest =>
      match buckets.get? id with
      | none => replaceAll buckets rest
      | some before =>
          let (changes, after) := replaceAll (buckets.insert id row) rest
          (.updated before row :: changes, after)

/-- Replace stored rows by records of the same identity.  If one of the records is not valid or
has no row none is replaced. -/
def update (store : Store R) (records : List R) : Outcome R Nat :=
  match store.checkUpdate records with
  | .error failure => store.reply (.error failure) []
  | .ok rows =>
      let (changes, buckets) := replaceAll store.buckets rows
      { answer := .ok changes.length
        store := { store with buckets }
        changes
        events := [store.rowsEvent .updated changes.length] }

/-- What has to hold before rows are deleted. -/
def checkDelete (store : Store R) (ids : List Int64) : Except Failure Unit := do
  Failure.lift store.checkCreated
  store.checkPresent ids

/-- Delete rows one after another; an identity that comes twice is deleted once. -/
def deleteAll (buckets : Buckets R) : List Int64 → List (Change R) × Buckets R
  | [] => ([], buckets)
  | id :: rest =>
      match buckets.get? id with
      | none => deleteAll buckets rest
      | some _ =>
          let (changes, after) := deleteAll (buckets.erase id) rest
          (.deleted id :: changes, after)

/-- Delete the rows of some identities.  If one of them has no row none is deleted. -/
def delete (store : Store R) (ids : List Int64) : Outcome R Nat :=
  match store.checkDelete ids with
  | .error failure => store.reply (.error failure) []
  | .ok () =>
      let (changes, buckets) := deleteAll store.buckets ids
      { answer := .ok changes.length
        store := { store with buckets }
        changes
        events := [store.rowsEvent .deleted changes.length] }

/-- Delete the rows that satisfy a predicate. -/
def deleteWhere (store : Store R) (predicate : Predicate) (param : Option FieldValues) :
    Outcome R Nat :=
  let compiled := store.compileEvents predicate param
  match store.checkPredicate predicate param with
  | .error error => store.reply (.error (.reported error)) compiled
  | .ok () =>
      let (deleted, buckets) := store.buckets.eraseWhere (store.satisfies predicate param)
      match deleted with
      | .error error => { store with buckets }.reply (.error (.reported error)) compiled
      | .ok ids =>
          { answer := .ok ids.length
            store := { store with buckets }
            changes := ids.map .deleted
            events := compiled ++ [store.rowsEvent .deletedMatching ids.length] }

end Store

end RecordSql
