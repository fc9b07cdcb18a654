import Mathlib.Data.List.Defs
import RecordSql.Store.Basic

/-!
# The store as one map

A table of records in memory without buckets: one map from identities to records, in the order of
the identities.  Every call is stated by what it leaves in the map and whom it tells what, so this
is what a store has to be.  Nothing can break off here: there are no keys that could overflow.
-/

namespace RecordSql

/-- A table in memory as one map.  Of its observers only those count that take notice. -/
structure FlatStore (R : Type) where
  recordType : RecordType R
  table : Table
  isCreated : Bool
  nextId : Int64
  rows : Std.TreeMap Int64 R
  listeners : Nat

/-- What a call does: its answer, the store after it and the changes that observers hear of. -/
structure FlatOutcome (R α : Type) where
  answer : Except Error α
  store : FlatStore R
  changes : List (Change R)

namespace FlatOutcome

variable {R α β : Type}

/-- Every listener hears of every change.  All hear of a change before one hears of the next, and
the one that came first hears of it first. -/
def notices (outcome : FlatOutcome R α) : List (Nat × Change R) :=
  (outcome.changes ×ˢ List.range outcome.store.listeners).map Prod.swap

def map (f : α → β) (outcome : FlatOutcome R α) : FlatOutcome R β :=
  { outcome with answer := outcome.answer.map f }

end FlatOutcome

namespace FlatStore

variable {R α : Type}

/-- A store for a record type, before its table is created. -/
def new (recordType : RecordType R) : Except Error (FlatStore R) := do
  let table ← Table.resolve recordType.schema Registry.builtin
  return ⟨recordType, table, false, 1, ∅, 0⟩

/-- A call that answers and changes nothing. -/
def reply (store : FlatStore R) (answer : Except Error α) : FlatOutcome R α :=
  ⟨answer, store, []⟩

def size (store : FlatStore R) : Nat :=
  store.rows.size

def subscribe (store : FlatStore R) : Observer → FlatStore R
  | .recording => { store with listeners := store.listeners + 1 }
  | .silent => store

/-! ## The table -/

def create (store : FlatStore R) : FlatOutcome R Bool where
  answer := .ok (!store.isCreated)
  store := { store with isCreated := true }
  changes := []

/-- Nothing is left of a table that is dropped, but identities go on. -/
def drop (store : FlatStore R) : FlatOutcome R Bool where
  answer := .ok store.isCreated
  store := { store with isCreated := false, rows := ∅ }
  changes := []

def checkCreated (store : FlatStore R) : Except Error Unit :=
  if store.isCreated then .ok () else .error (.notFound (.table store.table.name))

/-! ## Writing -/

def checkWrite (store : FlatStore R) (records : List R) : Except Error Unit := do
  store.checkCreated
  records.forM fun record => store.table.checkFields (store.recordType.get record)

/-- The records of a batch under the identities that they are to have: the next one for the first
record, the one after it for the second and so on. -/
def numbered (next : Int64) (records : List R) : List (Int64 × R) :=
  records.mapIdx fun position record => (next + Int64.ofNat position, record)

/-- How many identities a batch uses up: all of them, unless a record refuses its own.  Then the
ones up to that are used up. -/
def usedUp (refuses : Int64 × R → Bool) (batch : List (Int64 × R)) : Nat :=
  match batch.findIdx? refuses with
  | some position => position + 1
  | none => batch.length

/-- A record as it is under its identity. -/
def assigned (store : FlatStore R) (entry : Int64 × R) : Except Error (Int64 × R) := do
  return (entry.1, ← store.recordType.setIdentity entry.1 entry.2)

/-- New records go under the identities that come next, in their order; none of them does if one
is not valid. -/
def write (store : FlatStore R) (records : List R) : FlatOutcome R (List R) :=
  match store.checkWrite records with
  | .error error => store.reply (.error error)
  | .ok () =>
      let batch := numbered store.nextId records
      let count := usedUp (fun entry => !(store.assigned entry).isOk) batch
      let advanced := { store with nextId := store.nextId + Int64.ofNat count }
      match batch.mapM store.assigned with
      | .error error => advanced.reply (.error error)
      | .ok rows =>
          { answer := .ok (rows.map (·.2))
            store := { advanced with rows := store.rows.insertMany rows }
            changes := rows.map (.created ·.2) }

/-! ## Reading -/

def readAll (store : FlatStore R) : FlatOutcome R (List R) :=
  store.reply (do
    store.checkCreated
    return store.rows.toList.map (·.2))

def read (store : FlatStore R) (id : Int64) : FlatOutcome R (Option R) :=
  store.reply (do
    store.checkCreated
    return store.rows[id]?)

/-- The rows on which a predicate evaluates to true, in the order of their identities.  A
predicate that does not compile, or with a placeholder that is not bound, selects none. -/
def select (store : FlatStore R) (predicate : Predicate) (param : Option FieldValues) :
    Except Error (List (Int64 × R)) := do
  store.checkCreated
  let fragment ← Sql.compile store.table param predicate
  fragment.checkBound
  store.rows.toList.filterM fun entry =>
    predicate.evaluate store.table (store.recordType.get entry.2) param

def readWhere (store : FlatStore R) (predicate : Predicate) (param : Option FieldValues) :
    FlatOutcome R (List R) :=
  store.reply ((store.select predicate param).map fun rows => rows.map (·.2))

/-- The rows that equal an example in every field but the identity that the example sets. -/
def readMatching (store : FlatStore R) (record : R) : FlatOutcome R (List R) :=
  let values := store.recordType.get record
  store.readWhere (Predicate.matching store.table values) (some values)

/-! ## Updating and deleting -/

/-- All identities have to have a row; the first one without is named. -/
def checkPresent (store : FlatStore R) (ids : List Int64) : Except Error Unit :=
  match ids.find? fun id => store.rows[id]?.isNone with
  | some id => .error (.notFound (.row store.table.record id))
  | none => .ok ()

/-- A valid record with its identity. -/
def checkReplacement (store : FlatStore R) (record : R) : Except Error (Int64 × R) := do
  store.table.checkFields (store.recordType.get record)
  return (← store.table.identityOf (store.recordType.get record), record)

/-- The records of a batch under their identities, where every record is valid and has a row. -/
def checkUpdate (store : FlatStore R) (records : List R) : Except Error (List (Int64 × R)) := do
  store.checkCreated
  let batch ← records.mapM store.checkReplacement
  store.checkPresent (batch.map (·.1))
  return batch

/-- The last record of a batch under an identity. -/
def lastOf? (batch : List (Int64 × R)) (id : Int64) : Option R :=
  batch.reverse.lookup id

/-- What observers hear of a batch: each record replaces the one before it of the same identity,
and the first one the row. -/
def replacements (rows : Std.TreeMap Int64 R) : List (Int64 × R) → List (Change R)
  | [] => []
  | (id, row) :: rest =>
      (rows[id]?.toList.map fun before => .updated before row) ++
        replacements (rows.insert id row) rest

/-- Every identity of a batch gets the last record of the batch under it, and no other row is
touched. -/
def update (store : FlatStore R) (records : List R) : FlatOutcome R Nat :=
  match store.checkUpdate records with
  | .error error => store.reply (.error error)
  | .ok batch =>
      { answer := .ok batch.length
        store := { store with rows := store.rows.map fun id row => (lastOf? batch id).getD row }
        changes := replacements store.rows batch }

def checkDelete (store : FlatStore R) (ids : List Int64) : Except Error Unit := do
  store.checkCreated
  store.checkPresent ids

/-- The rows of some identities go, each once. -/
def delete (store : FlatStore R) (ids : List Int64) : FlatOutcome R Nat :=
  match store.checkDelete ids with
  | .error error => store.reply (.error error)
  | .ok () =>
      { answer := .ok ids.eraseDups.length
        store := { store with rows := store.rows.filter fun id _ => id ∉ ids }
        changes := ids.eraseDups.map .deleted }

/-- The rows that the predicate selects go. -/
def deleteWhere (store : FlatStore R) (predicate : Predicate) (param : Option FieldValues) :
    FlatOutcome R Nat :=
  match store.select predicate param with
  | .error error => store.reply (.error error)
  | .ok selected =>
      let ids := selected.map (·.1)
      { answer := .ok selected.length
        store := { store with rows := store.rows.filter fun id _ => id ∉ ids }
        changes := ids.map .deleted }

end FlatStore

/-! ## Runs -/

/-- A call on a store of either kind. -/
inductive Call (R : Type) where
  | create
  | drop
  | write (records : List R)
  | update (records : List R)
  | delete (ids : List Int64)
  | read (id : Int64)
  | readAll
  | readWhere (predicate : Predicate) (param : Option FieldValues)
  | readMatching (record : R)
  | deleteWhere (predicate : Predicate) (param : Option FieldValues)
  | size
  | subscribe (observer : Observer)

/-- What a call can answer. -/
inductive Answer (R : Type) where
  | done
  | flag (value : Bool)
  | count (value : Nat)
  | row (found : Option R)
  | rows (found : List R)

/-- What is seen of one call: its answer and what observers note down. -/
structure Seen (ε R : Type) where
  answer : Except ε (Answer R)
  notices : List (Nat × Change R)

/-- One call on a store. -/
def Store.step {R : Type} (store : Store R) : Call R → Outcome R (Answer R)
  | .create => store.create.map .flag
  | .drop => store.drop.map .flag
  | .write records => (store.write records).map .rows
  | .update records => (store.update records).map .count
  | .delete ids => (store.delete ids).map .count
  | .read id => (store.read id).map .row
  | .readAll => store.readAll.map .rows
  | .readWhere predicate param => (store.readWhere predicate param).map .rows
  | .readMatching record => (store.readMatching record).map .rows
  | .deleteWhere predicate param => (store.deleteWhere predicate param).map .count
  | .size => store.reply (.ok (.count store.size)) []
  | .subscribe observer => (store.subscribe observer).reply (.ok .done) []

/-- What is seen of calls, one after another. -/
def Store.run {R : Type} (store : Store R) : List (Call R) → List (Seen Failure R)
  | [] => []
  | call :: rest =>
      let outcome := store.step call
      ⟨outcome.answer, outcome.notices⟩ :: outcome.store.run rest

/-- One call on a store as one map. -/
def FlatStore.step {R : Type} (store : FlatStore R) : Call R → FlatOutcome R (Answer R)
  | .create => store.create.map .flag
  | .drop => store.drop.map .flag
  | .write records => (store.write records).map .rows
  | .update records => (store.update records).map .count
  | .delete ids => (store.delete ids).map .count
  | .read id => (store.read id).map .row
  | .readAll => store.readAll.map .rows
  | .readWhere predicate param => (store.readWhere predicate param).map .rows
  | .readMatching record => (store.readMatching record).map .rows
  | .deleteWhere predicate param => (store.deleteWhere predicate param).map .count
  | .size => store.reply (.ok (.count store.size))
  | .subscribe observer => (store.subscribe observer).reply (.ok .done)

def FlatStore.run {R : Type} (store : FlatStore R) : List (Call R) → List (Seen Error R)
  | [] => []
  | call :: rest =>
      let outcome := store.step call
      ⟨outcome.answer, outcome.notices⟩ :: outcome.store.run rest

end RecordSql
