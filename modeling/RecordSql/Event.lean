/-!
# Log events

What the library reports about its work.  An event is returned as data; whoever called decides
where it goes.
-/

namespace RecordSql

/-- How serious an event is. -/
inductive Level where
  | error
  | warn
  | info
  | debug
  | trace
  deriving DecidableEq

namespace Level

def name : Level → String
  | error => "ERROR"
  | warn => "WARN"
  | info => "INFO"
  | debug => "DEBUG"
  | trace => "TRACE"

/-- The level of a name. -/
def ofName? (name : String) : Option Level :=
  [error, warn, info, debug, trace].find? (·.name == name)

end Level

/-- The kinds of statement. -/
inductive StatementKind where
  | createTable
  | dropTable
  | select
  | insert
  | update
  | delete
  | createDatabase
  | dropDatabase
  deriving DecidableEq

def StatementKind.name : StatementKind → String
  | .createTable => "CreateTable"
  | .dropTable => "DropTable"
  | .select => "Select"
  | .insert => "Insert"
  | .update => "Update"
  | .delete => "Delete"
  | .createDatabase => "CreateDatabase"
  | .dropDatabase => "DropDatabase"

/-- The ways in which a call changes the rows of a store. -/
inductive RowAction where
  | wrote
  | updated
  | deleted
  | deletedMatching
  deriving DecidableEq

def RowAction.words : RowAction → String
  | .wrote => "wrote records"
  | .updated => "updated records"
  | .deleted => "deleted records"
  | .deletedMatching => "deleted matching records"

/-- One thing that happened. -/
inductive Event where
  /-- A predicate on a record type compiled to this text. -/
  | compiled (record predicate sql : String) (bindingCount : Nat)
  /-- A statement was built; its text may be shortened. -/
  | statement (level : Level) (kind : StatementKind) (table sql : String) (bindingCount : Nat)
  /-- A table of a store was asked for; it may have been there before. -/
  | tableCreated (table : String) (created : Bool)
  /-- A table of a store was given up; it may have been absent before. -/
  | tableDropped (table : String) (existed : Bool)
  /-- So many rows of a store were changed. -/
  | rowsChanged (table : String) (action : RowAction) (count : Nat)
  deriving DecidableEq

/-- What a field of an event can hold. -/
inductive Event.Detail where
  | text (value : String)
  | count (value : Nat)
  | flag (value : Bool)
  deriving DecidableEq

namespace Event

def level : Event → Level
  | compiled .. => .trace
  | statement level .. => level
  | tableCreated .. => .debug
  | tableDropped .. => .debug
  | rowsChanged .. => .debug

/-- The part of the library that an event comes from. -/
def target : Event → String
  | compiled .. => "recorm.sql"
  | statement .. => "recorm.sql"
  | tableCreated .. => "recorm.memory"
  | tableDropped .. => "recorm.memory"
  | rowsChanged .. => "recorm.memory"

/-- The fields of an event by name. -/
def details : Event → List (String × Detail)
  | compiled record predicate sql bindingCount =>
      [("message", .text "compiled predicate"), ("record", .text record),
        ("predicate", .text predicate), ("sql", .text sql), ("binding_count", .count bindingCount)]
  | statement _ kind table sql bindingCount =>
      [("statement", .text kind.name), ("table", .text table),
        ("binding_count", .count bindingCount), ("sql", .text sql)]
  | tableCreated table created =>
      [("message", .text "create table"), ("table", .text table), ("created", .flag created)]
  | tableDropped table existed =>
      [("message", .text "drop table"), ("table", .text table), ("existed", .flag existed)]
  | rowsChanged table action count =>
      [("message", .text action.words), ("table", .text table), ("count", .count count)]

end Event

end RecordSql
