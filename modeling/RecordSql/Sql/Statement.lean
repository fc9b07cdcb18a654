import RecordSql.Record
import RecordSql.Sql.Command
import RecordSql.Sql.Log

/-!
# Statements

A command with the values of its placeholders, or with the fields that they are bound from later.
Everything that a log shows of a statement is read off the statement.
-/

namespace RecordSql.Sql

/-- A command with its placeholders: each has a value in stored form, or is deferred. -/
structure Statement where
  command : Command
  bindings : List Binding
  deferred : List Deferred

namespace Statement

def kind (statement : Statement) : StatementKind :=
  statement.command.kind

/-- A command without placeholders. -/
def plain (command : Command) : Statement := ⟨command, [], []⟩

def createTable : Statement := plain .createTable

def dropTable : Statement := plain .dropTable

def selectAll : Statement := plain (.select .all)

/-- Whether every placeholder has its value. -/
def isFullyBound (statement : Statement) : Bool :=
  statement.deferred.isEmpty

end Statement

/-- A column whose value is bound, under its own field. -/
def Binding.ofColumn (column : Column) (value : Value) : Binding :=
  ⟨column.name, column.field, value⟩

/-- A column whose value is bound later, from its own field. -/
def Deferred.ofColumn (column : Column) : Deferred :=
  ⟨column.name, column.field⟩

namespace TableSql

variable (sql : TableSql)

/-! ## Databases -/

/-- Create or drop the database of a name, where the dialect can. -/
def database (action : DatabaseAction) (name : String) : Except Error Statement := do
  let name ← Ident.read name
  match sql.dialect.databaseScripts with
  | none => throw (.unsupported (.database action sql.dialect.name))
  | some scripts =>
      let script := match action with
        | .create => scripts.create name
        | .drop => scripts.drop name
      return .plain (.database action script)

/-! ## Selections -/

/-- The binding of an identity. -/
def bindIdentity (id : Int64) : Except Error Binding := do
  return .ofColumn sql.table.identity (← sql.table.identity.serialize (.int id))

/-- A command on the row of an identity. -/
def byIdentity (command : Selection → Command) (id : Int64) : Except Error Statement := do
  return ⟨command .identity, [← sql.bindIdentity id], []⟩

/-- The compiled form of a predicate. -/
def compile (predicate : Predicate) (param : Option FieldValues) : Except Error Fragment :=
  Sql.compile sql.table param predicate

/-- A command on the rows for which a predicate is true. -/
def byPredicate (command : Selection → Command) (predicate : Predicate)
    (param : Option FieldValues) : Except Error Statement := do
  let fragment ← sql.compile predicate param
  return ⟨command (.matching predicate fragment.expr), fragment.bindings, fragment.deferred⟩

/-- A command on the rows that match an example, which comes from a table of its own. -/
def byExample (command : Selection → Command) (exampleTable : Table) (values : FieldValues) :
    Except Error Statement :=
  sql.byPredicate command (Predicate.matching exampleTable values) (some values)

/-! ## Inserts -/

/-- The binding of a column, from the record that is inserted. -/
def bindField (values : FieldValues) (column : Column) : Except Error Binding := do
  let some value := values column.field | throw (.unknownField sql.table.record column.field)
  return .ofColumn column (← column.serialize value)

/-- An insert of one record, which has to have every field but the identity. -/
def insert (values : FieldValues) : Except Error Statement := do
  return ⟨.insert, ← sql.table.nonIdentity.mapM (sql.bindField values), []⟩

/-- An insert whose values are bound later. -/
def insertDeferred : Statement :=
  ⟨.insert, [], sql.table.nonIdentity.map Deferred.ofColumn⟩

/-! ## Updates -/

/-- The command that sets some columns, of which there has to be one. -/
def assign (columns : List Column) : Except Error Command :=
  if columns.isEmpty then .error (.validation (.noAssignments sql.table.record))
  else .ok (.update (columns.map (·.name)))

/-- The columns that are set, each with its value: those that the record knows, the identity
never. -/
def assigned (values : FieldValues) : List (Column × Value) :=
  sql.table.nonIdentity.filterMap fun column =>
    (values column.field).map fun value => (column, value)

/-- An update of one row to the values that are given. -/
def update (values : FieldValues) (id : Int64) : Except Error Statement := do
  let bindings ← (sql.assigned values).mapM fun (column, value) => do
    return .ofColumn column (← column.serialize value)
  let identity ← sql.bindIdentity id
  let command ← sql.assign ((sql.assigned values).map (·.1))
  return ⟨command, bindings ++ [identity], []⟩

/-- An update of the fields of another schema, whose values are bound later. -/
def updateDeferred (payload : Schema) : Except Error Statement := do
  let isNamed (column : Column) : Bool := payload.fields.any (·.name == column.field)
  let columns := sql.table.nonIdentity.filter isNamed
  let command ← sql.assign columns
  return ⟨command, [], (columns ++ [sql.table.identity]).map Deferred.ofColumn⟩

/-! ## Logging -/

/-- The report of the predicate in a selection. -/
def selectionEvents (statement : Statement) : Selection → List Event
  | .matching predicate expr =>
      let fragment : Fragment := ⟨expr, statement.bindings, statement.deferred⟩
      [compiledEvent sql.table sql.dialect predicate fragment]
  | _ => []

/-- What is reported when a statement is built: its predicate, then the statement. -/
def events (config : LogConfig) (statement : Statement) : List Event :=
  let text := config.shorten (sql.text statement.command)
  let built : Event :=
    .statement config.level statement.kind sql.table.name.name text statement.bindings.length
  match statement.command with
  | .select rows => sql.selectionEvents statement rows ++ [built]
  | .delete rows => sql.selectionEvents statement rows ++ [built]
  | _ => [built]

end TableSql

end RecordSql.Sql
