import RecordSql.Error
import RecordSql.Event
import RecordSql.Sql.Compile

/-!
# Commands

What a statement on one table does, as data, and its text in a dialect.  The text of a command
depends on nothing but the table, the dialect and the command, so two statements with the same
command have the same text, whatever is bound in them.
-/

namespace RecordSql.Sql

/-- Which rows a command is about. -/
inductive Selection where
  | all
  /-- The row whose identity is bound. -/
  | identity
  /-- The rows for which a predicate is true; kept with what it compiled to. -/
  | matching (predicate : Predicate) (expr : Expr)

/-- What is done to a table, or to a whole database. -/
inductive Command where
  | createTable
  | dropTable
  | select (rows : Selection)
  | insert
  | update (columns : List Ident)
  | delete (rows : Selection)
  | database (action : DatabaseAction) (script : String)

def Command.kind : Command → StatementKind
  | createTable => .createTable
  | dropTable => .dropTable
  | select _ => .select
  | insert => .insert
  | update _ => .update
  | delete _ => .delete
  | database .create _ => .createDatabase
  | database .drop _ => .dropDatabase

/-- Items of a list with commas between them. -/
def commaList (items : List String) : String :=
  ", ".intercalate items

/-- Put a table in for every mark of a clause. -/
def putTable (table : List Char) : List Char → List Char
  | '{' :: 't' :: 'a' :: 'b' :: 'l' :: 'e' :: '}' :: rest => table ++ putTable table rest
  | c :: rest => c :: putTable table rest
  | [] => []

/-- A table as seen from one dialect. -/
structure TableSql where
  table : Table
  dialect : Dialect

namespace TableSql

variable (sql : TableSql)

/-! ## Parts of the text -/

/-- The delimited name of the table. -/
def tableText : String :=
  sql.dialect.quote sql.table.name

/-- The delimited name of a column. -/
def columnText (column : Column) : String :=
  sql.dialect.quote column.name

/-- The placeholder named after a column. -/
def mark (name : Ident) : String :=
  sql.dialect.placeholder name.name

/-- What addresses the row of an identity. -/
def identityText : String :=
  sql.dialect.identityExpr sql.table.identity.name

/-- The columns as they are declared: the identity first, with what the dialect adds to its
type. -/
def declarations : List String :=
  let identity := sql.table.identity
  let first := sql.columnText identity ++ " " ++ identity.storageType sql.dialect ++
    sql.dialect.identitySuffix
  first :: sql.table.nonIdentity.map fun column =>
    sql.columnText column ++ " " ++ column.storageType sql.dialect

/-- The columns as they are selected: all in order of declaration; where the dialect reads a
pseudo-column in place of the identity, that one first. -/
def selected : List String :=
  match sql.dialect.rowIdentity with
  | some pseudo =>
      (pseudo ++ " AS " ++ sql.columnText sql.table.identity) ::
        sql.table.nonIdentity.map sql.columnText
  | none => sql.table.columns.map sql.columnText

def selectText : String :=
  "SELECT " ++ commaList sql.selected ++ " FROM " ++ sql.tableText

def deleteText : String :=
  "DELETE FROM " ++ sql.tableText

/-- The clause that picks the rows. -/
def selectionText : Selection → String
  | .all => ""
  | .identity => " WHERE " ++ sql.identityText ++ " = " ++ sql.mark sql.table.identity.name
  | .matching _ expr => " WHERE " ++ expr.render sql.dialect

/-- An insert of one row.  A table with no column but the identity inserts defaults. -/
def insertText : String :=
  let columns := sql.table.nonIdentity
  let names := commaList (columns.map sql.columnText)
  let marks := commaList (columns.map fun column => sql.mark column.name)
  let target := if columns.isEmpty then "" else " (" ++ names ++ ")"
  let values := if columns.isEmpty then " DEFAULT VALUES" else " VALUES (" ++ marks ++ ")"
  let start := "INSERT INTO " ++ sql.tableText ++ target
  match sql.dialect.insertedRow with
  | .output clause => start ++ " " ++ clause ++ values ++ ";"
  | .returning clause => start ++ values ++ " " ++ clause ++ ";"
  | .followUp lastIdentity =>
      start ++ values ++ "; " ++ sql.selectText ++ " WHERE " ++ sql.identityText ++ " = " ++
        lastIdentity ++ ";"

/-- What an update answers with, where the dialect can say. -/
def updateReturningText : String :=
  match sql.dialect.updateReturning with
  | some clause => " " ++ String.ofList (putTable sql.tableText.toList clause.toList)
  | none => ""

/-- A column set to the placeholder of the same name. -/
def assignment (name : Ident) : String :=
  sql.dialect.quote name ++ " = " ++ sql.mark name

/-- An update of one row.  It addresses the identity column itself, even where selections read a
pseudo-column. -/
def updateText (columns : List Ident) : String :=
  "UPDATE " ++ sql.tableText ++ " SET " ++ commaList (columns.map sql.assignment) ++
    " WHERE " ++ sql.assignment sql.table.identity.name ++ sql.updateReturningText ++ ";"

/-! ## The text -/

/-- The text of a command. -/
def text : Command → String
  | .createTable =>
      "CREATE TABLE " ++ sql.tableText ++ " (\n    " ++
        ",\n    ".intercalate sql.declarations ++ "\n);"
  | .dropTable => "DROP TABLE " ++ sql.tableText ++ ";"
  | .select rows => sql.selectText ++ sql.selectionText rows ++ ";"
  | .insert => sql.insertText
  | .update columns => sql.updateText columns
  | .delete rows => sql.deleteText ++ sql.selectionText rows ++ ";"
  | .database _ script => script

end TableSql

end RecordSql.Sql
