import RecordSql.Ident

/-!
# Dialects

What differs between SQL engines: delimiters, the mark of a placeholder, type names, and how an
inserted or updated row comes back.  Two dialects are given; another one is another value.
-/

namespace RecordSql

/-- The names of the column types. -/
structure TypeNames where
  boolean : String
  integer : String
  real : String
  text : String
  uuid : String
  timestamp : String
  json : String

/-- How an insert hands back the inserted row. -/
inductive InsertedRow where
  /-- A clause before the values. -/
  | output (clause : String)
  /-- A clause after the values. -/
  | returning (clause : String)
  /-- A second statement, which selects the row with this identity. -/
  | followUp (lastIdentity : String)

/-- The scripts for whole databases, where an engine hosts several. -/
structure DatabaseScripts where
  create : Ident → String
  drop : Ident → String

/-- An SQL engine as far as the text of statements shows it. -/
structure Dialect where
  name : String
  quoteStyle : QuoteStyle
  /-- Stands before the name of a placeholder. -/
  placeholderMark : Char
  /-- Stands after the type of the identity column. -/
  identitySuffix : String
  insertedRow : InsertedRow
  /-- A pseudo-column that is read in place of the identity column. -/
  rowIdentity : Option String
  /-- Stands at the end of an update, with the table put in for its mark. -/
  updateReturning : Option String
  databaseScripts : Option DatabaseScripts
  types : TypeNames

namespace Dialect

/-- The server engine creates a database unless it exists. -/
def serverCreateDatabase (name : Ident) : String :=
  s!"USE MASTER; IF db_id('{name}') is null CREATE DATABASE [{name}];"

/-- The server engine ends the sessions of a database before it drops it. -/
def serverDropDatabase (name : Ident) : String :=
  "USE [master];\n" ++
  s!"IF db_id('{name}') is not null\n" ++
  "BEGIN\n" ++
  "DECLARE @kill varchar(8000) = '';\n" ++
  "SELECT @kill = @kill + 'kill ' + CONVERT(varchar(5), session_id) + ';'\n" ++
  "FROM sys.dm_exec_sessions\n" ++
  s!"WHERE database_id = db_id('{name}')\n" ++
  "EXEC(@kill);\n" ++
  s!"EXEC('DROP DATABASE [{name}]');\n" ++
  "END;"

/-- A server engine: numbered identities, and the inserted row comes back from the insert. -/
def sqlServer : Dialect where
  name := "sqlserver"
  quoteStyle := .bracket
  placeholderMark := '@'
  identitySuffix := " IDENTITY(1,1) PRIMARY KEY"
  insertedRow := .output "OUTPUT INSERTED.*"
  rowIdentity := none
  updateReturning := none
  databaseScripts := some ⟨serverCreateDatabase, serverDropDatabase⟩
  types :=
    { boolean := "BIT"
      integer := "BIGINT"
      real := "REAL"
      text := "NVARCHAR(MAX)"
      uuid := "UNIQUEIDENTIFIER"
      timestamp := "DATETIME2"
      json := "NVARCHAR(MAX)" }

/-- An embedded engine: the identity is an implicit row number, and the inserted row is selected
by the last one. -/
def sqlite : Dialect where
  name := "sqlite"
  quoteStyle := .bracket
  placeholderMark := '@'
  identitySuffix := " PRIMARY KEY"
  insertedRow := .followUp "last_insert_rowid()"
  rowIdentity := some "ROWID"
  updateReturning := some "RETURNING \x7btable\x7d.*"
  databaseScripts := none
  types :=
    { boolean := "INTEGER"
      integer := "INTEGER"
      real := "REAL"
      text := "TEXT"
      uuid := "TEXT"
      timestamp := "TEXT"
      json := "TEXT" }

/-- A delimited identifier. -/
def quote (dialect : Dialect) (ident : Ident) : String :=
  dialect.quoteStyle.quote ident.name

/-- A named placeholder. -/
def placeholder (dialect : Dialect) (name : String) : String :=
  dialect.placeholderMark.toString ++ name

/-- A text literal; it is the same in every dialect. -/
def textLiteral (text : String) : String :=
  String.ofList (Text.apostrophes.quote text.toList)

/-- What addresses the identity of a row. -/
def identityExpr (dialect : Dialect) (identity : Ident) : String :=
  dialect.rowIdentity.getD (dialect.quote identity)

end Dialect

end RecordSql
