import RecordSql.Event
import RecordSql.Sql.Compile

/-!
# Logging of SQL

Every statement is reported at a configured level, its text cut to a number of bytes.  A cut never
splits a character, and the text is as long as that allows.  A compiled predicate is reported
whole.
-/

namespace RecordSql.Sql

/-- How statements are reported. -/
structure LogConfig where
  level : Level
  /-- The most bytes of a statement that are shown; no number shows all of it. -/
  limit : Option Nat

/-- Statements are details, and two hundred bytes tell most of them apart. -/
def LogConfig.usual : LogConfig := ⟨.debug, some 200⟩

/-- The last place at or before a byte where a text can be cut, looked for byte by byte backwards.
No character stands across it; the beginning of the text is such a place. -/
def lastBoundary (text : String) : Nat → text.Pos
  | 0 => text.startPos
  | byte + 1 =>
      if h : (String.Pos.Raw.mk (byte + 1)).IsValid text then ⟨⟨byte + 1⟩, h⟩
      else lastBoundary text byte

/-- A text up to the last place at or before a byte where it can be cut. -/
def truncated (text : String) (limit : Nat) : String :=
  (text.sliceTo (lastBoundary text limit)).copy

namespace LogConfig

/-- A text as it is shown: whole if it is no longer than the limit, and otherwise cut and marked
with three dots. -/
def shorten (config : LogConfig) (text : String) : String :=
  match config.limit with
  | none => text
  | some limit =>
      if text.utf8ByteSize ≤ limit then text
      else truncated text limit ++ "..."

end LogConfig

/-- The report of a compiled predicate. -/
def compiledEvent (table : Table) (dialect : Dialect) (predicate : Predicate)
    (fragment : Fragment) : Event :=
  .compiled table.record predicate.shown (fragment.sql dialect) fragment.bindings.length

end RecordSql.Sql
