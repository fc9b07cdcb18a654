/-!
# Changes

What happens to single rows, and who is told of it.  Observers are told after a call has changed
all its rows: change by change, each to every observer in the order in which they came.
-/

namespace RecordSql

/-- A change of one row. -/
inductive Change (R : Type) where
  | created (row : R)
  | updated (before after : R)
  | deleted (id : Int64)

/-- Who is told of changes.  A silent observer takes no notice of them. -/
inductive Observer where
  | recording
  | silent
  deriving DecidableEq

/-- Observers in the order in which they came. -/
abbrev Observers := List Observer

namespace Observers

/-- How many of them take notice. -/
def recordingCount (observers : Observers) : Nat :=
  observers.count .recording

/-- What recording observers, numbered from zero, note down of some changes. -/
def notices {R : Type} (observers : Observers) (changes : List (Change R)) :
    List (Nat × Change R) :=
  changes.flatMap fun change =>
    (List.range observers.recordingCount).map fun number => (number, change)

end Observers

end RecordSql
