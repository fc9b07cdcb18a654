/-!
# Delimited text

A text between two delimiters is read back by taking a doubled closing delimiter for one
character and stopping at the first single one.  So quoting doubles every closing delimiter and
touches nothing else.
-/

namespace RecordSql.Text

/-- A pair of delimiters. -/
structure Delimiters where
  opening : Char
  closing : Char
  deriving DecidableEq

/-- Write the closing delimiter twice wherever it occurs. -/
def doubled (closing : Char) : List Char → List Char
  | [] => []
  | c :: rest => if c = closing then closing :: c :: doubled closing rest
      else c :: doubled closing rest

/-- A text between its delimiters. -/
def Delimiters.quote (delimiters : Delimiters) (text : List Char) : List Char :=
  delimiters.opening :: (doubled delimiters.closing text ++ [delimiters.closing])

/-- Read up to the first single closing delimiter; a doubled one stands for itself. -/
def untilClosing? (closing : Char) : List Char → Option (List Char × List Char)
  | [] => none
  | [c] => if c = closing then some ([], []) else none
  | c :: d :: rest =>
      if c = closing then
        if d = closing then (untilClosing? closing rest).map fun (s, more) => (c :: s, more)
        else some ([], d :: rest)
      else (untilClosing? closing (d :: rest)).map fun (s, more) => (c :: s, more)

/-- The text that stands quoted at the front, and what follows it. -/
def Delimiters.unquote? (delimiters : Delimiters) : List Char → Option (List Char × List Char)
  | [] => none
  | c :: rest => if c = delimiters.opening then untilClosing? delimiters.closing rest else none

/-- The delimiters of a text literal. -/
def apostrophes : Delimiters := ⟨'\'', '\''⟩

end RecordSql.Text
