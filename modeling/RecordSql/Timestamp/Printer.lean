import RecordSql.Timestamp.Basic

/-!
# Text of a timestamp

Date and time of day in universal time, with `T` between them and `Z` at the end.  A year outside
`0` to `9999` has a sign.
-/

namespace RecordSql.Timestamp

/-- How many digits of a second are written. -/
inductive Fraction where
  | micros
  | asNeeded
  deriving DecidableEq

/-- A number in decimal with zeros in front up to a width. -/
def padded (width value : Nat) : List Char :=
  (Nat.toDigits 10 value).leftpad width '0'

def yearChars (year : Int) : List Char :=
  if 0 ≤ year && year ≤ 9999 then padded 4 year.toNat
  else (if year < 0 then '-' else '+') :: padded 4 year.natAbs

def dateChars (date : Date) : List Char :=
  yearChars date.year ++ '-' :: (padded 2 date.month ++ '-' :: padded 2 date.day)

/-- The part of a second after its point: six digits cut off, or the shortest of none, three, six
and nine that lose nothing. -/
def fractionChars (fraction : Fraction) (nanos : Nat) : List Char :=
  match fraction with
  | .micros => '.' :: padded 6 (nanos / 1000)
  | .asNeeded =>
      if nanos = 0 then []
      else if nanos % 1000000 = 0 then '.' :: padded 3 (nanos / 1000000)
      else if nanos % 1000 = 0 then '.' :: padded 6 (nanos / 1000)
      else '.' :: padded 9 nanos

def timeChars (fraction : Fraction) (secondOfDay nanos : Nat) : List Char :=
  let second := secondOfDay % 60 + nanos / 1000000000
  padded 2 (secondOfDay / 3600) ++ ':' ::
    (padded 2 (secondOfDay / 60 % 60) ++ ':' ::
      (padded 2 second ++ fractionChars fraction (nanos % 1000000000)))

def chars (fraction : Fraction) (t : Timestamp) : List Char :=
  dateChars t.date ++ 'T' :: (timeChars fraction t.secondOfDay t.nanos ++ ['Z'])

/-- The text of an instant. -/
def text (fraction : Fraction) (t : Timestamp) : String :=
  String.ofList (t.chars fraction)

end RecordSql.Timestamp
