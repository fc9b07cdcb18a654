import RecordSql.Text.Digits
import RecordSql.Timestamp.Basic

/-!
# Timestamps from text

Date, time of day and offset from universal time are read from left to right.  The first part
that is wrong decides the fault: a part can be cut short, malformed, or name a date, time or
offset that does not exist.
-/

namespace RecordSql.Timestamp

/-- Why a text is no timestamp. -/
inductive Fault where
  | premature
  | malformed
  | outOfRange
  | trailing
  deriving DecidableEq

namespace Fault

def message : Fault → String
  | .premature => "premature end of input"
  | .malformed => "input contains invalid characters"
  | .outOfRange => "input is out of range"
  | .trailing => "trailing input"

end Fault

/-- Exactly `count` digits. -/
def takeDigits (count : Nat) (text : List Char) : Except Fault (Nat × List Char) :=
  let digits := text.take count
  if digits.length = count && digits.all Char.isDigit then
    .ok (Text.digitsValue digits, text.drop count)
  else .error .malformed

/-- One given character. -/
def takeChar (expected : Char) : List Char → Except Fault (List Char)
  | [] => .error .malformed
  | c :: rest => if c = expected then .ok rest else .error .malformed

/-- Year, month and day; the day has to exist. -/
def takeDate (text : List Char) : Except Fault (Date × List Char) := do
  let (year, text) ← takeDigits 4 text
  let (month, text) ← takeDigits 2 (← takeChar '-' text)
  let (day, text) ← takeDigits 2 (← takeChar '-' text)
  let date : Date := ⟨year, month, day⟩
  if date.isValid then return (date, text) else throw .outOfRange

/-- Between date and time. -/
def takeSeparator : List Char → Except Fault (List Char)
  | [] => .error .malformed
  | c :: rest => if c = 'T' || c = 't' || c = ' ' then .ok rest else .error .malformed

/-- Digits after a point, in nanoseconds; those after the ninth are dropped. -/
def takeFraction : List Char → Except Fault (Nat × List Char)
  | '.' :: rest =>
      let digits := rest.takeWhile Char.isDigit
      if rest.isEmpty then .error .premature
      else if digits.isEmpty then .error .malformed
      else
        let kept := digits.take 9
        .ok (Text.digitsValue kept * Nat.pow 10 (9 - kept.length), rest.dropWhile Char.isDigit)
  | rest => .ok (0, rest)

/-- Hour, minute, second and nanoseconds. -/
structure Clock where
  hour : Nat
  minute : Nat
  second : Nat
  nanos : Nat

/-- Whether a clock can show this time; any minute may have a leap second. -/
def Clock.isValid (clock : Clock) : Bool :=
  clock.hour ≤ 23 && clock.minute ≤ 59 && clock.second ≤ 60

def takeClock (text : List Char) : Except Fault (Clock × List Char) := do
  let (hour, text) ← takeDigits 2 text
  let (minute, text) ← takeDigits 2 (← takeChar ':' text)
  let (second, text) ← takeDigits 2 (← takeChar ':' text)
  let (nanos, text) ← takeFraction text
  let clock : Clock := ⟨hour, minute, second, nanos⟩
  if clock.isValid then return (clock, text) else throw .outOfRange

/-- Two digits of an offset; it is cut short when fewer than two bytes are left. -/
def takeOffsetPair (text : List Char) : Except Fault (Char × Char × List Char) :=
  if Text.byteCount text < 2 then .error .premature
  else
    match text with
    | a :: b :: rest => if a.isDigit && b.isDigit then .ok (a, b, rest) else .error .malformed
    | _ => .error .malformed

/-- The colon of an offset. -/
def takeOffsetColon : List Char → Except Fault (List Char)
  | [] => .error .premature
  | c :: rest => if c = ':' then .ok rest else .error .malformed

/-- Hours and minutes of an offset, in seconds. -/
def takeOffsetSize (text : List Char) : Except Fault (Nat × List Char) := do
  let (a, b, text) ← takeOffsetPair text
  let (c, d, text) ← takeOffsetPair (← takeOffsetColon text)
  if '6' ≤ c then throw .outOfRange
  return ((Text.digitsValue [a, b] * 60 + Text.digitsValue [c, d]) * 60, text)

/-- The offset from universal time, in seconds to the east. -/
def takeOffset : List Char → Except Fault (Int × List Char)
  | [] => .error .premature
  | c :: rest =>
      if c = 'Z' || c = 'z' then .ok (0, rest)
      else if c = '+' then (takeOffsetSize rest).map fun (size, more) => (size, more)
      else if c = '-' || c = '−' then
        (takeOffsetSize rest).map fun (size, more) => (-(size : Int), more)
      else .error .malformed

/-- The instant at which a clock at some offset shows a date and time. -/
def ofLocal (date : Date) (clock : Clock) (offset : Int) : Except Fault Timestamp :=
  let second := min clock.second 59
  let seconds := date.toDays * 86400 + (clock.hour * 3600 + clock.minute * 60 + second : Nat)
  let nanos := if clock.second = 60 then clock.nanos + 1000000000 else clock.nanos
  match ofParts? (seconds - offset) nanos with
  | some t => .ok t
  | none => .error .outOfRange

/-- Reads an instant. -/
def read (text : String) : Except Fault Timestamp := do
  if text.utf8ByteSize < 19 then throw .premature
  let (date, rest) ← takeDate text.toList
  let (clock, rest) ← takeClock (← takeSeparator rest)
  let (offset, rest) ← takeOffset rest
  if !rest.isEmpty then throw .trailing
  if 86400 ≤ offset.natAbs then throw .outOfRange
  ofLocal date clock offset

end RecordSql.Timestamp
