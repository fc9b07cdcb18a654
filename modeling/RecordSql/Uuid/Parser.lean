import RecordSql.Uuid.Basic

/-!
# Uuids from text

Four forms are read, in either case: the bare digits, the written form, the written form in
braces, and the written form after `urn:uuid:`.  A text in none of them has one fault, found by
looking for a wrong character first, then at the number of groups, then at their lengths.
-/

namespace RecordSql.Uuid

/-- Why a text is no uuid. -/
inductive Fault where
  | length (found : Nat)
  | character (c : Char) (index : Nat)
  | groupCount (found : Nat)
  | groupLength (group expected found : Nat)
  deriving DecidableEq

namespace Fault

def message : Fault → String
  | .length found => s!"invalid length: found {found}"
  | .character c index => s!"invalid character: found `{c}` at {index}"
  | .groupCount found => s!"invalid group count: expected 5, found {found}"
  | .groupLength group expected found =>
      s!"invalid group length in group {group}: expected {expected}, found {found}"

end Fault

/-- The bare digits. -/
def readBare? (chars : List Char) : Option Uuid := do
  ofDigits? (← chars.mapM Text.hexDigit?)

/-- The written form: putting the hyphens back into the digits gives the text. -/
def readHyphenated? (chars : List Char) : Option Uuid := do
  let u ← readBare? (chars.filter (· ≠ '-'))
  if u.chars = chars.map Char.toLower then some u else none

/-- What may stand before the written form. -/
def urnMark : List Char := "urn:uuid:".toList

/-- What stands after `urn:uuid:`, in either case. -/
def afterUrnMark? (chars : List Char) : Option (List Char) :=
  if (chars.take 9).map Char.toLower == urnMark then some (chars.drop 9) else none

/-- What stands between braces. -/
def insideBraces? (chars : List Char) : Option (List Char) :=
  if 2 ≤ chars.length && chars.head? == some '\x7b' && chars.getLast? == some '\x7d' then
    some (chars.drop 1).dropLast
  else none

/-- The part of a text that has to be digits and hyphens, by the length of the text. -/
def subject (chars : List Char) : List Char :=
  if Text.byteCount chars = 38 then (insideBraces? chars).getD chars
  else if Text.byteCount chars = 45 then (afterUrnMark? chars).getD chars
  else chars

/-- What is scanned for a fault, how many bytes stand before it, and whether bare digits were
possible. -/
def scanned (chars : List Char) : List Char × Nat × Bool :=
  if Text.byteCount chars = 36 then (chars, 0, true)
  else
    match insideBraces? chars, afterUrnMark? chars with
    | some inside, _ => (inside, 1, false)
    | none, some rest => (rest, 9, false)
    | none, none => (chars, 0, true)

/-- The first character that is neither a digit nor a hyphen, with its place in bytes. -/
def firstWrong? (index : Nat) : List Char → Option (Char × Nat)
  | [] => none
  | c :: rest =>
      if c = '-' || (Text.hexDigit? c).isSome then firstWrong? (index + c.utf8Size) rest
      else some (c, index)

/-- The places of the hyphens. -/
def hyphenPlaces (index : Nat) : List Char → List Nat
  | [] => []
  | c :: rest =>
      if c = '-' then index :: hyphenPlaces (index + 1) rest else hyphenPlaces (index + 1) rest

/-- Where each group but the last has to start, and where its hyphen has to be. -/
def groupBounds : List (Nat × Nat) := [(0, 8), (9, 13), (14, 18), (19, 23)]

/-- The first group of a wrong length; the last one if the others are right. -/
def wrongGroup (size : Nat) (group : Nat) : List (Nat × Nat) → List Nat → Fault
  | (start, stop) :: bounds, place :: places =>
      if place = stop then wrongGroup size (group + 1) bounds places
      else .groupLength group (stop - start) (place - start)
  | _, _ => .groupLength 4 12 (size - 24)

/-- The fault of a text that is in none of the forms. -/
def fault (chars : List Char) : Fault :=
  let size := Text.byteCount chars
  if size = 0 || 45 < size then .length size
  else
    let (part, before, bare) := scanned chars
    match firstWrong? before part with
    | some (c, index) => .character c index
    | none =>
        let places := hyphenPlaces 0 part
        if places.isEmpty && bare && size ≠ 36 then .length size
        else if places.length ≠ 4 then .groupCount (places.length + 1)
        else wrongGroup size 0 groupBounds places

/-- Reads a uuid. -/
def read (text : String) : Except Fault Uuid :=
  let chars := subject text.toList
  let found? := if chars.length = 32 then readBare? chars else readHyphenated? chars
  match found? with
  | some u => .ok u
  | none => .error (fault chars)

end RecordSql.Uuid
