import RecordSql.Document.Printer
import RecordSql.Text.Escaped
import RecordSql.Timestamp.Printer
import RecordSql.Value

/-!
# Text of a value

A value has two texts: the one it has as part of a document, without a mark of its kind, and the
one that messages show, with the kind in front.
-/

namespace RecordSql

namespace Value

/-- The value as it stands in a document. -/
def documentText : Value → String
  | null => "null"
  | bool value => toString value
  | int value => toString value
  | real value => String.ofList (Document.realOrNull value)
  | text value => String.ofList (Document.quotedText value)
  | uuid value => String.ofList (Document.quotedText value.text)
  | timestamp value => String.ofList (Document.quotedText (value.text .asNeeded))
  | json value => value.compact

end Value

/-! ## Shown with the kind -/

namespace Binary64

/-- Whether the shown form has an exponent: outside `0.0001` to ten to the sixteenth. -/
def isShownScientific (decimal : Decimal) : Bool :=
  let exponent := decimal.exponent + (Nat.toDigits 10 decimal.digits).length - 1
  decimal.digits ≠ 0 && (exponent < -4 || 16 ≤ exponent)

/-- Digits with the point after the first and an exponent without a plus sign. -/
def Decimal.withExponent (decimal : Decimal) : List Char :=
  let digits := Nat.toDigits 10 decimal.digits
  let exponent := decimal.exponent + digits.length - 1
  let mantissa :=
    match digits with
    | first :: second :: rest => first :: '.' :: second :: rest
    | short => short
  mantissa ++ 'e' :: (toString exponent).toList

/-- A real as messages show it: always with a fractional part or an exponent. -/
def shown (x : Binary64) : String :=
  if x.isFinite then
    let decimal := x.shortest .away
    let magnitude :=
      if isShownScientific decimal then decimal.withExponent
      else if 0 ≤ decimal.exponent then decimal.plain ++ ['.', '0']
      else decimal.plain
    String.ofList (if x.isNegative then '-' :: magnitude else magnitude)
  else x.plain

end Binary64

namespace Document

mutual

/-- A document as messages show it, every part with its kind. -/
def shown : Document → String
  | .null => "Null"
  | .bool value => "Bool(" ++ toString value ++ ")"
  | .number value => "Number(" ++ String.ofList value.text ++ ")"
  | .text value => "String(" ++ Text.escaped value ++ ")"
  | .array [] => "Array []"
  | .array (first :: rest) => "Array [" ++ shown first ++ shownItems rest ++ "]"
  | .object [] => "Object \x7b\x7d"
  | .object ((key, value) :: rest) =>
      "Object \x7b" ++ Text.escaped key ++ ": " ++ shown value ++ shownMembers rest ++ "\x7d"

def shownItems : List Document → String
  | [] => ""
  | item :: rest => ", " ++ shown item ++ shownItems rest

def shownMembers : List (String × Document) → String
  | [] => ""
  | (key, value) :: rest =>
      ", " ++ Text.escaped key ++ ": " ++ shown value ++ shownMembers rest

end

end Document

namespace Value

/-- The value as messages show it. -/
def shown : Value → String
  | null => "Null"
  | bool value => "Bool(" ++ toString value ++ ")"
  | int value => "Int(" ++ toString value ++ ")"
  | real value => "Real(" ++ value.shown ++ ")"
  | text value => "Text(" ++ Text.escaped value ++ ")"
  | uuid value => "Uuid(" ++ value.text ++ ")"
  | timestamp value => "Timestamp(" ++ value.text .asNeeded ++ ")"
  | json value => "Json(" ++ value.shown ++ ")"

end Value

end RecordSql
