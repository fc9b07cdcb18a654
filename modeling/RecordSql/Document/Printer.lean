import RecordSql.Binary64.Decimal
import RecordSql.Document.Basic

/-!
# Compact text of a document

No blanks, members in key order, and only what must be escaped is.  A real has a fractional part
or an exponent, so it never reads back as a whole number.
-/

namespace RecordSql.Document

/-- The decimal exponents that are written without an exponent mark. -/
def isPositional (exponent : Int) : Bool :=
  -5 ≤ exponent && exponent ≤ 15

/-- A magnitude with its first digit before the point and a signed exponent. -/
def scientific (digits : List Char) (exponent : Int) : List Char :=
  let mantissa :=
    match digits with
    | first :: second :: rest => first :: '.' :: second :: rest
    | short => short
  let sign := if exponent < 0 then '-' else '+'
  mantissa ++ 'e' :: sign :: Nat.toDigits 10 exponent.natAbs

/-- The text of a finite real; a tie between digit strings goes to the even one. -/
def realText (x : Binary64) : List Char :=
  let decimal := x.shortest .even
  let digits := Nat.toDigits 10 decimal.digits
  let exponent := decimal.exponent + digits.length - 1
  let magnitude :=
    if isPositional exponent then
      if 0 ≤ decimal.exponent then decimal.plain ++ ['.', '0'] else decimal.plain
    else scientific digits exponent
  if x.isNegative then '-' :: magnitude else magnitude

/-- A real as a document writes it: what is not finite is null. -/
def realOrNull (x : Binary64) : List Char :=
  if x.isFinite then realText x else "null".toList

def Number.text : Number → List Char
  | .whole value => (toString value).toList
  | .real value => realOrNull value

/-- Two hexadecimal digits of a control character. -/
def controlEscape (c : Char) : List Char :=
  ['\\', 'u', '0', '0', Nat.digitChar (c.toNat / 16), Nat.digitChar (c.toNat % 16)]

/-- One character of a text: the quote, the backslash and controls are escaped. -/
def textChar (c : Char) : List Char :=
  if c = '"' then ['\\', '"']
  else if c = '\\' then ['\\', '\\']
  else if c = '\x08' then ['\\', 'b']
  else if c = '\t' then ['\\', 't']
  else if c = '\n' then ['\\', 'n']
  else if c = '\x0c' then ['\\', 'f']
  else if c = '\r' then ['\\', 'r']
  else if c.toNat < 32 then controlEscape c
  else [c]

/-- A text between double quotes. -/
def quotedText (text : String) : List Char :=
  '"' :: (text.toList.flatMap textChar ++ ['"'])

mutual

/-- The compact text as characters. -/
def chars : Document → List Char
  | .null => "null".toList
  | .bool value => (if value then "true" else "false").toList
  | .number value => value.text
  | .text value => quotedText value
  | .array [] => ['[', ']']
  | .array (first :: rest) => '[' :: (chars first ++ itemChars rest)
  | .object [] => ['\x7b', '\x7d']
  | .object ((key, value) :: rest) =>
      '\x7b' :: (quotedText key ++ ':' :: (chars value ++ memberChars rest))

/-- The items after the first, and the closing bracket. -/
def itemChars : List Document → List Char
  | [] => [']']
  | item :: rest => ',' :: (chars item ++ itemChars rest)

/-- The members after the first, and the closing brace. -/
def memberChars : List (String × Document) → List Char
  | [] => ['\x7d']
  | (key, value) :: rest =>
      ',' :: (quotedText key ++ ':' :: (chars value ++ memberChars rest))

end

/-- The compact text of a document. -/
def compact (document : Document) : String :=
  String.ofList document.chars

end RecordSql.Document
