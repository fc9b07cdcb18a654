import RecordSql.Text.Unprintable

/-!
# Text shown on one line

Messages show a text between double quotes, with an escape for every character that would not
show as itself: the quote and the backslash, the usual controls by their letters, and every
other character without a printed form by its code point.
-/

namespace RecordSql.Text

/-- A code point in braces, in lower-case hexadecimal without leading zeros. -/
def codePointEscape (c : Char) : List Char :=
  ['\\', 'u', '\x7b'] ++ Nat.toDigits 16 c.toNat ++ ['\x7d']

/-- How one character shows inside double quotes. -/
def escapeChar (c : Char) : List Char :=
  if c = '\x00' then ['\\', '0']
  else if c = '\t' then ['\\', 't']
  else if c = '\r' then ['\\', 'r']
  else if c = '\n' then ['\\', 'n']
  else if c = '\\' then ['\\', '\\']
  else if c = '"' then ['\\', '"']
  else if isUnprintable c then codePointEscape c
  else [c]

/-- A text between double quotes, with escapes. -/
def escaped (text : String) : String :=
  String.ofList ('"' :: (text.toList.flatMap escapeChar ++ ['"']))

end RecordSql.Text
