import RecordSql.Text.Digits

/-!
# Universally unique identifiers

A uuid is thirty-two hexadecimal digits.  Its one written form has lower-case digits in groups of
8, 4, 4, 4 and 12 with hyphens between them, and the order of uuids is the order of those digits
from the left.
-/

namespace RecordSql

/-- A 128-bit identifier as its hexadecimal digits, highest first. -/
structure Uuid where
  digits : List (Fin 16)
  length_eq : digits.length = 32
  deriving DecidableEq

namespace Uuid

/-- The identifier without a set bit. -/
def zero : Uuid := ⟨List.replicate 32 ⟨0, by decide⟩, rfl⟩

def isZero (u : Uuid) : Bool :=
  u == zero

/-- The identifier with these digits, if there are thirty-two. -/
def ofDigits? (digits : List (Fin 16)) : Option Uuid :=
  if h : digits.length = 32 then some ⟨digits, h⟩ else none

/-- How many digits stand in each group. -/
def groupSizes : List Nat := [8, 4, 4, 4, 12]

/-- Put a hyphen between groups of the given sizes. -/
def hyphenate : List Nat → List Char → List Char
  | [], _ => []
  | [size], chars => chars.take size
  | size :: sizes, chars => chars.take size ++ '-' :: hyphenate sizes (chars.drop size)

/-- The written form as characters. -/
def chars (u : Uuid) : List Char :=
  hyphenate groupSizes (u.digits.map Text.hexChar)

/-- The written form. -/
def text (u : Uuid) : String :=
  String.ofList u.chars

/-- The order of the digits from the left. -/
def compare (a b : Uuid) : Ordering :=
  List.compareLex (fun x y : Fin 16 => Ord.compare x.val y.val) a.digits b.digits

end Uuid

end RecordSql
