import RecordSql.Binary64.Decimal
import RecordSql.Document.Basic

/-!
# Numbers in a document's text

A whole number of at most 64 bits stays whole.  Every other number is read as a significand, the
leading digits that fit in 64 bits, which is rounded to a real and then scaled by one rounded
power of ten, or by several when the exponent is below `-308`.  A number too large to be finite
is refused.
-/

namespace RecordSql.Document

/-- Take digits while the significand fits in 64 bits; also how many were left out. -/
def absorbDigits (significand : Nat) : List Char → Nat × Nat
  | [] => (significand, 0)
  | digit :: rest =>
      let longer := significand * 10 + (digit.toNat - '0'.toNat)
      if longer < UInt64.size then absorbDigits longer rest else (significand, rest.length + 1)

/-- A power of ten as a rounded real, in units. -/
def powerOfTen (exponent : Nat) : Nat :=
  (Binary64.nearestDecimal false 1 exponent).units

/-- Divide a magnitude by a power of ten, at most `308` places at a time. -/
def scaleDown (units : Nat) (exponent : Nat) : Nat :=
  if exponent ≤ 308 then (Binary64.roundedQuotient units (powerOfTen exponent)).units
  else if units = 0 then 0
  else scaleDown (Binary64.roundedQuotient units (powerOfTen 308)).units (exponent - 308)
  termination_by exponent

/-- A significand scaled by a power of ten. -/
def scaled? (significand : Nat) (exponent : Int) : Option Nat :=
  let units := (Binary64.ofInt significand).units
  if exponent < 0 then some (scaleDown units exponent.natAbs)
  else if units = 0 then some 0
  else if 308 < exponent then none
  else
    let product := Binary64.roundedProduct units (powerOfTen exponent.toNat)
    if product.isFinite then some product.units else none

/-- A magnitude in units under a sign. -/
def signedReal (negative : Bool) (units : Nat) : Binary64 :=
  Binary64.ofQuotient negative units 1

/-- The parts of a number's text. -/
structure NumberText where
  negative : Bool
  whole : List Char
  fraction : Option (List Char)
  exponent : Option Int

namespace NumberText

/-- Splits the text of a number: no leading zeros, and a digit after a point or an exponent
mark. -/
def ofChars? (text : List Char) : Option NumberText :=
  let (negative, unsigned) :=
    match text with
    | '-' :: rest => (true, rest)
    | rest => (false, rest)
  let whole := unsigned.takeWhile Char.isDigit
  let afterWhole := unsigned.dropWhile Char.isDigit
  let (fraction, rest) :=
    match afterWhole with
    | '.' :: more => (some (more.takeWhile Char.isDigit), more.dropWhile Char.isDigit)
    | more => (none, more)
  let leadingZero := whole.head? == some '0' && 1 < whole.length
  if whole.isEmpty || leadingZero || fraction == some [] then none
  else
    match rest with
    | [] => some ⟨negative, whole, fraction, none⟩
    | mark :: more =>
        if mark == 'e' || mark == 'E' then
          (Binary64.readExponent? more).map fun exponent =>
            ⟨negative, whole, fraction, some exponent⟩
        else none

/-- The number as a real, unless it is too large. -/
def real? (text : NumberText) : Option Number :=
  let fraction := text.fraction.getD []
  let (leading, leftOfPoint) := absorbDigits 0 text.whole
  let (significand, rightOfPoint) := absorbDigits leading fraction
  let exponent : Int :=
    text.exponent.getD 0 + leftOfPoint - (fraction.length - rightOfPoint : Nat)
  (scaled? significand exponent).map fun units => .real (signedReal text.negative units)

/-- The number a text denotes. -/
def value? (text : NumberText) : Option Number :=
  match text.fraction, text.exponent with
  | none, none =>
      let magnitude := Text.digitsValue text.whole
      if text.negative then
        if 0 < magnitude && magnitude ≤ UInt64.size / 2 then some (.whole (-(magnitude : Int)))
        else text.real?
      else if magnitude < UInt64.size then some (.whole magnitude)
      else text.real?
  | _, _ => text.real?

end NumberText

/-- Reads the text of a number. -/
def Number.read? (text : List Char) : Option Number := do
  (← NumberText.ofChars? text).value?

end RecordSql.Document
