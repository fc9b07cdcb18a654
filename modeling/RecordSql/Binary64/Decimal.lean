import RecordSql.Binary64.Basic
import RecordSql.Text.Digits

/-!
# Decimal text of a real

A real is written with the fewest decimal digits that read back to it.  The digits come from the
coarsest decimal grid that holds a point reading back: of the two neighbours on that grid the
nearer one is taken, and a rule for ties decides between equally near ones.
-/

namespace RecordSql.Binary64

/-! ## Reading -/

/-- The real nearest to `± digits · 10 ^ exponent`. -/
def nearestDecimal (negative : Bool) (digits : Nat) (exponent : Int) : Binary64 :=
  if 0 ≤ exponent then
    ofQuotient negative ((digits * Nat.pow 10 exponent.toNat) <<< unitExponent) 1
  else
    ofQuotient negative (digits <<< unitExponent) (Nat.pow 10 (-exponent).toNat)

/-- As `nearestDecimal`, but magnitudes far outside the format are settled without forming the
power of ten. -/
def ofDecimal (negative : Bool) (digits : Nat) (exponent : Int) : Binary64 :=
  let places := (Nat.toDigits 10 digits).length + exponent
  if digits = 0 then zero negative
  else if 400 < places then .infinite negative
  else if places < -400 then zero negative
  else nearestDecimal negative digits exponent

/-- An optional sign before at least one digit, and nothing after. -/
def readExponent? (text : List Char) : Option Int :=
  let digits? (rest : List Char) : Option Nat :=
    if rest.isEmpty || rest.any (!·.isDigit) then none else some (Text.digitsValue rest)
  match text with
  | '-' :: rest => (digits? rest).map fun value => -(value : Int)
  | '+' :: rest => (digits? rest).map Int.ofNat
  | rest => (digits? rest).map Int.ofNat

/-- Digits with an optional point and exponent, or a word for a non-finite real. -/
def readMagnitude? (negative : Bool) (text : List Char) : Option Binary64 :=
  let word := String.ofList (text.map Char.toLower)
  if word == "inf" || word == "infinity" then some (.infinite negative)
  else if word == "nan" then some .nan
  else
    let whole := text.takeWhile Char.isDigit
    let afterWhole := text.dropWhile Char.isDigit
    let (fraction, rest) :=
      match afterWhole with
      | '.' :: more => (more.takeWhile Char.isDigit, more.dropWhile Char.isDigit)
      | more => ([], more)
    if whole.isEmpty && fraction.isEmpty then none
    else
      let exponent? : Option Int :=
        match rest with
        | [] => some 0
        | mark :: more => if mark == 'e' || mark == 'E' then readExponent? more else none
      exponent?.map fun exponent =>
        ofDecimal negative (Text.digitsValue (whole ++ fraction)) (exponent - fraction.length)

/-- Reads a real written in decimal, correctly rounded. -/
def read? (text : String) : Option Binary64 :=
  match text.toList with
  | '-' :: rest => readMagnitude? true rest
  | '+' :: rest => readMagnitude? false rest
  | rest => readMagnitude? false rest

/-! ## The fewest digits -/

/-- Which of two equally near digit strings is taken. -/
inductive Tie where
  | away
  | even

/-- The magnitude `digits · 10 ^ exponent`. -/
structure Decimal where
  digits : Nat
  exponent : Int
  deriving DecidableEq

/-- The magnitude of a finite real divided by a power of ten, as a fraction. -/
def overPowerOfTen (x : Binary64) (exponent : Int) : Nat × Nat :=
  if 0 ≤ exponent then (x.units, Nat.pow 10 exponent.toNat <<< unitExponent)
  else (x.units * Nat.pow 10 (-exponent).toNat, 1 <<< unitExponent)

/-- Whether a decimal magnitude, under the sign of `x`, reads back to `x`. -/
def readsBack (x : Binary64) (decimal : Decimal) : Bool :=
  nearestDecimal x.isNegative decimal.digits decimal.exponent = x

/-- The better of the two neighbours of `x` among the multiples of a power of ten, if one of
them reads back. -/
def gridPoint? (tie : Tie) (x : Binary64) (exponent : Int) : Option Decimal :=
  let (numerator, denominator) := x.overPowerOfTen exponent
  let twice := 2 * (numerator % denominator)
  let below : Decimal := ⟨numerator / denominator, exponent⟩
  let above : Decimal := ⟨numerator / denominator + 1, exponent⟩
  let belowIsBetter :=
    twice < denominator ||
      (twice == denominator &&
        match tie with
        | .away => false
        | .even => below.digits % 2 == 0)
  if belowIsBetter then
    if x.readsBack below then some below
    else if x.readsBack above then some above
    else none
  else
    if x.readsBack above then some above
    else if x.readsBack below then some below
    else none

/-- A power of ten above the magnitude of a finite real. -/
def decimalCeiling (x : Binary64) : Int :=
  ((x.units.log2 : Int) + 1 - unitExponent) * 30103 / 100000 + 1

/-- The digits of a finite real: the first grid with a point, from the coarsest down.  The exact
expansion stands behind the search. -/
def shortest (tie : Tie) (x : Binary64) : Decimal :=
  if x.isZero then ⟨0, 0⟩
  else
    ((List.range 24).findSome? fun step : Nat => x.gridPoint? tie (x.decimalCeiling - step)).getD
      ⟨x.units * Nat.pow 5 unitExponent, -unitExponent⟩

/-! ## Plain notation -/

/-- Digits with the point put in place, never an exponent. -/
def Decimal.plain (decimal : Decimal) : List Char :=
  let digits := Nat.toDigits 10 decimal.digits
  if 0 ≤ decimal.exponent then
    digits ++ List.replicate decimal.exponent.toNat '0'
  else
    let places := (-decimal.exponent).toNat
    if places < digits.length then
      digits.take (digits.length - places) ++ '.' :: digits.drop (digits.length - places)
    else
      '0' :: '.' :: (List.replicate (places - digits.length) '0' ++ digits)

/-- A real in plain notation: no exponent, no point when there is no fraction, and a sign on
minus zero. -/
def plain : Binary64 → String
  | .nan => "NaN"
  | .infinite negative => if negative then "-inf" else "inf"
  | x@(.finite negative ..) =>
      String.ofList ((if negative then ['-'] else []) ++ (x.shortest .away).plain)

instance : ToString Binary64 := ⟨plain⟩

end RecordSql.Binary64
