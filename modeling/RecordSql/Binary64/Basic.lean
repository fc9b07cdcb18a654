/-!
# Binary64 reals

A finite real is a whole number of units of `2 ^ -1074`, written as a mantissa of at most 53 bits
shifted to the left.  Comparison is exact integer arithmetic, and every other operation is exact
integer arithmetic followed by one rounding: to the nearest real, and to the even mantissa on a
tie.
-/

namespace RecordSql

/-- The one way a finite magnitude is written: the mantissa has all 53 bits, or nothing is
shifted. -/
def Binary64.Canonical (mantissa shift : Nat) : Prop :=
  mantissa < 1 <<< 53 ∧ shift ≤ 2045 ∧ (1 <<< 52 ≤ mantissa ∨ shift = 0)

instance (mantissa shift : Nat) : Decidable (Binary64.Canonical mantissa shift) :=
  inferInstanceAs (Decidable (_ ∧ _ ∧ _))

/-- A real of the binary64 format; a finite one is `± mantissa · 2 ^ shift` units. -/
inductive Binary64 where
  | nan
  | infinite (negative : Bool)
  | finite (negative : Bool) (mantissa shift : Nat)
      (canonical : Binary64.Canonical mantissa shift)
  deriving DecidableEq

namespace Binary64

/-- The number of units of the smallest positive real in one, as a power of two. -/
def unitExponent : Nat := 1074

/-- The whole number nearest to a quotient, the even one on a tie. -/
def nearestQuotient (numerator denominator : Nat) : Nat :=
  let quotient := numerator / denominator
  let twice := 2 * (numerator % denominator)
  if twice < denominator then quotient
  else if denominator < twice then quotient + 1
  else if quotient % 2 = 0 then quotient
  else quotient + 1

/-- A binary format: how many bits a mantissa keeps, and how far it can be shifted. -/
structure Width where
  precision : Nat
  maxShift : Nat

/-- Sixty-four bits: units of `2 ^ -1074`. -/
def Width.double : Width := ⟨53, 2045⟩

/-- Thirty-two bits: units of `2 ^ -149`. -/
def Width.single : Width := ⟨24, 253⟩

/-- Mantissa and shift nearest to a quotient of units; nothing when the shift is too large. -/
def Width.round (width : Width) (numerator denominator : Nat) : Option (Nat × Nat) :=
  let shift := (numerator / denominator).log2 + 1 - width.precision
  let mantissa := nearestQuotient numerator (denominator <<< shift)
  let rounded :=
    if mantissa = 1 <<< width.precision then (1 <<< (width.precision - 1), shift + 1)
    else (mantissa, shift)
  if rounded.2 ≤ width.maxShift then some rounded else none

/-- The real nearest to a quotient of units; too large a magnitude is infinite. -/
def ofQuotient (negative : Bool) (numerator denominator : Nat) : Binary64 :=
  match Width.double.round numerator denominator with
  | none => .infinite negative
  | some (mantissa, shift) =>
      if canonical : Canonical mantissa shift then
        .finite negative mantissa shift canonical
      else
        .infinite negative

/-- Zero with a sign. -/
def zero (negative : Bool) : Binary64 :=
  .finite negative 0 0 (by decide)

def isFinite : Binary64 → Bool
  | .finite .. => true
  | _ => false

def isNegative : Binary64 → Bool
  | .nan => false
  | .infinite negative => negative
  | .finite negative .. => negative

/-- The magnitude of a finite real in units. -/
def units : Binary64 → Nat
  | .finite _ mantissa shift _ => mantissa <<< shift
  | _ => 0

/-- A finite real as a signed number of units. -/
def signedUnits (x : Binary64) : Int :=
  if x.isNegative then -(x.units : Int) else (x.units : Int)

/-- Both zeros are zero. -/
def isZero : Binary64 → Bool
  | .finite _ mantissa .. => mantissa == 0
  | _ => false

/-- The real nearest to a whole number. -/
def ofInt (value : Int) : Binary64 :=
  ofQuotient (value < 0) (value.natAbs <<< unitExponent) 1

/-- The numeric order; not-a-number has no place in it, and the two zeros are equal. -/
def compare : Binary64 → Binary64 → Option Ordering
  | .nan, _ | _, .nan => none
  | .infinite a, .infinite b => some (Ord.compare b a)
  | .infinite negative, .finite .. => some (if negative then .lt else .gt)
  | .finite .., .infinite negative => some (if negative then .gt else .lt)
  | x@(.finite ..), y@(.finite ..) => some (Ord.compare x.signedUnits y.signedUnits)

/-- The nearest real of the 32-bit format, which is a real of this one too. -/
def toSingle : Binary64 → Binary64
  | x@(.finite negative ..) =>
      let gap := unitExponent - 149
      match Width.single.round x.units (1 <<< gap) with
      | none => .infinite negative
      | some (mantissa, shift) => ofQuotient negative (mantissa <<< (shift + gap)) 1
  | x => x

/-- Magnitudes as units: the rounded product. -/
def roundedProduct (a b : Nat) : Binary64 :=
  ofQuotient false (a * b) (1 <<< unitExponent)

/-- Magnitudes as units: the rounded quotient. -/
def roundedQuotient (a b : Nat) : Binary64 :=
  ofQuotient false (a <<< unitExponent) b

end Binary64

end RecordSql
