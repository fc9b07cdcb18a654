import Mathlib.Algebra.Group.Int.Defs
import Mathlib.Algebra.Group.Nat.Defs
import Mathlib.Data.Int.Order.Basic
import RecordSql.Store.Buckets

/-!
# Bucket keys

The key of an identity is its quotient by the bucket size, which is a signed number there.  Sizes
below `2 ^ 63` are positive: keys grow with the identities, and every identity has one.  Greater
sizes are negative, so keys descend, and for the greatest size the least identity has no key.
-/

namespace RecordSql

namespace BucketSize

variable {size : BucketSize} {a b : Int64}

/-! ## Divisors -/

/-- A size that is positive as a signed number. -/
def IsSigned (size : BucketSize) : Prop :=
  size.count.toNat < 2 ^ 63

/-- How many identities share a bucket, for a size that is a negative number. -/
def width (size : BucketSize) : Int :=
  2 ^ 64 - size.count.toNat

theorem isSigned_atLeastOne_iff (count : UInt64) :
    (atLeastOne count).IsSigned ↔ count.toNat < 2 ^ 63 := by
  unfold atLeastOne IsSigned
  split
  · next h =>
    subst h
    decide
  · rfl

theorem IsSigned.divisor_pos (h : size.IsSigned) : 0 < size.divisor := by
  have hne : size.count.toNat ≠ 0 := fun hzero => size.count_ne (UInt64.toNat_inj.mp hzero)
  have hsigned : size.divisor = size.count.toNat := by
    rw [divisor, Int64.toInt, UInt64.toBitVec_toInt64, BitVec.toInt_eq_toNat_of_lt]
    · rfl
    · have := h
      unfold IsSigned at this
      rw [UInt64.toNat_toBitVec]
      omega
  omega

theorem width_pos (size : BucketSize) : 0 < size.width := by
  have := size.count.toNat_lt
  unfold width
  omega

theorem divisor_of_not_isSigned (h : ¬size.IsSigned) : size.divisor = -size.width := by
  have hnat : size.count.toInt64.toBitVec.toNat = size.count.toNat := rfl
  unfold IsSigned at h
  rw [divisor, Int64.toInt, BitVec.toInt_eq_toNat_cond, hnat, if_neg (by omega), width]
  omega

theorem divisor_ne_zero (size : BucketSize) : size.divisor ≠ 0 := by
  by_cases h : size.IsSigned
  · exact (Int.ne_of_lt h.divisor_pos).symm
  · have := size.width_pos
    rw [divisor_of_not_isSigned h]
    omega

/-- Quotients descend for a size that is a negative number. -/
theorem quotient_of_not_isSigned (h : ¬size.IsSigned) (id : Int64) :
    size.quotient id = -(id.toInt / size.width) := by
  rw [quotient, divisor_of_not_isSigned h, Int.ediv_neg]

/-! ## The order of identities by their keys -/

/-- One identity comes before another: its bucket does, or they share one and it is smaller. -/
def Precedes (size : BucketSize) (a b : Int64) : Prop :=
  size.quotient a < size.quotient b ∨ size.quotient a = size.quotient b ∧ a < b

theorem Precedes.ne (h : size.Precedes a b) : a ≠ b := by
  rintro rfl
  rcases h with hquotient | ⟨-, hlt⟩
  · exact Int.lt_irrefl _ hquotient
  · exact Int64.lt_irrefl hlt

/-- An identity of a smaller quotient is smaller. -/
theorem IsSigned.lt_of_quotient_lt (h : size.IsSigned)
    (hquotient : size.quotient a < size.quotient b) : a < b := by
  rw [Int64.lt_iff_toInt_lt]
  by_contra hle
  have := Int.ediv_le_ediv h.divisor_pos (Int.not_lt.mp hle)
  unfold quotient at hquotient
  omega

theorem IsSigned.lt_of_precedes (h : size.IsSigned) (hprecedes : size.Precedes a b) : a < b :=
  hprecedes.elim h.lt_of_quotient_lt And.right

theorem precedes_iff_of_not_isSigned (h : ¬size.IsSigned) :
    size.Precedes a b ↔ b.toInt / size.width < a.toInt / size.width ∨
      a.toInt / size.width = b.toInt / size.width ∧ a < b := by
  unfold Precedes
  rw [quotient_of_not_isSigned h, quotient_of_not_isSigned h, Int.neg_lt_neg_iff, Int.neg_inj]

/-- Where the order of rows is that of identities, these share a bucket if keys descend. -/
theorem Precedes.lt_iff (h : size.Precedes a b) :
    a < b ↔ size.IsSigned ∨ size.quotient a = size.quotient b := by
  by_cases hsigned : size.IsSigned
  · simp [hsigned, hsigned.lt_of_precedes h]
  · rw [precedes_iff_of_not_isSigned hsigned] at h
    rw [quotient_of_not_isSigned hsigned, quotient_of_not_isSigned hsigned, Int.neg_inj]
    constructor
    · intro hlt
      have hle := Int.ediv_le_ediv size.width_pos (Int.le_of_lt (Int64.lt_iff_toInt_lt.mp hlt))
      exact Or.inr (h.elim (fun hback => absurd hle (by omega)) And.left)
    · rintro (hsigned' | hsame)
      · contradiction
      · exact h.elim (fun hback => absurd hsame (by omega)) And.right

/-! ## Identities without a key -/

/-- A key is there where 64 bits can hold the quotient. -/
theorem exists_key?_iff (size : BucketSize) (id : Int64) :
    (∃ key, size.key? id = some key) ↔
      -2 ^ 63 ≤ size.quotient id ∧ size.quotient id < 2 ^ 63 := by
  constructor
  · rintro ⟨key, hkey⟩
    rw [← key?_eq_some_iff.mp hkey]
    exact ⟨key.le_toInt, key.toInt_lt⟩
  · rintro ⟨hlow, hhigh⟩
    exact ⟨.ofInt (size.quotient id), key?_eq_some_iff.mpr (Int64.toInt_ofInt_of_le hlow hhigh)⟩

/-- Every identity has a key, but for the least one where the size is minus one. -/
theorem key?_eq_none_iff (size : BucketSize) (id : Int64) :
    size.key? id = none ↔ size.count.toNat = 2 ^ 64 - 1 ∧ id = Int64.minValue := by
  have hlow := Int64.le_toInt id
  have hhigh := Int64.toInt_lt id
  have hleast : id = Int64.minValue ↔ id.toInt = -2 ^ 63 := Int64.toInt_inj.symm
  have hsome : ¬size.key? id = none ↔ ∃ key, size.key? id = some key := Option.ne_none_iff_exists'
  rw [hleast, ← not_iff_not, hsome, exists_key?_iff]
  by_cases hsigned : size.IsSigned
  · have hpos := hsigned.divisor_pos
    rw [quotient, Int.le_ediv_iff_mul_le hpos, Int.ediv_lt_iff_lt_mul hpos]
    unfold IsSigned at hsigned
    omega
  · have hpos := size.width_pos
    have hwidth : size.width = 2 ^ 64 - size.count.toNat := rfl
    -- The quotient by the width has the opposite bounds, so the upper one is now exact.
    have hbounds (q : Int) : -2 ^ 63 ≤ -q ∧ -q < 2 ^ 63 ↔ -2 ^ 63 + 1 ≤ q ∧ q < 2 ^ 63 + 1 := by
      omega
    rw [quotient_of_not_isSigned hsigned, hbounds, Int.le_ediv_iff_mul_le hpos,
      Int.ediv_lt_iff_lt_mul hpos]
    unfold IsSigned at hsigned
    omega

/-- So a positive size has a key for every identity. -/
theorem IsSigned.key?_ne_none (h : size.IsSigned) (id : Int64) : size.key? id ≠ none := by
  rw [Ne, key?_eq_none_iff]
  unfold IsSigned at h
  omega

theorem IsSigned.exists_key (h : size.IsSigned) (id : Int64) : ∃ key, size.key? id = some key :=
  Option.ne_none_iff_exists'.mp (h.key?_ne_none id)

end BucketSize

end RecordSql
