import RecordSql.Binary64.Basic

/-!
# Rounding what needs no rounding

Rounding keeps a magnitude that the format already has, and every magnitude is written in one way
only.  So a real of the 64-bit format is the real nearest to its own units, and one that the 32-bit
format has too is not changed by passing through it.
-/

namespace RecordSql.Binary64

namespace Width

/-- The magnitudes of a format: mantissas of its bits, shifted as far as it shifts. -/
def Holds (width : Width) (units : Nat) : Prop :=
  ∃ mantissa shift,
    mantissa < 1 <<< width.precision ∧ shift ≤ width.maxShift ∧ units = mantissa <<< shift

/-- The one way a magnitude is written: the mantissa has all bits, or nothing is shifted. -/
def Canonical (width : Width) (mantissa shift : Nat) : Prop :=
  mantissa < 1 <<< width.precision ∧ shift ≤ width.maxShift ∧
    (1 <<< (width.precision - 1) ≤ mantissa ∨ shift = 0)

/-- Of two ways to write a magnitude, the one with more shifts has too few bits. -/
theorem Canonical.shift_le {width : Width} (hprecision : 0 < width.precision)
    {mantissa shift mantissa' shift' : Nat} (h : width.Canonical mantissa shift)
    (h' : width.Canonical mantissa' shift')
    (heq : mantissa <<< shift = mantissa' <<< shift') : shift' ≤ shift := by
  obtain ⟨hlt, -, -⟩ := h
  obtain ⟨-, -, hfull⟩ := h'
  apply Nat.le_of_not_lt
  intro hless
  obtain ⟨more, rfl⟩ := Nat.exists_eq_add_of_lt hless
  have hmantissa : mantissa = mantissa' * 2 ^ more * 2 := by
    rw [Nat.shiftLeft_eq, Nat.shiftLeft_eq, Nat.add_assoc, Nat.pow_add, Nat.pow_succ,
      Nat.mul_comm (2 ^ shift), ← Nat.mul_assoc, ← Nat.mul_assoc] at heq
    exact Nat.eq_of_mul_eq_mul_right (Nat.two_pow_pos shift) heq
  have hbits : 2 ^ (width.precision - 1) ≤ mantissa' := by
    rw [Nat.one_shiftLeft] at hfull
    omega
  have hgrown : mantissa' ≤ mantissa' * 2 ^ more := Nat.le_mul_of_pos_right _ (Nat.two_pow_pos more)
  have htop : 2 ^ width.precision = 2 ^ (width.precision - 1) * 2 := by
    rw [← Nat.pow_succ]
    congr 1
    omega
  rw [Nat.one_shiftLeft] at hlt
  omega

/-- A magnitude is written in one way. -/
theorem Canonical.unique {width : Width} (hprecision : 0 < width.precision)
    {mantissa shift mantissa' shift' : Nat} (h : width.Canonical mantissa shift)
    (h' : width.Canonical mantissa' shift')
    (heq : mantissa <<< shift = mantissa' <<< shift') : mantissa = mantissa' ∧ shift = shift' := by
  have hshift : shift = shift' :=
    Nat.le_antisymm (h'.shift_le hprecision h heq.symm) (h.shift_le hprecision h' heq)
  subst hshift
  rw [Nat.shiftLeft_eq, Nat.shiftLeft_eq] at heq
  exact ⟨Nat.eq_of_mul_eq_mul_right (Nat.two_pow_pos shift) heq, rfl⟩

/-- How far rounding to the bits of a format shifts. -/
def shiftOf (width : Width) (units : Nat) : Nat :=
  units.log2 + 1 - width.precision

/-- What is shifted already is not shifted further. -/
theorem shiftOf_le {width : Width} (hprecision : 0 < width.precision) {mantissa : Nat}
    (hlt : mantissa < 1 <<< width.precision) (shift : Nat) :
    width.shiftOf (mantissa <<< shift) ≤ shift := by
  rw [Nat.one_shiftLeft] at hlt
  rw [Nat.shiftLeft_eq, shiftOf]
  by_cases hzero : mantissa = 0
  · subst hzero
    rw [Nat.zero_mul, Nat.log2_zero]
    omega
  · have hpos : mantissa * 2 ^ shift ≠ 0 :=
      Nat.mul_ne_zero hzero (Nat.ne_of_gt (Nat.two_pow_pos shift))
    have hbound : mantissa * 2 ^ shift < 2 ^ (width.precision + shift) := by
      rw [Nat.pow_add]
      exact Nat.mul_lt_mul_of_pos_right hlt (Nat.two_pow_pos shift)
    have := (Nat.log2_lt hpos).mpr hbound
    omega

/-- What is left of a magnitude after that shift is as many bits as the format keeps. -/
theorem canonical_shiftOf {width : Width} (hprecision : 0 < width.precision)
    {mantissa units : Nat} (hmax : width.shiftOf units ≤ width.maxShift)
    (hunits : units = mantissa <<< width.shiftOf units) :
    width.Canonical mantissa (width.shiftOf units) := by
  generalize hshift : width.shiftOf units = shift at hmax hunits
  rw [Nat.shiftLeft_eq] at hunits
  rw [shiftOf] at hshift
  refine ⟨?_, hmax, ?_⟩
  · have hbits : units < 2 ^ (width.precision + shift) :=
      Nat.lt_of_lt_of_le Nat.lt_log2_self (Nat.pow_le_pow_right (by decide) (by omega))
    rw [hunits, Nat.pow_add] at hbits
    rw [Nat.one_shiftLeft]
    exact Nat.lt_of_mul_lt_mul_right hbits
  · by_cases hzero : shift = 0
    · exact Or.inr hzero
    · have hpositive : units ≠ 0 := by
        intro hnone
        rw [hnone, Nat.log2_zero] at hshift
        omega
      have hbits : 2 ^ (width.precision - 1 + shift) ≤ units :=
        Nat.le_trans (Nat.pow_le_pow_right (by decide) (by omega)) (Nat.log2_self_le hpositive)
      rw [hunits, Nat.pow_add] at hbits
      rw [Nat.one_shiftLeft]
      exact Or.inl (Nat.le_of_mul_le_mul_right hbits (Nat.two_pow_pos shift))

/-- A magnitude of the format can be written in the one way. -/
theorem Holds.exists_canonical {width : Width} (hprecision : 0 < width.precision) {units : Nat}
    (h : width.Holds units) :
    ∃ mantissa, width.Canonical mantissa (width.shiftOf units) ∧
      units = mantissa <<< width.shiftOf units := by
  obtain ⟨written, places, hlt, hmax, hunits⟩ := h
  have hle : width.shiftOf units ≤ places := by
    rw [hunits]
    exact shiftOf_le hprecision hlt places
  have hsplit : units = written <<< (places - width.shiftOf units) <<< width.shiftOf units := by
    rw [← Nat.shiftLeft_add, Nat.sub_add_cancel hle]
    exact hunits
  exact ⟨_, canonical_shiftOf hprecision (Nat.le_trans hle hmax) hsplit, hsplit⟩

end Width

/-- A quotient that is a whole number is not rounded. -/
theorem nearestQuotient_mul {denominator : Nat} (hpos : 0 < denominator) (quotient : Nat) :
    nearestQuotient (quotient * denominator) denominator = quotient := by
  simp [nearestQuotient, Nat.mul_div_cancel _ hpos, hpos]

/-- Rounding writes a magnitude of the format in the one way. -/
theorem Width.exists_round_of_holds {width : Width} (hprecision : 0 < width.precision)
    {units denominator : Nat} (hunits : width.Holds units) (hpos : 0 < denominator) :
    ∃ mantissa shift, width.Canonical mantissa shift ∧ mantissa <<< shift = units ∧
      width.round (units * denominator) denominator = some (mantissa, shift) := by
  obtain ⟨mantissa, hcanonical, hsplit⟩ := hunits.exists_canonical hprecision
  refine ⟨mantissa, width.shiftOf units, hcanonical, hsplit.symm, ?_⟩
  have hquotient : units * denominator / denominator = units := Nat.mul_div_cancel _ hpos
  have hshift : units.log2 + 1 - width.precision = width.shiftOf units := rfl
  have hmultiple :
      units * denominator = mantissa * (denominator <<< width.shiftOf units) := by
    rw [Nat.shiftLeft_eq, Nat.mul_comm denominator, ← Nat.mul_assoc, ← Nat.shiftLeft_eq,
      ← hsplit]
  have hunit : 0 < denominator <<< width.shiftOf units := by
    rw [Nat.shiftLeft_eq]
    exact Nat.mul_pos hpos (Nat.two_pow_pos _)
  have hnearest :
      nearestQuotient (units * denominator) (denominator <<< width.shiftOf units) = mantissa := by
    rw [hmultiple]
    exact nearestQuotient_mul hunit mantissa
  have hbelow : mantissa ≠ 1 <<< width.precision := Nat.ne_of_lt hcanonical.1
  simp only [round, hquotient, hshift, hnearest, hbelow, if_false]
  exact if_pos hcanonical.2.1

/-- A real is the one nearest to its own units. -/
theorem ofQuotient_units (negative : Bool) {mantissa shift : Nat}
    (canonical : Canonical mantissa shift) :
    ofQuotient negative (mantissa <<< shift) 1 = .finite negative mantissa shift canonical := by
  have hwritten : Width.double.Canonical mantissa shift := canonical
  have hholds : Width.double.Holds (mantissa <<< shift) :=
    ⟨mantissa, shift, canonical.1, canonical.2.1, rfl⟩
  obtain ⟨mantissa', shift', hcanonical, hsame, hround⟩ :=
    Width.exists_round_of_holds (by decide) hholds Nat.one_pos
  -- Rounding finds some way to write the magnitude, and the real's own is the only one.
  obtain ⟨rfl, rfl⟩ := hcanonical.unique (by decide) hwritten hsame
  rw [Nat.mul_one] at hround
  unfold ofQuotient
  rw [hround]
  exact dif_pos canonical

/-- A real that the 32-bit format has too. -/
def IsSingle (x : Binary64) : Prop :=
  x.isFinite = true → ∃ units, Width.single.Holds units ∧ x.units = units <<< (unitExponent - 149)

/-- Passing through the 32-bit format keeps what it has. -/
theorem toSingle_of_isSingle {x : Binary64} (h : x.IsSingle) : x.toSingle = x := by
  cases x with
  | nan => rfl
  | infinite negative => rfl
  | finite negative mantissa shift canonical =>
      obtain ⟨units, hholds, hunits⟩ := h rfl
      obtain ⟨rounded, places, -, hsame, hround⟩ :=
        Width.exists_round_of_holds (by decide) hholds
          (show 0 < 1 <<< (unitExponent - 149) by decide)
      have hvalue : mantissa <<< shift = units * 1 <<< (unitExponent - 149) := by
        rw [Nat.one_shiftLeft, ← Nat.shiftLeft_eq]
        exact hunits
      have hback : rounded <<< (places + (unitExponent - 149)) = mantissa <<< shift := by
        rw [Nat.shiftLeft_add, hsame]
        exact hunits.symm
      unfold toSingle
      simp only [Binary64.units]
      rw [hvalue]
      simp only [hround]
      rw [hback]
      exact ofQuotient_units negative canonical

end RecordSql.Binary64
