import Mathlib.Order.Compare
import Mathlib.Tactic.Linarith
import RecordSql.Text.Digits

/-!
# Texts by their characters

The size and the order of a text, as its characters determine them.  Texts are compared character
by character from the left, so parts of equal length can be compared one after the other, and runs
of equally many digits compare as the numbers that they spell.
-/

namespace RecordSql

/-! ## Numbers digit by digit -/

theorem compare_natCast (m n : Nat) : compare (m : Int) (n : Int) = compare m n := by
  have hint : compare (m : Int) (n : Int) = compareOfLessAndEq (m : Int) (n : Int) := rfl
  have hnat : compare m n = compareOfLessAndEq m n := rfl
  rw [hint, hnat]
  simp only [compareOfLessAndEq, Int.ofNat_lt, Int.natCast_inj]

/-- Numbers of two digits in some base are ordered digit by digit. -/
theorem compare_digit_pair {base q r q' r' : Int} (hr : 0 ≤ r ∧ r < base)
    (hr' : 0 ≤ r' ∧ r' < base) :
    compare (base * q + r) (base * q' + r') = (compare q q').then (compare r r') := by
  rcases lt_trichotomy q q' with h | rfl | h
  · have hlt : base * q + r < base * q' + r' := by nlinarith
    rw [compare_lt_iff_lt.mpr h, compare_lt_iff_lt.mpr hlt]
    rfl
  · have hint (m n : Int) : compare m n = compareOfLessAndEq m n := rfl
    rw [compare_eq_iff_eq.mpr (rfl : q = q), Ordering.eq_then, hint, hint]
    simp [compareOfLessAndEq]
  · have hgt : base * q' + r' < base * q + r := by nlinarith
    rw [compare_gt_iff_gt.mpr h, compare_gt_iff_gt.mpr hgt]
    rfl

/-- A number is ordered as its quotient and then its remainder. -/
theorem compare_div_mod {base : Int} (hbase : 0 < base) (m n : Int) :
    compare m n = (compare (m / base) (n / base)).then (compare (m % base) (n % base)) := by
  have hmod (k : Int) : 0 ≤ k % base ∧ k % base < base :=
    ⟨Int.emod_nonneg k (by omega), Int.emod_lt_of_pos k hbase⟩
  rw [← compare_digit_pair (hmod m) (hmod n), Int.mul_ediv_add_emod, Int.mul_ediv_add_emod]

theorem compare_div_mod_nat {base : Nat} (hbase : 0 < base) (m n : Nat) :
    compare m n = (compare (m / base) (n / base)).then (compare (m % base) (n % base)) := by
  have h := compare_div_mod (Int.natCast_pos.mpr hbase) m n
  rwa [← Int.natCast_ediv, ← Int.natCast_ediv, ← Int.natCast_emod, ← Int.natCast_emod,
    compare_natCast, compare_natCast, compare_natCast] at h

namespace Text

/-! ## Size -/

theorem utf8ByteSize_ofList (text : List Char) :
    (String.ofList text).utf8ByteSize = byteCount text := by
  induction text with
  | nil => rfl
  | cons c rest ih =>
      rw [String.ofList_cons, String.utf8ByteSize_append, ih, byteCount]
      simp

theorem length_le_byteCount (text : List Char) : text.length ≤ byteCount text := by
  induction text with
  | nil => simp
  | cons c rest ih =>
      have := c.utf8Size_pos
      rw [List.length_cons, byteCount]
      omega

/-! ## Order -/

/-- Characters are ordered by their code points. -/
theorem compare_char (c d : Char) : compare c d = compare c.toNat d.toNat := by
  have hchar : compare c d = compareOfLessAndEq c d := rfl
  have hnat : compare c.toNat d.toNat = compareOfLessAndEq c.toNat d.toNat := rfl
  rw [hchar, hnat]
  simp only [compareOfLessAndEq, Char.toNat_inj]
  rfl

theorem compareOfLessAndEq_eq_compare (a b : List Char) :
    compareOfLessAndEq a b = compare a b := by
  induction a generalizing b with
  | nil => cases b <;> rfl
  | cons c a ih =>
      cases b with
      | nil => rfl
      | cons d b =>
          have hhead : compare c d = compareOfLessAndEq c d := rfl
          rw [List.compare_cons_cons, ← ih b, hhead]
          simp only [compareOfLessAndEq, List.cons_lt_cons_iff, List.cons.injEq]
          by_cases hlt : c < d
          · simp [hlt]
          · by_cases heq : c = d
            · simp [heq]
            · simp [hlt, heq]

/-- Texts are ordered as their characters. -/
theorem compare_ofList (a b : List Char) :
    compare (String.ofList a) (String.ofList b) = compare a b := by
  rw [← compareOfLessAndEq_eq_compare]
  change compareOfLessAndEq _ _ = _
  simp only [compareOfLessAndEq, String.ofList_inj]
  change (if (String.ofList a).toList < (String.ofList b).toList then _ else _) = _
  simp only [String.toList_ofList]

/-- What stands first decides the order, if it is equally long. -/
theorem compare_append {a b : List Char} (h : a.length = b.length) (a' b' : List Char) :
    compare (a ++ a') (b ++ b') = (compare a b).then (compare a' b') := by
  induction a generalizing b with
  | nil =>
      obtain rfl := List.length_eq_zero_iff.mp h.symm
      simp
  | cons c a ih =>
      cases b with
      | nil => simp at h
      | cons d b =>
          simp only [List.cons_append, List.compare_cons_cons]
          rw [ih (by simpa using h), Ordering.then_assoc]

theorem compare_cons_self (c : Char) (a b : List Char) :
    compare (c :: a) (c :: b) = compare a b := by
  rw [List.compare_cons_cons, compare_char, Nat.compare_eq_eq.mpr rfl, Ordering.eq_then]

/-! ## Digits -/

theorem digitsValue_cons (c : Char) (rest : List Char) :
    digitsValue (c :: rest) = 10 ^ rest.length * (c.toNat - '0'.toNat) + digitsValue rest := by
  rw [digitsValue, Nat.ofDigitChars_cons, Nat.ofDigitChars_eq_ofDigitChars_zero]
  simp [digitsValue]

theorem digitsValue_lt {digits : List Char} (h : ∀ c ∈ digits, c.isDigit = true) :
    digitsValue digits < 10 ^ digits.length := by
  induction digits with
  | nil => simp [digitsValue]
  | cons c rest ih =>
      have hc := Char.isDigit_iff_toNat.mp (h c List.mem_cons_self)
      have hrest := ih fun d hd => h d (List.mem_cons_of_mem c hd)
      have hdigit : c.toNat - '0'.toNat ≤ 9 := by
        have : '9'.toNat = '0'.toNat + 9 := rfl
        omega
      rw [digitsValue_cons, List.length_cons, Nat.pow_succ]
      nlinarith

/-- Digits are ordered as the numbers that they spell, if there are equally many. -/
theorem compare_digits {a b : List Char} (hlength : a.length = b.length)
    (ha : ∀ c ∈ a, c.isDigit = true) (hb : ∀ c ∈ b, c.isDigit = true) :
    compare a b = compare (digitsValue a) (digitsValue b) := by
  induction a generalizing b with
  | nil =>
      obtain rfl := List.length_eq_zero_iff.mp hlength.symm
      rfl
  | cons c a ih =>
      cases b with
      | nil => simp at hlength
      | cons d b =>
          have hrest : a.length = b.length := by simpa using hlength
          have hc := Char.isDigit_iff_toNat.mp (ha c List.mem_cons_self)
          have hd := Char.isDigit_iff_toNat.mp (hb d List.mem_cons_self)
          have ha' (e : Char) (he : e ∈ a) : e.isDigit = true := ha e (List.mem_cons_of_mem c he)
          have hb' (e : Char) (he : e ∈ b) : e.isDigit = true := hb e (List.mem_cons_of_mem d he)
          have hhead : compare c d = compare ((c.toNat - '0'.toNat : Nat) : Int)
              ((d.toNat - '0'.toNat : Nat) : Int) := by
            rw [compare_char, compare_natCast, Nat.compare_eq_ite_lt, Nat.compare_eq_ite_lt]
            grind
          have hbound {n : Nat} (h : n < 10 ^ b.length) :
              0 ≤ (n : Int) ∧ (n : Int) < 10 ^ b.length :=
            ⟨Int.natCast_nonneg n, by exact_mod_cast h⟩
          -- The head and the rest are the two digits of a number in a power of ten.
          rw [List.compare_cons_cons, ih hrest ha' hb', digitsValue_cons, digitsValue_cons,
            ← compare_natCast, ← compare_natCast, hhead, hrest]
          push_cast
          exact (compare_digit_pair (hbound (hrest ▸ digitsValue_lt ha'))
            (hbound (digitsValue_lt hb'))).symm

end Text

end RecordSql
