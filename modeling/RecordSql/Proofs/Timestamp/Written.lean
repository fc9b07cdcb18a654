import RecordSql.Proofs.Text.Characters
import RecordSql.Proofs.Timestamp.Calendar
import RecordSql.Timestamp.Parser
import RecordSql.Timestamp.Printer

/-!
# The stored text of a timestamp

With six digits of a second, an instant of the years 0 to 9999 outside leap seconds is written with
a fixed number of digits in each place.  So the text is read back to the instant in whole
microseconds, and the order of texts is the order in time.
-/

namespace RecordSql.Timestamp

/-- An instant whose year has four digits, and which is no leap second. -/
structure Ordinary (t : Timestamp) : Prop where
  year_nonneg : 0 ≤ t.date.year
  year_le : t.date.year ≤ 9999
  nanos_lt : t.nanos < 1000000000

/-- The last whole microsecond that is not after an instant. -/
def inMicros (t : Timestamp) : Timestamp :=
  ⟨t.seconds, t.nanos / 1000 * 1000, by have := t.nanos_lt; omega⟩

/-- Nothing below a microsecond is written. -/
theorem text_inMicros {t : Timestamp} (h : t.Ordinary) :
    t.inMicros.text .micros = t.text .micros := by
  have hnanos := h.nanos_lt
  have hsecond : t.nanos / 1000 * 1000 / 1000000000 = t.nanos / 1000000000 := by omega
  have hmicros : t.nanos / 1000 * 1000 % 1000000000 / 1000 = t.nanos % 1000000000 / 1000 := by
    omega
  simp only [text, chars, date, secondOfDay, timeChars, fractionChars, inMicros, hsecond, hmicros]

/-! ## Numbers of a fixed width -/

section Padded

variable {width value : Nat} (hvalue : value < 10 ^ width)

theorem isDigit_of_mem_padded {c : Char} (h : c ∈ padded width value) : c.isDigit = true := by
  rcases List.mem_append.mp h with hzero | hdigit
  · rw [List.eq_of_mem_replicate hzero]
    decide
  · exact Nat.isDigit_of_mem_toDigits (by decide) (by decide) hdigit

theorem digitsValue_padded : Text.digitsValue (padded width value) = value := by
  rw [padded, List.leftpad, Text.digitsValue, Nat.ofDigitChars_append,
    Nat.ofDigitChars_replicate_zero, Nat.mul_zero, Nat.ofDigitChars_ten_toDigits]

include hvalue

theorem length_padded (hwidth : 0 < width) : (padded width value).length = width := by
  have := (Nat.length_toDigits_le_iff (b := 10) (by decide) hwidth).mpr hvalue
  rw [padded, List.leftpad, List.length_append, List.length_replicate]
  omega

/-- Padded digits are read back. -/
theorem takeDigits_padded (hwidth : 0 < width) (rest : List Char) :
    takeDigits width (padded width value ++ rest) = .ok (value, rest) := by
  have hlength := length_padded hvalue hwidth
  have hdigits : (padded width value).all Char.isDigit = true :=
    List.all_eq_true.mpr fun _ => isDigit_of_mem_padded
  have htake : (padded width value ++ rest).take width = padded width value :=
    List.take_left' hlength
  have hdrop : (padded width value ++ rest).drop width = rest := List.drop_left' hlength
  simp only [takeDigits, htake, hdrop, hlength, hdigits, digitsValue_padded, decide_true,
    Bool.and_self, if_true]

/-- Padded digits are ordered as the numbers, and after equal ones the rest decides. -/
theorem compare_padded {value' : Nat} (hvalue' : value' < 10 ^ width) (hwidth : 0 < width)
    (rest rest' : List Char) :
    Ord.compare (padded width value ++ rest) (padded width value' ++ rest') =
      (Ord.compare value value').then (Ord.compare rest rest') := by
  have hlength : (padded width value).length = (padded width value').length := by
    rw [length_padded hvalue hwidth, length_padded hvalue' hwidth]
  rw [Text.compare_append hlength, Text.compare_digits hlength (fun _ => isDigit_of_mem_padded)
    (fun _ => isDigit_of_mem_padded), digitsValue_padded, digitsValue_padded]

end Padded

/-! ## The places of an instant -/

theorem secondOfDay_lt (t : Timestamp) : t.secondOfDay < 86400 := by
  unfold secondOfDay
  omega

theorem isValid_date (t : Timestamp) : t.date.isValid = true :=
  Date.isValid_ofDays _

theorem month_lt (t : Timestamp) : t.date.month < 10 ^ 2 := by
  have := Date.month_of_isValid t.isValid_date
  omega

theorem day_lt (t : Timestamp) : t.date.day < 10 ^ 2 := by
  have hvalid := t.isValid_date
  have hlength : Date.daysInMonth t.date.year t.date.month ≤ 31 := by
    unfold Date.daysInMonth
    split <;> (try split) <;> omega
  simp only [Date.isValid, Bool.and_eq_true, decide_eq_true_eq] at hvalid
  omega

/-- The date and the second of the day make up the seconds. -/
theorem seconds_eq (t : Timestamp) : t.seconds = 86400 * (t.seconds / 86400) + t.secondOfDay := by
  unfold secondOfDay
  omega

/-- What is written of an ordinary instant, place by place. -/
theorem chars_micros {t : Timestamp} (h : t.Ordinary) :
    t.chars .micros =
      padded 4 t.date.year.toNat ++ '-' :: (padded 2 t.date.month ++ '-' ::
        (padded 2 t.date.day ++ 'T' :: (padded 2 (t.secondOfDay / 3600) ++ ':' ::
          (padded 2 (t.secondOfDay / 60 % 60) ++ ':' :: (padded 2 (t.secondOfDay % 60) ++
            '.' :: (padded 6 (t.nanos / 1000) ++ ['Z'])))))) := by
  have hyear : (decide (0 ≤ t.date.year) && decide (t.date.year ≤ 9999)) = true := by
    simp [h.year_nonneg, h.year_le]
  have hsecond : t.nanos / 1000000000 = 0 := Nat.div_eq_of_lt h.nanos_lt
  have hnanos : t.nanos % 1000000000 = t.nanos := Nat.mod_eq_of_lt h.nanos_lt
  simp only [chars, dateChars, yearChars, hyear, if_true, timeChars, fractionChars, hsecond, hnanos,
    Nat.add_zero, List.append_assoc, List.cons_append]

/-! ## Reading back -/

theorem takeChar_cons (c : Char) (rest : List Char) : takeChar c (c :: rest) = .ok rest := by
  simp [takeChar]

theorem takeSeparator_cons (rest : List Char) : takeSeparator ('T' :: rest) = .ok rest := rfl

/-- The digits after a point, up to the sign of universal time. -/
theorem takeFraction_padded {micros : Nat} (h : micros < 10 ^ 6) :
    takeFraction ('.' :: (padded 6 micros ++ ['Z'])) = .ok (micros * 1000, ['Z']) := by
  have hlength := length_padded h (by decide)
  have hdigits (c : Char) (hc : c ∈ padded 6 micros) : c.isDigit = true :=
    isDigit_of_mem_padded hc
  have htake : (padded 6 micros ++ ['Z']).takeWhile Char.isDigit = padded 6 micros := by
    rw [List.takeWhile_append_of_pos hdigits]
    simp
  have hdrop : (padded 6 micros ++ ['Z']).dropWhile Char.isDigit = ['Z'] := by
    rw [List.dropWhile_append_of_pos hdigits]
    simp
  have hkept : (padded 6 micros).take 9 = padded 6 micros := by
    rw [List.take_of_length_le]
    omega
  have hsome : (padded 6 micros).isEmpty = false := by
    rw [List.isEmpty_eq_false_iff, ← List.length_pos_iff]
    omega
  simp only [takeFraction, htake, hdrop, hkept, hsome, hlength, digitsValue_padded]
  simp

theorem takeDate_padded {date : Date} {year : Nat} (hvalid : date.isValid = true)
    (hyear : date.year = year) (hfour : year < 10 ^ 4) (hmonth : date.month < 10 ^ 2)
    (hday : date.day < 10 ^ 2) (rest : List Char) :
    takeDate (padded 4 year ++ '-' :: (padded 2 date.month ++ '-' ::
      (padded 2 date.day ++ rest))) = .ok (date, rest) := by
  have hdate : (⟨year, date.month, date.day⟩ : Date) = date := by rw [← hyear]
  simp only [takeDate, takeDigits_padded hfour (by decide), takeDigits_padded hmonth (by decide),
    takeDigits_padded hday (by decide), takeChar_cons, bind, Except.bind, hdate, hvalid, if_true,
    pure, Except.pure]

theorem takeClock_padded {hour minute second micros : Nat} (hhour : hour ≤ 23)
    (hminute : minute ≤ 59) (hsecond : second ≤ 59) (hmicros : micros < 10 ^ 6) :
    takeClock (padded 2 hour ++ ':' :: (padded 2 minute ++ ':' ::
      (padded 2 second ++ '.' :: (padded 6 micros ++ ['Z'])))) =
        .ok (⟨hour, minute, second, micros * 1000⟩, ['Z']) := by
  have hvalid : (Clock.mk hour minute second (micros * 1000)).isValid = true := by
    simp only [Clock.isValid, Bool.and_eq_true, decide_eq_true_eq]
    omega
  simp only [takeClock, takeDigits_padded (show hour < 10 ^ 2 by omega) (by decide),
    takeDigits_padded (show minute < 10 ^ 2 by omega) (by decide),
    takeDigits_padded (show second < 10 ^ 2 by omega) (by decide), takeChar_cons,
    takeFraction_padded hmicros, bind, Except.bind, hvalid, if_true, pure, Except.pure]

/-- A date and a clock in universal time make the instant. -/
theorem ofLocal_places (t : Timestamp) (h : t.Ordinary) :
    ofLocal t.date ⟨t.secondOfDay / 3600, t.secondOfDay / 60 % 60, t.secondOfDay % 60,
      t.nanos / 1000 * 1000⟩ 0 = .ok t.inMicros := by
  have hday : t.date.toDays = t.seconds / 86400 := Date.toDays_ofDays _
  have hseconds := t.seconds_eq
  have hnanos := h.nanos_lt
  have hlast : min (t.secondOfDay % 60) 59 = t.secondOfDay % 60 := by omega
  have hleap : t.secondOfDay % 60 ≠ 60 := by omega
  have hrange : t.nanos / 1000 * 1000 < 2000000000 := by omega
  have hsum : t.seconds / 86400 * 86400 + ((t.secondOfDay / 3600 * 3600 +
      t.secondOfDay / 60 % 60 * 60 + t.secondOfDay % 60 : Nat) : Int) - 0 = t.seconds := by
    omega
  simp only [ofLocal, hday, hlast, hleap, if_false, hsum, ofParts?, hrange, dif_pos, inMicros]

/-- All bounds of the places that are written. -/
theorem places_lt {t : Timestamp} (h : t.Ordinary) :
    t.date.year.toNat < 10 ^ 4 ∧ t.date.month < 10 ^ 2 ∧ t.date.day < 10 ^ 2 ∧
      t.secondOfDay / 3600 < 10 ^ 2 ∧ t.secondOfDay / 60 % 60 < 10 ^ 2 ∧
      t.secondOfDay % 60 < 10 ^ 2 ∧ t.nanos / 1000 < 10 ^ 6 := by
  have hyear := h.year_le
  have hclock := t.secondOfDay_lt
  have hnanos := h.nanos_lt
  exact ⟨by omega, t.month_lt, t.day_lt, by omega, by omega, by omega, by omega⟩

/-- The stored text of an instant is read back, in whole microseconds. -/
theorem read_text {t : Timestamp} (h : t.Ordinary) : read (t.text .micros) = .ok t.inMicros := by
  have hsize : ¬ (t.text .micros).utf8ByteSize < 19 := by
    have hlength := Text.length_le_byteCount (t.chars .micros)
    have hplaces : (t.chars .micros).length = 27 := by
      obtain ⟨hyear, hmonth, hday, hhour, hminute, hsecond, hmicros⟩ := places_lt h
      simp only [chars_micros h, List.length_append, List.length_cons, List.length_nil,
        length_padded hyear (by decide), length_padded hmonth (by decide),
        length_padded hday (by decide), length_padded hhour (by decide),
        length_padded hminute (by decide), length_padded hsecond (by decide),
        length_padded hmicros (by decide)]
    rw [text, Text.utf8ByteSize_ofList]
    omega
  have hyear : t.date.year = t.date.year.toNat := (Int.toNat_of_nonneg h.year_nonneg).symm
  have hfour : t.date.year.toNat < 10 ^ 4 := by
    have := h.year_le
    omega
  have hclock := t.secondOfDay_lt
  have hnanos := h.nanos_lt
  have hdate := takeDate_padded t.isValid_date hyear hfour t.month_lt t.day_lt
  have htime := takeClock_padded (show t.secondOfDay / 3600 ≤ 23 by omega)
    (show t.secondOfDay / 60 % 60 ≤ 59 by omega) (show t.secondOfDay % 60 ≤ 59 by omega)
    (show t.nanos / 1000 < 10 ^ 6 by omega)
  have hoffset : takeOffset ['Z'] = .ok (0, []) := rfl
  have hchars : (t.text .micros).toList = t.chars .micros := String.toList_ofList
  unfold read
  rw [if_neg hsize]
  simp only [hchars, chars_micros h, hdate, takeSeparator_cons, htime, hoffset, ofLocal_places t h,
    bind, Except.bind]
  rfl

/-! ## Order -/

/-- The second of a day is ordered as the hour, the minute and the second that are written. -/
theorem compare_clock (m n : Nat) :
    Ord.compare m n = (Ord.compare (m / 3600) (n / 3600)).then
      ((Ord.compare (m / 60 % 60) (n / 60 % 60)).then (Ord.compare (m % 60) (n % 60))) := by
  rw [compare_div_mod_nat (show 0 < 60 by decide) m n,
    compare_div_mod_nat (show 0 < 60 by decide) (m / 60) (n / 60), Nat.div_div_eq_div_mul,
    Nat.div_div_eq_div_mul, Ordering.then_assoc]

/-- Instants are ordered by their dates, then by the second of the day. -/
theorem compare_seconds (a b : Timestamp) :
    Ord.compare a.seconds b.seconds =
      (a.date.compare b.date).then (Ord.compare a.secondOfDay b.secondOfDay) := by
  rw [compare_div_mod (show 0 < 86400 by decide), date, date, Date.compare_ofDays, secondOfDay,
    secondOfDay, ← compare_natCast, Int.toNat_of_nonneg (by omega),
    Int.toNat_of_nonneg (by omega)]

/-- Stored texts are ordered as the instants are in time, in whole microseconds. -/
theorem compare_text {a b : Timestamp} (ha : a.Ordinary) (hb : b.Ordinary) :
    Ord.compare (a.text .micros) (b.text .micros) = a.inMicros.compare b.inMicros := by
  obtain ⟨hyear, hmonth, hday, hhour, hminute, hsecond, hmicros⟩ := places_lt ha
  obtain ⟨hyear', hmonth', hday', hhour', hminute', hsecond', hmicros'⟩ := places_lt hb
  have hyears : Ord.compare a.date.year.toNat b.date.year.toNat =
      Ord.compare a.date.year b.date.year := by
    rw [← compare_natCast, Int.toNat_of_nonneg ha.year_nonneg, Int.toNat_of_nonneg hb.year_nonneg]
  have hnanos : Ord.compare (a.nanos / 1000 * 1000) (b.nanos / 1000 * 1000) =
      Ord.compare (a.nanos / 1000) (b.nanos / 1000) := by
    rw [compare_div_mod_nat (show 0 < 1000 by decide)]
    simp
  have htimes : a.inMicros.compare b.inMicros =
      (Ord.compare a.seconds b.seconds).then (Ord.compare (a.nanos / 1000) (b.nanos / 1000)) := by
    rw [← hnanos]
    rfl
  rw [text, text, Text.compare_ofList, chars_micros ha, chars_micros hb,
    compare_padded hyear hyear' (by decide), Text.compare_cons_self,
    compare_padded hmonth hmonth' (by decide), Text.compare_cons_self,
    compare_padded hday hday' (by decide), Text.compare_cons_self,
    compare_padded hhour hhour' (by decide), Text.compare_cons_self,
    compare_padded hminute hminute' (by decide), Text.compare_cons_self,
    compare_padded hsecond hsecond' (by decide), Text.compare_cons_self,
    compare_padded hmicros hmicros' (by decide), hyears, htimes, compare_seconds,
    compare_clock a.secondOfDay, Date.compare]
  simp only [Ordering.then_assoc]
  simp

end RecordSql.Timestamp
