import RecordSql.Timestamp.Basic

/-!
# The calendar in both directions

A day and its date determine each other, and later days have later dates.  Both directions count
years from March: then the leap day is the last of its year, months start at fixed days of the
year, and all that varies is the length of the year.
-/

namespace RecordSql.Date

/-! ## Years that begin with March -/

/-- The year of a date when years begin with March. -/
def marchYear (date : Date) : Int :=
  if date.month ≤ 2 then date.year - 1 else date.year

/-- The month of a date, counted from March. -/
def marchMonth (date : Date) : Int :=
  (date.month + 9) % 12

/-- Days before a year that begins with March. -/
def yearStart (year : Int) : Int :=
  year * 365 + year / 4 - year / 100 + year / 400

/-- Days of such a year before a month. -/
def monthStart (month : Int) : Int :=
  (153 * month + 2) / 5

/-- The parts of a date add up to its day. -/
theorem toDays_eq (date : Date) :
    date.toDays =
      yearStart date.marchYear + monthStart date.marchMonth + date.day - 719469 := by
  unfold toDays marchMonth yearStart monthStart
  rw [← marchYear]
  dsimp only
  generalize date.marchYear = year
  omega

theorem isLeapYear_iff (year : Int) :
    isLeapYear year = true ↔ year % 4 = 0 ∧ (year % 100 ≠ 0 ∨ year % 400 = 0) := by
  simp [isLeapYear]

theorem yearStart_succ (year : Int) :
    yearStart (year + 1) = yearStart year + if isLeapYear (year + 1) then 366 else 365 := by
  by_cases hleap : isLeapYear (year + 1) = true
  · rw [if_pos hleap]
    obtain ⟨hfour, hcentury⟩ := (isLeapYear_iff _).mp hleap
    unfold yearStart
    omega
  · rw [if_neg hleap]
    rw [isLeapYear_iff] at hleap
    unfold yearStart
    omega

theorem month_of_isValid {date : Date} (h : date.isValid = true) :
    1 ≤ date.month ∧ date.month ≤ 12 := by
  obtain ⟨year, month, day⟩ := date
  simp only [isValid, Bool.and_eq_true, decide_eq_true_eq] at h
  dsimp only
  unfold daysInMonth at h
  split at h <;> omega

/-- Months fill a year that begins with March, and February has what is left of it. -/
theorem daysInMonth_eq {date : Date} (h : 1 ≤ date.month ∧ date.month ≤ 12) :
    (daysInMonth date.year date.month : Int) =
      if date.month = 2 then
        yearStart (date.marchYear + 1) - yearStart date.marchYear - monthStart date.marchMonth
      else monthStart (date.marchMonth + 1) - monthStart date.marchMonth := by
  obtain ⟨year, month, day⟩ := date
  dsimp only at h ⊢
  by_cases hfebruary : month = 2
  · subst hfebruary
    have hyear : (⟨year, 2, day⟩ : Date).marchYear = year - 1 := rfl
    have hmonth : (⟨year, 2, day⟩ : Date).marchMonth = 11 := rfl
    rw [if_pos rfl, yearStart_succ, hyear, hmonth, Int.sub_add_cancel]
    unfold monthStart
    by_cases hleap : isLeapYear year = true
    · have hlast : daysInMonth year 2 = 29 := if_pos hleap
      rw [hlast, if_pos hleap]
      omega
    · have hlast : daysInMonth year 2 = 28 := if_neg hleap
      rw [hlast, if_neg hleap]
      omega
  · rw [if_neg hfebruary]
    obtain rfl | rfl | rfl | rfl | rfl | rfl | rfl | rfl | rfl | rfl | rfl :
        month = 1 ∨ month = 3 ∨ month = 4 ∨ month = 5 ∨ month = 6 ∨ month = 7 ∨
          month = 8 ∨ month = 9 ∨ month = 10 ∨ month = 11 ∨ month = 12 := by omega
    all_goals simp [daysInMonth, marchMonth, monthStart]

/-- Whether the calendar has a day, by the months of a year that begins with March. -/
theorem isValid_iff {date : Date} :
    date.isValid = true ↔ 1 ≤ date.month ∧ date.month ≤ 12 ∧ 1 ≤ date.day ∧
      (date.marchMonth < 11 →
        monthStart date.marchMonth + date.day ≤ monthStart (date.marchMonth + 1)) ∧
      yearStart date.marchYear + monthStart date.marchMonth + date.day ≤
        yearStart (date.marchYear + 1) := by
  constructor
  · intro h
    have hmonth := month_of_isValid h
    have hlength := daysInMonth_eq hmonth
    simp only [isValid, Bool.and_eq_true, decide_eq_true_eq] at h
    refine ⟨hmonth.1, hmonth.2, h.1, ?_, ?_⟩
    · intro hless
      have hnot : date.month ≠ 2 := by unfold marchMonth at hless; omega
      rw [if_neg hnot] at hlength
      omega
    · split at hlength
      · omega
      · -- The months before February end long before the year does.
        have hless : date.marchMonth < 11 := by unfold marchMonth; omega
        have hmonths : monthStart (date.marchMonth + 1) ≤ 337 := by unfold monthStart; omega
        have hyear : yearStart date.marchYear + 365 ≤ yearStart (date.marchYear + 1) := by
          rw [yearStart_succ]
          split <;> omega
        omega
  · rintro ⟨hlow, hhigh, hday, hless, hyear⟩
    have hlength := daysInMonth_eq ⟨hlow, hhigh⟩
    simp only [isValid, Bool.and_eq_true, decide_eq_true_eq]
    refine ⟨hday, ?_⟩
    split at hlength
    · omega
    · have := hless (by unfold marchMonth; omega)
      omega

theorem yearStart_le {year year' : Int} (h : year ≤ year') : yearStart year ≤ yearStart year' := by
  unfold yearStart
  omega

theorem monthStart_le {month month' : Int} (h : month ≤ month') :
    monthStart month ≤ monthStart month' := by
  unfold monthStart
  omega

/-- The order of dates: by year, then by month, then by day. -/
def compare (a b : Date) : Ordering :=
  (Ord.compare a.year b.year).then
    ((Ord.compare a.month b.month).then (Ord.compare a.day b.day))

theorem compare_swap (a b : Date) : (a.compare b).swap = b.compare a := by
  simp only [compare, Ordering.swap_then, Int.compare_swap, Nat.compare_swap]

theorem eq_of_compare {a b : Date} (h : a.compare b = .eq) : a = b := by
  obtain ⟨year, month, day⟩ := a
  simp only [compare, Ordering.then_eq_eq, Int.compare_eq_eq, Nat.compare_eq_eq] at h
  obtain ⟨rfl, rfl, rfl⟩ := h
  rfl

/-- An earlier date of the calendar has an earlier day. -/
theorem toDays_lt_toDays {a b : Date} (ha : a.isValid = true) (hb : b.isValid = true)
    (h : a.compare b = .lt) : a.toDays < b.toDays := by
  obtain ⟨hlow, hhigh, hday, hmonth, hyear⟩ := isValid_iff.mp ha
  obtain ⟨hlow', hhigh', hday', -, -⟩ := isValid_iff.mp hb
  have hmarch : a.marchYear < b.marchYear ∨ (a.marchYear = b.marchYear ∧
      (a.marchMonth < b.marchMonth ∨ (a.marchMonth = b.marchMonth ∧ a.day < b.day))) := by
    simp only [compare, Ordering.then_eq_lt, Int.compare_eq_lt, Int.compare_eq_eq,
      Nat.compare_eq_lt, Nat.compare_eq_eq] at h
    unfold marchYear marchMonth
    split <;> split <;> omega
  have hzero : 0 ≤ monthStart b.marchMonth := by
    unfold monthStart marchMonth
    omega
  rw [toDays_eq, toDays_eq]
  rcases hmarch with hlt | ⟨heq, hlt | ⟨hsame, hlt⟩⟩
  · have := yearStart_le (Int.add_one_le_of_lt hlt)
    omega
  · have := monthStart_le (Int.add_one_le_of_lt hlt)
    have hnotLast : a.marchMonth < 11 := by
      unfold marchMonth at *
      omega
    have := hmonth hnotLast
    rw [heq]
    omega
  · rw [heq, hsame]
    omega

/-! ## From days to dates -/

/-- The year of a day in a cycle of 400 years. -/
def yearOfCycle (day : Int) : Int :=
  (day - day / 1460 + day / 36524 - day / 146096) / 365

/-- A day of a cycle as centuries, groups of four years, years and days, each of full length but
the last of its kind.  The last day of a cycle of 400 years is left out. -/
structure Parts where
  century : Int
  group : Int
  year : Int
  day : Int
  century_le : 0 ≤ century ∧ century ≤ 3
  group_le : 0 ≤ group ∧ group ≤ 24
  year_le : 0 ≤ year ∧ year ≤ 3
  day_le : 0 ≤ day ∧ day ≤ 365
  day_lt : year < 3 ∨ group = 24 → day < 365

theorem yearStart_parts (parts : Parts) :
    yearStart (100 * parts.century + 4 * parts.group + parts.year) =
      36524 * parts.century + 1461 * parts.group + 365 * parts.year := by
  obtain ⟨century, group, year, day, hcentury, hgroup, hyear, -, -⟩ := parts
  dsimp only
  have hfour : (100 * century + 4 * group + year) / 4 = 25 * century + group := by omega
  have hhundred : (100 * century + 4 * group + year) / 100 = century := by omega
  unfold yearStart
  omega

theorem exists_parts {day : Int} (hlow : 0 ≤ day) (hhigh : day < 146096) :
    ∃ parts : Parts,
      day = 36524 * parts.century + 1461 * parts.group + 365 * parts.year + parts.day ∧
      yearOfCycle day = 100 * parts.century + 4 * parts.group + parts.year := by
  have hlast : day / 146096 = 0 := by omega
  have hcentury : day / 36524 = 0 ∨ day / 36524 = 1 ∨ day / 36524 = 2 ∨ day / 36524 = 3 := by
    omega
  let rest := day % 36524 % 1461
  let year := min (rest / 365) 3
  have hyear : 0 ≤ year ∧ year ≤ 3 ∧ 365 * year ≤ rest ∧ rest - 365 * year ≤ 365 ∧
      (year < 3 → rest - 365 * year < 365) := by omega
  refine ⟨⟨day / 36524, day % 36524 / 1461, year, rest - 365 * year, by omega, by omega,
    ⟨hyear.1, hyear.2.1⟩, by omega, by omega⟩, ?_, ?_⟩
  · dsimp only
    omega
  · unfold yearOfCycle
    rw [hlast]
    dsimp only
    rcases hcentury with h | h | h | h <;> rw [h] <;> omega

/-- A day of a cycle lies in its year. -/
theorem yearOfCycle_bounds {day : Int} (hlow : 0 ≤ day) (hhigh : day < 146097) :
    0 ≤ yearOfCycle day ∧ yearOfCycle day ≤ 399 ∧ yearStart (yearOfCycle day) ≤ day ∧
      day < yearStart (yearOfCycle day + 1) := by
  by_cases hlast : day = 146096
  · subst hlast
    decide
  · obtain ⟨parts, hday, hyear⟩ := exists_parts hlow (by omega)
    have hstart := yearStart_parts parts
    rw [yearStart_succ, hyear, hstart]
    obtain ⟨century, group, year, rest, hcentury, hgroup, hyears, hrest, hlt⟩ := parts
    dsimp only at hday ⊢
    refine ⟨by omega, by omega, by omega, ?_⟩
    -- The last year of a full group of four is a leap year.
    split
    · omega
    · next hleap =>
      rw [isLeapYear_iff] at hleap
      omega

/-! ## There and back -/

/-- The date of a day of a year that begins with March. -/
def ofYearDay (year day : Int) : Date :=
  let month := (5 * day + 2) / 153
  let civilMonth := if month < 10 then month + 3 else month - 9
  ⟨if civilMonth ≤ 2 then year + 1 else year, civilMonth.toNat,
    (day - monthStart month + 1).toNat⟩

theorem yearStart_add_cycles (year cycles : Int) :
    yearStart (year + cycles * 400) = yearStart year + cycles * 146097 := by
  unfold yearStart
  omega

/-- A day of a year gives a day of the calendar, which lies as far from the start of the year. -/
theorem ofYearDay_spec {year day : Int} (hlow : 0 ≤ day)
    (hhigh : yearStart year + day < yearStart (year + 1)) :
    (ofYearDay year day).isValid = true ∧
      (ofYearDay year day).toDays = yearStart year + day - 719468 := by
  have hday : day ≤ 365 := by
    rw [yearStart_succ] at hhigh
    split at hhigh <;> omega
  have hmonth : 0 ≤ (5 * day + 2) / 153 ∧ (5 * day + 2) / 153 ≤ 11 := by omega
  have hstart : monthStart ((5 * day + 2) / 153) ≤ day := by
    unfold monthStart
    omega
  have hnext : day < monthStart ((5 * day + 2) / 153 + 1) := by
    unfold monthStart
    omega
  have hmarchYear : (ofYearDay year day).marchYear = year := by
    unfold ofYearDay marchYear
    dsimp only
    split <;> split <;> omega
  have hmarchMonth : (ofYearDay year day).marchMonth = (5 * day + 2) / 153 := by
    unfold ofYearDay marchMonth
    dsimp only
    split <;> omega
  have hlast : ((ofYearDay year day).day : Int) =
      day - monthStart ((5 * day + 2) / 153) + 1 := by
    unfold ofYearDay
    dsimp only
    omega
  have hcivil : 1 ≤ (ofYearDay year day).month ∧ (ofYearDay year day).month ≤ 12 := by
    unfold ofYearDay
    dsimp only
    split <;> omega
  constructor
  · rw [isValid_iff, hmarchYear, hmarchMonth, hlast]
    refine ⟨hcivil.1, hcivil.2, by omega, fun _ => by omega, by omega⟩
  · rw [toDays_eq, hmarchYear, hmarchMonth, hlast]
    omega

theorem ofDays_eq (days : Int) :
    ofDays days =
      let day := (days + 719468) % 146097
      ofYearDay (yearOfCycle day + (days + 719468) / 146097 * 400)
        (day - yearStart (yearOfCycle day)) := by
  have hbounds := yearOfCycle_bounds (show 0 ≤ (days + 719468) % 146097 by omega) (by omega)
  have hstart : yearStart (yearOfCycle ((days + 719468) % 146097)) =
      365 * yearOfCycle ((days + 719468) % 146097) +
        yearOfCycle ((days + 719468) % 146097) / 4 -
          yearOfCycle ((days + 719468) % 146097) / 100 := by
    unfold yearStart
    omega
  dsimp only
  rw [hstart]
  rfl

/-- Every day has a date of the calendar, and it is the day of that date. -/
theorem isValid_ofDays_and_toDays (days : Int) :
    (ofDays days).isValid = true ∧ (ofDays days).toDays = days := by
  obtain ⟨-, -, hstart, hend⟩ :=
    yearOfCycle_bounds (show 0 ≤ (days + 719468) % 146097 by omega) (by omega)
  rw [ofDays_eq]
  generalize hday : (days + 719468) % 146097 = day at hstart hend
  have hinside : yearStart (yearOfCycle day + (days + 719468) / 146097 * 400) +
      (day - yearStart (yearOfCycle day)) <
        yearStart (yearOfCycle day + (days + 719468) / 146097 * 400 + 1) := by
    rw [Int.add_right_comm, yearStart_add_cycles, yearStart_add_cycles]
    omega
  have hspec := ofYearDay_spec (by omega) hinside
  rw [yearStart_add_cycles] at hspec
  refine ⟨hspec.1, hspec.2.trans ?_⟩
  omega

theorem isValid_ofDays (days : Int) : (ofDays days).isValid = true :=
  (isValid_ofDays_and_toDays days).1

theorem toDays_ofDays (days : Int) : (ofDays days).toDays = days :=
  (isValid_ofDays_and_toDays days).2

/-- Dates are ordered as their days. -/
theorem compare_ofDays (a b : Int) : (ofDays a).compare (ofDays b) = Ord.compare a b := by
  have hlt {m n : Int} (h : (ofDays m).compare (ofDays n) = .lt) : m < n := by
    have := toDays_lt_toDays (isValid_ofDays m) (isValid_ofDays n) h
    rwa [toDays_ofDays, toDays_ofDays] at this
  cases horder : (ofDays a).compare (ofDays b) with
  | lt => exact (Int.compare_eq_lt.mpr (hlt horder)).symm
  | eq =>
      have hdate := eq_of_compare horder
      have hday := congrArg toDays hdate
      rw [toDays_ofDays, toDays_ofDays] at hday
      exact (Int.compare_eq_eq.mpr hday).symm
  | gt =>
      rw [← Ordering.swap_eq_lt, compare_swap] at horder
      exact (Int.compare_eq_gt.mpr (hlt horder)).symm

end RecordSql.Date
