import SqlDialect.Timestamp.Basic

/-!
# The order of days

Days are numbered one after another (`Date.number`), and this is the order by year, then by month,
then by day (`Date.number_lt_number_iff`): the days of a month have their numbers before those of
the months behind it, and the days of a year before those of the years behind it.
-/

namespace SqlDialect

/-! ## Months and years -/

/-- The days of a month come before those of the months behind it. -/
theorem daysBeforeMonth_add_le (year : Int) {month later : Nat} (h : 1 ≤ month)
    (hlater : month < later) :
    daysBeforeMonth year month + daysInMonth year month ≤ daysBeforeMonth year later := by
  have next : ∀ {n : Nat}, 1 ≤ n →
      daysBeforeMonth year (n + 1) = daysBeforeMonth year n + daysInMonth year n := by
    rintro (_ | n) hn
    · exact absurd hn (by decide)
    · rfl
  induction hlater with
  | refl => exact Nat.le_of_eq (next h).symm
  | step hle ih =>
    rw [next (Nat.le_trans h (Nat.le_of_succ_le hle))]
    exact Nat.le_trans ih (Nat.le_add_right _ _)

/-- The months of a year have as many days as the year. -/
theorem daysBeforeMonth_thirteen (year : Int) : daysBeforeMonth year 13 = daysInYear year := by
  cases h : isLeapYear year <;> simp [daysBeforeMonth, daysInMonth, daysInYear, h]

theorem daysBeforeYear_succ (year : Int) :
    daysBeforeYear (year + 1) = daysBeforeYear year + daysInYear year := by
  simp only [daysBeforeYear, daysInYear, isLeapYear, Bool.and_eq_true, Bool.or_eq_true,
    bne_iff_ne, beq_iff_eq]
  split <;> omega

/-- The days of a year come before those of the years behind it. -/
theorem daysBeforeYear_add_le {year later : Int} (h : year < later) :
    daysBeforeYear year + daysInYear year ≤ daysBeforeYear later := by
  rw [← daysBeforeYear_succ]
  simp only [daysBeforeYear]
  omega

/-! ## Days -/

namespace Date

theorem one_le_ordinal (d : Date) : 1 ≤ d.ordinal :=
  Nat.le_trans d.one_le_day (Nat.le_add_left _ _)

theorem ordinal_le (d : Date) : d.ordinal ≤ daysInYear d.year := by
  have hmonth := daysBeforeMonth_add_le d.year d.one_le_month (Nat.lt_succ_of_le d.month_le)
  have hday := d.day_le
  rw [daysBeforeMonth_thirteen] at hmonth
  simp only [ordinal]
  omega

theorem ordinal_lt_ordinal {a b : Date} (hyear : a.year = b.year) (hmonth : a.month < b.month) :
    a.ordinal < b.ordinal := by
  have hbefore := daysBeforeMonth_add_le b.year a.one_le_month hmonth
  have hday := a.day_le
  have hlater := b.one_le_day
  rw [hyear] at hday
  simp only [ordinal, hyear]
  omega

theorem number_lt_number {a b : Date} (hyear : a.year < b.year) : a.number < b.number := by
  have hbefore := daysBeforeYear_add_le hyear
  have hday := a.ordinal_le
  have hlater := b.one_le_ordinal
  simp only [number]
  omega

/-- **Days are numbered in the order of the calendar**, by year, then by month, then by day. -/
theorem number_lt_number_iff {a b : Date} :
    a.number < b.number ↔ a.year < b.year ∨ a.year = b.year ∧
      (a.month < b.month ∨ a.month = b.month ∧ a.day < b.day) := by
  rcases Int.lt_trichotomy a.year b.year with hyear | hyear | hyear
  · simp [number_lt_number hyear, hyear]
  · have hnumber : a.number < b.number ↔ a.ordinal < b.ordinal := by
      simp only [number, hyear]
      omega
    rw [hnumber]
    rcases Nat.lt_trichotomy a.month b.month with hmonth | hmonth | hmonth
    · simp [ordinal_lt_ordinal hyear hmonth, hyear, hmonth]
    · simp [ordinal, hyear, hmonth]
    · have hlater := ordinal_lt_ordinal hyear.symm hmonth
      omega
  · have hlater := number_lt_number hyear
    omega

theorem number_inj {a b : Date} :
    a.number = b.number ↔ a.year = b.year ∧ a.month = b.month ∧ a.day = b.day := by
  have hbefore := number_lt_number_iff (a := a) (b := b)
  have hbehind := number_lt_number_iff (a := b) (b := a)
  omega

end Date

end SqlDialect
