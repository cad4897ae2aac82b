/-
The civil calendar and the order of its moments.

A moment is a valid date of the Gregorian calendar with a valid time of the day.  Counted in
seconds, moments come in the order of their fields, the year first: a year begins when the one
before has ended, and so does a month.
-/
import Mathlib.Tactic.Lemma
import Mathlib.Algebra.Order.Ring.Int

namespace Civil

/-! ## Dates and times -/

/-- The leap years. -/
def IsLeap (year : ℤ) : Prop := 4 ∣ year ∧ (¬ 100 ∣ year ∨ 400 ∣ year)

instance (year : ℤ) : Decidable (IsLeap year) := inferInstanceAs (Decidable (_ ∧ _))

/-- The length of a month. -/
def daysInMonth (year : ℤ) : ℕ → ℕ
  | 2 => if IsLeap year then 29 else 28
  | 4 | 6 | 9 | 11 => 30
  | _ => 31

lemma daysInMonth_le (year : ℤ) (month : ℕ) : daysInMonth year month ≤ 31 := by
  unfold daysInMonth
  split
  · split <;> omega
  all_goals omega

/-- The dates of the calendar. -/
def ValidDate (year : ℤ) (month day : ℕ) : Prop :=
  1 ≤ month ∧ month ≤ 12 ∧ 1 ≤ day ∧ day ≤ daysInMonth year month

instance (year : ℤ) (month day : ℕ) : Decidable (ValidDate year month day) :=
  inferInstanceAs (Decidable (_ ∧ _))

/-- The times of a day. -/
def ValidTime (hour minute second : ℕ) : Prop := hour < 24 ∧ minute < 60 ∧ second < 60

instance (hour minute second : ℕ) : Decidable (ValidTime hour minute second) :=
  inferInstanceAs (Decidable (_ ∧ _))

lemma validTime_midnight : ValidTime 0 0 0 := by decide

/-- A date. -/
@[ext]
structure Date where
  year : ℤ
  month : ℕ
  day : ℕ
  valid : ValidDate year month day
deriving DecidableEq

/-- A moment. -/
@[ext]
structure DateTime where
  date : Date
  hour : ℕ
  minute : ℕ
  second : ℕ
  valid : ValidTime hour minute second
deriving DecidableEq

/-! ## Counting -/

/-- The days from the first day of year 1 to that of a year. -/
def daysBeforeYear (year : ℤ) : ℤ :=
  365 * (year - 1) + (year - 1) / 4 - (year - 1) / 100 + (year - 1) / 400

/-- The length of a year. -/
def daysInYear (year : ℤ) : ℕ := if IsLeap year then 366 else 365

/-- The days from the first day of a year to that of a month. -/
def daysBeforeMonth (year : ℤ) : ℕ → ℕ
  | 0 | 1 => 0
  | month + 1 => daysBeforeMonth year month + daysInMonth year month

/-- The days from the first day of a year to a date in it. -/
def Date.dayOfYear (d : Date) : ℕ := daysBeforeMonth d.year d.month + (d.day - 1)

/-- The days from the first day of year 1. -/
def Date.dayNumber (d : Date) : ℤ := daysBeforeYear d.year + d.dayOfYear

/-- The seconds from midnight. -/
def DateTime.secondOfDay (t : DateTime) : ℕ := t.hour * 3600 + t.minute * 60 + t.second

/-- The day number of the first day of 1970. -/
def epochDay : ℤ := 719162

/-- The seconds from the first moment of 1970. -/
def DateTime.timestamp (t : DateTime) : ℤ :=
  (t.date.dayNumber - epochDay) * 86400 + t.secondOfDay

/-! ## The order of dates -/

lemma daysBeforeYear_succ (year : ℤ) :
    daysBeforeYear (year + 1) = daysBeforeYear year + daysInYear year := by
  by_cases h : IsLeap year
  · rw [daysInYear, if_pos h]
    simp only [IsLeap] at h
    simp only [daysBeforeYear]
    omega
  · rw [daysInYear, if_neg h]
    simp only [IsLeap] at h
    simp only [daysBeforeYear]
    omega

/-- A later year begins when the year has ended. -/
lemma daysBeforeYear_add_le {a b : ℤ} (h : a < b) :
    daysBeforeYear a + daysInYear a ≤ daysBeforeYear b := by
  have hmono : Monotone daysBeforeYear :=
    monotone_int_of_le_succ fun y => by rw [daysBeforeYear_succ]; omega
  rw [← daysBeforeYear_succ]
  exact hmono h

lemma daysBeforeMonth_succ (year : ℤ) {month : ℕ} (h : 1 ≤ month) :
    daysBeforeMonth year (month + 1) = daysBeforeMonth year month + daysInMonth year month := by
  obtain ⟨m, rfl⟩ := Nat.exists_eq_add_of_le' h
  rfl

/-- A later month begins when the month has ended. -/
lemma daysBeforeMonth_add_le (year : ℤ) {a b : ℕ} (ha : 1 ≤ a) (h : a < b) :
    daysBeforeMonth year a + daysInMonth year a ≤ daysBeforeMonth year b := by
  induction b, h using Nat.le_induction with
  | base => exact (daysBeforeMonth_succ year ha).ge
  | succ b hb ih =>
    rw [daysBeforeMonth_succ year (by omega)]
    omega

/-- The year ends with its last month. -/
lemma daysBeforeMonth_thirteen (year : ℤ) : daysBeforeMonth year 13 = daysInYear year := by
  by_cases h : IsLeap year <;> simp [daysBeforeMonth, daysInMonth, daysInYear, h]

lemma Date.dayOfYear_lt (d : Date) : d.dayOfYear < daysInYear d.year := by
  obtain ⟨hmonth, hmonth', hday, hday'⟩ := d.valid
  have hle := daysBeforeMonth_add_le d.year hmonth (show d.month < 13 by omega)
  rw [daysBeforeMonth_thirteen] at hle
  rw [Date.dayOfYear]
  omega

/-- **The days are in the order of the calendar.** -/
theorem Date.dayNumber_lt_iff {a b : Date} :
    a.dayNumber < b.dayNumber ↔
      a.year < b.year ∨ a.year = b.year ∧
        (a.month < b.month ∨ a.month = b.month ∧ a.day < b.day) := by
  have hayear := a.dayOfYear_lt
  have hbyear := b.dayOfYear_lt
  simp only [Date.dayNumber]
  rcases lt_trichotomy a.year b.year with hlt | heq | hgt
  · have := daysBeforeYear_add_le hlt
    omega
  · -- within one year the months decide, and within a month the days
    obtain ⟨hamonth, -, haday, haday'⟩ := a.valid
    obtain ⟨hbmonth, -, hbday, hbday'⟩ := b.valid
    simp only [Date.dayOfYear]
    rcases lt_trichotomy a.month b.month with hm | hm | hm
    · have := daysBeforeMonth_add_le a.year hamonth hm
      rw [← heq]
      omega
    · rw [← heq, ← hm]
      omega
    · have := daysBeforeMonth_add_le b.year hbmonth hm
      rw [heq]
      omega
  · have := daysBeforeYear_add_le hgt
    omega

/-! ## The order of moments -/

lemma DateTime.secondOfDay_lt (t : DateTime) : t.secondOfDay < 86400 := by
  obtain ⟨hhour, hminute, hsecond⟩ := t.valid
  rw [DateTime.secondOfDay]
  omega

lemma DateTime.secondOfDay_lt_iff {a b : DateTime} :
    a.secondOfDay < b.secondOfDay ↔
      a.hour < b.hour ∨ a.hour = b.hour ∧
        (a.minute < b.minute ∨ a.minute = b.minute ∧ a.second < b.second) := by
  obtain ⟨-, haminute, hasecond⟩ := a.valid
  obtain ⟨-, hbminute, hbsecond⟩ := b.valid
  simp only [DateTime.secondOfDay]
  omega

lemma DateTime.timestamp_lt_iff' {a b : DateTime} :
    a.timestamp < b.timestamp ↔
      a.date.dayNumber < b.date.dayNumber ∨
        a.date.dayNumber = b.date.dayNumber ∧ a.secondOfDay < b.secondOfDay := by
  have ha := a.secondOfDay_lt
  have hb := b.secondOfDay_lt
  simp only [DateTime.timestamp]
  omega

lemma Date.dayNumber_injective : Function.Injective Date.dayNumber := by
  intro a b h
  have hab := (Date.dayNumber_lt_iff (a := a) (b := b)).not.mp h.not_lt
  have hba := (Date.dayNumber_lt_iff (a := b) (b := a)).not.mp h.not_gt
  rw [Date.ext_iff]
  omega

/-- **The seconds are in the order of the fields.** -/
theorem DateTime.timestamp_lt_iff {a b : DateTime} :
    a.timestamp < b.timestamp ↔
      a.date.year < b.date.year ∨ a.date.year = b.date.year ∧
        (a.date.month < b.date.month ∨ a.date.month = b.date.month ∧
          (a.date.day < b.date.day ∨ a.date.day = b.date.day ∧
            (a.hour < b.hour ∨ a.hour = b.hour ∧
              (a.minute < b.minute ∨ a.minute = b.minute ∧ a.second < b.second)))) := by
  rw [DateTime.timestamp_lt_iff', Date.dayNumber_injective.eq_iff, Date.dayNumber_lt_iff,
    DateTime.secondOfDay_lt_iff, Date.ext_iff]
  tauto

lemma DateTime.timestamp_injective : Function.Injective DateTime.timestamp := by
  intro a b h
  have hab := (DateTime.timestamp_lt_iff (a := a) (b := b)).not.mp h.not_lt
  have hba := (DateTime.timestamp_lt_iff (a := b) (b := a)).not.mp h.not_gt
  rw [DateTime.ext_iff, Date.ext_iff]
  omega

/-- Moments are ordered by their seconds. -/
instance : LinearOrder DateTime := LinearOrder.lift' DateTime.timestamp
  DateTime.timestamp_injective

end Civil
