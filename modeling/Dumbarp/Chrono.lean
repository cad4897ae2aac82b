/-
What the code uses of the `chrono` crate.

Times are moments of the civil calendar.  The crate holds those of a range of years, and spans
of up to a number of seconds; both limits are parameters.
-/
import Dumbarp.Lib.Civil

namespace Dumbarp

open Civil

/-- The limits of the crate. -/
structure Chrono where
  minYear : ℤ
  maxYear : ℤ
  maxSecs : ℕ

/-- The documented limits: a `Duration` holds up to `i64::MAX` milliseconds, and dates range from
January 1, 262144 BCE to December 31, 262142 CE. -/
structure Chrono.Documented (chrono : Chrono) : Prop where
  minYear : chrono.minYear = -262143
  maxYear : chrono.maxYear = 262142
  maxSecs : chrono.maxSecs = 9223372036854775

namespace Chrono

/-- The limits as they are documented. -/
def limits : Chrono := ⟨-262143, 262142, 9223372036854775⟩

lemma limits_documented : limits.Documented := ⟨rfl, rfl, rfl⟩

/-- `NaiveDate::from_ymd_opt`. -/
def fromYmdOpt (chrono : Chrono) (year : Int32) (month day : UInt32) : Option Date :=
  if h : ValidDate year.toInt month.toNat day.toNat ∧
      chrono.minYear ≤ year.toInt ∧ year.toInt ≤ chrono.maxYear then
    some ⟨year.toInt, month.toNat, day.toNat, h.1⟩
  else none

/-- `and_hms_opt`, as a time of UTC. -/
def andHmsOpt (date : Date) (hour minute second : UInt32) : Option DateTime :=
  if h : ValidTime hour.toNat minute.toNat second.toNat then
    some ⟨date, hour.toNat, minute.toNat, second.toNat, h⟩
  else none

section Accepted

variable {chrono : Chrono} {year : Int32} {month day hour minute second : UInt32} {date : Date}
  {t : DateTime}

lemma fromYmdOpt_eq_some :
    chrono.fromYmdOpt year month day = some date ↔
      (chrono.minYear ≤ year.toInt ∧ year.toInt ≤ chrono.maxYear) ∧
        date.year = year.toInt ∧ date.month = month.toNat ∧ date.day = day.toNat := by
  rw [fromYmdOpt]
  constructor
  · intro h
    split at h
    · rename_i hvalid
      obtain rfl := Option.some.inj h
      exact ⟨hvalid.2, rfl, rfl, rfl⟩
    · cases h
  · rintro ⟨hrange, hyear, hmonth, hday⟩
    have hvalid := date.valid
    rw [hyear, hmonth, hday] at hvalid
    rw [dif_pos ⟨hvalid, hrange⟩, Option.some.injEq, Date.ext_iff]
    exact ⟨hyear.symm, hmonth.symm, hday.symm⟩

lemma andHmsOpt_eq_some :
    andHmsOpt date hour minute second = some t ↔
      t.date = date ∧ t.hour = hour.toNat ∧ t.minute = minute.toNat ∧
        t.second = second.toNat := by
  rw [andHmsOpt]
  constructor
  · intro h
    split at h
    · obtain rfl := Option.some.inj h
      exact ⟨rfl, rfl, rfl, rfl⟩
    · cases h
  · rintro ⟨hdate, hhour, hminute, hsecond⟩
    have hvalid := t.valid
    rw [hhour, hminute, hsecond] at hvalid
    rw [dif_pos hvalid, Option.some.injEq, DateTime.ext_iff]
    exact ⟨hdate.symm, hhour.symm, hminute.symm, hsecond.symm⟩

end Accepted

/-! ## Spans of time -/

/-- `DateTime::<Utc>::MIN_UTC`, in seconds. -/
def minUtc (chrono : Chrono) : ℤ :=
  DateTime.timestamp ⟨⟨chrono.minYear, 1, 1, by simp [ValidDate, daysInMonth]⟩, 0, 0, 0,
    validTime_midnight⟩

/-- `DateTime::<Utc>::MAX_UTC`, in whole seconds. -/
def maxUtc (chrono : Chrono) : ℤ :=
  DateTime.timestamp ⟨⟨chrono.maxYear, 12, 31, by simp [ValidDate, daysInMonth]⟩, 23, 59, 59,
    by simp [ValidTime]⟩

/-- `Duration::seconds`, in nanoseconds: `none` where it panics. -/
def seconds (chrono : Chrono) (secs : ℤ) : Option ℤ :=
  if -chrono.maxSecs ≤ secs ∧ secs ≤ chrono.maxSecs then some (secs * 1000000000) else none

/-- `DateTime::<Utc> - Duration`, in nanoseconds: `none` where it panics. -/
def sub (chrono : Chrono) (t span : ℤ) : Option ℤ :=
  if chrono.minUtc ≤ (t - span) / 1000000000 ∧ (t - span) / 1000000000 ≤ chrono.maxUtc then
    some (t - span)
  else none

end Chrono

end Dumbarp
