/-
The timers of the programs, and the check of their periods.

Each loop of a program ticks with a period of its configuration, given in whole seconds.
-/
import Dumbarp.Lib.Checks

namespace Dumbarp

open Checks

/-- A running `tokio::time::Interval`. -/
structure Interval where
  period : UInt64
  ne_zero : period ≠ 0

/-- `interval(Duration::from_secs(secs))`: `none` where it panics. -/
def interval (secs : UInt64) : Option Interval :=
  if h : secs ≠ 0 then some ⟨secs, h⟩ else none

@[simp] lemma interval_isSome {secs : UInt64} : (interval secs).isSome ↔ secs ≠ 0 := by
  rw [interval]
  split <;> simp_all

/-- The check of the two periods, which the programs that poll others make. -/
def checkPeriods (refresh stale : UInt64) : Except String Unit := do
  rejectIf (refresh = 0) "config: `refresh_interval_secs` must be > 0"
  rejectIf (stale < refresh)
    s!"config: `stale_after_secs` ({stale}) must be >= `refresh_interval_secs` ({refresh})"

lemma checkPeriods_eq_ok {refresh stale : UInt64} :
    checkPeriods refresh stale = .ok () ↔ refresh ≠ 0 ∧ refresh ≤ stale := by
  simp [checkPeriods]

end Dumbarp
