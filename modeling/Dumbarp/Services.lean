/-
What an accepted configuration can do to the loops of a program.

Three of the programs check every period that they give to a timer.  `dumbarpd` has a second
period, that of its neighbour refreshers, which it does not check.  `dumbarp-k8s` moreover
subtracts its window from the clock, and a window of 264 thousand years or more leaves the calendar.
-/
import Dumbarp.Daemon.Config
import Dumbarp.Gateway.Config
import Dumbarp.K8s.Config

namespace Dumbarp

open Civil

/-- The programs, each with its configuration. -/
inductive Service
  | dumbarpd (cfg : Daemon.Config)
  | gateway (cfg : Gateway.Config)
  | routerd (cfg : Routerd.FullConfig)
  | k8s (cfg : K8s.FullConfig)

namespace Service

/-- The configuration is one that `load` accepts. -/
def Accepted : Service → Prop
  | dumbarpd cfg => ∃ loader path, Daemon.Config.load loader path = .ok cfg
  | gateway cfg => ∃ loader path, Gateway.Config.load loader path = .ok cfg
  | routerd cfg => ∃ loader path, Routerd.FullConfig.load loader path = .ok cfg
  | k8s cfg => ∃ loader path, K8s.FullConfig.load loader path = .ok cfg

/-- The periods that a program gives to `interval`. -/
def periods : Service → List UInt64
  | dumbarpd cfg => [cfg.neighRefreshIntervalSecs, cfg.refreshIntervalSecs]
  | gateway cfg => [cfg.refreshIntervalSecs]
  | routerd cfg => [cfg.refreshIntervalSecs]
  | k8s cfg => [cfg.refreshIntervalSecs]

/-- The first moment of this century, in nanoseconds. -/
def centuryStart : ℤ :=
  DateTime.timestamp ⟨⟨2001, 1, 1, by decide⟩, 0, 0, 0, validTime_midnight⟩ * 1000000000

/-- The first moment of the next century, in nanoseconds. -/
def centuryEnd : ℤ :=
  DateTime.timestamp ⟨⟨2101, 1, 1, by decide⟩, 0, 0, 0, validTime_midnight⟩ * 1000000000

/-- The window is not wrapped, and the threshold of a pass is computed at every time of this
century. -/
def ThresholdComputed (chrono : Chrono) : Service → Prop
  | k8s cfg => K8s.staleSecs cfg = cfg.staleAfterSecs.toNat ∧
      ∀ now, centuryStart ≤ now → now < centuryEnd →
        K8s.checkedThreshold chrono cfg now = some (K8s.staleThreshold cfg.pass now)
  | _ => True

/-- No timer and no time computation of the program panics. -/
structure NeverPanics (chrono : Chrono) (s : Service) : Prop where
  timers : ∀ secs ∈ s.periods, (interval secs).isSome
  threshold : s.ThresholdComputed chrono

/-- The seconds from the first moment of the calendar to that of this century. -/
def maxWindow : ℕ := 8335579536000

/-- What the checks leave open. -/
def Fits : Service → Prop
  | dumbarpd cfg => cfg.neighRefreshIntervalSecs ≠ 0
  | k8s cfg => cfg.staleAfterSecs.toNat ≤ maxWindow
  | _ => True

/-! ## Windows -/

section Window

variable {chrono : Chrono} {cfg : K8s.FullConfig}

lemma minUtc_documented (h : chrono.Documented) : chrono.minUtc = -8334601228800 := by
  simp only [Chrono.minUtc, DateTime.timestamp, Date.dayNumber, Date.dayOfYear, daysBeforeYear,
    daysBeforeMonth, DateTime.secondOfDay, epochDay, h.minYear]
  decide

lemma maxUtc_documented (h : chrono.Documented) : chrono.maxUtc = 8210266876799 := by
  simp only [Chrono.maxUtc, DateTime.timestamp, Date.dayNumber, Date.dayOfYear, daysBeforeYear,
    daysBeforeMonth, daysInMonth, IsLeap, DateTime.secondOfDay, epochDay, h.maxYear]
  decide

lemma centuryStart_eq : centuryStart = 978307200000000000 := by decide

lemma centuryEnd_eq : centuryEnd = 4133980800000000000 := by decide

/-- **The thresholds of a century** are computed exactly if the window is not longer than the
calendar before it. -/
lemma thresholdComputed_k8s_iff (hchrono : chrono.Documented) :
    (k8s cfg).ThresholdComputed chrono ↔ cfg.staleAfterSecs.toNat ≤ maxWindow := by
  have hmin := minUtc_documented hchrono
  have hmax := maxUtc_documented hchrono
  have hspan := hchrono.maxSecs
  simp only [ThresholdComputed, K8s.staleThreshold, K8s.FullConfig.pass,
    K8s.checkedThreshold_eq_some, centuryStart_eq, centuryEnd_eq, maxWindow]
  constructor
  · rintro ⟨hcast, hall⟩
    -- the first moment of the century decides
    obtain ⟨-, ⟨hge, -⟩, -⟩ := hall 978307200000000000 le_rfl (by omega)
    omega
  · intro hle
    have hcast : K8s.staleSecs cfg = cfg.staleAfterSecs.toNat :=
      K8s.staleSecs_eq_iff.mpr (by omega)
    refine ⟨hcast, fun now hstart hend => ?_⟩
    rw [hcast, hmin, hmax, hspan]
    omega

end Window

/-! ## Accepted configurations -/

section Accepted

variable {chrono : Chrono} {s : Service}

/-- The refresh period of an accepted configuration is not zero. -/
lemma Accepted.periods (h : s.Accepted) : (∀ secs ∈ s.periods, secs ≠ 0) ↔
    ∀ cfg, s = dumbarpd cfg → cfg.neighRefreshIntervalSecs ≠ 0 := by
  cases s with
  | dumbarpd cfg =>
    obtain ⟨loader, path, hload⟩ := h
    obtain ⟨-, -, -, -, -, hchecked⟩ := Daemon.load_ok_iff.mp hload
    simp [Service.periods, hchecked.refresh]
  | gateway cfg =>
    obtain ⟨loader, path, hload⟩ := h
    obtain ⟨-, -, -, -, -, hchecked⟩ := Gateway.Config.load_ok_iff.mp hload
    simp [Service.periods, hchecked.refresh]
  | routerd cfg =>
    obtain ⟨loader, path, hload⟩ := h
    obtain ⟨-, -, -, -, -, hchecked⟩ := Routerd.FullConfig.load_ok_iff.mp hload
    simp [Service.periods, hchecked.refresh]
  | k8s cfg =>
    obtain ⟨loader, path, hload⟩ := h
    obtain ⟨-, -, -, -, -, hchecked⟩ := K8s.FullConfig.load_ok_iff.mp hload
    simp [Service.periods, hchecked.refresh]

/-- **An accepted configuration never panics a loop exactly if** the period of the neighbour
refreshers is not zero and the window of `dumbarp-k8s` stays within the calendar. -/
theorem never_panics_iff (hchrono : chrono.Documented) (h : s.Accepted) :
    s.NeverPanics chrono ↔ s.Fits := by
  have htimers : (∀ secs ∈ s.periods, (interval secs).isSome) ↔
      ∀ cfg, s = dumbarpd cfg → cfg.neighRefreshIntervalSecs ≠ 0 := by
    simp only [interval_isSome, h.periods]
  have hsplit : s.NeverPanics chrono ↔
      (∀ cfg, s = dumbarpd cfg → cfg.neighRefreshIntervalSecs ≠ 0) ∧
        s.ThresholdComputed chrono := by
    rw [← htimers]
    exact ⟨fun hnever => ⟨hnever.timers, hnever.threshold⟩, fun hboth => ⟨hboth.1, hboth.2⟩⟩
  rw [hsplit]
  cases s with
  | dumbarpd cfg => simp [ThresholdComputed, Fits]
  | gateway cfg => simp [ThresholdComputed, Fits]
  | routerd cfg => simp [ThresholdComputed, Fits]
  | k8s cfg => simp [thresholdComputed_k8s_iff hchrono, Fits]

end Accepted

/-! ## Configurations that panic -/

/-- A daemon whose refreshers have no period. -/
def hastyDaemon : Daemon.Config where
  authToken := "t"
  refreshIntervalSecs := 60
  ifaces := ["eth0"]
  neighRefreshIntervalSecs := 0
  dumbarpdId := 0

/-- A reconciler that keeps pools for 292 thousand million years. -/
def patientReconciler : K8s.FullConfig where
  refreshIntervalSecs := 30
  staleAfterSecs := 9223372036854775807
  hosts := [⟨"a", "http://10.0.0.5:1028", "/run/token"⟩]

lemma hastyDaemon_accepted : (dumbarpd hastyDaemon).Accepted :=
  ⟨⟨fun _ => .ok "", fun _ => .ok
    { authToken := "t", ifaces := ["eth0"], neighRefreshIntervalSecs := some 0 }⟩,
    "/etc/dumbarpd.toml", by decide⟩

lemma patientReconciler_accepted : (k8s patientReconciler).Accepted :=
  ⟨⟨fun _ => .ok "", fun _ => .ok
    { staleAfterSecs := some 9223372036854775807
      hosts := [⟨"a", "http://10.0.0.5:1028", "/run/token"⟩] }⟩,
    "/etc/dumbarp-k8s.toml", by decide⟩

/-- **Two accepted configurations that panic**, one in a timer and one in a time computation. -/
theorem accepted_configs_panic :
    (dumbarpd hastyDaemon).Accepted ∧ ¬ (dumbarpd hastyDaemon).NeverPanics .limits ∧
      (k8s patientReconciler).Accepted ∧ ¬ (k8s patientReconciler).NeverPanics .limits := by
  refine ⟨hastyDaemon_accepted, fun h => ?_, patientReconciler_accepted, fun h => ?_⟩
  · exact absurd (h.timers 0 (by simp [Service.periods, hastyDaemon])) (by decide)
  · exact absurd ((thresholdComputed_k8s_iff Chrono.limits_documented).mp h.threshold) (by decide)

/-- A reconciler with the default periods. -/
def plainReconciler : K8s.FullConfig :=
  K8s.ConfigFile.config { hosts := [⟨"a", "http://10.0.0.5:1028", "/run/token"⟩] }

lemma plainReconciler_accepted : (k8s plainReconciler).Accepted :=
  ⟨⟨fun _ => .ok "", fun _ => .ok { hosts := [⟨"a", "http://10.0.0.5:1028", "/run/token"⟩] }⟩,
    "/etc/dumbarp-k8s.toml", by decide⟩

/-- With the default periods no loop panics. -/
theorem plainReconciler_never_panics : (k8s plainReconciler).NeverPanics .limits :=
  (never_panics_iff Chrono.limits_documented plainReconciler_accepted).mpr
    (by decide : (300 : UInt64).toNat ≤ maxWindow)

end Service

end Dumbarp
