/-
The configuration of `dumbarp-k8s` (`dumbarp-k8s/src/config.rs`), and the time before which a
pool is stale.

A pass subtracts the window from the clock with the times and spans of a library, which panics
where these do not reach.
-/
import Dumbarp.Chrono
import Dumbarp.Timers
import Dumbarp.K8s.Reconcile

namespace Dumbarp.K8s

open Checks

/-- `Config`, with all its fields. -/
structure FullConfig where
  refreshIntervalSecs : UInt64
  staleAfterSecs : UInt64
  hosts : List HostConfig
deriving DecidableEq, Repr

/-- What a file says. -/
structure ConfigFile where
  refreshIntervalSecs : Option UInt64 := none
  staleAfterSecs : Option UInt64 := none
  hosts : List HostConfig

/-- `default_refresh`. -/
def defaultRefresh : UInt64 := 30

/-- `default_stale`. -/
def defaultStale : UInt64 := 300

/-- The configuration that a file stands for. -/
def ConfigFile.config (file : ConfigFile) : FullConfig where
  refreshIntervalSecs := file.refreshIntervalSecs.getD defaultRefresh
  staleAfterSecs := file.staleAfterSecs.getD defaultStale
  hosts := file.hosts

/-- The check of one host. -/
def checkHost (h : HostConfig) : Except String Unit :=
  rejectIf (h.name = "") "config: every host needs a non-empty `name`"

/-- The checks of `Config::load`. -/
def FullConfig.validate (cfg : FullConfig) : Except String Unit := do
  rejectIf (cfg.hosts = []) "config: `hosts` must list at least one daemon"
  checkPeriods cfg.refreshIntervalSecs cfg.staleAfterSecs
  checkEach checkHost HostConfig.name (fun name => s!"config: duplicate host name `{name}`") []
    cfg.hosts

/-- `Config::load`. -/
def FullConfig.load (loader : Loader ConfigFile) (path : String) :
    Except (List String) FullConfig :=
  loader.load ConfigFile.config FullConfig.validate path

/-- What `load` checks. -/
structure FullConfig.Checked (cfg : FullConfig) : Prop where
  nonempty : cfg.hosts ≠ []
  refresh : cfg.refreshIntervalSecs ≠ 0
  stale : cfg.refreshIntervalSecs ≤ cfg.staleAfterSecs
  hosts : ∀ h ∈ cfg.hosts, h.name ≠ ""
  distinct : (cfg.hosts.map HostConfig.name).Nodup

/-- The part of the configuration that a pass reads. -/
def FullConfig.pass (cfg : FullConfig) : Config where
  staleAfterSecs := cfg.staleAfterSecs.toNat
  hosts := cfg.hosts

section Load

variable {loader : Loader ConfigFile} {path : String} {cfg : FullConfig}

lemma FullConfig.validate_eq_ok : cfg.validate = .ok () ↔ cfg.Checked := by
  simp only [validate, bind_eq_ok, rejectIf_eq_ok, checkPeriods_eq_ok, checkEach_eq_ok, checkHost,
    List.not_mem_nil, not_false_eq_true, implies_true, true_and]
  constructor
  · rintro ⟨hnonempty, ⟨hrefresh, hstale⟩, hhosts, hdistinct⟩
    exact ⟨hnonempty, hrefresh, hstale, hhosts, hdistinct⟩
  · intro h
    exact ⟨h.nonempty, ⟨h.refresh, h.stale⟩, h.hosts, h.distinct⟩

/-- **A configuration is accepted** if and only if it is what the file stands for and passes the
checks. -/
theorem FullConfig.load_ok_iff :
    FullConfig.load loader path = .ok cfg ↔
      ∃ raw file, loader.readToString path = .ok raw ∧ loader.fromStr raw = .ok file ∧
        file.config = cfg ∧ cfg.Checked := by
  rw [FullConfig.load, Loader.load_eq_ok]
  simp only [FullConfig.validate_eq_ok]

end Load

/-! ## The threshold -/

/-- `stale_after_secs as i64`. -/
def staleSecs (cfg : FullConfig) : ℤ := cfg.staleAfterSecs.toInt64.toInt

/-- `now - chrono::Duration::seconds(cfg.stale_after_secs as i64)`: `none` where it panics. -/
def checkedThreshold (chrono : Chrono) (cfg : FullConfig) (now : ℤ) : Option ℤ := do
  let window ← chrono.seconds (staleSecs cfg)
  chrono.sub now window

/-- The cast keeps the window exactly if it fits. -/
lemma staleSecs_eq_iff {cfg : FullConfig} :
    staleSecs cfg = cfg.staleAfterSecs.toNat ↔ cfg.staleAfterSecs.toNat < 2 ^ 63 := by
  have hlt := cfg.staleAfterSecs.toNat_lt
  have heq : staleSecs cfg = cfg.staleAfterSecs.toBitVec.toInt := rfl
  rw [heq, BitVec.toInt_eq_toNat_cond, UInt64.toNat_toBitVec]
  split <;> omega

/-- **The threshold is computed** where the window is a span of the library and the threshold a
time of it. -/
theorem checkedThreshold_eq_some {chrono : Chrono} {cfg : FullConfig} {now t : ℤ} :
    checkedThreshold chrono cfg now = some t ↔
      (-chrono.maxSecs ≤ staleSecs cfg ∧ staleSecs cfg ≤ chrono.maxSecs) ∧
        (chrono.minUtc ≤ t / 1000000000 ∧ t / 1000000000 ≤ chrono.maxUtc) ∧
          t = now - staleSecs cfg * 1000000000 := by
  rw [checkedThreshold, Option.bind_eq_bind, Option.bind_eq_some_iff, Chrono.seconds]
  constructor
  · rintro ⟨window, hwindow, hsub⟩
    split at hwindow
    · rename_i hspan
      obtain rfl := Option.some.inj hwindow
      rw [Chrono.sub] at hsub
      split at hsub
      · rename_i hrange
        obtain rfl := Option.some.inj hsub
        exact ⟨hspan, hrange, rfl⟩
      · cases hsub
    · cases hwindow
  · rintro ⟨hspan, hrange, rfl⟩
    exact ⟨_, if_pos hspan, if_pos hrange⟩

end Dumbarp.K8s
