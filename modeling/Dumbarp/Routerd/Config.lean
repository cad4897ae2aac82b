/-
The configuration of `dumbarp-routerd` (`dumbarp-routerd/src/config.rs`).

Reading the file and parsing its TOML enter as parameters: a file is what the parser makes of
it, with the fields it may leave out.  What a pass reads of an accepted configuration is what
the bounds on the age of ids assume.
-/
import Dumbarp.Timers
import Dumbarp.Routerd.Staleness

namespace Dumbarp.Routerd

open Checks

/-- `GatewayEntry`. -/
structure GatewayEntry where
  endpoint : String
  authToken : String
  deviceOverrides : HashMap String String

/-- `DscpConfig`. -/
structure DscpConfig where
  ifaces : List String

/-- `Config`, with all its fields. -/
structure FullConfig where
  refreshIntervalSecs : UInt64
  staleAfterSecs : UInt64
  sourceBasedRouting : Bool
  daemons : List DaemonEntry
  gateway : Option GatewayEntry
  dscp : DscpConfig

/-- What a file says of a gateway. -/
structure GatewayFile where
  endpoint : String
  authToken : String
  deviceOverrides : Option (HashMap String String) := none

/-- What a file says. -/
structure ConfigFile where
  refreshIntervalSecs : Option UInt64 := none
  staleAfterSecs : Option UInt64 := none
  sourceBasedRouting : Option Bool := none
  daemons : Option (List DaemonEntry) := none
  gateway : Option GatewayFile := none
  dscp : DscpConfig

/-- `default_refresh`. -/
def defaultRefresh : UInt64 := 30

/-- `default_stale`. -/
def defaultStale : UInt64 := 300

/-- The gateway that a file stands for. -/
def GatewayFile.entry (file : GatewayFile) : GatewayEntry where
  endpoint := file.endpoint
  authToken := file.authToken
  deviceOverrides := file.deviceOverrides.getD ∅

/-- The configuration that a file stands for. -/
def ConfigFile.config (file : ConfigFile) : FullConfig where
  refreshIntervalSecs := file.refreshIntervalSecs.getD defaultRefresh
  staleAfterSecs := file.staleAfterSecs.getD defaultStale
  sourceBasedRouting := file.sourceBasedRouting.getD false
  daemons := file.daemons.getD []
  gateway := file.gateway.map GatewayFile.entry
  dscp := file.dscp

/-! ## The checks -/

/-- The check of one daemon. -/
def checkDaemon (d : DaemonEntry) : Except String Unit := do
  rejectIf (d.name = "") "config: every daemon needs a non-empty `name`"
  rejectIf (d.device = "") s!"config: daemon `{d.name}` has empty `device`"
  rejectIf (d.authToken = "") s!"config: daemon `{d.name}` has empty `auth_token`"

/-- The check of the daemons, which a router and a gateway make. -/
def checkDaemons (daemons : List DaemonEntry) : Except String Unit :=
  checkEach checkDaemon DaemonEntry.name (fun name => s!"config: duplicate daemon name `{name}`")
    [] daemons

/-- `Config::validate`. -/
def FullConfig.validate (cfg : FullConfig) : Except String Unit := do
  rejectIf (cfg.gateway.isSome ∧ cfg.daemons ≠ [])
    "config: set either `[gateway]` or `[[daemons]]`, not both"
  rejectIf (cfg.gateway.isNone ∧ cfg.daemons = [])
    "config: set either `[gateway]` (learn daemons from a dumbarp-gateway) or `[[daemons]]`"
  rejectIf (cfg.gateway.any fun gw => gw.authToken = "")
    "config: `[gateway].auth_token` must be non-empty"
  checkPeriods cfg.refreshIntervalSecs cfg.staleAfterSecs
  rejectIf (cfg.dscp.ifaces = []) "config: `[dscp].ifaces` must list at least one interface"
  checkDaemons cfg.daemons

/-- `Config::load`. -/
def FullConfig.load (loader : Loader ConfigFile) (path : String) :
    Except (List String) FullConfig :=
  loader.load ConfigFile.config FullConfig.validate path

section Checked

variable {d : DaemonEntry} {daemons : List DaemonEntry}
  {loader : Loader ConfigFile} {path : String} {cfg : FullConfig}

lemma checkDaemon_eq_ok :
    checkDaemon d = .ok () ↔ d.name ≠ "" ∧ d.device ≠ "" ∧ d.authToken ≠ "" := by
  simp [checkDaemon]

lemma checkDaemons_eq_ok :
    checkDaemons daemons = .ok () ↔
      (∀ d ∈ daemons, checkDaemon d = .ok ()) ∧ (daemons.map DaemonEntry.name).Nodup := by
  simp [checkDaemons, checkEach_eq_ok]

/-- What `load` checks. -/
structure FullConfig.Checked (cfg : FullConfig) : Prop where
  source : cfg.gateway.isSome ↔ cfg.daemons = []
  gatewayToken : ∀ gw ∈ cfg.gateway, gw.authToken ≠ ""
  refresh : cfg.refreshIntervalSecs ≠ 0
  stale : cfg.refreshIntervalSecs ≤ cfg.staleAfterSecs
  ifaces : cfg.dscp.ifaces ≠ []
  daemons : ∀ d ∈ cfg.daemons, d.name ≠ "" ∧ d.device ≠ "" ∧ d.authToken ≠ ""
  distinct : (cfg.daemons.map DaemonEntry.name).Nodup

lemma FullConfig.validate_eq_ok : cfg.validate = .ok () ↔ cfg.Checked := by
  simp only [validate, bind_eq_ok, rejectIf_eq_ok, checkPeriods_eq_ok, checkDaemons_eq_ok,
    checkDaemon_eq_ok]
  constructor
  · rintro ⟨hboth, hnone, htoken, ⟨hrefresh, hstale⟩, hifaces, hdaemons, hdistinct⟩
    refine ⟨?_, fun gw hgw => ?_, hrefresh, hstale, hifaces, hdaemons, hdistinct⟩
    · cases hgw : cfg.gateway <;> simp_all
    · rw [Option.mem_def.mp hgw] at htoken
      simpa using htoken
  · intro h
    refine ⟨?_, ?_, ?_, ⟨h.refresh, h.stale⟩, h.ifaces, h.daemons, h.distinct⟩
    · exact fun hboth => hboth.2 (h.source.mp hboth.1)
    · rintro ⟨hnone, hempty⟩
      have := h.source.mpr hempty
      rw [Option.isNone_iff_eq_none.mp hnone] at this
      cases this
    · cases hgw : cfg.gateway with
      | none => simp
      | some gw => simpa using h.gatewayToken gw hgw

/-- **A configuration is accepted** if and only if it is what the file stands for and passes the
checks. -/
theorem FullConfig.load_ok_iff :
    FullConfig.load loader path = .ok cfg ↔
      ∃ raw file, loader.readToString path = .ok raw ∧ loader.fromStr raw = .ok file ∧
        file.config = cfg ∧ cfg.Checked := by
  rw [FullConfig.load, Loader.load_eq_ok]
  simp only [FullConfig.validate_eq_ok]

end Checked

/-! ## What a pass reads -/

/-- The part of the configuration that a pass reads. -/
def FullConfig.pass (cfg : FullConfig) : Config where
  staleAfterSecs := cfg.staleAfterSecs.toNat
  sourceBasedRouting := cfg.sourceBasedRouting
  daemons := cfg.daemons
  gateway := cfg.gateway.map GatewayEntry.deviceOverrides

/-- **An accepted configuration** has what the passes rely on. -/
theorem FullConfig.Checked.pass {cfg : FullConfig} (h : cfg.Checked) : cfg.pass.Checked := by
  refine ⟨h.distinct, ?_⟩
  have hrefresh := h.refresh
  have hstale := h.stale
  rw [UInt64.le_iff_toNat_le] at hstale
  rw [ne_eq, ← UInt64.toNat_inj] at hrefresh
  show 0 < cfg.staleAfterSecs.toNat
  have : (0 : UInt64).toNat = 0 := rfl
  omega

end Dumbarp.Routerd
