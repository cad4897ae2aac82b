/-
The configuration of `dumbarp-gateway` (`dumbarp-gateway/src/config.rs`).

A gateway checks its periods and its daemons as a router does.  The address to listen on is used
by `main` alone and left out.
-/
import Dumbarp.Routerd.Config

namespace Dumbarp.Gateway

open Checks Routerd

/-- `ServeConfig`. -/
structure ServeConfig where
  authToken : String
deriving DecidableEq, Repr

/-- `Config`. -/
structure Config where
  refreshIntervalSecs : UInt64
  staleAfterSecs : UInt64
  manageRoutes : Bool
  daemons : List DaemonEntry
  serve : Option ServeConfig
deriving DecidableEq, Repr

/-- What a file says. -/
structure ConfigFile where
  refreshIntervalSecs : Option UInt64 := none
  staleAfterSecs : Option UInt64 := none
  manageRoutes : Option Bool := none
  daemons : List DaemonEntry
  serve : Option ServeConfig := none

/-- `default_refresh`. -/
def defaultRefresh : UInt64 := 30

/-- `default_stale`. -/
def defaultStale : UInt64 := 300

/-- The configuration that a file stands for; by default the gateway manages routes. -/
def ConfigFile.config (file : ConfigFile) : Config where
  refreshIntervalSecs := file.refreshIntervalSecs.getD defaultRefresh
  staleAfterSecs := file.staleAfterSecs.getD defaultStale
  manageRoutes := file.manageRoutes.getD true
  daemons := file.daemons
  serve := file.serve

/-- The checks of `Config::load`. -/
def Config.validate (cfg : Config) : Except String Unit := do
  rejectIf (cfg.daemons = []) "config: `daemons` must list at least one entry"
  checkPeriods cfg.refreshIntervalSecs cfg.staleAfterSecs
  checkDaemons cfg.daemons
  rejectIf (cfg.serve.any fun serve => serve.authToken = "")
    "config: `[serve].auth_token` must be non-empty"
  rejectIf (cfg.manageRoutes = false ∧ cfg.serve = none)
    ("config: `manage_routes = false` with no `[serve]` leaves nothing for this gateway " ++
      "to do")

/-- `Config::load`. -/
def Config.load (loader : Loader ConfigFile) (path : String) : Except (List String) Config :=
  loader.load ConfigFile.config Config.validate path

/-- What `load` checks. -/
structure Config.Checked (cfg : Config) : Prop where
  nonempty : cfg.daemons ≠ []
  refresh : cfg.refreshIntervalSecs ≠ 0
  stale : cfg.refreshIntervalSecs ≤ cfg.staleAfterSecs
  daemons : ∀ d ∈ cfg.daemons, d.name ≠ "" ∧ d.device ≠ "" ∧ d.authToken ≠ ""
  distinct : (cfg.daemons.map DaemonEntry.name).Nodup
  serveToken : ∀ serve ∈ cfg.serve, serve.authToken ≠ ""
  duty : cfg.manageRoutes = true ∨ cfg.serve ≠ none

section Load

variable {loader : Loader ConfigFile} {path : String} {cfg : Config}

lemma Config.validate_eq_ok : cfg.validate = .ok () ↔ cfg.Checked := by
  simp only [validate, bind_eq_ok, rejectIf_eq_ok, checkPeriods_eq_ok, checkDaemons_eq_ok,
    checkDaemon_eq_ok]
  have htoken : ¬ (cfg.serve.any fun serve => serve.authToken = "") = true ↔
      ∀ serve ∈ cfg.serve, serve.authToken ≠ "" := by
    cases cfg.serve <;> simp
  have hduty : ¬ (cfg.manageRoutes = false ∧ cfg.serve = none) ↔
      cfg.manageRoutes = true ∨ cfg.serve ≠ none := by
    rw [not_and_or, Bool.not_eq_false]
  rw [htoken, hduty]
  constructor
  · rintro ⟨hnonempty, ⟨hrefresh, hstale⟩, ⟨hdaemons, hdistinct⟩, htoken, hduty⟩
    exact ⟨hnonempty, hrefresh, hstale, hdaemons, hdistinct, htoken, hduty⟩
  · intro h
    exact ⟨h.nonempty, ⟨h.refresh, h.stale⟩, ⟨h.daemons, h.distinct⟩, h.serveToken, h.duty⟩

/-- **A configuration is accepted** if and only if it is what the file stands for and passes the
checks. -/
theorem Config.load_ok_iff :
    Config.load loader path = .ok cfg ↔
      ∃ raw file, loader.readToString path = .ok raw ∧ loader.fromStr raw = .ok file ∧
        file.config = cfg ∧ cfg.Checked := by
  rw [Config.load, Loader.load_eq_ok]
  simp only [Config.validate_eq_ok]

end Load

end Dumbarp.Gateway
