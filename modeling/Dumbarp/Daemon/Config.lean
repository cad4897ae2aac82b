/-
The configuration of `dumbarpd` (`dumbarp-daemon/src/config.rs`).

Reading the file and parsing its TOML enter as parameters: a file is what the parser makes of
it, with the fields it may leave out.  The address to listen on and whether routes are managed
are used by `main` alone and left out.
-/
import Dumbarp.Common
import Mathlib.Tactic.Lemma

namespace Dumbarp.Daemon

/-- `Config`. -/
structure Config where
  authToken : String
  refreshIntervalSecs : UInt64
  ifaces : List String
  neighRefreshIntervalSecs : UInt64
  dumbarpdId : UInt8
deriving DecidableEq, Repr

/-- What a file says. -/
structure ConfigFile where
  authToken : String
  refreshIntervalSecs : Option UInt64 := none
  ifaces : List String
  neighRefreshIntervalSecs : Option UInt64 := none
  dumbarpdId : Option UInt8 := none

/-- `default_refresh`. -/
def defaultRefresh : UInt64 := 60

/-- `default_neigh_refresh`. -/
def defaultNeighRefresh : UInt64 := 30

/-- The configuration that a file stands for. -/
def ConfigFile.config (file : ConfigFile) : Config where
  authToken := file.authToken
  refreshIntervalSecs := file.refreshIntervalSecs.getD defaultRefresh
  ifaces := file.ifaces
  neighRefreshIntervalSecs := file.neighRefreshIntervalSecs.getD defaultNeighRefresh
  dumbarpdId := file.dumbarpdId.getD 0

/-- What `load` is given: the content of files, and the TOML in a text. -/
structure Loader where
  readToString : String → Except String String
  fromStr : String → Except String ConfigFile

/-- `Config::load`. -/
def Config.load (loader : Loader) (path : String) : Except (List String) Config :=
  match loader.readToString path with
  | .error e => .error [s!"reading config file {path}", e]
  | .ok raw =>
    match loader.fromStr raw with
    | .error e => .error [s!"parsing TOML in {path}", e]
    | .ok file =>
      let cfg := file.config
      if cfg.authToken.isEmpty then .error ["config: `auth_token` must be non-empty"]
      else if cfg.ifaces.isEmpty then
        .error ["config: `ifaces` must list at least one interface"]
      else if cfg.refreshIntervalSecs = 0 then
        .error ["config: `refresh_interval_secs` must be > 0"]
      else if cfg.dumbarpdId > dscpIdMax then
        let id := cfg.dumbarpdId
        .error [s!"config: `dumbarpd_id` ({id}) must be between 1 and {dscpIdMax} " ++
          "(0 disables DSCP mode)"]
      else .ok cfg

/-- `Config::dscp_id`. -/
def Config.dscpId (cfg : Config) : Option UInt8 :=
  if cfg.dumbarpdId ≠ 0 then some cfg.dumbarpdId else none

/-- What `load` checks. -/
structure Config.Checked (cfg : Config) : Prop where
  authToken : cfg.authToken ≠ ""
  ifaces : cfg.ifaces ≠ []
  refresh : cfg.refreshIntervalSecs ≠ 0
  dumbarpdId : cfg.dumbarpdId ≤ dscpIdMax

section Load

variable {loader : Loader} {path : String} {cfg : Config}

/-- **A configuration is accepted** if and only if it is what the file stands for and passes the
checks. -/
theorem load_ok_iff :
    Config.load loader path = .ok cfg ↔
      ∃ raw file, loader.readToString path = .ok raw ∧ loader.fromStr raw = .ok file ∧
        file.config = cfg ∧ cfg.Checked := by
  rw [Config.load]
  cases hread : loader.readToString path with
  | error e => simp
  | ok raw =>
    cases hparse : loader.fromStr raw with
    | error e => simp [hparse]
    | ok file =>
      simp only [Except.ok.injEq, exists_and_left, exists_eq_left', hparse]
      constructor
      · intro h
        split at h
        · cases h
        rename_i htoken
        split at h
        · cases h
        rename_i hifaces
        split at h
        · cases h
        rename_i hrefresh
        split at h
        · cases h
        rename_i hid
        obtain rfl := Except.ok.inj h
        exact ⟨rfl, by simpa using htoken, by simpa using hifaces, hrefresh,
          UInt8.not_lt.mp hid⟩
      · rintro ⟨rfl, h⟩
        rw [if_neg (by simpa using h.authToken), if_neg (by simpa using h.ifaces),
          if_neg h.refresh, if_neg (UInt8.not_lt.mpr h.dumbarpdId)]

/-- The defaults pass the checks: a file needs a token and an interface only. -/
lemma checked_defaults {token : String} {ifaces : List String} (htoken : token ≠ "")
    (hifaces : ifaces ≠ []) :
    (ConfigFile.config { authToken := token, ifaces := ifaces }).Checked :=
  ⟨htoken, hifaces, (by decide : defaultRefresh ≠ 0), (by decide : (0 : UInt8) ≤ dscpIdMax)⟩

/-- The id of an accepted configuration fits the DSCP field and is not 0. -/
lemma Config.Checked.dscpId {id : UInt8} (h : cfg.Checked) (hid : cfg.dscpId = some id) :
    id ≠ 0 ∧ id ≤ dscpIdMax := by
  rw [Config.dscpId] at hid
  split at hid
  · rename_i hne
    obtain rfl := Option.some.inj hid
    exact ⟨hne, h.dumbarpdId⟩
  · cases hid

end Load

end Dumbarp.Daemon
