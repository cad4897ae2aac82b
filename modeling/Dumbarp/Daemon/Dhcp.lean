/-
The DHCP tasks of `dumbarpd` (`dumbarp-daemon/src/dhcp.rs`) and the state they share
(`dumbarp-daemon/src/state.rs`).

Each interface of the configuration has a task, which follows the leases of its DHCP client.
For a lease it updates the engine under one lock and then `leases` under another, so that other
tasks may run in between; the steps of a task are the sections under its locks.
-/
import Dumbarp.Daemon.Config
import Dumbarp.Engine.Host
import Dumbarp.Lib.Tasks
import Dumbarp.Routing.Reconcile
import Mathlib.Data.String.Basic

namespace Dumbarp.Daemon

open Interact Interact.Prog Engine Routing

/-! ## The shared state -/

/-- `LeaseInfo`. -/
structure LeaseInfo where
  ip : Ipv4Addr
  gateway : Ipv4Addr
deriving DecidableEq, Repr

/-- What a neighbour refresher was started with (`spawn_probe_and_refresh`). -/
structure Refresher where
  iface : String
  info : LeaseInfo
deriving DecidableEq, Repr

/-- The number of a refresher (`AbortHandle`). -/
abbrev RefresherId : Type := ℕ

/-- `AppState`, with the system the engine works on and the refreshers that nobody aborted. -/
structure AppState where
  engine : Attachments
  host : Host
  leases : HashMap String LeaseInfo
  refreshers : HashMap RefresherId Refresher

/-- `AppState::new`. -/
def AppState.new : AppState := { engine := ∅, host := Host.loaded, leases := ∅, refreshers := ∅ }

/-- The entries of `leases`, a `BTreeMap`, in the order of their keys. -/
def AppState.entries (s : AppState) : List (String × LeaseInfo) :=
  (s.leases.keys.insertionSort (· ≤ ·)).filterMap fun iface =>
    (s.leases.lookup iface).map (iface, ·)

/-- `AppState::current_ips`. -/
def AppState.currentIps (s : AppState) : List Ipv4Addr := s.entries.map fun e => e.2.ip

/-- `AppState::current_routes`. -/
def AppState.currentRoutes (s : AppState) : List RouteSpec :=
  s.entries.map fun e => { src := e.2.ip, gateway := e.2.gateway, iface := e.1, fwmark := none }

lemma mem_entries {s : AppState} {iface : String} {info : LeaseInfo} :
    (iface, info) ∈ s.entries ↔ s.leases.lookup iface = some info := by
  simp only [AppState.entries, List.mem_filterMap, List.mem_insertionSort, Option.map_eq_some_iff,
    Prod.mk.injEq]
  constructor
  · rintro ⟨_, -, _, h, rfl, rfl⟩
    exact h
  · intro h
    exact ⟨iface, AList.mem_keys.mpr (HashMap.mem_iff_lookup.mpr ⟨info, h⟩), info, h, rfl, rfl⟩

/-- Abort a refresher, if there is one. -/
def AppState.abort (s : AppState) (neigh : Option RefresherId) : HashMap RefresherId Refresher :=
  match neigh with
  | none => s.refreshers
  | some id => s.refreshers.erase id

/-! ## The task of an interface -/

/-- The part of a lease that the task reads (`DhcpV4Lease`). -/
structure DhcpLease where
  yiaddr : Ipv4Addr
  gateways : Option (List Ipv4Addr)

/-- Where a task stands in `run_dhcp_for_iface`. -/
inductive Phase where
  /-- The client is to be made. -/
  | init
  /-- The task waits for the next event of its client. -/
  | listen
  /-- A lease has come, the engine is to be updated. -/
  | attach (info : LeaseInfo)
  /-- The engine is attached, `leases` is to be updated. -/
  | record (info : LeaseInfo)
  /-- The refresher is to be replaced. -/
  | respawn (info : LeaseInfo)
  /-- The engine could not be attached, `leases` is to be updated. -/
  | unrecord
  /-- `detach`: the engine is to be updated.  The client is made again after the second one. -/
  | detach (second : Bool)
  /-- `detach`: the engine is updated, `leases` is to be. -/
  | forget (second : Bool)
  /-- The events of the client have ended. -/
  | stop
deriving DecidableEq, Repr

/-- What a task keeps: where it stands and the handle of its refresher (`neigh_handle`). -/
structure Task where
  phase : Phase
  neigh : Option RefresherId
deriving DecidableEq, Repr

/-- What a task does about an event, or about the end of its events. -/
def afterEvent : Option (Except String DhcpLease) → Phase
  | none => .stop
  | some (.error _) => .detach false
  | some (.ok lease) =>
    match lease.gateways.bind List.head? with
    -- a lease without a gateway is ignored
    | none => .listen
    | some gateway => .attach ⟨lease.yiaddr, gateway⟩

/-- The section under the lock of the engine for a lease. -/
def reattach (engine : Attachments) (iface : String) (ip : Ipv4Addr) (dumbarpdId : Option UInt8) :
    Syscalls (Except AnyhowError Unit × Attachments) := do
  let (_, engine) ← removeInterface engine iface
  addInterface engine iface ip dumbarpdId

/-- **The steps of `run_dhcp_for_iface`.** -/
inductive TaskStep (dumbarpdId : Option UInt8) (iface : String) :
    Task → AppState → Task → AppState → Prop
  | initFails (neigh s) : TaskStep dumbarpdId iface ⟨.init, neigh⟩ s ⟨.init, neigh⟩ s
  | inits (neigh s) : TaskStep dumbarpdId iface ⟨.init, neigh⟩ s ⟨.listen, neigh⟩ s
  | event (neigh s) (event : Option (Except String DhcpLease)) :
      TaskStep dumbarpdId iface ⟨.listen, neigh⟩ s ⟨afterEvent event, neigh⟩ s
  | attaches (neigh) {s : AppState} {info : LeaseInfo} {es engine host}
      (hrun : Runs HostStep (reattach s.engine iface info.ip dumbarpdId) s.host es
        (.ok (), engine) host) :
      TaskStep dumbarpdId iface ⟨.attach info, neigh⟩ s ⟨.record info, neigh⟩
        { s with engine, host }
  | attachFails (neigh) {s : AppState} {info : LeaseInfo} {es e engine host}
      (hrun : Runs HostStep (reattach s.engine iface info.ip dumbarpdId) s.host es
        (.error e, engine) host) :
      TaskStep dumbarpdId iface ⟨.attach info, neigh⟩ s ⟨.unrecord, neigh⟩ { s with engine, host }
  | records (neigh) (s : AppState) (info) :
      TaskStep dumbarpdId iface ⟨.record info, neigh⟩ s ⟨.respawn info, neigh⟩
        { s with leases := s.leases.insert iface info }
  | respawns (neigh) {s : AppState} (info) {id} (fresh : id ∉ s.refreshers) :
      TaskStep dumbarpdId iface ⟨.respawn info, neigh⟩ s ⟨.listen, some id⟩
        { s with refreshers := (s.abort neigh).insert id ⟨iface, info⟩ }
  | unrecords (neigh) (s : AppState) :
      TaskStep dumbarpdId iface ⟨.unrecord, neigh⟩ s ⟨.listen, neigh⟩
        { s with leases := s.leases.erase iface }
  | detaches (neigh) {s : AppState} {second es res engine host}
      (hrun : Runs HostStep (removeInterface s.engine iface) s.host es (res, engine) host) :
      TaskStep dumbarpdId iface ⟨.detach second, neigh⟩ s ⟨.forget second, neigh⟩
        { s with engine, host }
  | forgets (neigh) (s : AppState) (second) :
      TaskStep dumbarpdId iface ⟨.forget second, neigh⟩ s
        ⟨if second then .init else .stop, neigh⟩ { s with leases := s.leases.erase iface }
  | stops (neigh) (s : AppState) :
      TaskStep dumbarpdId iface ⟨.stop, neigh⟩ s ⟨.detach true, none⟩
        { s with refreshers := s.abort neigh }

/-! ## The daemon -/

/-- The tasks of the daemon and the state they share. -/
abbrev Dumbarpd (cfg : Config) : Type := Tasks.System (Fin cfg.ifaces.length) Task AppState

/-- `spawn_all`: a task for each entry of `ifaces`. -/
def spawnAll (cfg : Config) : Dumbarpd cfg := ⟨fun _ => ⟨.init, none⟩, AppState.new⟩

/-- What the tasks do. -/
def daemonSteps (cfg : Config) : Tasks.Steps (Fin cfg.ifaces.length) Task AppState :=
  fun i => TaskStep cfg.dscpId (cfg.ifaces.get i)

/-- The daemon may come to this state. -/
def Reachable (cfg : Config) (d : Dumbarpd cfg) : Prop :=
  Tasks.Reach (daemonSteps cfg) (spawnAll cfg) d

/-! ## What a section does to the engine -/

section Sections

variable {engine engine' : Attachments} {iface : String} {ip : Ipv4Addr}
  {dumbarpdId : Option UInt8} {h h' : Host} {es : List EngineEvent}
  {res : Except AnyhowError Unit}

/-- After a lease the interface is attached with the new address, or not at all. -/
lemma reattach_runs
    (hrun : Runs HostStep (reattach engine iface ip dumbarpdId) h es (res, engine') h') :
    AddResult (engine.erase iface) iface ip (res, engine') := by
  refine Ends.runs (Q := AddResult (engine.erase iface) iface ip) ?_ hrun
  refine Ends.bind removeInterface_ends fun r hr => ?_
  rw [← hr]
  exact addInterface_ends

lemma removeInterface_runs_erase
    (hrun : Runs HostStep (removeInterface engine iface) h es (res, engine') h') :
    engine' = engine.erase iface :=
  removeInterface_ends.runs hrun

/-- The attach of a lease can succeed. -/
lemma reattach_can (engine : Attachments) (iface : String) (ip : Ipv4Addr)
    (dumbarpdId : Option UInt8) (h : Host) :
    Can HostStep (reattach engine iface ip dumbarpdId) h fun r _ => r.1 = .ok () := by
  refine Can.bind ?_
  obtain ⟨es, r, h', hrun, -⟩ := can_of_total hostStep_total (removeInterface engine iface) h
  obtain ⟨res, engine'⟩ := r
  have hiface : iface ∉ engine' := by
    rw [removeInterface_runs_erase hrun]
    simp
  exact ⟨es, _, h', hrun, addInterface_can hiface h' ip dumbarpdId⟩

end Sections

end Dumbarp.Daemon
