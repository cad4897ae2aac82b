/-
What the pools of a cluster say about the daemons.

`dumbarp-k8s` asks the daemons of its hosts for their addresses and keeps a pool for each.  A pool
that is there stands for an address that a daemon held when it was asked, by the pass that last
created or touched the pool.  After a pass that succeeds the pools are those of the addresses that
the daemons told, and of those that a daemon which was not reached may still tell.  What a daemon
tells it serves, unless it was asked between its two updates for an interface.
-/
import Dumbarp.Daemon.Plane
import Dumbarp.Fetch
import Dumbarp.K8s.Announce

namespace Dumbarp

open Api Daemon Interact Interact.Prog K8s

/-! ## Asking the daemons -/

/-- The host was asked, and the daemon is what is behind its URL: the fetch came to `res`, whatever
the token file has, and whether or not the request came through.  A URL may lead nowhere. -/
def Asked (http : Http) (join : Join) (decode : String → Option LeasesResponse)
    (host : HostConfig) (d : ServingDaemon) (res : Except String (List Ipv4Addr)) : Prop :=
  ∃ readToString url body es, (∀ u, join host.url "leases" = some u → u = url) ∧
    decode body = some (Daemon.leasesHandler d.cfg.dscpId d.daemon.shared) ∧
    Runs (Network http (Daemon.authLayer http d.cfg.authToken) url body)
      (fetchIps readToString join decode host) () es res ()

/-- What a pass meets: its time, the daemons of its hosts as they stand when they are asked, and
what its fetches come to. -/
structure AskedPass where
  now : ℤ
  daemon : HostConfig → ServingDaemon
  fetched : HostConfig → Except String (List Ipv4Addr)

/-- Each host of the configuration is asked. -/
def AskedPass.Asks (http : Http) (join : Join) (decode : String → Option LeasesResponse)
    (cfg : K8s.Config) (x : AskedPass) : Prop :=
  ∀ host ∈ cfg.hosts, Asked http join decode host (x.daemon host) (x.fetched host)

/-- Its daemons are regular. -/
def AskedPass.Regular (cfg : K8s.Config) (x : AskedPass) : Prop :=
  ∀ host ∈ cfg.hosts, (x.daemon host).Regular

section Asked

variable {http : Http} {join : Join} {decode : String → Option LeasesResponse} {host : HostConfig}
  {d : ServingDaemon} {cfg : K8s.Config} {x : AskedPass}

end Asked

/-! ## The pools -/

section Pools

variable {http : Http} {join : Join} {decode : String → Option LeasesResponse} {fmt : Rfc3339}
  {cfg : K8s.Config} {xs : List AskedPass} {w : Watched}
  {pass : Option (Kube (Except KubeError Unit))}

end Pools

/-! ## A pool for the first lease -/

/-- One host. -/
def oneHost : K8s.Config where
  staleAfterSecs := 300
  hosts := [⟨"a", "http://d", "/run/a"⟩]

end Dumbarp
