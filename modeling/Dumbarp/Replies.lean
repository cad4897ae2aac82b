/-
The way back.

A daemon stamps the packets that come in for its addresses with its id.  Behind it a router turns
the tag into a mark, which netfilter keeps with the connection and sets on the replies.  The rules
of the router send a marked packet from an address to the daemon with that id, and the rules of the
daemon send it out where the daemon serves the address.  So the reply leaves by the daemon that the
request came in by, also where other daemons are nearer.
-/
import Dumbarp.Daemon.Refresh
import Dumbarp.Served

namespace Dumbarp

open Api Daemon Ebpf Engine Interact Interact.Prog Routerd Routing

variable {ε : Type}

/-! ## After a pass -/

/-- **A router whose latest pass has gone through**, in the mode in which it looks at tags, whatever
requests failed in its life before. -/
structure PassedRouter (ε : Type) where
  cfg : Routerd.Config
  tagged : cfg.sourceBasedRouting = false
  life : Life (Routerd.Outside ε) RouterState
  main : Option (Rtnetlink (Except Errno Unit))
  before : Except Errno Unit
  lives : Lives (routerd cfg) life (ret before) main
  outside : Routerd.Outside ε
  synced : outside.outcome.Succeeds
  iter : IterOrder
  events : List NetlinkEvent
  result : Except Errno Unit
  kernel : Kernel
  run : Runs (KernelStep Exact)
    (reconcile iter (Routerd.reconcileOnce cfg outside life.state).desired)
    life.traced.kernel events result kernel
  succeeded : ∀ e ∈ events, Succeeds e
  found : ∀ e ∈ events, LinkFound e

namespace PassedRouter

variable (r : PassedRouter ε)

/-- What the pass has made. -/
def pass : PassResult := Routerd.reconcileOnce r.cfg r.outside r.life.state

/-- The daemons that it knew of. -/
def known : List Api.DaemonRoutes := knownDaemons r.cfg r.outside r.life.state

/-- A pass of the router met this, the latest or one before. -/
def Met (y : Routerd.Outside ε) : Prop := y = r.outside ∨ ∃ i s, r.life.met i = some (y, s)

variable {r}

/-- What the router knows of a daemon, the daemon has told a pass. -/
lemma reported (hchecked : r.cfg.Checked) {e : Api.DaemonRoutes} (he : e ∈ r.known) :
    ∃ y, r.Met y ∧ Reports r.cfg y e := by
  have hfrom := fromFetches hchecked r.lives _ _ r.lives.sound.state
  obtain ⟨j, -, y, t, hmet, hreports, -⟩ :=
    knownDaemons_told hchecked (hfrom.update (some (r.outside, r.life.state)))
      (Function.update_self _ _ _) he
  refine ⟨y, ?_, hreports⟩
  by_cases hj : j = r.life.traced.pass + 1
  · subst hj
    rw [Function.update_self] at hmet
    exact Or.inl (Prod.mk.inj (Option.some.inj hmet)).1.symm
  · rw [Function.update_of_ne hj] at hmet
    exact Or.inr ⟨j, t, hmet⟩

end PassedRouter

/-- Behind the endpoint of an entry there always was the daemon with this configuration, however it
stood, when the router asked. -/
def PassedRouter.Asks (http : Http) (join : Join) (decode : String → Option LeasesResponse)
    (r : PassedRouter String) (entry : DaemonEntry) (cfg : Daemon.Config) : Prop :=
  ∀ y, r.Met y → ∃ d₀ : ServingDaemon, d₀.cfg = cfg ∧
    Polled http join decode entry d₀ (y.leases entry)

/-- What the router knows under the name of the entry is where the daemon is, and its id. -/
lemma PassedRouter.Asks.known {http : Http} (hhttp : http.Documented) {join : Join}
    {decode : String → Option LeasesResponse} {r : PassedRouter String} {entry : DaemonEntry}
    {cfg : Daemon.Config} (h : r.Asks http join decode entry cfg) (hchecked : r.cfg.Checked)
    (hdirect : r.cfg.gateway = none) (hentry : entry ∈ r.cfg.daemons) {e : DaemonRoutes}
    (he : e ∈ r.known) (hname : e.name = entry.name) :
    e.nexthop = entry.nexthop ∧ e.device = entry.device ∧ e.dumbarpdId = cfg.dscpId := by
  obtain ⟨y, hmet, hreports⟩ := PassedRouter.reported hchecked he
  simp only [Reports, hdirect] at hreports
  obtain ⟨e', he', leases, hok, rfl⟩ := hreports
  obtain rfl : e' = entry := List.inj_on_of_nodup_map hchecked.distinct he' hentry hname
  obtain ⟨d₀, rfl, hpolled⟩ := h y hmet
  rw [hok] at hpolled
  rw [hpolled.leases_eq hhttp]
  exact ⟨rfl, rfl, rfl⟩

/-! ## Out and back -/

/-- What the ingress program on an attached interface lets a packet go on as. -/
def Daemon.ServingDaemon.ingress (d : ServingDaemon) (a : Attached) (frame : Frame)
    (orig : OrigDscp) : Frame :=
  (dumbarp d.daemon.shared.host.toMaps a.ifindex frame orig).2.1

end Dumbarp
