/-
Where the answers of daemons lead.

Routers and gateways forward by what daemons told them, themselves or through a gateway, and keep
the answers for a while.  Whatever happens between the answer and the packet: what their rules and
routes send anywhere goes to a daemon that held the source of the packet when it was asked, and it
was asked within the windows of all caches on the way.
-/
import Dumbarp.Daemon.Plane
import Dumbarp.Fetch
import Dumbarp.Gateway.Chain

namespace Dumbarp

open Api Daemon Interact Interact.Prog Routing
open Routerd (DaemonEntry routerd RouterState)
open Gateway (behind gateway)

/-! ## Asking the daemons -/

/-- The daemon was asked, and `d` is what is behind its endpoint: the fetch came to `res`, whether
or not the request came through.  An endpoint may lead nowhere. -/
def Polled (http : Http) (join : Join) (decode : String → Option LeasesResponse) (e : DaemonEntry)
    (d : ServingDaemon) (res : Except String Leases) : Prop :=
  ∃ url body es, (∀ u, join e.endpoint "leases" = some u → u = url) ∧
    decode body = some (Daemon.leasesHandler d.cfg.dscpId d.daemon.shared) ∧
    Runs (Network http (Daemon.authLayer http d.cfg.authToken) url body)
      (Client.fetchLeases join decode e.endpoint e.authToken e.name) () es res ()

/-- Each pass of a life asks each daemon of the configuration.  `daemon` says how a daemon stands
when a pass asks it. -/
def AsksEach {ι σ : Type} (http : Http) (join : Join) (decode : String → Option LeasesResponse)
    (daemons : List DaemonEntry) (leases : ι → DaemonEntry → Except String Leases)
    (met : ℕ → Option (ι × σ)) (daemon : ℕ → DaemonEntry → ServingDaemon) : Prop :=
  ∀ i x s, met i = some (x, s) → ∀ e ∈ daemons, Polled http join decode e (daemon i e) (leases x e)

section Polled

variable {http : Http} {join : Join} {decode : String → Option LeasesResponse} {e : DaemonEntry}
  {d : ServingDaemon} {leases : Leases}

/-- What a daemon answers is what it tells. -/
lemma Polled.leases_eq (hhttp : http.Documented) (h : Polled http join decode e d (.ok leases)) :
    leases = ⟨d.daemon.shared.currentIps, d.cfg.dscpId⟩ := by
  obtain ⟨url, body, es, hurl, hdecode, hrun⟩ := h
  cases hjoin : join e.endpoint "leases" with
  | none =>
    -- a URL that cannot be built is an error
    simp only [Client.fetchLeases, getJson, hjoin, pure_eq] at hrun
    cases (runs_ret_inv hrun).2.1
  | some u =>
    obtain rfl := hurl u hjoin
    obtain ⟨-, -, hleases⟩ := (fetchLeases_runs hhttp hdecode hjoin hrun leases).mp rfl
    exact hleases

/-- What a daemon answers it holds. -/
lemma Polled.holds (hhttp : http.Documented) (h : Polled http join decode e d (.ok leases))
    (hregular : d.Regular) {ip : Ipv4Addr} (hip : ip ∈ leases.ips) : d.Holds ip := by
  rw [h.leases_eq hhttp] at hip
  exact hregular.holds hip

end Polled

/-- A daemon of a configuration. -/
def servedEntry : DaemonEntry := ⟨"a", "http://d", "t", ⟨10, 0, 0, 9⟩, "br0"⟩

/-- Asked with its token, it answers. -/
lemma polled_first {d : ServingDaemon} (hcfg : d.cfg = taggedIface.config)
    (hleases : d.daemon.shared.leases = AList.insert "eth0" firstLease ∅) :
    Polled listHttp slashJoin
      (fun _ => some (Daemon.leasesHandler d.cfg.dscpId d.daemon.shared)) servedEntry d
      (.ok ⟨[firstLease.ip], some 4⟩) := by
  have hurl (u : String) (hu : slashJoin "http://d" "leases" = some u) : u = "http://d/leases" :=
    Option.some.inj (hu.symm.trans (by decide))
  have hrun := runs_with_token (Daemon.leasesHandler d.cfg.dscpId d.daemon.shared) "a" opens_t
  rw [leasesHandler_first hleases] at hrun
  have hid : d.cfg.dscpId = some 4 := by rw [hcfg]; rfl
  have htoken : d.cfg.authToken = "t" := by rw [hcfg]; rfl
  rw [hid] at hrun
  refine ⟨"http://d/leases", "leases", [⟨⟨"http://d/leases", "t"⟩, .ok ⟨200, "leases"⟩⟩], hurl, rfl,
    ?_⟩
  rw [htoken, hid]
  exact hrun

lemma exists_polled : ∃ (d : ServingDaemon) (decode : String → Option LeasesResponse),
    d.Regular ∧ (∀ i, d.SettledOn i) ∧
      Polled listHttp slashJoin decode servedEntry d (.ok ⟨[firstLease.ip], some 4⟩) := by
  obtain ⟨d, hregular, hsettled, hcfg, hleases⟩ := exists_servingDaemon
  exact ⟨d, _, hregular, hsettled, polled_first hcfg hleases⟩

/-- A packet from the address of the lease with the mark of the daemon. -/
def servedPacket : Packet := ⟨firstLease.ip, ⟨8, 8, 8, 8⟩, 4⟩

/-! ## A router with daemons of its own -/

section Router

variable {http : Http} {join : Join} {decode : String → Option LeasesResponse}
  {cfg : Routerd.Config} {l : Life (Routerd.Outside String) RouterState}
  {loop : Rtnetlink (Except Errno Unit)} {main : Option (Rtnetlink (Except Errno Unit))}

/-- **A router forwards to who served.**  At any moment of any life of a router that asks daemons:
if its rules and routes send a packet anywhere, then to the next hop of a daemon that held the
source of the packet when it was asked, within the window of the pass that wished for the route, and
by the device of the daemon.  If the marks count and the daemon has an id, the packet has this id
for a mark. -/
theorem router_forwards_to_who_served (hhttp : http.Documented) (hcfg : cfg.Checked)
    (hgw : cfg.gateway = none) (h : Lives (routerd cfg) l loop main)
    {daemon : ℕ → DaemonEntry → ServingDaemon}
    (hasked : AsksEach http join decode cfg.daemons Routerd.Outside.leases l.met daemon)
    (hregular : ∀ i, ∀ e ∈ cfg.daemons, (daemon i e).Regular)
    {other : Rule → Packet → Option Route} {p : Packet} {r : Rule} {q : Route}
    (hf : l.traced.kernel.forward other p = some (r, q)) (hr : r.tagged) (hq : q.tagged) :
    ∃ j x s, l.met j = some (x, s) ∧ ∃ e ∈ cfg.daemons, q.gateway = some e.nexthop ∧
      (∃ idx, q.oif = some idx ∧ ⟨.getLink e.device, .ok (some idx)⟩ ∈ l.traced.log j) ∧
      ∃ i ≤ j, ∃ y t, l.met i = some (y, t) ∧ x.cacheNow - y.cacheNow < cfg.staleAfterSecs ∧
        (daemon i e).Holds p.src ∧
        (cfg.sourceBasedRouting = false → ∀ id, (daemon i e).cfg.dscpId = some id →
          p.mark = id.toUInt32) := by
  obtain ⟨j, x, s, hmet, hfrom, d, hd, hip, hnexthop, hlink, hmark⟩ :=
    Routerd.forwarded_known hcfg h hf hr hq
  obtain ⟨i, hi, y, t, hmet', hreports, hfresh⟩ := Routerd.knownDaemons_told hcfg hfrom hmet hd
  have hnames : ((Routerd.knownDaemons cfg x s).map DaemonRoutes.name).Nodup := by
    simp only [Routerd.knownDaemons, hgw]
    exact Routerd.behind_names hcfg.distinct
  simp only [Routerd.Reports, hgw] at hreports
  obtain ⟨e, he, leases, hok, rfl⟩ := hreports
  have hpolled := hasked i y t hmet' e he
  rw [hok] at hpolled
  refine ⟨j, x, s, hmet, e, he, hnexthop, hlink, i, hi, y, t, hmet', hfresh,
    hpolled.holds hhttp (hregular i e he) hip, fun hsbr id hid => ?_⟩
  obtain ⟨id', hid', hp⟩ := hmark hsbr
  rw [hp, Routerd.id_of_known hcfg hnames hd (by rw [hpolled.leases_eq hhttp, hid]) hid']

end Router

/-- A router that asks the daemon. -/
def servedRouter : Routerd.Config := { Routerd.slidingConfig with daemons := [servedEntry] }

/-- Its only pass. -/
def servedOutside : Routerd.Outside String :=
  ⟨fun _ => .ok ⟨[firstLease.ip], some 4⟩, .error "not asked", Routerd.noFailure, 0, 0⟩

theorem router_forwards_to_first_daemon :
    ∃ (daemon : ℕ → DaemonEntry → ServingDaemon), ∃ j x s,
      (Routerd.passedLife servedRouter servedOutside).met j = some (x, s) ∧
      ∃ e ∈ servedRouter.daemons, (routeFor 167772165 ⟨10, 0, 0, 9⟩ 2).gateway = some e.nexthop ∧
      (∃ idx, (routeFor 167772165 ⟨10, 0, 0, 9⟩ 2).oif = some idx ∧
        ⟨.getLink e.device, .ok (some idx)⟩ ∈
          (Routerd.passedLife servedRouter servedOutside).traced.log j) ∧
      ∃ i ≤ j, ∃ y t, (Routerd.passedLife servedRouter servedOutside).met i = some (y, t) ∧
        x.cacheNow - y.cacheNow < servedRouter.staleAfterSecs ∧
        (∃ k, (daemon i e).ServesOn k servedPacket.src) ∧
        (servedRouter.sourceBasedRouting = false → ∀ id, (daemon i e).cfg.dscpId = some id →
          servedPacket.mark = id.toUInt32) := by
  obtain ⟨d, decode, hregular, hsettled, hpolled⟩ := exists_polled
  obtain ⟨res, hlives⟩ := Routerd.passedLife_lives servedRouter servedOutside
  have hasked : AsksEach listHttp slashJoin decode servedRouter.daemons Routerd.Outside.leases
      (Routerd.passedLife servedRouter servedOutside).met fun _ _ => d := by
    intro i x s hmet e he
    obtain rfl := Routerd.passedLife_met hmet
    obtain rfl := List.mem_singleton.mp he
    exact hpolled
  have hf : (Routerd.passedLife servedRouter servedOutside).traced.kernel.forward
      (fun _ _ => none) servedPacket = some (ruleFor ⟨10, 0, 0, 5⟩ 167772165 (some 4),
        routeFor 167772165 ⟨10, 0, 0, 9⟩ 2) := by decide
  obtain ⟨j, x, s, hmet, e, he, hgateway, hlink, i, hi, y, t, hmet', hfresh, hholds, hmark⟩ :=
    router_forwards_to_who_served listHttp_documented
      (show servedRouter.Checked from ⟨by decide, by decide⟩) rfl hlives hasked
      (fun _ _ _ => hregular) hf (ruleFor_tagged _ _ _) (routeFor_tagged _ _ _)
  exact ⟨fun _ _ => d, j, x, s, hmet, e, he, hgateway, hlink, i, hi, y, t, hmet', hfresh,
    hholds.servesOn hsettled, hmark⟩

/-! ## A gateway -/

/-- **A gateway forwards to who served.**  At any moment of any life of a gateway: if its rules and
routes send a packet anywhere, then to the next hop of a daemon that held the source of the packet
when it was asked, within the window of the pass that wished for the route, and by the device of the
daemon. -/
theorem gateway_forwards_to_who_served {http : Http} (hhttp : http.Documented) {join : Join}
    {decode : String → Option LeasesResponse} {cfg : Gateway.Config} (hcfg : cfg.Checked)
    {l : Life (Gateway.Outside String) LeaseCache} {loop : Rtnetlink (Except Errno Unit)}
    {main : Option (Rtnetlink (Except Errno Unit))} (h : Lives (gateway cfg) l loop main)
    {daemon : ℕ → DaemonEntry → ServingDaemon}
    (hasked : AsksEach http join decode cfg.daemons Gateway.Outside.leases l.met daemon)
    (hregular : ∀ i, ∀ e ∈ cfg.daemons, (daemon i e).Regular)
    {other : Rule → Packet → Option Route} {p : Packet} {r : Rule} {q : Route}
    (hf : l.traced.kernel.forward other p = some (r, q)) (hr : r.tagged) (hq : q.tagged) :
    ∃ j x s, l.met j = some (x, s) ∧ ∃ e ∈ cfg.daemons, q.gateway = some e.nexthop ∧
      (∃ idx, q.oif = some idx ∧ ⟨.getLink e.device, .ok (some idx)⟩ ∈ l.traced.log j) ∧
      ∃ i ≤ j, ∃ y t, l.met i = some (y, t) ∧ x.now - y.now < cfg.staleAfterSecs.toNat ∧
        (daemon i e).Holds p.src := by
  obtain ⟨j, x, s, hmet, spec, hspec, hsrc, -, hgateway, hlink⟩ := h.forwarded hf hr hq
  have hfrom := Gateway.fromFetches hcfg h j s (h.sound.past j x s hmet).2
  obtain ⟨e, he, hnexthop, hdevice, i, hi, y, t, leases, hmet', hok, hip, hfresh⟩ :=
    Gateway.spec_told hcfg hfrom hmet hspec
  have hpolled := hasked i y t hmet' e he
  rw [hok] at hpolled
  exact ⟨j, x, s, hmet, e, he, hnexthop ▸ hgateway, hdevice ▸ hlink, i, hi, y, t, hmet', hfresh,
    hpolled.holds hhttp (hregular i e he) (hsrc ▸ hip)⟩

/-- A gateway that asks the daemon, and serves. -/
def servedGateway : Gateway.Config :=
  { Gateway.officeConfig with daemons := [servedEntry], serve := some ⟨"t"⟩ }

lemma servedGateway_checked : servedGateway.Checked where
  nonempty := by decide
  refresh := by decide
  stale := by decide
  daemons := by decide
  distinct := by decide
  serveToken := by decide
  duty := Or.inl rfl

/-- A pass that hears it. -/
def servedPass : Gateway.Outside String := ⟨fun _ => .ok ⟨[firstLease.ip], some 4⟩, 0⟩

theorem gateway_forwards_to_first_daemon :
    ∃ (daemon : ℕ → DaemonEntry → ServingDaemon), ∃ j x s,
      (Gateway.passedLife servedGateway servedPass).met j = some (x, s) ∧
      ∃ e ∈ servedGateway.daemons, (routeFor 167772165 ⟨10, 0, 0, 9⟩ 2).gateway = some e.nexthop ∧
      (∃ idx, (routeFor 167772165 ⟨10, 0, 0, 9⟩ 2).oif = some idx ∧
        ⟨.getLink e.device, .ok (some idx)⟩ ∈
          (Gateway.passedLife servedGateway servedPass).traced.log j) ∧
      ∃ i ≤ j, ∃ y t, (Gateway.passedLife servedGateway servedPass).met i = some (y, t) ∧
        x.now - y.now < servedGateway.staleAfterSecs.toNat ∧
        ∃ k, (daemon i e).ServesOn k servedPacket.src := by
  obtain ⟨d, decode, hregular, hsettled, hpolled⟩ := exists_polled
  obtain ⟨res, hlives⟩ := Gateway.passedLife_lives servedGateway rfl servedPass
  have hasked : AsksEach listHttp slashJoin decode servedGateway.daemons Gateway.Outside.leases
      (Gateway.passedLife servedGateway servedPass).met fun _ _ => d := by
    intro i x s hmet e he
    obtain rfl := Gateway.passedLife_met hmet
    obtain rfl := List.mem_singleton.mp he
    exact hpolled
  have hf : (Gateway.passedLife servedGateway servedPass).traced.kernel.forward
      (fun _ _ => none) servedPacket = some (ruleFor ⟨10, 0, 0, 5⟩ 167772165 none,
        routeFor 167772165 ⟨10, 0, 0, 9⟩ 2) := by decide
  obtain ⟨j, x, s, hmet, e, he, hgateway, hlink, i, hi, y, t, hmet', hfresh, hholds⟩ :=
    gateway_forwards_to_who_served listHttp_documented servedGateway_checked hlives hasked
      (fun _ _ _ => hregular) hf (ruleFor_tagged _ _ _) (routeFor_tagged _ _ _)
  exact ⟨fun _ _ => d, j, x, s, hmet, e, he, hgateway, hlink, i, hi, y, t, hmet', hfresh,
    hholds.servesOn hsettled⟩

/-! ## Asking a gateway -/

/-- A pass of a gateway: what it meets, and how the daemons stand when it asks them. -/
structure AskedRound where
  outside : Gateway.Outside String
  daemon : DaemonEntry → ServingDaemon

/-- A gateway that serves, with its passes since it started, newest first. -/
structure ServingGateway where
  cfg : Gateway.Config
  checked : cfg.Checked
  serve : Gateway.ServeConfig
  serves : cfg.serve = some serve
  rounds : List AskedRound

/-- The cache after the passes. -/
def cacheAfter (cfg : Gateway.Config) : List AskedRound → LeaseCache
  | [] => ∅
  | r :: older => (Gateway.reconcileOnce cfg r.outside (cacheAfter cfg older)).1

/-- Each pass asks each daemon. -/
def ServingGateway.Asks (http : Http) (join : Join) (decode : String → Option LeasesResponse)
    (g : ServingGateway) : Prop :=
  ∀ r ∈ g.rounds, ∀ e ∈ g.cfg.daemons, Polled http join decode e (r.daemon e) (r.outside.leases e)

/-- Its daemons are regular. -/
def ServingGateway.Regular (g : ServingGateway) : Prop :=
  ∀ r ∈ g.rounds, ∀ e ∈ g.cfg.daemons, (r.daemon e).Regular

/-- The gateway was asked, and `g` is what is behind its endpoint. -/
def PolledThrough (http : Http) (join : Join) (decode : String → Option DaemonsResponse)
    (gw : Routerd.GatewayEntry) (g : ServingGateway) (res : Except String (List DaemonRoutes)) :
    Prop :=
  ∃ url body es, (∀ u, join gw.endpoint "daemons" = some u → u = url) ∧
    decode body =
      some (Gateway.daemonsHandler g.cfg.daemons (snapshot (cacheAfter g.cfg g.rounds))) ∧
    Runs (Network http (Gateway.authLayer http g.serve.authToken) url body)
      (Client.fetchDaemons join decode gw.endpoint gw.authToken Routerd.gatewayCacheKey) () es res
      ()

section PolledThrough

variable {http : Http} {join : Join} {decode : String → Option DaemonsResponse}
  {gw : Routerd.GatewayEntry} {g : ServingGateway} {cfg : Gateway.Config} {rounds : List AskedRound}

/-- What a gateway answers are the daemons that it has leases of. -/
lemma PolledThrough.routes_eq (hhttp : http.Documented) {routes : List DaemonRoutes}
    (h : PolledThrough http join decode gw g (.ok routes)) :
    routes = behind g.cfg.daemons (snapshot (cacheAfter g.cfg g.rounds)) := by
  obtain ⟨url, body, es, hurl, hdecode, hrun⟩ := h
  cases hjoin : join gw.endpoint "daemons" with
  | none =>
    simp only [Client.fetchDaemons, getJson, hjoin, pure_eq] at hrun
    cases (runs_ret_inv hrun).2.1
  | some u =>
    obtain rfl := hurl u hjoin
    obtain ⟨-, -, hroutes⟩ := (fetchDaemons_runs hhttp hdecode
      (fun d hd => (g.checked.daemons d hd).2.1) hjoin hrun routes).mp rfl
    exact hroutes

/-- The cache holds what passes were told, under the times at which they were told. -/
lemma told_of_cacheAfter (hcfg : cfg.Checked) {e : DaemonEntry} (he : e ∈ cfg.daemons)
    {entry : CachedEntry Leases} :
    ∀ {rounds : List AskedRound}, (cacheAfter cfg rounds).lookup e.name = some entry →
      ∃ r ∈ rounds, r.outside.now = entry.lastSuccess ∧ r.outside.leases e = .ok entry.value
  | [], h => by simp [cacheAfter] at h
  | r :: older, h => by
    rw [cacheAfter, Gateway.lookup_reconcileOnce hcfg he] at h
    rcases Routerd.entryAfter_cases h with ⟨hok, htime⟩ | ⟨h, -⟩
    · exact ⟨r, List.mem_cons_self, htime.symm, hok⟩
    · obtain ⟨r', hr', rest⟩ := told_of_cacheAfter hcfg he h
      exact ⟨r', List.mem_cons_of_mem r hr', rest⟩

/-- A daemon that a gateway has leases of was heard by a pass within the window of the latest. -/
lemma heard_of_mem_behind (hcfg : cfg.Checked) {d : DaemonRoutes}
    (hd : d ∈ behind cfg.daemons (snapshot (cacheAfter cfg rounds))) :
    ∃ latest ∈ rounds.head?, ∃ e ∈ cfg.daemons, ∃ r ∈ rounds, ∃ leases,
      r.outside.leases e = .ok leases ∧
        latest.outside.now - r.outside.now < cfg.staleAfterSecs.toNat ∧
          d = ⟨e.name, e.nexthop, e.device, leases.dumbarpdId, leases.ips⟩ := by
  obtain ⟨e, he, hr⟩ := List.mem_filterMap.mp hd
  obtain ⟨leases, hl, rfl⟩ := Option.map_eq_some_iff.mp hr
  rw [snapshot, HashMap.lookup_mapValues] at hl
  obtain ⟨entry, hentry, rfl⟩ := Option.map_eq_some_iff.mp hl
  cases rounds with
  | nil => simp [cacheAfter] at hentry
  | cons latest older =>
    refine ⟨latest, rfl, e, he, ?_⟩
    rw [cacheAfter, Gateway.lookup_reconcileOnce hcfg he] at hentry
    rcases Routerd.entryAfter_cases hentry with ⟨hok, -⟩ | ⟨hentry, hfresh⟩
    · exact ⟨latest, List.mem_cons_self, _, hok, by simpa using hcfg.window, rfl⟩
    · obtain ⟨r, hr, htime, hok⟩ := told_of_cacheAfter hcfg he hentry
      exact ⟨r, List.mem_cons_of_mem latest hr, _, hok, htime ▸ hfresh, rfl⟩

end PolledThrough

/-! ## A router behind a gateway -/

section Behind

variable {http : Http} {join : Join} {decode : String → Option LeasesResponse}
  {decodeDaemons : String → Option DaemonsResponse} {cfg : Routerd.Config}
  {gw : Routerd.GatewayEntry} {l : Life (Routerd.Outside String) RouterState}
  {loop : Rtnetlink (Except Errno Unit)} {main : Option (Rtnetlink (Except Errno Unit))}

/-- **A router behind a gateway forwards to who served.**  At any moment of any life of a router
that asks a gateway, whatever the gateway at each moment: if the rules and routes of the router send
a packet anywhere, then to the next hop of a daemon of the gateway, by the device that the router or
else the gateway gives it.  The daemon held the source of the packet when a pass of the gateway
asked it, within the gateway's window of its latest pass before the router asked the gateway, which
the router did within its own window of the pass that wished for the route.  If the marks count and
the daemon has an id, the packet has this id for a mark. -/
theorem router_forwards_to_who_served_behind (hhttp : http.Documented) (hcfg : cfg.Checked)
    (hgw : cfg.gateway = some gw.deviceOverrides) (h : Lives (routerd cfg) l loop main)
    {g : ℕ → ServingGateway}
    (hpolled : ∀ i x s, l.met i = some (x, s) → (g i).Asks http join decode ∧
      PolledThrough http join decodeDaemons gw (g i) x.daemons)
    (hregular : ∀ i, (g i).Regular)
    {other : Rule → Packet → Option Route} {p : Packet} {r : Rule} {q : Route}
    (hf : l.traced.kernel.forward other p = some (r, q)) (hr : r.tagged) (hq : q.tagged) :
    ∃ j x s, l.met j = some (x, s) ∧ ∃ i ≤ j, ∃ y t, l.met i = some (y, t) ∧
      x.cacheNow - y.cacheNow < cfg.staleAfterSecs ∧
      ∃ e ∈ (g i).cfg.daemons, q.gateway = some e.nexthop ∧
        (∃ idx, q.oif = some idx ∧
          ⟨.getLink ((gw.deviceOverrides.lookup e.name).getD e.device), .ok (some idx)⟩
            ∈ l.traced.log j) ∧
        ∃ latest ∈ (g i).rounds.head?, ∃ a ∈ (g i).rounds,
          latest.outside.now - a.outside.now < (g i).cfg.staleAfterSecs.toNat ∧
          (a.daemon e).Holds p.src ∧
          (cfg.sourceBasedRouting = false → ∀ id, (a.daemon e).cfg.dscpId = some id →
            p.mark = id.toUInt32) := by
  obtain ⟨j, x, s, hmet, hfrom, d, hd, hip, hnexthop, hlink, hmark⟩ :=
    Routerd.forwarded_known hcfg h hf hr hq
  rcases Routerd.knownDaemons_polled hcfg hfrom hmet hgw with
    hnone | ⟨i, hi, y, t, routes, hmet', hok, hfresh, hknown⟩
  · simp [hnone] at hd
  obtain ⟨hasks, hthrough⟩ := hpolled i y t hmet'
  rw [hok] at hthrough
  obtain rfl := hthrough.routes_eq hhttp
  have hnames : ((Routerd.knownDaemons cfg x s).map DaemonRoutes.name).Nodup := by
    rw [hknown, List.map_map]
    exact Routerd.behind_names (g i).checked.distinct
  rw [hknown] at hd
  obtain ⟨d₀, hd₀, rfl⟩ := List.mem_map.mp hd
  obtain ⟨latest, hlatest, e, he, a, ha, leases, hleases, hwindow, rfl⟩ :=
    heard_of_mem_behind (g i).checked hd₀
  have htold := hasks a ha e he
  rw [hleases] at htold
  refine ⟨j, x, s, hmet, i, hi, y, t, hmet', hfresh, e, he, hnexthop, hlink, latest, hlatest, a, ha,
    hwindow, htold.holds hhttp (hregular i a ha e he) hip, fun hsbr id hid => ?_⟩
  obtain ⟨id', hid', hp⟩ := hmark hsbr
  rw [← hknown] at hd
  rw [hp, Routerd.id_of_known hcfg hnames hd ?_ hid']
  show leases.dumbarpdId = some id
  rw [htold.leases_eq hhttp, hid]

end Behind

/-- A router that asks the gateway. -/
def officeEntry : Routerd.GatewayEntry := ⟨"http://g", "t", ∅⟩

/-- What it is told. -/
def servedRoutes : List DaemonRoutes := [⟨"a", ⟨10, 0, 0, 9⟩, "br0", some 4, [firstLease.ip]⟩]

/-- Its only pass. -/
def behindOutside : Routerd.Outside String :=
  ⟨fun _ => .error "not asked", .ok servedRoutes, Routerd.noFailure, 0, 0⟩

/-- The gateway after the pass that hears the daemon. -/
def servingOffice (d : ServingDaemon) : ServingGateway :=
  ⟨servedGateway, servedGateway_checked, ⟨"t"⟩, rfl, [⟨servedPass, fun _ => d⟩]⟩

lemma servingOffice_regular {d : ServingDaemon} (h : d.Regular) (_ : ℕ) :
    (servingOffice d).Regular := by
  intro r hr e _
  obtain rfl := List.mem_singleton.mp hr
  exact h

/-- Asked with its token, it answers. -/
lemma exists_polledThrough (d : ServingDaemon) : ∃ decode : String → Option DaemonsResponse,
    PolledThrough listHttp slashJoin decode officeEntry (servingOffice d) (.ok servedRoutes) := by
  let view := snapshot (cacheAfter servedGateway (servingOffice d).rounds)
  let decode (_ : String) : Option DaemonsResponse :=
    some (Gateway.daemonsHandler servedGateway.daemons view)
  have hdecode : decode "daemons" = some (Gateway.daemonsHandler servedGateway.daemons view) := rfl
  have hurl (u : String) (hu : slashJoin "http://g" "daemons" = some u) : u = "http://g/daemons" :=
    Option.some.inj (hu.symm.trans (by decide))
  have hroutes : behind servedGateway.daemons view = servedRoutes := rfl
  have hrun := gateway_runs_with_token (Gateway.daemonsHandler servedGateway.daemons view)
    Routerd.gatewayCacheKey
  rw [(fetchDaemons_runs listHttp_documented hdecode
    (fun e he => (servedGateway_checked.daemons e he).2.1) (by decide) hrun servedRoutes).mpr
      ⟨⟨_, rfl⟩, opens_t, hroutes.symm⟩] at hrun
  exact ⟨decode, _, _, _, hurl, hdecode, hrun⟩

theorem router_forwards_to_first_daemon_behind :
    ∃ g : ℕ → ServingGateway, ∃ j x s,
      (Routerd.passedLife Gateway.behindConfig behindOutside).met j = some (x, s) ∧
      ∃ i ≤ j, ∃ y t,
        (Routerd.passedLife Gateway.behindConfig behindOutside).met i = some (y, t) ∧
        x.cacheNow - y.cacheNow < Gateway.behindConfig.staleAfterSecs ∧
        ∃ e ∈ (g i).cfg.daemons,
          (routeFor 167772165 ⟨10, 0, 0, 9⟩ 2).gateway = some e.nexthop ∧
          (∃ idx, (routeFor 167772165 ⟨10, 0, 0, 9⟩ 2).oif = some idx ∧
            ⟨.getLink ((officeEntry.deviceOverrides.lookup e.name).getD e.device), .ok (some idx)⟩
              ∈ (Routerd.passedLife Gateway.behindConfig behindOutside).traced.log j) ∧
          ∃ latest ∈ (g i).rounds.head?, ∃ a ∈ (g i).rounds,
            latest.outside.now - a.outside.now < (g i).cfg.staleAfterSecs.toNat ∧
            (∃ k, (a.daemon e).ServesOn k servedPacket.src) ∧
            (Gateway.behindConfig.sourceBasedRouting = false →
              ∀ id, (a.daemon e).cfg.dscpId = some id → servedPacket.mark = id.toUInt32) := by
  obtain ⟨d, decode, hregular, hsettled, hpolled⟩ := exists_polled
  obtain ⟨decodeDaemons, hthrough⟩ := exists_polledThrough d
  obtain ⟨res, hlives⟩ := Routerd.passedLife_lives Gateway.behindConfig behindOutside
  have hasks : (servingOffice d).Asks listHttp slashJoin decode := by
    intro a ha e he
    obtain rfl := List.mem_singleton.mp ha
    obtain rfl := List.mem_singleton.mp he
    exact hpolled
  have hf : (Routerd.passedLife Gateway.behindConfig behindOutside).traced.kernel.forward
      (fun _ _ => none) servedPacket = some (ruleFor ⟨10, 0, 0, 5⟩ 167772165 (some 4),
        routeFor 167772165 ⟨10, 0, 0, 9⟩ 2) := by decide
  have hpolls : ∀ i x s,
      (Routerd.passedLife Gateway.behindConfig behindOutside).met i = some (x, s) →
      (servingOffice d).Asks listHttp slashJoin decode ∧
        PolledThrough listHttp slashJoin decodeDaemons officeEntry (servingOffice d) x.daemons := by
    intro i x s hmet
    obtain rfl := Routerd.passedLife_met hmet
    exact ⟨hasks, hthrough⟩
  obtain ⟨j, x, s, hmet, i, hi, y, t, hmet', hfresh, e, he, hgateway, hlink, latest, hlatest, a, ha,
      hwindow, hholds, hmark⟩ :=
    router_forwards_to_who_served_behind listHttp_documented
      (show Gateway.behindConfig.Checked from ⟨by decide, by decide⟩) rfl hlives hpolls
      (servingOffice_regular hregular) hf (ruleFor_tagged _ _ _) (routeFor_tagged _ _ _)
  obtain rfl := List.mem_singleton.mp ha
  exact ⟨fun _ => servingOffice d, j, x, s, hmet, i, hi, y, t, hmet', hfresh, e, he, hgateway,
    hlink, latest, hlatest, _, ha, hwindow, hholds.servesOn hsettled, hmark⟩

end Dumbarp
