/-
A pass of a gateway (`dumbarp-gateway/src/reconcile.rs`), and what its life comes to.

A gateway that manages routes wishes for an unmarked route for each address that its daemons hold,
and tells what they hold to whoever asks.  Both come from one cache, so at any moment of any life
the two agree; and what its routes do to a packet is what a daemon said within the window.  One that
does not manage routes has no part in the kernel.
-/
import Dumbarp.Gateway.Config
import Dumbarp.Routerd.Life

namespace Dumbarp.Gateway

open Api Interact Interact.Prog Routing Routerd

variable {ε : Type}

/-! ## The code -/

/-- What a pass meets outside the program. -/
structure Outside (ε : Type) where
  leases : DaemonEntry → Except ε Leases
  now : ℕ

/-- `push_specs`: the specs it adds. -/
def pushSpecs (daemon : DaemonEntry) (ips : List Ipv4Addr) : List RouteSpec :=
  ips.map fun ip => ⟨ip, daemon.nexthop, daemon.device, none⟩

/-- The body of the loop of `reconcile_once`: the specs it adds for one daemon. -/
def daemonSpecs (view : HashMap String Leases) (daemon : DaemonEntry) : List RouteSpec :=
  match view.lookup daemon.name with
  | none => []
  | some leases => pushSpecs daemon leases.ips

/-- `reconcile_once`: the cache it leaves, and what it hands to the reconciler. -/
def reconcileOnce (cfg : Config) (x : Outside ε) (state : LeaseCache) :
    LeaseCache × List RouteSpec :=
  let round := cfg.daemons.map fun d => (d.name, x.leases d)
  let applied := applyRound x.now round cfg.staleAfterSecs.toNat state
  (applied.2, cfg.daemons.flatMap (daemonSpecs applied.1.2))

/-- The program.  It has a reconciler if it manages routes, and leaves the kernel as it is when it
starts and when it stops. -/
def gateway (cfg : Config) : Reconciler (Outside ε) LeaseCache where
  init := ∅
  pass := reconcileOnce cfg
  manages := cfg.manageRoutes
  purges := false

/-! ## What it wishes for and what it tells -/

section Pass

variable {cfg : Config} {x : Outside ε} {s : LeaseCache}

/-- The wishes of a gateway are those of a router that routes by the source alone. -/
lemma flatMap_daemonSpecs (daemons : List DaemonEntry) (view : HashMap String Leases)
    (ids : HashMap String UInt8) :
    daemons.flatMap (daemonSpecs view) = buildGatewaySpecs (behind daemons view) ∅ ids true := by
  rw [buildGatewaySpecs_behind]
  refine List.flatMap_congr fun d _ => ?_
  rw [daemonSpecs, Routerd.daemonSpecs]
  cases view.lookup d.name <;> rfl

/-- What a pass wishes for is what the gateway tells of its daemons after it. -/
lemma reconcileOnce_desired (ids : HashMap String UInt8) : (reconcileOnce cfg x s).2 =
    buildGatewaySpecs (behind cfg.daemons (snapshot (reconcileOnce cfg x s).1)) ∅ ids true :=
  flatMap_daemonSpecs _ _ ids

end Pass

/-- A gateway with one daemon. -/
def officeConfig : Config := ⟨30, 300, true, slidingConfig.daemons, some ⟨"secret"⟩⟩

lemma officeConfig_checked : officeConfig.Checked where
  nonempty := by decide
  refresh := by decide
  stale := by decide
  daemons := by decide
  distinct := by decide
  serveToken := by decide
  duty := Or.inl rfl

/-- A pass that hears the daemon. -/
def heardOutside : Outside String := ⟨fun _ => .ok ⟨[⟨110, 0, 0, 1⟩], some 4⟩, 0⟩

/-- After one pass of a gateway that manages routes, on a machine with nothing in its kernel. -/
def passedLife (cfg : Config) (x : Outside String) : Life (Outside String) LeaseCache where
  state := (reconcileOnce cfg x ∅).1
  traced := ({ kernel := {} } : Traced).runPass (fun _ => some 2) (reconcileOnce cfg x ∅).2
  met := Function.update (fun _ => none) 1 (some (x, ∅))

lemma passedLife_lives (cfg : Config) (hmanages : cfg.manageRoutes = true) (x : Outside String) :
    ∃ res, Lives (gateway cfg) (passedLife cfg x) (ret res) none := by
  have hmachine : Lives (gateway cfg)
      ({ state := ∅, traced := { kernel := {} } } : Life (Outside String) LeaseCache)
      (ret (.ok ())) (some (ret (.ok ()))) := Lives.machine ⟨by simp, by simp⟩
  have hpass := (Lives.start rfl hmachine).pass IterOrder.collected x not_ended_none
  rw [Reconciler.handOver, show (gateway cfg).manages = true from hmanages] at hpass
  exact hpass.executed fun _ => some 2

/-- It is the only pass. -/
lemma passedLife_met {cfg : Config} {x y : Outside String} {i : ℕ} {s : LeaseCache}
    (h : (passedLife cfg x).met i = some (y, s)) : y = x := by
  simp only [passedLife, Function.update_apply] at h
  split at h
  · exact (Prod.mk.inj (Option.some.inj h)).1.symm
  · cases h

/-- After the pass that hears the daemon. -/
def officeLife : Life (Outside String) LeaseCache := passedLife officeConfig heardOutside

lemma officeLife_lives : ∃ res, Lives (gateway officeConfig) officeLife (ret res) none :=
  passedLife_lives officeConfig rfl heardOutside

section Life

variable {cfg : Config} {x : Outside ε} {s : LeaseCache}
  {met : ℕ → Option (Outside ε × LeaseCache)} {n : ℕ}

/-- The cache holds what earlier passes were told, under the times at which they were told. -/
def FromFetches (cfg : Config) (met : ℕ → Option (Outside ε × LeaseCache)) (n : ℕ)
    (s : LeaseCache) : Prop :=
  ∀ d ∈ cfg.daemons, ∀ e, s.lookup d.name = some e → ∃ i < n, ∃ x t, met i = some (x, t) ∧
    x.now = e.lastSuccess ∧ x.leases d = .ok e.value

/-- The cache after a pass. -/
lemma lookup_reconcileOnce (hcfg : cfg.Checked) {d : DaemonEntry} (hd : d ∈ cfg.daemons) :
    (reconcileOnce cfg x s).1.lookup d.name
      = entryAfter x.now cfg.staleAfterSecs.toNat (x.leases d) (s.lookup d.name) := by
  refine lookup_results_of_mem _ _ _ _ ?_ (List.mem_map.mpr ⟨d, hd, rfl⟩)
  simpa [Function.comp_def] using hcfg.distinct

lemma FromFetches.pass (hcfg : cfg.Checked) (h : FromFetches cfg met n s)
    (hmet : met n = some (x, s)) : FromFetches cfg met (n + 1) (reconcileOnce cfg x s).1 := by
  intro d hd e he
  rw [lookup_reconcileOnce hcfg hd] at he
  rcases entryAfter_cases he with ⟨hok, htime⟩ | ⟨he, -⟩
  · exact ⟨n, Nat.lt_add_one n, x, s, hmet, htime.symm, hok⟩
  · obtain ⟨i, hi, rest⟩ := h d hd e he
    exact ⟨i, Nat.lt_succ_of_lt hi, rest⟩

lemma Config.Checked.window (hcfg : cfg.Checked) : 0 < cfg.staleAfterSecs.toNat := by
  have hrefresh : cfg.refreshIntervalSecs.toNat ≠ 0 := fun h0 =>
    hcfg.refresh (UInt64.toNat_inj.mp h0)
  have hle := UInt64.le_iff_toNat_le.mp hcfg.stale
  omega

/-- A spec of a pass is for an address that a daemon was said to hold within the window. -/
lemma spec_told (hcfg : cfg.Checked) (h : FromFetches cfg met n s) (hmet : met n = some (x, s))
    {spec : RouteSpec} (hspec : spec ∈ (reconcileOnce cfg x s).2) :
    ∃ d ∈ cfg.daemons, spec.gateway = d.nexthop ∧ spec.iface = d.device ∧
      ∃ i ≤ n, ∃ y t leases, met i = some (y, t) ∧ y.leases d = .ok leases ∧
        spec.src ∈ leases.ips ∧ x.now - y.now < cfg.staleAfterSecs.toNat := by
  obtain ⟨d, hd, hspec⟩ := List.mem_flatMap.mp hspec
  rw [daemonSpecs] at hspec
  split at hspec
  · simp at hspec
  · rename_i leases hl
    obtain ⟨ip, hip, rfl⟩ := List.mem_map.mp hspec
    rw [lookup_view_applied] at hl
    obtain ⟨e, he, rfl⟩ := Option.map_eq_some_iff.mp hl
    have he : (reconcileOnce cfg x s).1.lookup d.name = some e := he
    rw [lookup_reconcileOnce hcfg hd] at he
    refine ⟨d, hd, rfl, rfl, ?_⟩
    rcases entryAfter_cases he with ⟨hok, -⟩ | ⟨he, hfresh⟩
    · exact ⟨n, le_rfl, x, s, _, hmet, hok, hip, by simpa using hcfg.window⟩
    · obtain ⟨i, hi, y, t, hmet', htime, hok⟩ := h d hd e he
      exact ⟨i, Nat.le_of_lt hi, y, t, _, hmet', hok, hip, htime ▸ hfresh⟩

/-- What each pass of a life starts from. -/
lemma fromFetches (hcfg : cfg.Checked) {l : Life (Outside ε) LeaseCache}
    {loop : Rtnetlink (Except Errno Unit)} {main : Option (Rtnetlink (Except Errno Unit))}
    (h : Lives (gateway cfg) l loop main) (n : ℕ) (s : LeaseCache)
    (hs : Inherited (gateway cfg) l.met n s) : FromFetches cfg l.met n s :=
  h.sound.each (fun _ _ _ _ he => by simp [gateway] at he)
    (fun _ _ _ hmet ht => ht.pass hcfg hmet) n s hs

/-- **A gateway never misdirects.**  Whatever requests failed or were lost, and whenever the gateway
was killed: if its rules and routes send a packet anywhere, then to the next hop of a daemon that,
by an answer within the window of the pass that wished for it, held the source of the packet, and
by the device of that daemon. -/
theorem gateway_never_misdirects (hcfg : cfg.Checked) {l : Life (Outside ε) LeaseCache}
    {loop : Rtnetlink (Except Errno Unit)} {main : Option (Rtnetlink (Except Errno Unit))}
    (h : Lives (gateway cfg) l loop main) {other : Rule → Packet → Option Route} {p : Packet}
    {r : Rule} {q : Route} (hf : l.traced.kernel.forward other p = some (r, q)) (hr : r.tagged)
    (hq : q.tagged) :
    ∃ j x s, l.met j = some (x, s) ∧ ∃ d ∈ cfg.daemons, q.gateway = some d.nexthop ∧
      (∃ idx, q.oif = some idx ∧ ⟨.getLink d.device, .ok (some idx)⟩ ∈ l.traced.log j) ∧
      ∃ i ≤ j, ∃ y t leases, l.met i = some (y, t) ∧ y.leases d = .ok leases ∧
        p.src ∈ leases.ips ∧ x.now - y.now < cfg.staleAfterSecs.toNat := by
  obtain ⟨j, x, s, hmet, spec, hspec, hsrc, -, hgw, hlink⟩ := h.forwarded hf hr hq
  have hfrom := fromFetches hcfg h j s (h.sound.past j x s hmet).2
  obtain ⟨d, hd, hnexthop, hdevice, i, hi, y, t, leases, hmet', hok, hip, hfresh⟩ :=
    spec_told hcfg hfrom hmet hspec
  exact ⟨j, x, s, hmet, d, hd, hnexthop ▸ hgw, hdevice ▸ hlink, i, hi, y, t, leases, hmet', hok,
    hsrc ▸ hip, hfresh⟩

end Life

theorem gateway_never_misdirects_office :
    ∃ j x s, officeLife.met j = some (x, s) ∧ ∃ d ∈ officeConfig.daemons,
      (routeFor 1845493761 ⟨10, 0, 0, 5⟩ 2).gateway = some d.nexthop ∧
      (∃ idx, (routeFor 1845493761 ⟨10, 0, 0, 5⟩ 2).oif = some idx ∧
        ⟨.getLink d.device, .ok (some idx)⟩ ∈ officeLife.traced.log j) ∧
      ∃ i ≤ j, ∃ y t leases, officeLife.met i = some (y, t) ∧ y.leases d = .ok leases ∧
        leasedPacket.src ∈ leases.ips ∧ x.now - y.now < officeConfig.staleAfterSecs.toNat := by
  obtain ⟨res, hlives⟩ := officeLife_lives
  have hf : officeLife.traced.kernel.forward (fun _ _ => none) leasedPacket =
      some (ruleFor ⟨110, 0, 0, 1⟩ 1845493761 none, routeFor 1845493761 ⟨10, 0, 0, 5⟩ 2) := by
    decide
  exact gateway_never_misdirects officeConfig_checked hlives hf (ruleFor_tagged _ _ _)
    (routeFor_tagged _ _ _)

end Dumbarp.Gateway
