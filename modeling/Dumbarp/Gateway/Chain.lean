/-
A router behind a gateway.

Two caches stand between a daemon and the routes of a router: the gateway keeps what the daemon
answered, and the router what the gateway told.  Each may outlive its source by a window of its
own, so an answer of the daemon can still count at the router when it is as old as both windows
together and the time between the gateway's last round and the router's last poll.  Either program
may start over with an empty cache at any time.

Runs are listed newest event first.
-/
import Dumbarp.Api.History
import Dumbarp.Gateway.Reconcile

namespace Dumbarp.Gateway

open Api Routing Routerd

variable {ε : Type}

/-! ## The two programs -/

/-- What happens to the two programs: each runs passes and starts over.  A pass of the router
reaches the gateway or not. -/
inductive ChainEvent (ε : Type)
  | round (x : Outside ε)
  | gatewayStarts
  | poll (x : Routerd.Outside String) (reached : Bool)
  | routerStarts

/-- The states of the two. -/
structure Chain where
  gateway : LeaseCache
  router : RouterState

/-- What a poll gets: what the gateway tells at that moment. -/
def polled (cfg : Config) (gateway : LeaseCache) (reached : Bool) :
    Except String (List DaemonRoutes) :=
  if reached then .ok (behind cfg.daemons (snapshot gateway)) else .error "unreachable"

/-- A pass of the router, with what its poll gets. -/
def Chain.outside (cfg : Config) (c : Chain) (x : Routerd.Outside String) (reached : Bool) :
    Routerd.Outside String :=
  { x with daemons := polled cfg c.gateway reached }

/-- The states after a run from the start of both. -/
def afterRun (cfg : Config) (rcfg : Routerd.Config) : List (ChainEvent ε) → Chain
  | [] => ⟨∅, ⟨∅, ∅, ∅, ∅⟩⟩
  | .round x :: older =>
    let c := afterRun cfg rcfg older
    { c with gateway := (reconcileOnce cfg x c.gateway).1 }
  | .gatewayStarts :: older => { afterRun cfg rcfg older with gateway := ∅ }
  | .poll x reached :: older =>
    let c := afterRun cfg rcfg older
    { c with router := (Routerd.reconcileOnce rcfg (c.outside cfg x reached) c.router).state }
  | .routerStarts :: older => { afterRun cfg rcfg older with router := ⟨∅, ∅, ∅, ∅⟩ }

/-! ## What counts of a run -/

/-- The passes of the gateway since it started. -/
def roundsOf : List (ChainEvent ε) → List (Outside ε)
  | [] => []
  | .round x :: older => x :: roundsOf older
  | .gatewayStarts :: _ => []
  | .poll _ _ :: older => roundsOf older
  | .routerStarts :: older => roundsOf older

/-- A poll of a run: its time, whether it reached the gateway, and what was before it. -/
structure Poll (ε : Type) where
  now : ℕ
  reached : Bool
  older : List (ChainEvent ε)

/-- The polls of the router since it started. -/
def pollsOf : List (ChainEvent ε) → List (Poll ε)
  | [] => []
  | .poll x reached :: older => ⟨x.cacheNow, reached, older⟩ :: pollsOf older
  | .routerStarts :: _ => []
  | .round _ :: older => pollsOf older
  | .gatewayStarts :: older => pollsOf older

/-- The gateway has heard the leases of the daemon since it started, has not heard the daemon since
then, and had them in its cache after its latest pass. -/
def HeardBy (cfg : Config) (run : List (ChainEvent ε)) (d : DaemonEntry) (leases : Leases)
    (s : Outside ε) : Prop :=
  ∃ newer older, roundsOf run = newer ++ s :: older ∧ s.leases d = .ok leases ∧
    (∀ a ∈ newer, ∀ l, a.leases d ≠ .ok l) ∧
    ∀ w ∈ newer.head?, w.now - s.now < cfg.staleAfterSecs.toNat

/-- The router's latest poll to reach the gateway, as of a pass at the time `now`, is recent. -/
def Reached (rcfg : Routerd.Config) (polls : List (Poll ε)) (now : ℕ) (u : Poll ε) : Prop :=
  ∃ newer older, polls = newer ++ u :: older ∧ u.reached = true ∧
    (∀ a ∈ newer, a.reached = false) ∧ (newer = [] ∨ now - u.now < rcfg.staleAfterSecs)

/-- Time goes back in neither program. -/
structure Ordered (run : List (ChainEvent ε)) : Prop where
  rounds : (roundsOf run).Pairwise fun newer older => older.now ≤ newer.now
  polls : (pollsOf run).Pairwise fun newer older => older.now ≤ newer.now
  /-- The gateway's order held when it was polled. -/
  before : ∀ u ∈ pollsOf run, (roundsOf u.older).Pairwise fun newer older => older.now ≤ newer.now

/-! ## The caches are those of the histories -/

section Caches

variable {cfg : Config} {rcfg : Routerd.Config} {run : List (ChainEvent ε)}

/-- A pass of the gateway as a round of its cache. -/
def Outside.round (cfg : Config) (x : Outside ε) : Round ε Leases :=
  ⟨x.now, cfg.daemons.map fun d => (d.name, x.leases d)⟩

/-- A poll as a round of the router's cache. -/
def Poll.round (cfg : Config) (rcfg : Routerd.Config) (u : Poll ε) :
    Round String (List DaemonRoutes) :=
  ⟨u.now, [(gatewayCacheKey, polled cfg (afterRun cfg rcfg u.older).gateway u.reached)]⟩

/-- The cache of the gateway is that of the rounds since it started. -/
lemma gateway_afterRun (cfg : Config) (rcfg : Routerd.Config) :
    ∀ run : List (ChainEvent ε), (afterRun cfg rcfg run).gateway =
      afterRounds cfg.staleAfterSecs.toNat ((roundsOf run).map (Outside.round cfg))
  | [] => rfl
  | .round x :: older => by
    simp only [afterRun, roundsOf, List.map_cons, afterRounds, gateway_afterRun cfg rcfg older]
    rfl
  | .gatewayStarts :: _ => rfl
  | .poll _ _ :: older => gateway_afterRun cfg rcfg older
  | .routerStarts :: older => gateway_afterRun cfg rcfg older

/-- The gateway cache of the router is that of its polls since it started. -/
lemma router_afterRun (cfg : Config) {deviceOverrides : HashMap String String}
    (hgw : rcfg.gateway = some deviceOverrides) :
    ∀ run : List (ChainEvent ε), (afterRun cfg rcfg run).router.gatewayCache =
      afterRounds rcfg.staleAfterSecs ((pollsOf run).map (Poll.round cfg rcfg))
  | [] => rfl
  | .poll x reached :: older => by
    have ih := router_afterRun cfg hgw older
    simp only [afterRun, pollsOf, List.map_cons, afterRounds, Routerd.reconcileOnce, hgw]
    rw [← ih]
    rfl
  | .routerStarts :: _ => rfl
  | .round _ :: older => router_afterRun cfg hgw older
  | .gatewayStarts :: older => router_afterRun cfg hgw older

lemma rounds_sequence (hcfg : cfg.Checked) {xs : List (Outside ε)}
    (h : xs.Pairwise fun newer older => older.now ≤ newer.now) :
    Sequence (cfg.daemons.map DaemonEntry.name).toFinset (xs.map (Outside.round cfg)) where
  nodup r hr := by
    obtain ⟨x, -, rfl⟩ := List.mem_map.mp hr
    simpa [Outside.round, Function.comp_def] using hcfg.distinct
  covers r hr k := by
    obtain ⟨x, -, rfl⟩ := List.mem_map.mp hr
    simp [Outside.round]
  times := List.pairwise_map.mpr h

lemma polls_sequence (cfg : Config) (rcfg : Routerd.Config) {us : List (Poll ε)}
    (h : us.Pairwise fun newer older => older.now ≤ newer.now) :
    Sequence {gatewayCacheKey} (us.map (Poll.round cfg rcfg)) where
  nodup r hr := by
    obtain ⟨u, -, rfl⟩ := List.mem_map.mp hr
    simp [Poll.round]
  covers r hr k := by
    obtain ⟨u, -, rfl⟩ := List.mem_map.mp hr
    simp [Poll.round]
  times := List.pairwise_map.mpr h

/-- A value is held for rounds that are made of something else. -/
lemma value_held_map_iff {α δ T : Type} {names : Finset String} {staleAfter : ℕ}
    (round : α → Round δ T) {a : α} {older : List α}
    (h : Sequence names ((a :: older).map round)) {k : String} {v : T} :
    ((afterRounds staleAfter ((a :: older).map round)).lookup k).map CachedEntry.value = some v ↔
      ∃ newer s before, a :: older = newer ++ s :: before ∧ (round s).Fetched k v ∧
        (∀ b ∈ newer, ∀ w, ¬ (round b).Fetched k w) ∧
          (newer = [] ∨ (round a).now - (round s).now < staleAfter) := by
  rw [List.map_cons] at h ⊢
  rw [value_held_iff h]
  constructor
  · rintro ⟨newer, s, before, hsplit, hs, hn, hfresh⟩
    rw [← List.map_cons, List.map_eq_append_iff] at hsplit
    obtain ⟨newer, rest, hrounds, rfl, hrest⟩ := hsplit
    obtain ⟨s, before, rfl, rfl, rfl⟩ := List.map_eq_cons_iff.mp hrest
    exact ⟨newer, s, before, hrounds, hs, fun b hb => hn _ (List.mem_map_of_mem hb),
      hfresh.imp_left List.map_eq_nil_iff.mp⟩
  · rintro ⟨newer, s, before, hsplit, hs, hn, hfresh⟩
    refine ⟨newer.map round, round s, before.map round, ?_, hs, fun r hr => ?_,
      hfresh.imp_left fun hnil => by rw [hnil, List.map_nil]⟩
    · rw [← List.map_cons, hsplit, List.map_append, List.map_cons]
    · obtain ⟨b, hb, rfl⟩ := List.mem_map.mp hr
      exact hn b hb

/-- The one result that a round has for a daemon. -/
lemma round_fetched (hcfg : cfg.Checked) {d : DaemonEntry} (hd : d ∈ cfg.daemons) {x : Outside ε}
    {leases : Leases} : (x.round cfg).Fetched d.name leases ↔ x.leases d = .ok leases := by
  constructor
  · intro h
    obtain ⟨d', hd', heq⟩ := List.mem_map.mp h
    obtain ⟨hname, hok⟩ := Prod.mk.inj heq
    obtain rfl : d' = d := List.inj_on_of_nodup_map hcfg.distinct hd' hd hname
    exact hok
  · intro h
    exact List.mem_map.mpr ⟨d, hd, by rw [h]⟩

lemma poll_fetched {u : Poll ε} {routes : List DaemonRoutes} :
    (u.round cfg rcfg).Fetched gatewayCacheKey routes ↔
      u.reached = true ∧
        routes = behind cfg.daemons (snapshot (afterRun cfg rcfg u.older).gateway) := by
  rw [Round.Fetched, Poll.round, List.mem_singleton, Prod.mk.injEq]
  cases u.reached with
  | true => simp [polled]
  | false => simp [polled]

/-- **What the gateway tells of a daemon** is what it heard last, if that is recent. -/
lemma mem_behind_iff (hcfg : cfg.Checked)
    (h : (roundsOf run).Pairwise fun newer older => older.now ≤ newer.now) {d : DaemonRoutes} :
    d ∈ behind cfg.daemons (snapshot (afterRun cfg rcfg run).gateway) ↔
      ∃ e ∈ cfg.daemons, ∃ leases s, HeardBy cfg run e leases s ∧
        d = ⟨e.name, e.nexthop, e.device, leases.dumbarpdId, leases.ips⟩ := by
  have hheld {e : DaemonEntry} (he : e ∈ cfg.daemons) (leases : Leases) :
      (snapshot (afterRun cfg rcfg run).gateway).lookup e.name = some leases ↔
        ∃ s, HeardBy cfg run e leases s := by
    rw [snapshot, HashMap.lookup_mapValues, gateway_afterRun]
    cases hrounds : roundsOf run with
    | nil => simp [afterRounds, HeardBy, hrounds]
    | cons w ws =>
      have hseq := rounds_sequence hcfg h
      rw [hrounds] at hseq
      rw [value_held_map_iff (Outside.round cfg) hseq]
      simp only [round_fetched hcfg he]
      constructor
      · rintro ⟨newer, s, before, hsplit, hs, hn, hfresh⟩
        refine ⟨s, newer, before, hrounds.trans hsplit, hs, hn, fun v hv => ?_⟩
        -- the newest round of the gateway is the first of those after `s`
        cases newer with
        | nil => cases hv
        | cons a newer =>
          obtain rfl : a = v := Option.some.inj hv
          obtain ⟨rfl, -⟩ := List.cons.inj hsplit
          exact hfresh.resolve_left (List.cons_ne_nil _ _)
      · rintro ⟨s, newer, before, hsplit, hs, hn, hfresh⟩
        rw [hrounds] at hsplit
        refine ⟨newer, s, before, hsplit, hs, hn, ?_⟩
        cases newer with
        | nil => exact Or.inl rfl
        | cons a newer =>
          obtain ⟨rfl, -⟩ := List.cons.inj hsplit
          exact Or.inr (hfresh w rfl)
  constructor
  · intro hd
    obtain ⟨e, he, hr⟩ := List.mem_filterMap.mp hd
    obtain ⟨leases, hl, rfl⟩ := Option.map_eq_some_iff.mp hr
    obtain ⟨s, hs⟩ := (hheld he leases).mp hl
    exact ⟨e, he, leases, s, hs, rfl⟩
  · rintro ⟨e, he, leases, s, hs, rfl⟩
    refine List.mem_filterMap.mpr ⟨e, he, ?_⟩
    rw [routesOf, (hheld he leases).mpr ⟨s, hs⟩]
    rfl

/-- What the view of a poll shows is what the latest poll to reach the gateway got. -/
lemma view_of_poll_iff {deviceOverrides : HashMap String String}
    (hgw : rcfg.gateway = some deviceOverrides) {x : Routerd.Outside String} {reached : Bool}
    {older : List (ChainEvent ε)} (hrun : Ordered (.poll x reached :: older))
    {routes : List DaemonRoutes} :
    (applyRound x.cacheNow
        [(gatewayCacheKey, polled cfg (afterRun cfg rcfg older).gateway reached)]
        rcfg.staleAfterSecs (afterRun cfg rcfg older).router.gatewayCache).1.2.lookup gatewayCacheKey
        = some routes ↔
      ∃ u, Reached rcfg (pollsOf (.poll x reached :: older)) x.cacheNow u ∧
        routes = behind cfg.daemons (snapshot (afterRun cfg rcfg u.older).gateway) := by
  have hseq := polls_sequence cfg rcfg hrun.polls
  have hcache : (applyRound x.cacheNow
      [(gatewayCacheKey, polled cfg (afterRun cfg rcfg older).gateway reached)]
      rcfg.staleAfterSecs (afterRun cfg rcfg older).router.gatewayCache).2 =
      afterRounds rcfg.staleAfterSecs
        ((pollsOf (.poll x reached :: older)).map (Poll.round cfg rcfg)) := by
    rw [router_afterRun cfg hgw older]
    rfl
  rw [lookup_view_applied, hcache]
  rw [pollsOf] at hseq ⊢
  rw [value_held_map_iff (Poll.round cfg rcfg) hseq]
  simp only [poll_fetched]
  constructor
  · rintro ⟨newer, u, before, hsplit, ⟨hu, hroutes⟩, hn, hfresh⟩
    refine ⟨u, ⟨newer, before, hsplit, hu, fun a ha => ?_, hfresh⟩, hroutes⟩
    by_contra hreached
    exact hn a ha _ ⟨by simpa using hreached, rfl⟩
  · rintro ⟨u, ⟨newer, before, hsplit, hu, hn, hfresh⟩, hroutes⟩
    refine ⟨newer, u, before, hsplit, ⟨hu, hroutes⟩, fun a ha w hok => ?_, hfresh⟩
    rw [hn a ha] at hok
    cases hok.1

lemma Reached.mem {polls : List (Poll ε)} {now : ℕ} {u : Poll ε} (h : Reached rcfg polls now u) :
    u ∈ polls := by
  obtain ⟨newer, before, rfl, -⟩ := h
  exact List.mem_append_right newer List.mem_cons_self

/-- The poll is within the window of the router. -/
lemma Reached.window (hrcfg : rcfg.Checked) {x : Routerd.Outside String} {reached : Bool}
    {older : List (ChainEvent ε)} {u : Poll ε}
    (h : Reached rcfg (pollsOf (.poll x reached :: older)) x.cacheNow u) :
    x.cacheNow - u.now < rcfg.staleAfterSecs := by
  obtain ⟨newer, before, hpolls, -, -, rfl | hfresh⟩ := h
  · obtain ⟨rfl, -⟩ := List.cons.inj hpolls
    simpa using hrcfg.window
  · exact hfresh

/-- What the gateway heard was within its window at its latest pass. -/
lemma HeardBy.window (hcfg : cfg.Checked) {d : DaemonEntry} {leases : Leases} {s w : Outside ε}
    (h : HeardBy cfg run d leases s) (hw : w ∈ (roundsOf run).head?) :
    w.now - s.now < cfg.staleAfterSecs.toNat := by
  obtain ⟨newer, before, hrounds, -, -, hwindow⟩ := h
  rw [hrounds] at hw
  cases newer with
  | nil =>
    obtain rfl := Option.some.inj hw
    simpa using hcfg.window
  | cons a newer =>
    obtain rfl := Option.some.inj hw
    exact hwindow a rfl

end Caches

/-- **Heard through a gateway.**  A pass of a router behind a gateway knows of a daemon just what
the gateway had heard of it last when the router reached the gateway last, as long as that poll is
within the router's window and the gateway had what it heard within its own at its latest pass
before the poll.  So what a daemon said is no older, at the router, than both windows and the time
from that pass to that poll. -/
theorem heard_through_gateway_iff {cfg : Config} (hcfg : cfg.Checked) {rcfg : Routerd.Config}
    (hrcfg : rcfg.Checked) {deviceOverrides : HashMap String String}
    (hgw : rcfg.gateway = some deviceOverrides) {x : Routerd.Outside String} {reached : Bool}
    {older : List (ChainEvent ε)} (hrun : Ordered (.poll x reached :: older)) (d : DaemonRoutes) :
    let c := afterRun cfg rcfg older
    (d ∈ knownDaemons rcfg (c.outside cfg x reached) c.router ↔
      ∃ u, Reached rcfg (pollsOf (.poll x reached :: older)) x.cacheNow u ∧
        ∃ e ∈ cfg.daemons, ∃ leases s, HeardBy cfg u.older e leases s ∧
          d = withDevice deviceOverrides
            ⟨e.name, e.nexthop, e.device, leases.dumbarpdId, leases.ips⟩) ∧
      ∀ u e leases s, Reached rcfg (pollsOf (.poll x reached :: older)) x.cacheNow u →
        HeardBy cfg u.older e leases s → ∀ w ∈ (roundsOf u.older).head?, w.now ≤ u.now →
          x.cacheNow - s.now <
            rcfg.staleAfterSecs + (u.now - w.now) + cfg.staleAfterSecs.toNat := by
  intro c
  refine ⟨?_, fun u e leases s hu hs w hw hle => ?_⟩
  · simp only [knownDaemons, hgw, Chain.outside]
    constructor
    · intro hd
      obtain ⟨d₀, hd₀, rfl⟩ := List.mem_map.mp hd
      cases hl : (applyRound x.cacheNow [(gatewayCacheKey, polled cfg c.gateway reached)]
          rcfg.staleAfterSecs c.router.gatewayCache).1.2.lookup gatewayCacheKey with
      | none => simp [hl] at hd₀
      | some routes =>
        obtain ⟨u, hu, rfl⟩ := (view_of_poll_iff hgw hrun).mp hl
        rw [hl, Option.getD_some, mem_behind_iff hcfg (hrun.before u hu.mem)] at hd₀
        obtain ⟨e, he, leases, s, hs, rfl⟩ := hd₀
        exact ⟨u, hu, e, he, leases, s, hs, rfl⟩
    · rintro ⟨u, hu, e, he, leases, s, hs, rfl⟩
      rw [(view_of_poll_iff hgw hrun).mpr ⟨u, hu, rfl⟩, Option.getD_some]
      exact List.mem_map.mpr ⟨_, (mem_behind_iff hcfg (hrun.before u hu.mem)).mpr
        ⟨e, he, leases, s, hs, rfl⟩, rfl⟩
  · -- the poll is within the router's window, and the answer within the gateway's at its pass
    have hpoll := hu.window hrcfg
    have hround := hs.window hcfg hw
    omega

/-- A router that has no daemons of its own. -/
def behindConfig : Routerd.Config := { slidingConfig with daemons := [], gateway := some ∅ }

/-- A pass of that router. -/
def pollOutside (now : ℕ) : Routerd.Outside String :=
  ⟨fun _ => .error "not asked", .error "timed out", noFailure, now, now⟩

/-- The gateway hears the daemon, then does not, and is polled after that. -/
def quietRun : List (ChainEvent String) :=
  [.poll (pollOutside 60) true, .round ⟨fun _ => .error "timed out", 30⟩, .round heardOutside]

theorem heard_through_gateway_office :
    (⟨"a", ⟨10, 0, 0, 5⟩, "br0", some 4, [⟨110, 0, 0, 1⟩]⟩ : DaemonRoutes) ∈
        knownDaemons behindConfig ((afterRun officeConfig behindConfig quietRun).outside officeConfig
          (pollOutside 90) false) (afterRun officeConfig behindConfig quietRun).router ∧
      90 - heardOutside.now < 300 + (60 - 30) + 300 := by
  have hordered : Ordered (.poll (pollOutside 90) false :: quietRun) :=
    ⟨by simp [quietRun, roundsOf, heardOutside],
      by simp [quietRun, pollsOf, pollOutside],
      by simp [quietRun, pollsOf, roundsOf, heardOutside]⟩
  have hreached : Reached behindConfig (pollsOf (.poll (pollOutside 90) false :: quietRun)) 90
      ⟨60, true, quietRun.tail⟩ :=
    ⟨[⟨90, false, quietRun⟩], [], rfl, rfl, by simp, Or.inr (by decide)⟩
  have hheard : HeardBy officeConfig quietRun.tail
      ⟨"a", "http://10.0.0.5:1028", "token", ⟨10, 0, 0, 5⟩, "br0"⟩
      ⟨[⟨110, 0, 0, 1⟩], some 4⟩ heardOutside :=
    ⟨[⟨fun _ => .error "timed out", 30⟩], [], rfl, rfl, by simp, by simp [heardOutside]; decide⟩
  obtain ⟨hknown, hage⟩ := heard_through_gateway_iff officeConfig_checked
    (show behindConfig.Checked from ⟨by decide, by decide⟩) rfl hordered
    ⟨"a", ⟨10, 0, 0, 5⟩, "br0", some 4, [⟨110, 0, 0, 1⟩]⟩
  exact ⟨hknown.mpr ⟨_, hreached, _, by simp [officeConfig, slidingConfig], _, _, hheard, rfl⟩,
    hage _ _ _ _ hreached hheard ⟨fun _ => .error "timed out", 30⟩ rfl (by decide)⟩

end Dumbarp.Gateway
