/-
The life of a router (`dumbarp-routerd/src/main.rs` and `reconcile_once`).

A router asks its daemons, or a gateway, what they hold, keeps the answers for a while, and makes of
them the map of its classifier and the wishes of its reconciler.  Two statements say what that is
worth to a packet.  Once a pass has gone through, a packet tagged with the id of the daemon that
holds its source leaves for that daemon, and a packet that has no such tag and brought no such mark
is left to the rules of others.  And at any moment at all, between requests that fail, after a crash
in the middle of a pass, during a teardown, a packet that dumbarp's rules send anywhere goes to a
daemon that said it holds the source, in an answer that was within the window when the route was
wished for.
-/
import Dumbarp.Routerd.Gateway
import Dumbarp.Routerd.Staleness
import Dumbarp.Routing.Lives

namespace Dumbarp.Routerd

open Api Routing Gateway Interact Interact.Prog

variable {ε : Type}

/-! ## The code -/

/-- What a pass meets outside the program: what its fetches get, the outcomes of its map
operations, and the times at which it reads the clock. -/
structure Outside (ε : Type) where
  leases : DaemonEntry → Except ε Leases
  daemons : Except ε (List DaemonRoutes)
  outcome : MapOutcome
  cacheNow : ℕ
  idsNow : ℕ

/-- `reconcile_once`, up to what it hands to the reconciler. -/
def reconcileOnce (cfg : Config) (x : Outside ε) (state : RouterState) : PassResult :=
  match cfg.gateway with
  | some deviceOverrides =>
    reconcileViaGateway cfg deviceOverrides x.daemons x.outcome x.cacheNow x.idsNow state
  | none => reconcileViaDaemons cfg x.leases x.outcome x.cacheNow x.idsNow state

/-- The program.  An error of the reconciler is only logged, so the state is that of the pass. -/
def routerd (cfg : Config) : Reconciler (Outside ε) RouterState where
  init := ⟨∅, ∅, ∅, ∅⟩
  pass x state := ((reconcileOnce cfg x state).state, (reconcileOnce cfg x state).desired)
  manages := true
  purges := true

/-! ## The daemons of a pass -/

/-- The daemon with the device that the configuration gives it. -/
def withDevice (deviceOverrides : HashMap String String) (d : DaemonRoutes) : DaemonRoutes :=
  { d with device := (deviceOverrides.lookup d.name).getD d.device }

/-- The daemons that a pass knows of, with the devices of its routes. -/
def knownDaemons (cfg : Config) (x : Outside ε) (s : RouterState) : List DaemonRoutes :=
  match cfg.gateway with
  | some deviceOverrides =>
    (((applyRound x.cacheNow [(gatewayCacheKey, x.daemons)] cfg.staleAfterSecs
      s.gatewayCache).1.2.lookup gatewayCacheKey).getD []).map (withDevice deviceOverrides)
  | none =>
    behind cfg.daemons (applyRound x.cacheNow (cfg.daemons.map fun d => (d.name, x.leases d))
      cfg.staleAfterSecs s.cache).1.2

/-- What a pass was told of a daemon. -/
def Reports (cfg : Config) (x : Outside ε) (d : DaemonRoutes) : Prop :=
  match cfg.gateway with
  | some deviceOverrides =>
    ∃ routes, x.daemons = .ok routes ∧ ∃ d₀ ∈ routes, d = withDevice deviceOverrides d₀
  | none =>
    ∃ e ∈ cfg.daemons, ∃ leases, x.leases e = .ok leases ∧
      d = ⟨e.name, e.nexthop, e.device, leases.dumbarpdId, leases.ips⟩

section Pass

variable {cfg : Config} {x : Outside ε} {s : RouterState}

lemma buildGatewaySpecs_withDevice (daemons : List DaemonRoutes)
    (deviceOverrides : HashMap String String) (ids : HashMap String UInt8)
    (sourceBasedRouting : Bool) :
    buildGatewaySpecs (daemons.map (withDevice deviceOverrides)) ∅ ids sourceBasedRouting
      = buildGatewaySpecs daemons deviceOverrides ids sourceBasedRouting := by
  rw [buildGatewaySpecs, buildGatewaySpecs, List.flatMap_map]
  rfl

/-- **Both kinds of passes** wish for the routes of the daemons they know of. -/
lemma reconcileOnce_desired : (reconcileOnce cfg x s).desired =
    buildGatewaySpecs (knownDaemons cfg x s) ∅ (reconcileOnce cfg x s).ids
      cfg.sourceBasedRouting := by
  cases hgw : cfg.gateway with
  | some deviceOverrides =>
    simp only [reconcileOnce, knownDaemons, hgw]
    exact (buildGatewaySpecs_withDevice _ _ _ _).symm
  | none =>
    simp only [reconcileOnce, knownDaemons, hgw]
    exact (buildGatewaySpecs_behind _ _ _ _).symm

/-- Both sync the map to their ids. -/
lemma reconcileOnce_datapath : (reconcileOnce cfg x s).state.datapath =
    (syncIds x.outcome (idSet (reconcileOnce cfg x s).ids) s.datapath).2 := by
  cases hgw : cfg.gateway <;> simp only [reconcileOnce, hgw] <;> rfl

lemma mem_buildGatewaySpecs {daemons : List DaemonRoutes} {ids : HashMap String UInt8}
    {sourceBasedRouting : Bool} {spec : RouteSpec} :
    spec ∈ buildGatewaySpecs daemons ∅ ids sourceBasedRouting ↔
      ∃ d ∈ daemons, ∃ fwmark, specMark ids sourceBasedRouting d.name = some fwmark ∧
        ∃ ip ∈ d.ips, spec = ⟨ip, d.nexthop, d.device, fwmark⟩ := by
  rw [buildGatewaySpecs, List.mem_flatMap]
  refine exists_congr fun d => and_congr_right fun _ => ?_
  rw [gatewaySpecs]
  cases specMark ids sourceBasedRouting d.name with
  | none => simp
  | some fwmark => simp [eq_comm]

/-- No id is out of range, whatever the daemons advertise. -/
lemma resolveEntries_inRange (stale now : ℕ) :
    ∀ (advertised : List (String × Option UInt8)) (st : IdState),
      (∀ name id, st.out.lookup name = some id → Usable id) →
        ∀ name id, (advertised.foldl (resolveEntry stale now) st).out.lookup name = some id →
          Usable id
  | [], _, h => h
  | entry :: advertised, st, h => by
    refine resolveEntries_inRange stale now advertised _ fun name id hid => ?_
    rw [resolveEntry] at hid
    rcases hv : validateId entry.1 (candidate st.remembered stale now entry) st.claimed with
      ⟨got, claimed⟩
    rw [hv] at hid
    cases got with
    | none => exact h name id hid
    | some got =>
      -- only ids in range pass the check
      have hgot : Usable got := by
        cases hc : candidate st.remembered stale now entry with
        | none => simp [validateId, hc] at hv
        | some c =>
          simp only [validateId, hc] at hv
          split at hv
          · simp at hv
          · rename_i hrange
            split at hv
            · simp at hv
            · obtain ⟨rfl, -⟩ : c = got ∧ _ := by simpa using hv
              obtain ⟨hne, hle⟩ := not_or.mp hrange
              exact ⟨hne, UInt8.not_lt.mp hle⟩
      by_cases hname : name = entry.1
      · subst hname
        simp only [AList.lookup_insert, Option.some.injEq] at hid
        exact hid ▸ hgot
      · simp only [AList.lookup_insert_ne hname] at hid
        exact h name id hid

lemma reconcileOnce_usable {name : String} {id : UInt8}
    (h : (reconcileOnce cfg x s).ids.lookup name = some id) : Usable id := by
  have hempty : ∀ name id, (⟨∅, ∅, s.knownIds⟩ : IdState).out.lookup name = some id →
      Usable id := fun _ _ h => by simp at h
  cases hgw : cfg.gateway with
  | some deviceOverrides =>
    simp only [reconcileOnce, hgw] at h
    exact resolveEntries_inRange _ _ _ _ hempty name id h
  | none =>
    simp only [reconcileOnce, hgw] at h
    exact resolveEntries_inRange _ _ _ _ hempty name id h

lemma toUInt32_ne_zero {id : UInt8} (h : Usable id) : id.toUInt32 ≠ 0 := by
  rw [show (0 : UInt32) = (0 : UInt8).toUInt32 from rfl, Ne, UInt8.toUInt32_inj]
  exact h.1

/-- No pass asks for the mark 0. -/
lemma reconcileOnce_mark_ne_zero {spec : RouteSpec}
    (h : spec ∈ (reconcileOnce cfg x s).desired) : spec.fwmark ≠ some 0 := by
  rw [reconcileOnce_desired, mem_buildGatewaySpecs] at h
  obtain ⟨d, -, fwmark, hmark, ip, -, rfl⟩ := h
  cases hsbr : cfg.sourceBasedRouting with
  | true =>
    rw [hsbr] at hmark
    obtain rfl : none = fwmark := by simpa [specMark] using hmark
    simp
  | false =>
    rw [hsbr] at hmark
    obtain ⟨id, hid, rfl⟩ := specMark_eq_some hmark
    simpa using toUInt32_ne_zero (reconcileOnce_usable hid)

/-- The caches hold what earlier passes were told, under the times at which they were told. -/
structure FromFetches (cfg : Config) (met : ℕ → Option (Outside ε × RouterState)) (n : ℕ)
    (s : RouterState) : Prop where
  cache : ∀ name e, s.cache.lookup name = some e → ∃ i < n, ∃ x t, met i = some (x, t) ∧
    x.cacheNow = e.lastSuccess ∧ ∃ d ∈ cfg.daemons, d.name = name ∧ x.leases d = .ok e.value
  gatewayCache : ∀ e, s.gatewayCache.lookup gatewayCacheKey = some e → ∃ i < n, ∃ x t,
    met i = some (x, t) ∧ x.cacheNow = e.lastSuccess ∧ x.daemons = .ok e.value

variable {met : ℕ → Option (Outside ε × RouterState)} {i n : ℕ}

lemma FromFetches.mono (h : FromFetches cfg met i s) (hi : i ≤ n) : FromFetches cfg met n s where
  cache name e he := by
    obtain ⟨j, hj, rest⟩ := h.cache name e he
    exact ⟨j, by omega, rest⟩
  gatewayCache e he := by
    obtain ⟨j, hj, rest⟩ := h.gatewayCache e he
    exact ⟨j, by omega, rest⟩

/-- What comes later does not matter. -/
lemma FromFetches.update (h : FromFetches cfg met n s) (v : Option (Outside ε × RouterState)) :
    FromFetches cfg (Function.update met n v) n s where
  cache name e he := by
    obtain ⟨j, hj, y, t, hmet, rest⟩ := h.cache name e he
    exact ⟨j, hj, y, t, by rwa [Function.update_of_ne (Nat.ne_of_lt hj)], rest⟩
  gatewayCache e he := by
    obtain ⟨j, hj, y, t, hmet, rest⟩ := h.gatewayCache e he
    exact ⟨j, hj, y, t, by rwa [Function.update_of_ne (Nat.ne_of_lt hj)], rest⟩

/-- An entry after a pass is the result of its fetch, or was there before. -/
lemma entryAfter_cases {T : Type} {now staleAfter : ℕ} {result : Except ε T}
    {entry : Option (CachedEntry T)} {e : CachedEntry T}
    (h : entryAfter now staleAfter result entry = some e) :
    (result = .ok e.value ∧ e.lastSuccess = now) ∨
      (entry = some e ∧ now - e.lastSuccess < staleAfter) := by
  cases result with
  | ok value =>
    obtain rfl := Option.some.inj h
    exact Or.inl ⟨rfl, rfl⟩
  | error err =>
    obtain ⟨he, hfresh⟩ := Option.filter_eq_some_iff.mp h
    exact Or.inr ⟨he, of_decide_eq_true hfresh⟩

/-- The view of a round shows the cache it leaves. -/
lemma lookup_view_applied {T : Type} (now staleAfter : ℕ) (results : List (String × Except ε T))
    (cached : Cache T) (k : String) :
    (applyRound now results staleAfter cached).1.2.lookup k
      = ((applyRound now results staleAfter cached).2.lookup k).map CachedEntry.value :=
  HashMap.lookup_mapValues _ _ _

/-- The lease cache after a pass over the daemons. -/
lemma lookup_cache_applied (hcfg : cfg.Checked) {d : DaemonEntry} (hd : d ∈ cfg.daemons) :
    (applyRound x.cacheNow (cfg.daemons.map fun d => (d.name, x.leases d)) cfg.staleAfterSecs
        s.cache).2.lookup d.name
      = entryAfter x.cacheNow cfg.staleAfterSecs (x.leases d) (s.cache.lookup d.name) := by
  refine lookup_results_of_mem _ _ _ _ ?_ (List.mem_map.mpr ⟨d, hd, rfl⟩)
  rw [round_names]
  exact hcfg.distinct

/-- The gateway cache after a pass. -/
lemma lookup_gatewayCache_applied :
    (applyRound x.cacheNow [(gatewayCacheKey, x.daemons)] cfg.staleAfterSecs
        s.gatewayCache).2.lookup gatewayCacheKey
      = entryAfter x.cacheNow cfg.staleAfterSecs x.daemons
          (s.gatewayCache.lookup gatewayCacheKey) :=
  lookup_results_of_mem _ _ _ _ (by simp) (by simp)

/-- A pass caches what it is told, and otherwise what it finds. -/
lemma FromFetches.pass (hcfg : cfg.Checked) (h : FromFetches cfg met i s)
    (hmet : met i = some (x, s)) : FromFetches cfg met (i + 1) (reconcileOnce cfg x s).state := by
  have hold := h.mono (Nat.le_add_right i 1)
  have hi := Nat.lt_add_one i
  cases hgw : cfg.gateway with
  | some deviceOverrides =>
    refine ⟨fun name e he => ?_, fun e he => ?_⟩
    · simp only [reconcileOnce, hgw, reconcileViaGateway] at he
      exact hold.cache name e he
    · simp only [reconcileOnce, hgw, reconcileViaGateway, lookup_gatewayCache_applied] at he
      rcases entryAfter_cases he with ⟨hok, htime⟩ | ⟨he, -⟩
      · exact ⟨i, hi, x, s, hmet, htime.symm, hok⟩
      · exact hold.gatewayCache e he
  | none =>
    refine ⟨fun name e he => ?_, fun e he => ?_⟩
    · simp only [reconcileOnce, hgw, reconcileViaDaemons] at he
      by_cases hname : ∃ d ∈ cfg.daemons, d.name = name
      · obtain ⟨d, hd, rfl⟩ := hname
        rw [lookup_cache_applied hcfg hd] at he
        rcases entryAfter_cases he with ⟨hok, htime⟩ | ⟨he, -⟩
        · exact ⟨i, hi, x, s, hmet, htime.symm, d, hd, rfl, hok⟩
        · exact hold.cache d.name e he
      · have hnot : name ∉ (cfg.daemons.map fun d => (d.name, x.leases d)).map Prod.fst := by
          rw [round_names]
          simpa using hname
        refine hold.cache name e ?_
        rw [← he]
        exact (lookup_results_of_notMem _ _ _ ({}, s.cache) hnot).symm
    · simp only [reconcileOnce, hgw, reconcileViaDaemons] at he
      exact hold.gatewayCache e he

/-- **What a pass behind a gateway knows of** is nothing, or what a poll got within the window. -/
lemma knownDaemons_polled (hcfg : cfg.Checked) (h : FromFetches cfg met i s)
    (hmet : met i = some (x, s)) {deviceOverrides : HashMap String String}
    (hgw : cfg.gateway = some deviceOverrides) :
    knownDaemons cfg x s = [] ∨ ∃ j ≤ i, ∃ y t routes, met j = some (y, t) ∧
      y.daemons = .ok routes ∧ x.cacheNow - y.cacheNow < cfg.staleAfterSecs ∧
        knownDaemons cfg x s = routes.map (withDevice deviceOverrides) := by
  simp only [knownDaemons, hgw]
  rw [lookup_view_applied, lookup_gatewayCache_applied]
  cases he : entryAfter x.cacheNow cfg.staleAfterSecs x.daemons
      (s.gatewayCache.lookup gatewayCacheKey) with
  | none => exact Or.inl rfl
  | some e =>
    right
    rcases entryAfter_cases he with ⟨hok, -⟩ | ⟨he, hfresh⟩
    · exact ⟨i, le_rfl, x, s, e.value, hmet, hok, by simpa using hcfg.window, rfl⟩
    · obtain ⟨j, hj, y, t, hmet', htime, hok⟩ := h.gatewayCache e he
      exact ⟨j, by omega, y, t, e.value, hmet', hok, htime ▸ hfresh, rfl⟩

/-- **A daemon that a pass knows of** was told of within the window. -/
lemma knownDaemons_told (hcfg : cfg.Checked) (h : FromFetches cfg met i s)
    (hmet : met i = some (x, s)) {d : DaemonRoutes} (hd : d ∈ knownDaemons cfg x s) :
    ∃ j ≤ i, ∃ y t, met j = some (y, t) ∧ Reports cfg y d ∧
      x.cacheNow - y.cacheNow < cfg.staleAfterSecs := by
  cases hgw : cfg.gateway with
  | some deviceOverrides =>
    rcases knownDaemons_polled hcfg h hmet hgw with
      hnone | ⟨j, hj, y, t, routes, hmet', hok, hfresh, hknown⟩
    · simp [hnone] at hd
    · rw [hknown] at hd
      obtain ⟨d₀, hd₀, rfl⟩ := List.mem_map.mp hd
      exact ⟨j, hj, y, t, hmet',
        by simpa only [Reports, hgw] using ⟨routes, hok, d₀, hd₀, rfl⟩, hfresh⟩
  | none =>
    simp only [knownDaemons, hgw] at hd
    obtain ⟨e₀, he₀, hr⟩ := List.mem_filterMap.mp hd
    obtain ⟨leases, hl, rfl⟩ := Option.map_eq_some_iff.mp hr
    rw [lookup_view_applied, lookup_cache_applied hcfg he₀] at hl
    obtain ⟨e, he, rfl⟩ := Option.map_eq_some_iff.mp hl
    rcases entryAfter_cases he with ⟨hok, -⟩ | ⟨he, hfresh⟩
    · exact ⟨i, le_rfl, x, s, hmet,
        by simpa only [Reports, hgw] using ⟨e₀, he₀, _, hok, rfl⟩, by simpa using hcfg.window⟩
    · obtain ⟨j, hj, y, t, hmet', htime, d, hd', hname, hok⟩ := h.cache e₀.name e he
      obtain rfl : d = e₀ := List.inj_on_of_nodup_map hcfg.distinct hd' he₀ hname
      exact ⟨j, by omega, y, t, hmet',
        by simpa only [Reports, hgw] using ⟨d, he₀, _, hok, rfl⟩, htime ▸ hfresh⟩

/-- A daemon that a pass knows to advertise an id has this id in the pass, if any. -/
lemma id_of_known (hcfg : cfg.Checked)
    (hnames : ((knownDaemons cfg x s).map DaemonRoutes.name).Nodup) {d : DaemonRoutes}
    (hd : d ∈ knownDaemons cfg x s) {adv id : UInt8} (hadv : d.dumbarpdId = some adv)
    (hid : (reconcileOnce cfg x s).ids.lookup d.name = some id) : id = adv := by
  cases hgw : cfg.gateway with
  | some deviceOverrides =>
    simp only [knownDaemons, hgw, List.map_map] at hnames hd
    simp only [reconcileOnce, hgw] at hid
    obtain ⟨d₀, hd₀, rfl⟩ := List.mem_map.mp hd
    refine lookup_of_advertised ?_ (List.mem_map.mpr ⟨d₀, hd₀, ?_⟩) hid
    · simpa [advertisedThrough, Function.comp_def, withDevice] using hnames
    · exact Prod.ext rfl hadv
  | none =>
    simp only [knownDaemons, hgw] at hd
    simp only [reconcileOnce, hgw] at hid
    obtain ⟨e, he, hr⟩ := List.mem_filterMap.mp hd
    obtain ⟨leases, hl, rfl⟩ := Option.map_eq_some_iff.mp hr
    refine lookup_of_advertised (advertisedBy_names hcfg.distinct)
      (List.mem_map.mpr ⟨e, he, ?_⟩) hid
    rw [hl]
    exact Prod.ext rfl hadv

end Pass

/-! ## At any moment -/

section Life

variable {cfg : Config} {l : Life (Outside ε) RouterState}
  {loop : Rtnetlink (Except Errno Unit)} {main : Option (Rtnetlink (Except Errno Unit))}

/-- What each pass of a life starts from. -/
lemma fromFetches (hcfg : cfg.Checked) (h : Lives (routerd cfg) l loop main) (n : ℕ)
    (s : RouterState) (hs : Inherited (routerd cfg) l.met n s) : FromFetches cfg l.met n s := by
  refine h.sound.each (fun n => ?_) (fun i x t hmet ht => ht.pass hcfg hmet) n s hs
  exact ⟨fun _ _ he => by simp [routerd] at he, fun _ he => by simp [routerd] at he⟩

/-- A packet that dumbarp's rules and routes send anywhere goes to a daemon that some pass knew
of. -/
lemma forwarded_known (hcfg : cfg.Checked) (h : Lives (routerd cfg) l loop main)
    {other : Rule → Packet → Option Route} {p : Packet} {r : Rule} {q : Route}
    (hf : l.traced.kernel.forward other p = some (r, q)) (hr : r.tagged) (hq : q.tagged) :
    ∃ j x s, l.met j = some (x, s) ∧ FromFetches cfg l.met j s ∧ ∃ d ∈ knownDaemons cfg x s,
      p.src ∈ d.ips ∧ q.gateway = some d.nexthop ∧
      (∃ idx, q.oif = some idx ∧ ⟨.getLink d.device, .ok (some idx)⟩ ∈ l.traced.log j) ∧
      (cfg.sourceBasedRouting = false →
        ∃ id, (reconcileOnce cfg x s).ids.lookup d.name = some id ∧ p.mark = id.toUInt32) := by
  obtain ⟨j, x, s, hmet, spec, hspec, hsrc, hmark, hgw, hlink⟩ := h.forwarded hf hr hq
  have hspec : spec ∈ (reconcileOnce cfg x s).desired := hspec
  rw [reconcileOnce_desired, mem_buildGatewaySpecs] at hspec
  obtain ⟨d, hd, fwmark, hfwmark, ip, hip, rfl⟩ := hspec
  have hfrom := fromFetches hcfg h j s (h.sound.past j x s hmet).2
  refine ⟨j, x, s, hmet, hfrom, d, hd, hsrc ▸ hip, hgw, hlink, fun hsbr => ?_⟩
  rw [hsbr] at hfwmark
  obtain ⟨id, hid, rfl⟩ := specMark_eq_some hfwmark
  exact ⟨id, hid, (hmark _ rfl).symm⟩

/-- **Never misdirected.**  Whatever requests failed or were lost, whenever the program was killed
or told to stop, and whatever vanished from the kernel: if dumbarp's rules and routes send a packet
anywhere, then to the next hop of a daemon that was said to hold its source, by the device of that
daemon, and with the mark of that daemon's id.  The pass that wished for this had been told so
within the window. -/
theorem never_misdirected (hcfg : cfg.Checked) (h : Lives (routerd cfg) l loop main)
    {other : Rule → Packet → Option Route} {p : Packet} {r : Rule} {q : Route}
    (hf : l.traced.kernel.forward other p = some (r, q)) (hr : r.tagged) (hq : q.tagged) :
    ∃ j x s, l.met j = some (x, s) ∧ ∃ d, p.src ∈ d.ips ∧ q.gateway = some d.nexthop ∧
      (∃ idx, q.oif = some idx ∧ ⟨.getLink d.device, .ok (some idx)⟩ ∈ l.traced.log j) ∧
      (cfg.sourceBasedRouting = false →
        ∃ id, (reconcileOnce cfg x s).ids.lookup d.name = some id ∧ p.mark = id.toUInt32) ∧
      ∃ i ≤ j, ∃ y t, l.met i = some (y, t) ∧ Reports cfg y d ∧
        x.cacheNow - y.cacheNow < cfg.staleAfterSecs := by
  obtain ⟨j, x, s, hmet, hfrom, d, hd, hip, hgw, hlink, hmark⟩ := forwarded_known hcfg h hf hr hq
  exact ⟨j, x, s, hmet, d, hip, hgw, hlink, hmark, knownDaemons_told hcfg hfrom hmet hd⟩

end Life

/-- The one pass of a router that hears its daemon. -/
def heardOutside : Outside String :=
  ⟨fun _ => .ok ⟨[⟨110, 0, 0, 1⟩], some 4⟩, .error "not asked", noFailure, 0, 0⟩

/-- After the purge of an empty kernel. -/
def purgedLife : Life (Outside String) RouterState where
  state := ⟨∅, ∅, ∅, ∅⟩
  traced := ({ kernel := {} } : Traced).runPass (fun _ => some 2) []

lemma purged_lives (cfg : Config) : ∃ res, Lives (routerd cfg) purgedLife (ret res) none := by
  have hmachine : Lives (routerd cfg)
      ({ state := ⟨∅, ∅, ∅, ∅⟩, traced := { kernel := {} } } : Life (Outside String) RouterState)
      (ret (.ok ())) (some (ret (.ok ()))) := Lives.machine ⟨by simp, by simp⟩
  exact (hmachine.purge IterOrder.collected rfl).executed fun _ => some 2

lemma purgedLife_lives : ∃ res, Lives (routerd slidingConfig) purgedLife (ret res) none :=
  purged_lives slidingConfig

/-- After one pass more, which goes through. -/
def passedLife (cfg : Config) (x : Outside String) : Life (Outside String) RouterState :=
  { purgedLife.pass (routerd cfg) x with
    traced := purgedLife.traced.runPass (fun _ => some 2)
      (reconcileOnce cfg x purgedLife.state).desired }

lemma passedLife_lives (cfg : Config) (x : Outside String) :
    ∃ res, Lives (routerd cfg) (passedLife cfg x) (ret res) none := by
  obtain ⟨res, hlives⟩ := purged_lives cfg
  exact (hlives.pass IterOrder.collected x not_ended_none).executed fun _ => some 2

/-- It is the only pass. -/
lemma passedLife_met {cfg : Config} {x y : Outside String} {i : ℕ} {s : RouterState}
    (h : (passedLife cfg x).met i = some (y, s)) : y = x := by
  simp only [passedLife, Life.pass, Function.update_apply] at h
  split at h
  · exact (Prod.mk.inj (Option.some.inj h)).1.symm
  · cases h

/-- After the pass that hears the daemon. -/
def heardLife : Life (Outside String) RouterState := passedLife slidingConfig heardOutside

lemma heardLife_lives : ∃ res, Lives (routerd slidingConfig) heardLife (ret res) none :=
  passedLife_lives slidingConfig heardOutside

/-- A packet from the leased address with the mark of the daemon. -/
def leasedPacket : Packet := ⟨⟨110, 0, 0, 1⟩, ⟨8, 8, 8, 8⟩, 4⟩

theorem never_misdirected_heard :
    ∃ j x s, heardLife.met j = some (x, s) ∧ ∃ d : DaemonRoutes, leasedPacket.src ∈ d.ips ∧
      (routeFor 1845493761 ⟨10, 0, 0, 5⟩ 2).gateway = some d.nexthop ∧
      (∃ idx, (routeFor 1845493761 ⟨10, 0, 0, 5⟩ 2).oif = some idx ∧
        ⟨.getLink d.device, .ok (some idx)⟩ ∈ heardLife.traced.log j) ∧
      (slidingConfig.sourceBasedRouting = false → ∃ id,
        (reconcileOnce slidingConfig x s).ids.lookup d.name = some id ∧
          leasedPacket.mark = id.toUInt32) ∧
      ∃ i ≤ j, ∃ y t, heardLife.met i = some (y, t) ∧ Reports slidingConfig y d ∧
        x.cacheNow - y.cacheNow < slidingConfig.staleAfterSecs := by
  obtain ⟨res, hlives⟩ := heardLife_lives
  have hf : heardLife.traced.kernel.forward (fun _ _ => none) leasedPacket =
      some (ruleFor ⟨110, 0, 0, 1⟩ 1845493761 (some 4), routeFor 1845493761 ⟨10, 0, 0, 5⟩ 2) := by
    decide
  exact never_misdirected slidingConfig_checked hlives hf (ruleFor_tagged _ _ _)
    (routeFor_tagged _ _ _)

/-! ## After a pass -/

/-- The address at an offset from the network header. -/
def addrAt (net : List UInt8) (offset : ℕ) : Ipv4Addr :=
  ⟨net.getD offset 0, net.getD (offset + 1) 0, net.getD (offset + 2) 0, net.getD (offset + 3) 0⟩

/-- A packet that came with the mark `incoming`, as the rules see it behind the classifier, which
leaves the mark alone unless it finds the tag in its map. -/
def classified (dscpIds : DscpIds) (incoming : UInt32) (skb : Skb) : Packet where
  src := addrAt skb.net 12
  dst := addrAt skb.net 16
  mark := (steer dscpIds skb).mark.getD incoming

/-- The spec is in the list, and no spec behind it is for its table. -/
def LastWord (desired : List RouteSpec) (spec : RouteSpec) : Prop :=
  ∃ before after, desired = before ++ spec :: after ∧
    ∀ s ∈ after, tableIdFor s.src ≠ tableIdFor spec.src

section Smooth

variable {cfg : Config} {x : Outside ε} {s : RouterState}

/-- The classifier marks the packets tagged with an id of the pass. -/
lemma steer_synced (ho : x.outcome.Succeeds) {skb : Skb} {m : UInt32} :
    (steer (reconcileOnce cfg x s).state.datapath skb).mark = some m ↔
      ∃ dscp, dscpOf skb = some dscp ∧
        (∃ name, (reconcileOnce cfg x s).ids.lookup name = some dscp) ∧ m = dscp.toUInt32 := by
  rw [steer_mark_iff, reconcileOnce_datapath]
  refine exists_congr fun dscp => and_congr_right fun _ => ?_
  rw [lookup_synced ho (fun _ => mem_idSet)]
  constructor
  · rintro ⟨-, h⟩
    exact h
  · rintro ⟨⟨name, hid⟩, hm⟩
    exact ⟨(reconcileOnce_usable hid).1, ⟨name, hid⟩, hm⟩

/-- The tag of the packet is an id of the pass. -/
def TaggedById (pass : PassResult) (skb : Skb) : Prop :=
  ∃ dscp, dscpOf skb = some dscp ∧ ∃ name, pass.ids.lookup name = some dscp

/-- A packet has the mark of an id of the pass just if it has the tag, or brought the mark and has
no tag to replace it. -/
lemma classified_mark_iff (ho : x.outcome.Succeeds) {incoming : UInt32} {skb : Skb} {name : String}
    {id : UInt8} (hid : (reconcileOnce cfg x s).ids.lookup name = some id) :
    (classified (reconcileOnce cfg x s).state.datapath incoming skb).mark = id.toUInt32 ↔
      dscpOf skb = some id ∨
        incoming = id.toUInt32 ∧ ¬ TaggedById (reconcileOnce cfg x s) skb := by
  show (steer (reconcileOnce cfg x s).state.datapath skb).mark.getD incoming = id.toUInt32 ↔ _
  cases hsteer : (steer (reconcileOnce cfg x s).state.datapath skb).mark with
  | none =>
    have huntagged : ¬ TaggedById (reconcileOnce cfg x s) skb := by
      rintro ⟨dscp, hdscp, hname⟩
      have hmark := (steer_synced ho).mpr ⟨dscp, hdscp, hname, rfl⟩
      rw [hsteer] at hmark
      cases hmark
    rw [Option.getD_none]
    refine ⟨fun hmark => Or.inr ⟨hmark, huntagged⟩, ?_⟩
    rintro (hdscp | ⟨hmark, -⟩)
    · exact absurd ⟨id, hdscp, name, hid⟩ huntagged
    · exact hmark
  | some m =>
    obtain ⟨dscp, hdscp, hname, rfl⟩ := (steer_synced ho).mp hsteer
    rw [Option.getD_some, UInt8.toUInt32_inj]
    constructor
    · rintro rfl
      exact Or.inl hdscp
    · rintro (hid' | ⟨-, huntagged⟩)
      · exact Option.some.inj (hdscp.symm.trans hid')
      · exact absurd ⟨dscp, hdscp, hname⟩ huntagged

/-- A mark that a spec asks for is the id of a daemon that holds the source. -/
lemma wish_of_pass {es : List NetlinkEvent} (hsbr : cfg.sourceBasedRouting = false) {p : Packet}
    {w : ResolvedSpec} (hw : wanted (reconcileOnce cfg x s).desired es (tableIdFor p.src) = some w)
    (hadmits : w.admits p) :
    ∃ d ∈ knownDaemons cfg x s, p.src ∈ d.ips ∧
      ∃ id, (reconcileOnce cfg x s).ids.lookup d.name = some id ∧ p.mark = id.toUInt32 := by
  have hmem := (List.mem_filter.mp (List.mem_of_getLast? hw)).1
  obtain ⟨spec, hspec, idx, rfl⟩ := mem_resolvedSpecs hmem
  rw [reconcileOnce_desired, mem_buildGatewaySpecs, hsbr] at hspec
  obtain ⟨d, hd, fwmark, hmark, ip, hip, rfl⟩ := hspec
  obtain ⟨id, hid, rfl⟩ := specMark_eq_some hmark
  obtain rfl : ip = p.src := admits_src hadmits
  exact ⟨d, hd, hip, id, hid, (admits_mark hadmits rfl).symm⟩

/-- **Tagged packets reach their daemon, and no others do.**  Once a pass has gone through that
found its devices, a packet tagged with the id of a daemon that has the last word on its source
leaves by the next hop and the device of that daemon, whatever mark it came with, if others leave it
to dumbarp. A packet that has the id of no daemon that holds its source, neither for a tag nor for a
mark that it came with and no tag replaced, goes the way of the rules of others. -/
theorem tagged_packets_reach_their_daemon {l : Life (Outside ε) RouterState}
    {main : Option (Rtnetlink (Except Errno Unit))} {res : Except Errno Unit}
    (h : Lives (routerd cfg) l (ret res) main) (hsbr : cfg.sourceBasedRouting = false)
    (ho : x.outcome.Succeeds) {iter : IterOrder} {es : List NetlinkEvent}
    {res' : Except Errno Unit} {k : Kernel}
    (hrun : Runs (KernelStep Exact) (reconcile iter (reconcileOnce cfg x l.state).desired)
      l.traced.kernel es res' k)
    (hes : ∀ e ∈ es, Succeeds e) {other : Rule → Packet → Option Route} {incoming : UInt32}
    {skb : Skb} :
    let pass := reconcileOnce cfg x l.state
    let p := classified pass.state.datapath incoming skb
    (∀ d ∈ knownDaemons cfg x l.state, ∀ id, pass.ids.lookup d.name = some id →
      dscpOf skb = some id → LastWord pass.desired ⟨p.src, d.nexthop, d.device, some id.toUInt32⟩ →
        (∀ e ∈ es, LinkFound e) → LeavesRoom other k p →
        ∃ idx, ⟨.getLink d.device, .ok (some idx)⟩ ∈ es ∧
          k.forward other p = some (ruleFor p.src (tableIdFor p.src) (some id.toUInt32),
            routeFor (tableIdFor p.src) d.nexthop idx)) ∧
      ((∀ d ∈ knownDaemons cfg x l.state, p.src ∈ d.ips →
        ∀ id, pass.ids.lookup d.name = some id →
          dscpOf skb ≠ some id ∧ (incoming = id.toUInt32 → TaggedById pass skb)) →
          k.forward other p = k.forwardOthers other p) := by
  intro pass p
  have hzero (j : ℕ) (y : Outside ε) (s : RouterState) (_ : l.met j = some (y, s)) :
      ∀ spec ∈ (reconcileOnce cfg y s).desired, spec.fwmark ≠ some 0 :=
    fun _ hspec => reconcileOnce_mark_ne_zero hspec
  constructor
  · rintro d hd id hid hdscp ⟨before, after, hsplit, hafter⟩ hlinks hroom
    refine h.forward_last hzero (hsplit ▸ hrun) hes hlinks hroom hafter rfl ?_
    rintro m ⟨⟩
    exact (classified_mark_iff ho hid).mpr (Or.inl hdscp)
  · intro hno
    have hnone : wish (wanted pass.desired es) p = none := by
      rw [wish, Option.bind_eq_none_iff]
      intro w hw
      refine if_neg fun hadmits => ?_
      obtain ⟨d, hd, hip, id, hid, hmark⟩ := wish_of_pass hsbr hw hadmits
      obtain ⟨hdscp, hbrought⟩ := hno d hd hip id hid
      rcases (classified_mark_iff ho hid).mp hmark with htag | ⟨hincoming, huntagged⟩
      · exact hdscp htag
      · exact huntagged (hbrought hincoming)
    exact h.forward_unwished hzero hrun hes hnone

end Smooth

/-- A pass that hears the daemon, executed. -/
def heardRun : List NetlinkEvent × Except Errno Unit × Kernel :=
  (reconcile IterOrder.collected
    (reconcileOnce slidingConfig heardOutside purgedLife.state).desired).exec
      (Kernel.answer fun _ => some 2) purgedLife.traced.kernel

/-- An answer from the leased address to 8.8.8.8, with the tag 4. -/
def taggedAnswer : Skb where
  protocol := etherTypeIpv4
  net := [0x45, 16, 0, 20, 0, 0, 0, 0, 64, 17, 0, 0, 110, 0, 0, 1, 8, 8, 8, 8]

/-- The same answer without a tag. -/
def untaggedAnswer : Skb := { taggedAnswer with net := taggedAnswer.net.set 1 0 }

/-- Both came with a mark, which the tag replaces. -/
theorem tagged_answer_reaches_daemon :
    let datapath := (reconcileOnce slidingConfig heardOutside purgedLife.state).state.datapath
    (∃ idx, ⟨.getLink "br0", .ok (some idx)⟩ ∈ heardRun.1 ∧
      heardRun.2.2.forward (fun _ _ => none) (classified datapath 7 taggedAnswer) =
        some (ruleFor ⟨110, 0, 0, 1⟩ 1845493761 (some 4),
          routeFor 1845493761 ⟨10, 0, 0, 5⟩ idx)) ∧
      heardRun.2.2.forward (fun _ _ => none) (classified datapath 7 untaggedAnswer) =
        heardRun.2.2.forwardOthers (fun _ _ => none) (classified datapath 7 untaggedAnswer) := by
  intro datapath
  obtain ⟨res, hlives⟩ := purgedLife_lives
  have hrun : Runs (KernelStep Exact) (reconcile IterOrder.collected
      (reconcileOnce slidingConfig heardOutside purgedLife.state).desired)
      purgedLife.traced.kernel heardRun.1 heardRun.2.1 heardRun.2.2 :=
    exec_runs (fun k op => (answer_step _ k op).mono fun _ _ _ _ hr => hr.exact) _ _
  have hknown : knownDaemons slidingConfig heardOutside purgedLife.state =
      [⟨"a", ⟨10, 0, 0, 5⟩, "br0", some 4, [⟨110, 0, 0, 1⟩]⟩] := rfl
  have hid :
      (reconcileOnce slidingConfig heardOutside purgedLife.state).ids.lookup "a" = some 4 := by
    decide
  constructor
  · obtain ⟨hreach, -⟩ := @tagged_packets_reach_their_daemon _ _ _ _ _ _ hlives rfl
      noFailure_succeeds _ _ _ _ hrun (by decide) (fun _ _ => none) 7 taggedAnswer
    exact hreach _ (by rw [hknown]; exact List.mem_singleton.mpr rfl) 4 hid (by decide)
      ⟨[], [], by decide, nofun⟩ (by decide)
      ⟨⟨[ruleFor ⟨110, 0, 0, 1⟩ 1845493761 (some 4)], [], by decide, by simp, by simp⟩, by decide⟩
  · refine (tagged_packets_reach_their_daemon hlives rfl noFailure_succeeds hrun (by decide)).2
      fun d hd _ id hid' => ?_
    obtain rfl := List.mem_singleton.mp (hknown ▸ hd)
    obtain rfl : 4 = id := Option.some.inj (hid.symm.trans hid')
    have hmark : (7 : UInt32) ≠ (4 : UInt8).toUInt32 := by decide
    exact ⟨by decide, fun h => absurd h hmark⟩

end Dumbarp.Routerd
