/-
A pass of a router (`dumbarp-routerd/src/reconcile.rs`).

The daemons are polled directly or learnt through a gateway.  Either way the pass resolves an id
for each daemon, wishes for routes that carry the id as a mark, and syncs the map of the
classifier to the ids.  With distinct names the three agree: a mark belongs to one daemon, and
the packets that get it are those tagged with the id of that daemon.
-/
import Dumbarp.Api.Cache
import Dumbarp.Routerd.Ids
import Dumbarp.Routerd.Datapath
import Dumbarp.Routing.Reconcile

namespace Dumbarp.Routerd

open Api Routing

variable {ε : Type}

/-! ## The code -/

/-- `DaemonEntry`. -/
structure DaemonEntry where
  name : String
  endpoint : String
  authToken : String
  nexthop : Ipv4Addr
  device : String
deriving DecidableEq, Repr

/-- The part of the configuration that a pass reads. -/
structure Config where
  staleAfterSecs : ℕ
  sourceBasedRouting : Bool
  daemons : List DaemonEntry
  /-- The device overrides of the gateway, when the daemons are learnt through one. -/
  gateway : Option (HashMap String String)

/-- `RouterState`. -/
structure RouterState where
  cache : LeaseCache
  gatewayCache : Cache (List DaemonRoutes)
  datapath : DscpIds
  knownIds : HashMap String RememberedId

/-- `GATEWAY_CACHE_KEY`. -/
def gatewayCacheKey : String := "gateway"

/-- The mark of a daemon's specs: `none` skips the daemon, for want of an id. -/
def specMark (ids : HashMap String UInt8) (sourceBasedRouting : Bool) (name : String) :
    Option (Option UInt32) :=
  if sourceBasedRouting then some none
  else (ids.lookup name).map fun id => some id.toUInt32

/-- `push_specs`: the specs it adds. -/
def pushSpecs (daemon : DaemonEntry) (ips : List Ipv4Addr) (fwmark : Option UInt32) :
    List RouteSpec :=
  ips.map fun ip => ⟨ip, daemon.nexthop, daemon.device, fwmark⟩

/-- The body of the loop of `reconcile_via_daemons`: the specs it adds for one daemon. -/
def daemonSpecs (view : HashMap String Leases) (ids : HashMap String UInt8)
    (sourceBasedRouting : Bool) (daemon : DaemonEntry) : List RouteSpec :=
  match view.lookup daemon.name with
  | none => []
  | some leases =>
    match specMark ids sourceBasedRouting daemon.name with
    | none => []
    | some fwmark => pushSpecs daemon leases.ips fwmark

/-- The body of the loop of `build_gateway_specs`: the specs it adds for one daemon. -/
def gatewaySpecs (deviceOverrides : HashMap String String) (ids : HashMap String UInt8)
    (sourceBasedRouting : Bool) (d : DaemonRoutes) : List RouteSpec :=
  let device := (deviceOverrides.lookup d.name).getD d.device
  match specMark ids sourceBasedRouting d.name with
  | none => []
  | some fwmark => d.ips.map fun ip => ⟨ip, d.nexthop, device, fwmark⟩

/-- The specs of the daemons that are polled directly. -/
def buildDaemonSpecs (daemons : List DaemonEntry) (view : HashMap String Leases)
    (ids : HashMap String UInt8) (sourceBasedRouting : Bool) : List RouteSpec :=
  daemons.flatMap (daemonSpecs view ids sourceBasedRouting)

/-- `build_gateway_specs`. -/
def buildGatewaySpecs (daemons : List DaemonRoutes) (deviceOverrides : HashMap String String)
    (ids : HashMap String UInt8) (sourceBasedRouting : Bool) : List RouteSpec :=
  daemons.flatMap (gatewaySpecs deviceOverrides ids sourceBasedRouting)

/-- What the polled daemons advertise, by the view of the cache. -/
def advertisedBy (daemons : List DaemonEntry) (view : HashMap String Leases) :
    List (String × Option UInt8) :=
  daemons.map fun d => (d.name, (view.lookup d.name).bind Leases.dumbarpdId)

/-- What the daemons behind a gateway advertise. -/
def advertisedThrough (daemons : List DaemonRoutes) : List (String × Option UInt8) :=
  daemons.map fun d => (d.name, d.dumbarpdId)

/-- The set of the ids of a pass, in the order in which it was collected. -/
def idSet (ids : HashMap String UInt8) : List UInt8 := ids.values.dedup

/-- What a pass computes: its ids, the routes it wishes for, and the state it leaves. -/
structure PassResult where
  ids : HashMap String UInt8
  desired : List RouteSpec
  state : RouterState

/-- `reconcile_via_daemons`.  The cache and `resolve_ids` read the clock one after the other; an
error of the map sync is only logged. -/
def reconcileViaDaemons (cfg : Config) (fetched : DaemonEntry → Except ε Leases)
    (o : MapOutcome) (cacheNow idsNow : ℕ) (state : RouterState) : PassResult :=
  let round := cfg.daemons.map fun d => (d.name, fetched d)
  let applied := applyRound cacheNow round cfg.staleAfterSecs state.cache
  let view := applied.1.2
  let resolved :=
    resolveIds (advertisedBy cfg.daemons view) state.knownIds cfg.staleAfterSecs idsNow
  { ids := resolved.1
    desired := buildDaemonSpecs cfg.daemons view resolved.1 cfg.sourceBasedRouting
    state :=
      { state with
        cache := applied.2
        knownIds := resolved.2
        datapath := (syncIds o (idSet resolved.1) state.datapath).2 } }

/-- `reconcile_via_gateway`. -/
def reconcileViaGateway (cfg : Config) (deviceOverrides : HashMap String String)
    (fetched : Except ε (List DaemonRoutes)) (o : MapOutcome) (cacheNow idsNow : ℕ)
    (state : RouterState) : PassResult :=
  let applied :=
    applyRound cacheNow [(gatewayCacheKey, fetched)] cfg.staleAfterSecs state.gatewayCache
  let daemons := (applied.1.2.lookup gatewayCacheKey).getD []
  let resolved :=
    resolveIds (advertisedThrough daemons) state.knownIds cfg.staleAfterSecs idsNow
  { ids := resolved.1
    desired := buildGatewaySpecs daemons deviceOverrides resolved.1 cfg.sourceBasedRouting
    state :=
      { state with
        gatewayCache := applied.2
        knownIds := resolved.2
        datapath := (syncIds o (idSet resolved.1) state.datapath).2 } }

lemma mem_idSet {ids : HashMap String UInt8} {id : UInt8} :
    id ∈ idSet ids ↔ ∃ name, ids.lookup name = some id := by
  rw [idSet, List.mem_dedup, HashMap.mem_values_iff]

/-! ## Marks -/

/-- The routes of a pass, which are those of its daemons one after the other, and the map agree
on the marks. -/
structure MarksAgree (ids : HashMap String UInt8) (map : DscpIds) (desired : List RouteSpec)
    (perDaemon : List (String × List RouteSpec)) : Prop where
  split : desired = perDaemon.flatMap Prod.snd
  /-- Every route carries a mark in range, under which the map holds it. -/
  marked : ∀ s ∈ desired, ∃ id : UInt8, 1 ≤ id ∧ id ≤ 63 ∧
    s.fwmark = some id.toUInt32 ∧ map.lookup id = some id.toUInt32
  /-- Two daemons share no mark. -/
  apart : ∀ d ∈ perDaemon, ∀ d' ∈ perDaemon, d.1 ≠ d'.1 →
    ∀ s ∈ d.2, ∀ s' ∈ d'.2, s.fwmark ≠ s'.fwmark
  /-- The classifier marks the packets tagged with an id of the pass, with that id. -/
  steered : ∀ skb m, (steer map skb).mark = some m ↔
    ∃ dscp, dscpOf skb = some dscp ∧ (∃ name, ids.lookup name = some dscp) ∧ m = dscp.toUInt32
  /-- A packet tagged with the id of a daemon gets the mark that its routes test, and no other
  routes test. -/
  tested : ∀ name id skb, ids.lookup name = some id → dscpOf skb = some id →
    (steer map skb).mark = some id.toUInt32 ∧
      ∀ d ∈ perDaemon, ∀ s ∈ d.2, (s.fwmark = some id.toUInt32 ↔ d.1 = name)

/-- The marks that the two spec builders give to a daemon. -/
def MarkedBy (ids : HashMap String UInt8) (d : String × List RouteSpec) : Prop :=
  ∀ s ∈ d.2, ∃ id, ids.lookup d.1 = some id ∧ s.fwmark = some id.toUInt32

lemma specMark_eq_some {ids : HashMap String UInt8} {name : String} {fwmark : Option UInt32}
    (h : specMark ids false name = some fwmark) :
    ∃ id, ids.lookup name = some id ∧ fwmark = some id.toUInt32 := by
  simp only [specMark, Bool.false_eq_true, if_false, Option.map_eq_some_iff] at h
  obtain ⟨id, hid, rfl⟩ := h
  exact ⟨id, hid, rfl⟩

lemma daemonSpecs_markedBy (view : HashMap String Leases) (ids : HashMap String UInt8)
    (d : DaemonEntry) : MarkedBy ids (d.name, daemonSpecs view ids false d) := by
  intro s hs
  simp only [daemonSpecs] at hs
  split at hs
  · simp at hs
  · split at hs
    · simp at hs
    · rename_i hmark
      obtain ⟨ip, -, rfl⟩ := List.mem_map.mp hs
      exact specMark_eq_some hmark

lemma gatewaySpecs_markedBy (deviceOverrides : HashMap String String)
    (ids : HashMap String UInt8) (d : DaemonRoutes) :
    MarkedBy ids (d.name, gatewaySpecs deviceOverrides ids false d) := by
  intro s hs
  simp only [gatewaySpecs] at hs
  split at hs
  · simp at hs
  · rename_i hmark
    obtain ⟨ip, -, rfl⟩ := List.mem_map.mp hs
    exact specMark_eq_some hmark

lemma lookup_synced {ids : HashMap String UInt8} {o : MapOutcome} (ho : o.Succeeds)
    {set : List UInt8} (hset : ∀ id, id ∈ set ↔ ∃ name, ids.lookup name = some id)
    (old : DscpIds) {id : UInt8} {m : UInt32} :
    (syncIds o set old).2.lookup id = some m ↔
      (∃ name, ids.lookup name = some id) ∧ m = id.toUInt32 := by
  rw [(syncIds_succeeds ho old).2, ← hset]
  split
  · rename_i h
    simp [h, eq_comm]
  · rename_i h
    simp [h]

/-- **Marks agree** as soon as the ids are in range and distinct, and each route carries the id
of its daemon. -/
lemma marksAgree {ids : HashMap String UInt8} {o : MapOutcome} (ho : o.Succeeds)
    {set : List UInt8} (hset : ∀ id, id ∈ set ↔ ∃ name, ids.lookup name = some id)
    (old : DscpIds) (husable : ∀ name id, ids.lookup name = some id → Usable id)
    (hinj : ∀ name name' id, ids.lookup name = some id → ids.lookup name' = some id →
      name = name')
    {perDaemon : List (String × List RouteSpec)} (hmarked : ∀ d ∈ perDaemon, MarkedBy ids d) :
    MarksAgree ids (syncIds o set old).2 (perDaemon.flatMap Prod.snd) perDaemon := by
  -- an id of the pass is never zero, the one DSCP that the classifier does not look up
  have hsteered : ∀ skb m, (steer (syncIds o set old).2 skb).mark = some m ↔
      ∃ dscp, dscpOf skb = some dscp ∧ (∃ name, ids.lookup name = some dscp) ∧
        m = dscp.toUInt32 := by
    intro skb m
    rw [steer_mark_iff]
    constructor
    · rintro ⟨dscp, hd, -, hl⟩
      exact ⟨dscp, hd, (lookup_synced ho hset old).mp hl⟩
    · rintro ⟨dscp, hd, ⟨name, hn⟩, hm⟩
      exact ⟨dscp, hd, (husable name dscp hn).1, (lookup_synced ho hset old).mpr ⟨⟨name, hn⟩, hm⟩⟩
  refine ⟨rfl, ?_, ?_, hsteered, ?_⟩
  · intro s hs
    obtain ⟨d, hd, hs⟩ := List.mem_flatMap.mp hs
    obtain ⟨id, hid, hmark⟩ := hmarked d hd s hs
    obtain ⟨hne, hle⟩ := husable d.1 id hid
    refine ⟨id, ?_, hle, hmark, (lookup_synced ho hset old).mpr ⟨⟨d.1, hid⟩, rfl⟩⟩
    rw [UInt8.le_iff_toNat_le]
    have : id.toNat ≠ 0 := fun h => hne (UInt8.toNat_inj.mp h)
    exact Nat.one_le_iff_ne_zero.mpr this
  · -- a mark is an id, and an id belongs to one daemon
    intro d hd d' hd' hne s hs s' hs' heq
    obtain ⟨id, hid, hmark⟩ := hmarked d hd s hs
    obtain ⟨id', hid', hmark'⟩ := hmarked d' hd' s' hs'
    rw [hmark, hmark', Option.some.injEq, UInt8.toUInt32_inj] at heq
    subst heq
    exact hne (hinj d.1 d'.1 id hid hid')
  · intro name id skb hid hdscp
    refine ⟨(hsteered skb _).mpr ⟨id, hdscp, ⟨name, hid⟩, rfl⟩, ?_⟩
    intro d hd s hs
    obtain ⟨id', hid', hmark⟩ := hmarked d hd s hs
    rw [hmark, Option.some.injEq, UInt8.toUInt32_inj]
    constructor
    · rintro rfl
      exact hinj d.1 name id' hid' hid
    · rintro rfl
      exact Option.some.inj (hid'.symm.trans hid)

/-- **Datapath and policy rules agree on marks**, for daemons polled directly and for daemons
learnt through a gateway, whatever is remembered and whatever the map held before. -/
theorem marks_agree {stale now : ℕ} {remembered : HashMap String RememberedId} {o : MapOutcome}
    (ho : o.Succeeds) (old : DscpIds) :
    (∀ (daemons : List DaemonRoutes) (deviceOverrides : HashMap String String),
      (daemons.map DaemonRoutes.name).Nodup →
        let ids := (resolveIds (advertisedThrough daemons) remembered stale now).1
        ∀ set : List UInt8, (∀ id, id ∈ set ↔ ∃ name, ids.lookup name = some id) →
          MarksAgree ids (syncIds o set old).2 (buildGatewaySpecs daemons deviceOverrides ids false)
            (daemons.map fun d => (d.name, gatewaySpecs deviceOverrides ids false d))) ∧
    (∀ (daemons : List DaemonEntry) (view : HashMap String Leases),
      (daemons.map DaemonEntry.name).Nodup →
        let ids := (resolveIds (advertisedBy daemons view) remembered stale now).1
        ∀ set : List UInt8, (∀ id, id ∈ set ↔ ∃ name, ids.lookup name = some id) →
          MarksAgree ids (syncIds o set old).2 (buildDaemonSpecs daemons view ids false)
            (daemons.map fun d => (d.name, daemonSpecs view ids false d))) := by
  constructor
  · intro daemons deviceOverrides hd ids set hset
    have hnames : ((advertisedThrough daemons).map Prod.fst).Nodup := by
      simpa [advertisedThrough, Function.comp_def] using hd
    have hmarked : ∀ d ∈ daemons.map fun d => (d.name, gatewaySpecs deviceOverrides ids false d),
        MarkedBy ids d := by
      intro d hd
      obtain ⟨d, -, rfl⟩ := List.mem_map.mp hd
      exact gatewaySpecs_markedBy deviceOverrides ids d
    have h := marksAgree ho hset old (fun _ _ => resolveIds_usable hnames)
      (fun _ _ _ => resolveIds_injective hnames) hmarked
    simpa [buildGatewaySpecs, List.flatMap_map] using h
  · intro daemons view hd ids set hset
    have hnames : ((advertisedBy daemons view).map Prod.fst).Nodup := by
      simpa [advertisedBy, Function.comp_def] using hd
    have hmarked : ∀ d ∈ daemons.map fun d => (d.name, daemonSpecs view ids false d),
        MarkedBy ids d := by
      intro d hd
      obtain ⟨d, -, rfl⟩ := List.mem_map.mp hd
      exact daemonSpecs_markedBy view ids d
    have h := marksAgree ho hset old (fun _ _ => resolveIds_usable hnames)
      (fun _ _ _ => resolveIds_injective hnames) hmarked
    simpa [buildDaemonSpecs, List.flatMap_map] using h

/-- Every map operation succeeds. -/
def noFailure : MapOutcome := ⟨true, fun _ => true, fun _ => true, fun _ => true⟩

lemma noFailure_succeeds : noFailure.Succeeds := ⟨rfl, fun _ => rfl, fun _ => rfl, fun _ => rfl⟩

/-- Two daemons that advertise the same id, with a third that advertises none. -/
def threeDaemons : List DaemonRoutes :=
  [⟨"a", ⟨10, 0, 0, 1⟩, "br0", some 4, [⟨110, 0, 0, 1⟩]⟩,
    ⟨"b", ⟨10, 0, 0, 2⟩, "br0", some 4, [⟨110, 0, 0, 2⟩]⟩,
    ⟨"c", ⟨10, 0, 0, 3⟩, "br0", none, [⟨110, 0, 0, 3⟩]⟩]

theorem marks_agree_threeDaemons :
    let remembered : HashMap String RememberedId := AList.insert "c" ⟨9, 100⟩ ∅
    let ids := (resolveIds (advertisedThrough threeDaemons) remembered 300 200).1
    let map := (syncIds noFailure (idSet ids) (AList.insert 7 7 ∅)).2
    ids.lookup "c" = some 9 ∧
      ⟨⟨110, 0, 0, 3⟩, ⟨10, 0, 0, 3⟩, "br0", some 9⟩ ∈ buildGatewaySpecs threeDaemons ∅ ids false ∧
      map.lookup 9 = some 9 ∧
      MarksAgree ids map (buildGatewaySpecs threeDaemons ∅ ids false)
        (threeDaemons.map fun d => (d.name, gatewaySpecs ∅ ids false d)) :=
  ⟨by decide, by decide, by decide, (marks_agree noFailure_succeeds _).1 threeDaemons ∅ (by decide) _
    fun _ => mem_idSet⟩

end Dumbarp.Routerd
