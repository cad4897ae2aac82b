/-
When a converged state is a fixed point.

A pass asks nothing of the kernel when every table is settled.  After a pass in which nothing
fails, a table need not be: one route is listed and one deleted, so that a second tagged
route of the table may survive and be listed in the place of the wanted one.  `Table.Settles`
says of the state before the pass that this does not happen.
-/
import Dumbarp.Routing.Pass

namespace Dumbarp.Routing

open Interact Interact.Prog

/-! ## What is installed is read back -/

lemma ruleFor_isMatch {w : ResolvedSpec} {t : UInt32} (hmark : w.fwmark ≠ some 0) :
    (ruleFor w.src t w.fwmark).current.isMatch w := by
  have hfilter : w.fwmark.filter (· ≠ 0) = w.fwmark := by
    cases hm : w.fwmark with
    | none => rfl
    | some m => exact Option.filter_some_pos (by simpa [hm] using hmark)
  rw [ruleFor_current, rule_isMatch_iff, hfilter]
  exact ⟨rfl, rfl, rfl⟩

/-- **The dump of an installed rule is accepted**, whatever the order of its attributes. -/
lemma addRule_isMatch {w : ResolvedSpec} {t : UInt32} {msg : RuleMessage}
    (hmark : w.fwmark ≠ some 0)
    (h : IsRuleDump (ruleOf (addRuleRequest w.src t w.fwmark)) msg) :
    ∃ r, parseDumbarpRule msg = some (t, r) ∧ r.isMatch w := by
  rw [ruleOf_addRuleRequest] at h
  refine ⟨_, by rw [parse_ruleDump h, if_pos (ruleFor_tagged _ _ _)]; rfl, ?_⟩
  exact ruleFor_isMatch hmark

/-- **The dump of an installed route is accepted.** -/
lemma addRoute_isMatch {w : ResolvedSpec} {t : UInt32} {msg : RouteMessage}
    (h : IsRouteDump (routeOf (addRouteRequest t w.gateway w.ifindex)) msg) :
    ∃ p, parseDumbarpRoute msg = some p ∧ p.table = t ∧ p.intoValue.isMatch w := by
  rw [routeOf_addRouteRequest] at h
  have hparse := parse_routeDump h
  rw [routeFor_current, Option.map_some, Option.map_eq_some_iff] at hparse
  obtain ⟨p, hp, he⟩ := hparse
  obtain ⟨htable, hvalue⟩ := Prod.mk.inj he
  refine ⟨p, hp, htable, ?_⟩
  rw [hvalue, route_isMatch_iff]
  exact ⟨rfl, rfl, rfl⟩

/-! ## Settled tables -/

/-- The routes that come before a default route in the dump of a table. -/
def Route.beforeDefault (q : Route) : Bool := q.dst == anyAddr && 0 < q.dstLen

/-- The routes of a table behind the place of a default route. -/
def behindDefault (qs : List Route) : List Route := qs.dropWhile Route.beforeDefault

lemma before_routeFor (q : Route) (t : UInt32) (gateway : Ipv4Addr) (ifindex : UInt32) :
    q.before (routeFor t gateway ifindex) = q.beforeDefault := by
  have hlow : decide (q.dst.toU32 < anyAddr.toU32) = false := decide_eq_false UInt32.not_lt_zero
  show (decide (q.dst.toU32 < anyAddr.toU32) || q.beforeDefault) = q.beforeDefault
  rw [hlow, Bool.false_or]

/-- The place that a new default route takes among the routes of its table. -/
lemma insertRoute_routeFor {t : UInt32} {gateway : Ipv4Addr} {ifindex : UInt32} :
    ∀ {qs : List Route}, (∀ q ∈ qs, q.table = t) →
      insertRoute (routeFor t gateway ifindex) qs =
        qs.takeWhile Route.beforeDefault ++ routeFor t gateway ifindex :: behindDefault qs
  | [], _ => rfl
  | q :: qs, h => by
    have htable : q.table = t := h q List.mem_cons_self
    have ih : insertRoute (routeFor t gateway ifindex) qs =
        qs.takeWhile Route.beforeDefault ++ routeFor t gateway ifindex :: behindDefault qs :=
      insertRoute_routeFor fun q' hq' => h q' (List.mem_cons_of_mem q hq')
    simp only [insertRoute, routeFor_table, before_routeFor, behindDefault]
    by_cases hq : q.beforeDefault = true
    · rw [if_pos (Or.inr hq), ih, List.takeWhile_cons_of_pos hq, List.dropWhile_cons_of_pos hq]
      rfl
    · rw [if_neg (by simp [htable, hq]), List.takeWhile_cons_of_neg hq,
        List.dropWhile_cons_of_neg hq]
      rfl

namespace Table

/-- A pass has nothing to do for the table. -/
def Settled (want : Option ResolvedSpec) (T : Table) : Prop :=
  T.isUpToDate want ∨ want = none ∧ T.rules = [] ∧ T.listedRoute = none

/-- The routes of the table `t` but for the first default route of dumbarp's. -/
def further (t : UInt32) (T : Table) : List Route :=
  T.routes.eraseP (agreesRoute (delRouteRequest t))

/-- The table `t` will be settled by a pass in which nothing fails: it is up to date; or, its
first default route of dumbarp's apart, nothing is wanted and no further route is read as
dumbarp's, or a spec is wanted and the last such route behind the place of a default route, if
there is one, already matches it. -/
def Settles (t : UInt32) (want : Option ResolvedSpec) (T : Table) : Prop :=
  T.isUpToDate want ∨
    match want with
    | none => (T.further t).filterMap Route.current = []
    | some w => ∀ rt, ((behindDefault (T.further t)).filterMap Route.current).getLast? = some rt →
        rt.isMatch w

/-- What a pass leaves of the routes is read like the further routes: it deletes one unless none
is listed, and then none is read at all. -/
lemma clearedRoutes_cases (t : UInt32) (T : Table) :
    T.clearedRoutes t = T.further t ∨
      (∀ q ∈ T.clearedRoutes t, q.current = none) ∧ ∀ q ∈ T.further t, q.current = none := by
  cases hroute : T.listedRoute with
  | some rt =>
    refine Or.inl ?_
    rw [clearedRoutes, hroute]
    rfl
  | none =>
    have hnone : ∀ q ∈ T.routes, q.current = none := by
      rwa [listedRoute, List.getLast?_eq_none_iff, List.filterMap_eq_nil_iff] at hroute
    refine Or.inr ⟨?_, fun q hq => hnone q (List.mem_of_mem_eraseP hq)⟩
    rw [clearedRoutes, hroute]
    exact hnone

lemma cleared_current (t : UInt32) (T : Table) :
    (T.clearedRoutes t).filterMap Route.current = (T.further t).filterMap Route.current := by
  rcases T.clearedRoutes_cases t with h | ⟨h, h'⟩
  · rw [h]
  · rw [List.filterMap_eq_nil_iff.mpr h, List.filterMap_eq_nil_iff.mpr h']

lemma cleared_behind_current (t : UInt32) (T : Table) :
    (behindDefault (T.clearedRoutes t)).filterMap Route.current =
      (behindDefault (T.further t)).filterMap Route.current := by
  rcases T.clearedRoutes_cases t with h | ⟨h, h'⟩
  · rw [h]
  · have hnil {qs : List Route} (hqs : ∀ q ∈ qs, q.current = none) :
        (behindDefault qs).filterMap Route.current = [] :=
      List.filterMap_eq_nil_iff.mpr fun q hq => hqs q (List.dropWhile_subset _ hq)
    rw [hnil h, hnil h']

/-- Where the routes lie in the table `t`, the wanted route is listed unless another is behind
it. -/
lemma listed_rebuilt {t : UInt32} {w : ResolvedSpec} {T : Table}
    (hT : ∀ q ∈ T.routes, q.table = t) :
    (T.rebuilt t (some w)).listedRoute =
      (((behindDefault (T.further t)).filterMap Route.current).getLast?).or
        (some { gateway := w.gateway, oif := w.ifindex, onlink := true }) := by
  have hcleared : ∀ q ∈ T.clearedRoutes t, q.table = t := by
    intro q hq
    rw [clearedRoutes] at hq
    split at hq
    · exact hT q (List.mem_of_mem_eraseP hq)
    · exact hT q hq
  simp only [rebuilt, listedRoute]
  rw [insertRoute_routeFor hcleared, List.filterMap_append,
    List.filterMap_cons_some (routeFor_current _ _ _), cleared_behind_current,
    List.getLast?_append, List.getLast?_cons]
  cases ((behindDefault (T.further t)).filterMap Route.current).getLast? <;> rfl

lemma settled_after {t : UInt32} {want : Option ResolvedSpec} {T : Table}
    (hmark : ∀ w, want = some w → w.fwmark ≠ some 0) (hT : ∀ q ∈ T.routes, q.table = t) :
    (T.after t want).Settled want ↔ T.Settles t want := by
  by_cases hup : T.isUpToDate want
  · rw [after, if_pos hup]
    exact ⟨fun _ => Or.inl hup, fun _ => Or.inl hup⟩
  · rw [after, if_neg hup]
    cases want with
    | none =>
      have hno : ¬ (T.rebuilt t none).isUpToDate none := by simp [isUpToDate, upToDate]
      unfold Settled Settles
      rw [or_iff_right hup, or_iff_right hno]
      simp [rebuilt, listedRoute, ← cleared_current]
    | some w =>
      unfold Settled Settles
      rw [or_iff_right hup, isUpToDate, upToDate_iff, listed_rebuilt hT]
      simp only [reduceCtorEq, false_and, or_false, Option.some.injEq]
      constructor
      · rintro ⟨w', r, rt, rfl, -, hroute, -, hrt⟩ rt' hlast
        rw [hlast] at hroute
        obtain rfl := Option.some.inj hroute
        exact hrt
      · intro hlast
        have hrule := ruleFor_isMatch (t := t) (hmark w rfl)
        cases hbehind : ((behindDefault (T.further t)).filterMap Route.current).getLast? with
        | none => exact ⟨w, _, _, rfl, rfl, rfl, hrule, by simp [CurrentRoute.isMatch]⟩
        | some rt => exact ⟨w, _, rt, rfl, rfl, rfl, hrule, hlast rt hbehind⟩

end Table

/-! ## A pass over settled tables -/

section Silent

variable {changes : Behaviour} {k k' : Kernel} {es : List NetlinkEvent}

/-- The body of the loop does nothing to a settled table and else begins with a change. -/
lemma reconcileTable_cases (want : Option ResolvedSpec) (T : Table) (t : UInt32) :
    T.Settled want ∧ reconcileTable want T.listedRules T.listedRoute t = ret () ∨
      ¬ T.Settled want ∧ ∃ c next,
        reconcileTable want T.listedRules T.listedRoute t = call (.change c) next := by
  rw [reconcileTable, ← Table.isUpToDate]
  by_cases hup : T.isUpToDate want
  · exact Or.inl ⟨Or.inl hup, if_pos hup⟩
  · -- the first request is a delete if anything is listed, and else the add of the wanted rule
    rw [if_neg hup]
    cases hrules : T.listedRules with
    | cons r rs =>
      refine Or.inr ⟨?_, _, _, rfl⟩
      rintro (h | ⟨-, h, -⟩)
      · exact hup h
      · rw [Table.listedRules, h] at hrules
        cases hrules
    | nil =>
      cases hroute : T.listedRoute with
      | some rt =>
        refine Or.inr ⟨?_, _, _, rfl⟩
        rintro (h | ⟨-, -, h⟩)
        · exact hup h
        · rw [h] at hroute
          cases hroute
      | none =>
        cases want with
        | none =>
          exact Or.inl ⟨Or.inr ⟨rfl, List.map_eq_nil_iff.mp hrules, hroute⟩, rfl⟩
        | some w =>
          refine Or.inr ⟨?_, _, _, rfl⟩
          rintro (h | ⟨h, -⟩)
          · exact hup h
          · cases h

/-- A loop in which nothing is changed finds every table settled, and only then. -/
lemma forEach_silent {want : UInt32 → Option ResolvedSpec} {T : UInt32 → Table}
    {ts : List UInt32}
    (h : Runs (KernelStep changes) (forEach (fun t => reconcileTable (want t) (T t).listedRules
      (T t).listedRoute t) ts) k es () k') :
    (∀ e ∈ es, ¬ IsChange e.op) ↔ ∀ t ∈ ts, (T t).Settled (want t) := by
  induction ts generalizing k es with
  | nil =>
    obtain ⟨rfl, -, -⟩ := runs_ret_inv h
    simp
  | cons t ts ih =>
    rw [forEach] at h
    rcases reconcileTable_cases (want t) (T t) t with ⟨hsettled, heq⟩ | ⟨hnot, c, next, heq⟩
    · rw [heq, ret_bind] at h
      rw [ih h]
      simp [hsettled]
    · -- the loop has begun with a change
      rw [heq, call_bind] at h
      obtain ⟨r, k₁, es', rfl, -, -⟩ := runs_call_inv h
      simp [hnot, IsChange]

/-- The first loop of a pass only looks links up. -/
lemma resolve_silent (specs : List RouteSpec) {cache : HashMap String UInt32}
    {resolved m : HashMap UInt32 ResolvedSpec}
    (h : Runs (KernelStep changes) (resolve specs cache resolved) k es m k') :
    ∀ e ∈ es, ¬ IsChange e.op := by
  intro e he
  exact ((resolve_makes specs cache resolved).events h e he).not_isChange

end Silent

/-! ## Two passes with the same list and the same indexes -/

/-- Lookups of links find the indexes `idx`. -/
def LooksUp (idx : String → Option UInt32) (e : NetlinkEvent) : Prop :=
  ∀ iface, e.op = .getLink iface → linkOf e = idx iface

/-- What a pass wants for a table when its lookups find the indexes `idx`. -/
def wantedBy (idx : String → Option UInt32) (desired : List RouteSpec) (t : UInt32) :
    Option ResolvedSpec :=
  lastFor t (desired.filterMap fun spec => (idx spec.iface).map spec.withIndex)

section SameIndexes

variable {changes : Behaviour} {idx : String → Option UInt32} {k k' : Kernel}
  {es : List NetlinkEvent}

lemma resolve_links (specs : List RouteSpec) {cache : HashMap String UInt32}
    {resolved m : HashMap UInt32 ResolvedSpec}
    (h : Runs (KernelStep changes) (resolve specs cache resolved) k es m k')
    (hes : ∀ e ∈ es, LooksUp idx e)
    (hcache : ∀ iface i, cache.lookup iface = some i → idx iface = some i)
    (es' : List NetlinkEvent) :
    resolvedSpecs specs cache (es ++ es') =
      specs.filterMap fun spec => (idx spec.iface).map spec.withIndex := by
  induction specs generalizing cache resolved es k with
  | nil => simp [resolvedSpecs]
  | cons spec specs ih =>
    rw [resolve] at h
    cases hlookup : cache.lookup spec.iface with
    | some i =>
      rw [hlookup] at h
      rw [resolvedSpecs_cached hlookup, ih h hes hcache]
      simp [hcache _ _ hlookup]
    | none =>
      rw [hlookup] at h
      obtain ⟨r, k₁, es₁, rfl, -, hrest⟩ := runs_call_inv h
      obtain ⟨he, hes₁⟩ := List.forall_mem_cons.mp hes
      have hlink := he spec.iface rfl
      cases r with
      | error e =>
        rw [List.cons_append, resolvedSpecs_missed hlookup rfl, ih hrest hes₁ hcache,
          List.filterMap_cons_none (by rw [← hlink]; rfl)]
      | ok found =>
        cases found with
        | none =>
          rw [List.cons_append, resolvedSpecs_missed hlookup rfl, ih hrest hes₁ hcache,
            List.filterMap_cons_none (by rw [← hlink]; rfl)]
        | some i =>
          rw [List.cons_append, resolvedSpecs_found hlookup rfl, ih hrest hes₁ ?_,
            List.filterMap_cons_some (by rw [← hlink]; rfl)]
          exact HashMap.forall_lookup_insert hcache hlink.symm

/-- The specs a pass wants are those of the indexes. -/
lemma wanted_eq_wantedBy {iter : IterOrder} {desired : List RouteSpec} {res : Except Errno Unit}
    (h : Runs (KernelStep changes) (reconcile iter desired) k es res k')
    (hes : ∀ e ∈ es, LooksUp idx e) (t : UInt32) :
    wanted desired es t = wantedBy idx desired t := by
  obtain ⟨es₁, resolved, k₁, es₂, rfl, h₁, -⟩ := runs_bind_inv h
  rw [wanted, resolve_links desired h₁ (fun e he => hes e (List.mem_append_left es₂ he))
    (fun iface i hi => by simp at hi), wantedBy]

/-- A pass whose dumps succeed changes nothing exactly when every table is settled. -/
lemma reconcile_silent_iff {iter : IterOrder} {desired : List RouteSpec}
    (h : Runs (KernelStep changes) (reconcile iter desired) k es (.ok ()) k')
    (hes : ∀ e ∈ es, LooksUp idx e) :
    (∀ e ∈ es, ¬ IsChange e.op) ↔ ∀ t, (k.table t).Settled (wantedBy idx desired t) := by
  obtain ⟨es₁, resolved, k₁, es₂, rfl, h₁, h₂⟩ := runs_bind_inv h
  obtain ⟨rfl, hresolved⟩ := resolve_runs desired h₁
  have hwant (t : UInt32) : resolved.lookup t = wantedBy idx desired t := by
    rw [hresolved [] t, resolve_links desired h₁ (fun e he => hes e (List.mem_append_left es₂ he))
      (fun iface i hi => by simp at hi)]
    simp [wantedBy]
  obtain ⟨e₁, e₂, es', ts, rfl, hsilent₁, hsilent₂, -, hrest, hloop⟩ := reconcileResolved_inv h₂
  have hresolve := resolve_silent desired h₁
  have hiff := forEach_silent hloop
  have hother : ∀ t ∉ ts, (k₁.table t).Settled (wantedBy idx desired t) := fun t ht => by
    obtain ⟨hnone, hrules, hroute⟩ := hrest t ht
    exact Or.inr ⟨(hwant t).symm.trans hnone, hrules, hroute⟩
  constructor
  · intro hall t
    by_cases ht : t ∈ ts
    · rw [← hwant t]
      exact hiff.mp (fun e he => hall e (by simp [he])) t ht
    · exact hother t ht
  · intro hall e he
    simp only [List.mem_append, List.mem_cons] at he
    rcases he with he | rfl | rfl | he
    · exact hresolve e he
    · exact hsilent₁
    · exact hsilent₂
    · exact hiff.mpr (fun t _ => hwant t ▸ hall t) e he

lemma wantedBy_fwmark {desired : List RouteSpec} {t : UInt32} {w : ResolvedSpec}
    (hmark : ∀ spec ∈ desired, spec.fwmark ≠ some 0) (hw : wantedBy idx desired t = some w) :
    w.fwmark ≠ some 0 := by
  have hmem := List.mem_of_mem_filter (List.mem_of_getLast? hw)
  obtain ⟨spec, hspec, he⟩ := List.mem_filterMap.mp hmem
  obtain ⟨i, -, rfl⟩ := Option.map_eq_some_iff.mp he
  exact hmark spec hspec

/-- A whole pass fails only when a dump fails, and has then changed nothing. -/
lemma reconcile_error {iter : IterOrder} {desired : List RouteSpec} {err : Errno}
    (h : Runs (KernelStep changes) (reconcile iter desired) k es (.error err) k') :
    (∃ e ∈ es, ¬ Succeeds e) ∧ ∀ e ∈ es, ¬ IsChange e.op := by
  obtain ⟨es₁, resolved, k₁, es₂, rfl, h₁, h₂⟩ := runs_bind_inv h
  obtain ⟨⟨e, he, hfail⟩, hsilent⟩ := reconcileResolved_error h₂
  refine ⟨⟨e, List.mem_append_right es₁ he, hfail⟩, fun e he => ?_⟩
  rcases List.mem_append.mp he with he | he
  · exact resolve_silent desired h₁ e he
  · exact hsilent e he

/-- There is a pass whose dumps succeed and whose lookups find `idx`. -/
lemma exists_pass (idx : String → Option UInt32) (desired : List RouteSpec) (k : Kernel) :
    ∃ es k', Runs (KernelStep Exact) (reconcile IterOrder.collected desired) k es (.ok ()) k' ∧
      ∀ e ∈ es, LooksUp idx e := by
  have hstep (k : Kernel) (op : NetlinkOp) :
      KernelStep Exact k op (k.answer idx op).1 (k.answer idx op).2 :=
    (answer_step idx k op).mono fun _ _ _ _ hr => hr.exact
  have hrun := exec_runs hstep (reconcile IterOrder.collected desired) k
  have hevents : ∀ e ∈ ((reconcile IterOrder.collected desired).exec (Kernel.answer idx) k).1,
      LooksUp idx e ∧ (¬ IsChange e.op → Succeeds e) := by
    refine exec_events (fun k op => ?_) _ _
    cases op with
    | getLink iface => exact ⟨fun iface' h => by cases h; rfl, fun _ => trivial⟩
    | dumpRules => exact ⟨nofun, fun _ => ⟨_, rfl⟩⟩
    | dumpRoutes => exact ⟨nofun, fun _ => ⟨_, rfl⟩⟩
    | change c => exact ⟨nofun, fun h => absurd trivial h⟩
  generalize hres : ((reconcile IterOrder.collected desired).exec (Kernel.answer idx) k).2.1 = res
    at hrun
  -- a pass ends in error only at a dump, and this kernel fails none
  cases res with
  | ok u => exact ⟨_, _, hrun, fun e he => (hevents e he).1⟩
  | error err =>
    obtain ⟨⟨e, he, hfail⟩, hsilent⟩ := reconcile_error hrun
    exact absurd ((hevents e he).2 (hsilent e he)) hfail

end SameIndexes

/-- **A converged state is a fixed point exactly when every table settles.**  Let a pass from
`k` fail nothing but lookups.  The passes that follow it, with the same list and the same
indexes, ask for no change if and only if `Table.Settles` holds of every table of `k`.  What
`add_rule` and `add_route` install is in any case accepted when it is dumped back. -/
theorem fixed_point_iff {k k₁ : Kernel} {idx : String → Option UInt32}
    {desired : List RouteSpec} (hmark : ∀ spec ∈ desired, spec.fwmark ≠ some 0)
    {iter : IterOrder} {es : List NetlinkEvent} {res : Except Errno Unit}
    (hrun : Runs (KernelStep Exact) (reconcile iter desired) k es res k₁)
    (hes : ∀ e ∈ es, Succeeds e ∧ LooksUp idx e) :
    ((∀ iter' es' res' k₂, Runs (KernelStep Exact) (reconcile iter' desired) k₁ es' res' k₂ →
        (∀ e ∈ es', LooksUp idx e) → ∀ e ∈ es', ¬ IsChange e.op) ↔
      ∀ t, (k.table t).Settles t (wantedBy idx desired t)) ∧
    (∀ (w : ResolvedSpec) t msg, w.fwmark ≠ some 0 →
      IsRuleDump (ruleOf (addRuleRequest w.src t w.fwmark)) msg →
      ∃ r, parseDumbarpRule msg = some (t, r) ∧ r.isMatch w) ∧
    ∀ (w : ResolvedSpec) t msg,
      IsRouteDump (routeOf (addRouteRequest t w.gateway w.ifindex)) msg →
      ∃ p, parseDumbarpRoute msg = some p ∧ p.table = t ∧ p.intoValue.isMatch w := by
  refine ⟨?_, fun _ _ _ hm h => addRule_isMatch hm h, fun _ _ _ h => addRoute_isMatch h⟩
  have htable (t : UInt32) : k₁.table t = (k.table t).after t (wantedBy idx desired t) := by
    rw [reconcile_tables hrun (fun e he => (hes e he).1) t,
      wanted_eq_wantedBy hrun (fun e he => (hes e he).2) t]
  have hwant (t : UInt32) (w : ResolvedSpec) (hw : wantedBy idx desired t = some w) :
      w.fwmark ≠ some 0 := wantedBy_fwmark hmark hw
  have hsettled : (∀ t, (k.table t).Settles t (wantedBy idx desired t)) ↔
      ∀ t, (k₁.table t).Settled (wantedBy idx desired t) :=
    forall_congr' fun t => by
      rw [htable t, Table.settled_after (hwant t) fun q hq => ?_]
      simpa using List.of_mem_filter hq
  rw [hsettled]
  constructor
  · intro hall
    obtain ⟨es', k₂, hrun', hes'⟩ := exists_pass idx desired k₁
    exact (reconcile_silent_iff hrun' hes').mp (hall _ _ _ _ hrun' hes')
  · intro hall iter' es' res' k₂ hrun' hes'
    cases res' with
    | error err => exact (reconcile_error hrun').2
    | ok u => exact (reconcile_silent_iff hrun' hes').mpr hall

/-! ## A second tagged route -/

/-- A table with two routes that carry the tag: a default route and one to a network. -/
def twoRoutes : Kernel where
  routes :=
    [ routeFor 1846396077 ⟨10, 0, 0, 9⟩ 2,
      { routeFor 1846396077 ⟨10, 0, 0, 9⟩ 2 with dst := ⟨10, 0, 0, 0⟩, dstLen := 8 } ]

lemma markedPass_looksUp (k : Kernel) : ∀ e ∈ (markedPass k).1, LooksUp (fun _ => some 2) e := by
  refine exec_events (fun k op => ?_) _ _
  cases op with
  | getLink iface => exact fun iface' h => by cases h; rfl
  | dumpRules => exact nofun
  | dumpRoutes => exact nofun
  | change c => exact nofun

/-- A state with two tagged routes is no fixed point after a pass in which nothing failed. -/
theorem second_route_is_rewritten :
    (∀ r ∈ twoRoutes.rules, r.tagged → r.fwMark = 0 ∨ r.fwMask = fwmaskExact) ∧
      Runs (KernelStep Exact) (reconcile IterOrder.collected [markedSpec]) twoRoutes
        (markedPass twoRoutes).1 (markedPass twoRoutes).2.1 (markedPass twoRoutes).2.2 ∧
      (∀ e ∈ (markedPass twoRoutes).1, Succeeds e ∧ LooksUp (fun _ => some 2) e) ∧
      ∃ es res k₂, Runs (KernelStep Exact) (reconcile IterOrder.collected [markedSpec])
          (markedPass twoRoutes).2.2 es res k₂ ∧
        (∀ e ∈ es, LooksUp (fun _ => some 2) e) ∧ ∃ e ∈ es, IsChange e.op := by
  have hsucceeds : ∀ e ∈ (markedPass twoRoutes).1, Succeeds e := by decide
  refine ⟨by simp [twoRoutes], markedPass_runs_exact _,
    fun e he => ⟨hsucceeds e he, markedPass_looksUp _ e he⟩, _, _, _, markedPass_runs_exact _,
    markedPass_looksUp _, ?_⟩
  decide

/-- From an empty kernel the pass reaches a fixed point. -/
theorem fixed_point_from_empty :
    (∀ iter' es' res' k₂,
      Runs (KernelStep Exact) (reconcile iter' [markedSpec]) (markedPass {}).2.2 es' res' k₂ →
        (∀ e ∈ es', LooksUp (fun _ => some 2) e) → ∀ e ∈ es', ¬ IsChange e.op) ↔
      ∀ t, (({} : Kernel).table t).Settles t (wantedBy (fun _ => some 2) [markedSpec] t) := by
  have hsucceeds : ∀ e ∈ (markedPass {}).1, Succeeds e := by decide
  exact (fixed_point_iff (by simp [markedSpec]) (markedPass_runs_exact {})
    fun e he => ⟨hsucceeds e he, markedPass_looksUp _ e he⟩).1

end Dumbarp.Routing
