/-
One pass, table by table.

A pass treats every table on its own.  `Table.after` is the whole effect of a pass in which
nothing fails on one table, as a function of the spec wanted for it, and
`reconcileResolved_tables` says that the program computes this function on every table of the
kernel.  Which spec is wanted is read off the lookups of the pass by `resolvedSpecs`.
-/
import Dumbarp.Routing.Table

namespace Dumbarp.Routing

open Interact Interact.Prog

/-- A table is left alone when its one rule and its route match the wanted spec. -/
lemma upToDate_iff {want : Option ResolvedSpec} {haveRules : List CurrentRule}
    {haveRoute : Option CurrentRoute} :
    upToDate want haveRules haveRoute ↔ ∃ w r rt, want = some w ∧ haveRules = [r] ∧
      haveRoute = some rt ∧ r.isMatch w ∧ rt.isMatch w := by
  unfold upToDate
  split
  · simp
  · rename_i hno
    simp only [Bool.false_eq_true, false_iff]
    rintro ⟨w, r, rt, rfl, rfl, rfl, -⟩
    exact hno w r rt rfl rfl rfl

lemma rule_isMatch_iff {r : CurrentRule} {w : ResolvedSpec} :
    r.isMatch w ↔ r.src = w.src ∧ r.fwmark = w.fwmark ∧ r.fwmask = expectedFwmask w.fwmark := by
  simp [CurrentRule.isMatch, and_assoc]

lemma route_isMatch_iff {rt : CurrentRoute} {w : ResolvedSpec} :
    rt.isMatch w ↔ rt.gateway = w.gateway ∧ rt.oif = w.ifindex ∧ rt.onlink = true := by
  simp [CurrentRoute.isMatch, and_assoc]

/-! ## The specs that a pass wants -/

/-- A spec together with the index of its interface. -/
def RouteSpec.withIndex (spec : RouteSpec) (idx : UInt32) : ResolvedSpec where
  src := spec.src
  gateway := spec.gateway
  ifindex := idx
  fwmark := spec.fwmark

/-- The index that a lookup found. -/
def linkOf : NetlinkEvent → Option UInt32
  | ⟨.getLink _, .ok idx⟩ => idx
  | _ => none

/-- The specs whose interface resolved, in the order of the list, when the lookups of a pass
were answered as in `es`.  An interface found before is not looked up again. -/
def resolvedSpecs : List RouteSpec → HashMap String UInt32 → List NetlinkEvent → List ResolvedSpec
  | [], _, _ => []
  | spec :: specs, cache, es =>
    match cache.lookup spec.iface, es with
    | some idx, es => spec.withIndex idx :: resolvedSpecs specs cache es
    | none, [] => []
    | none, e :: es =>
      match linkOf e with
      | some idx => spec.withIndex idx :: resolvedSpecs specs (cache.insert spec.iface idx) es
      | none => resolvedSpecs specs cache es

/-- The last spec of a list for a table. -/
def lastFor (t : UInt32) (specs : List ResolvedSpec) : Option ResolvedSpec :=
  (specs.filter fun w => tableIdFor w.src == t).getLast?

/-- What a pass wants for a table: the last spec for it whose interface resolved. -/
def wanted (desired : List RouteSpec) (es : List NetlinkEvent) (t : UInt32) :
    Option ResolvedSpec :=
  lastFor t (resolvedSpecs desired ∅ es)

lemma lastFor_cons (t : UInt32) (w : ResolvedSpec) (specs : List ResolvedSpec) :
    lastFor t (w :: specs) =
      (lastFor t specs).or (if tableIdFor w.src = t then some w else none) := by
  by_cases ht : tableIdFor w.src = t <;> simp [lastFor, ht, List.getLast?_cons]

section Equations

variable {spec : RouteSpec} {specs : List RouteSpec} {cache : HashMap String UInt32}
  {e : NetlinkEvent} {es : List NetlinkEvent} {idx : UInt32}

lemma resolvedSpecs_cached (h : cache.lookup spec.iface = some idx) :
    resolvedSpecs (spec :: specs) cache es =
      spec.withIndex idx :: resolvedSpecs specs cache es := by
  simp [resolvedSpecs, h]

lemma resolvedSpecs_found (h : cache.lookup spec.iface = none) (he : linkOf e = some idx) :
    resolvedSpecs (spec :: specs) cache (e :: es) =
      spec.withIndex idx :: resolvedSpecs specs (cache.insert spec.iface idx) es := by
  simp [resolvedSpecs, h, he]

lemma resolvedSpecs_missed (h : cache.lookup spec.iface = none) (he : linkOf e = none) :
    resolvedSpecs (spec :: specs) cache (e :: es) = resolvedSpecs specs cache es := by
  simp [resolvedSpecs, h, he]

end Equations

section Resolve

/-- A lookup of a link. -/
def IsLookup (op : NetlinkOp) : Prop := ∃ iface, op = .getLink iface

/-- To look up is not to change. -/
lemma IsLookup.not_isChange {op : NetlinkOp} (h : IsLookup op) : ¬ IsChange op := by
  obtain ⟨iface, rfl⟩ := h
  exact id

/-- The first loop of a pass makes lookups only. -/
lemma resolve_makes (specs : List RouteSpec) (cache : HashMap String UInt32)
    (resolved : HashMap UInt32 ResolvedSpec) :
    Makes IsLookup (resolve specs cache resolved) := by
  induction specs generalizing cache resolved with
  | nil => trivial
  | cons spec specs ih =>
    rw [resolve]
    cases cache.lookup spec.iface with
    | some idx => exact ih _ _
    | none =>
      refine ⟨⟨spec.iface, rfl⟩, fun r => ?_⟩
      match r with
      | .error e => exact ih _ _
      | .ok none => exact ih _ _
      | .ok (some idx) => exact ih _ _

variable {changes : Behaviour} {k k' : Kernel} {es : List NetlinkEvent}

/-- **The first loop of a pass** leaves the kernel alone, and its map holds for each table the
last spec that resolved. -/
lemma resolve_runs (specs : List RouteSpec) {cache : HashMap String UInt32}
    {resolved m : HashMap UInt32 ResolvedSpec}
    (h : Runs (KernelStep changes) (resolve specs cache resolved) k es m k') :
    k' = k ∧ ∀ es' t, m.lookup t =
      (lastFor t (resolvedSpecs specs cache (es ++ es'))).or (resolved.lookup t) := by
  induction specs generalizing cache resolved es k with
  | nil =>
    obtain ⟨rfl, rfl, rfl⟩ := runs_ret_inv h
    exact ⟨rfl, fun es' t => by simp [resolvedSpecs, lastFor]⟩
  | cons spec specs ih =>
    -- the later specs of a table win over this one, as they do in the map
    have hstore (idx : UInt32) (L : List ResolvedSpec) (t : UInt32) :
        (lastFor t L).or ((resolved.insert (tableIdFor spec.src) (spec.withIndex idx)).lookup t) =
          (lastFor t (spec.withIndex idx :: L)).or (resolved.lookup t) := by
      rw [lastFor_cons]
      by_cases ht : tableIdFor spec.src = t
      · subst ht
        cases lastFor (tableIdFor spec.src) L <;> simp [RouteSpec.withIndex]
      · cases lastFor t L <;>
          simp [RouteSpec.withIndex, ht, AList.lookup_insert_ne (Ne.symm ht)]
    rw [resolve] at h
    cases hlookup : cache.lookup spec.iface with
    | some idx =>
      rw [hlookup] at h
      obtain ⟨hk, hm⟩ := ih h
      refine ⟨hk, fun es' t => ?_⟩
      rw [hm es' t, resolvedSpecs_cached hlookup]
      exact hstore idx _ t
    | none =>
      rw [hlookup] at h
      obtain ⟨r, k₁, es₁, rfl, hstep, hrest⟩ := runs_call_inv h
      obtain rfl := kernelStep_getLink_inv hstep
      match r with
      | .error e =>
        obtain ⟨hk, hm⟩ := ih hrest
        refine ⟨hk, fun es' t => ?_⟩
        rw [hm es' t, List.cons_append, resolvedSpecs_missed hlookup rfl]
      | .ok none =>
        obtain ⟨hk, hm⟩ := ih hrest
        refine ⟨hk, fun es' t => ?_⟩
        rw [hm es' t, List.cons_append, resolvedSpecs_missed hlookup rfl]
      | .ok (some idx) =>
        obtain ⟨hk, hm⟩ := ih hrest
        refine ⟨hk, fun es' t => ?_⟩
        rw [hm es' t, List.cons_append, resolvedSpecs_found hlookup rfl]
        exact hstore idx _ t

end Resolve

/-! ## The state of a table and the effect of a pass on it -/

/-- What a pass sees of one table: its tagged rules and all its routes. -/
@[ext]
structure Table where
  rules : List Rule
  routes : List Route
deriving DecidableEq

def Kernel.table (k : Kernel) (t : UInt32) : Table where
  rules := k.rulesOf t
  routes := k.tableRoutes t

namespace Table

def listedRules (T : Table) : List CurrentRule := T.rules.map Rule.current

def listedRoute (T : Table) : Option CurrentRoute := (T.routes.filterMap Route.current).getLast?

/-- The comparison of a pass finds nothing to change in the table. -/
def isUpToDate (want : Option ResolvedSpec) (T : Table) : Bool :=
  upToDate want T.listedRules T.listedRoute

/-- The routes of the table `t` once the listed route was deleted. -/
def clearedRoutes (t : UInt32) (T : Table) : List Route :=
  if T.listedRoute.isSome then T.routes.eraseP (agreesRoute (delRouteRequest t)) else T.routes

/-- The table `t` once it was cleared and given what is wanted. -/
def rebuilt (t : UInt32) (want : Option ResolvedSpec) (T : Table) : Table :=
  match want with
  | none => { rules := [], routes := T.clearedRoutes t }
  | some w =>
    { rules := [ruleFor w.src t w.fwmark]
      routes := insertRoute (routeFor t w.gateway w.ifindex) (T.clearedRoutes t) }

/-- The table `t` after a pass in which nothing fails. -/
def after (t : UInt32) (want : Option ResolvedSpec) (T : Table) : Table :=
  if T.isUpToDate want then T else T.rebuilt t want

end Table

/-- A request that succeeded; no claim is made on lookups of links. -/
def Succeeds : NetlinkEvent → Prop
  | ⟨.getLink _, _⟩ => True
  | ⟨.dumpRules, r⟩ => ∃ msgs, r = .ok msgs
  | ⟨.dumpRoutes, r⟩ => ∃ msgs, r = .ok msgs
  | ⟨.change _, r⟩ => r = .ok ()

instance : (e : NetlinkEvent) → Decidable (Succeeds e)
  | ⟨.getLink _, _⟩ => .isTrue trivial
  | ⟨.dumpRules, .ok msgs⟩ => .isTrue ⟨msgs, rfl⟩
  | ⟨.dumpRules, .error _⟩ => .isFalse nofun
  | ⟨.dumpRoutes, .ok msgs⟩ => .isTrue ⟨msgs, rfl⟩
  | ⟨.dumpRoutes, .error _⟩ => .isFalse nofun
  | ⟨.change _, .ok ()⟩ => .isTrue rfl
  | ⟨.change _, .error _⟩ => .isFalse nofun

/-- The steps of a kernel that fail no request but lookups. -/
def Smooth : Sem Kernel NetlinkOp NetlinkOp.Res := fun k op r k' =>
  KernelStep Exact k op r k' ∧ Succeeds ⟨op, r⟩

/-- Only the table `t` changed. -/
def OnlyTable (t : UInt32) (k k' : Kernel) : Prop := ∀ t', t' ≠ t → k'.table t' = k.table t'

lemma OnlyTable.trans {t : UInt32} {k₁ k₂ k₃ : Kernel} (h₁ : OnlyTable t k₁ k₂)
    (h₂ : OnlyTable t k₂ k₃) : OnlyTable t k₁ k₃ :=
  fun t' ht' => (h₂ t' ht').trans (h₁ t' ht')

section Apply

variable {k k' : Kernel} {t : UInt32} {src gateway : Ipv4Addr} {fwmark : Option UInt32}
  {ifindex : UInt32}

lemma onlyTable_of_routes (hother : ∀ t', t' ≠ t → k'.rulesOf t' = k.rulesOf t')
    (hroutes : k'.routes = k.routes) : OnlyTable t k k' := fun t' ht' => by
  simp only [Kernel.table, hother t' ht', Kernel.tableRoutes, hroutes]

lemma onlyTable_of_rules (hother : ∀ t', t' ≠ t → k'.tableRoutes t' = k.tableRoutes t')
    (hrules : k'.rules = k.rules) : OnlyTable t k k' := fun t' ht' => by
  simp only [Kernel.table, hother t' ht', Kernel.rulesOf, hrules]

lemma apply_addRule (hempty : (k.table t).rules = [])
    (h : k.apply (.addRule (addRuleRequest src t fwmark)) = some k') :
    k'.table t = { rules := [ruleFor src t fwmark], routes := (k.table t).routes } ∧
      OnlyTable t k k' := by
  obtain ⟨hperm, hother, hroutes⟩ := takes_addRule (takes_of_apply h)
  have hrules : k.rulesOf t = [] := hempty
  rw [hrules, List.perm_singleton] at hperm
  refine ⟨?_, onlyTable_of_routes hother hroutes⟩
  simp only [Kernel.table, hperm, Kernel.tableRoutes, hroutes]

lemma apply_delRule (h : k.apply (.delRule (delRuleRequest src t fwmark)) = some k') :
    (k'.table t).rules.length + 1 = (k.table t).rules.length ∧
      (k'.table t).routes = (k.table t).routes ∧ OnlyTable t k k' := by
  obtain ⟨⟨l₁, r, l₂, hk, hk'⟩, hother, hroutes⟩ := takes_delRule (takes_of_apply h)
  refine ⟨?_, ?_, onlyTable_of_routes hother hroutes⟩
  · simp [Kernel.table, hk, hk', Nat.add_assoc]
  · simp only [Kernel.table, Kernel.tableRoutes, hroutes]

lemma apply_addRoute (h : k.apply (.addRoute (addRouteRequest t gateway ifindex)) = some k') :
    k'.table t = { rules := (k.table t).rules
                   routes := insertRoute (routeFor t gateway ifindex) (k.table t).routes } ∧
      OnlyTable t k k' := by
  obtain ⟨-, hother, hrules⟩ := takes_addRoute (takes_of_apply h)
  refine ⟨?_, onlyTable_of_rules hother hrules⟩
  obtain rfl := Option.some.inj h
  simp only [Kernel.table, Kernel.rulesOf, Kernel.tableRoutes, routeOf_addRouteRequest,
    filter_insertRoute, routeFor_table, if_true]

lemma apply_delRoute (h : k.apply (.delRoute (delRouteRequest t)) = some k') :
    k'.table t = { rules := (k.table t).rules
                   routes := (k.table t).routes.eraseP (agreesRoute (delRouteRequest t)) } ∧
      OnlyTable t k k' := by
  obtain ⟨-, hother, hrules⟩ := takes_delRoute (takes_of_apply h)
  refine ⟨?_, onlyTable_of_rules hother hrules⟩
  simp only [Kernel.apply, Option.ite_none_right_eq_some, Option.some.injEq] at h
  obtain ⟨-, rfl⟩ := h
  simp only [Kernel.table, Kernel.rulesOf, Kernel.tableRoutes, List.eraseP_filter,
    agreesRoute_and_inTable]

end Apply

section Loop

variable {step : Sem Kernel NetlinkOp NetlinkOp.Res} {k : Kernel}

/-- **The tables are treated one by one.**  If the body for `t` does `R t` to the table `t` and
nothing to the others, the loop does so to each of its tables. -/
lemma forEach_tables {body : UInt32 → Rtnetlink Unit} {T : UInt32 → Table}
    {R : UInt32 → Table → Prop} {ts : List UInt32}
    (hbody : ∀ t ∈ ts, ∀ k, k.table t = T t →
      Alone step (body t) (fun _ k' => R t (k'.table t) ∧ OnlyTable t k k') k)
    (hts : ts.Nodup) (hT : ∀ t ∈ ts, k.table t = T t) :
    Alone step (forEach body ts) (fun _ k' => (∀ t ∈ ts, R t (k'.table t)) ∧
      ∀ t ∉ ts, k'.table t = k.table t) k :=
  alone_forEach hbody hts hT

end Loop

section Listing

variable {changes : Behaviour} {k k' : Kernel}

/-- The body of the loop, for a pass that listed the state `k`. -/
def tableBody (resolved : HashMap UInt32 ResolvedSpec) (k : Kernel) (t : UInt32) :
    Rtnetlink Unit :=
  reconcileTable (resolved.lookup t) (k.table t).listedRules (k.table t).listedRoute t

/-- **The listings of a pass**: the first or the second fails, which ends the pass, or the loop
goes over the tables that were listed or resolved.  This holds against any environment. -/
lemma reconcileResolved_cases {σ : Type} {step : Sem σ NetlinkOp NetlinkOp.Res} {s s' : σ}
    {iter : IterOrder} {resolved : HashMap UInt32 ResolvedSpec} {es : List NetlinkEvent}
    {res : Except Errno Unit} (h : Runs step (reconcileResolved iter resolved) s es res s') :
    (∃ e, es = [⟨.dumpRules, .error e⟩] ∧ res = .error e ∧ step s .dumpRules (.error e) s') ∨
      (∃ msgs e s₁, es = [⟨.dumpRules, .ok msgs⟩, ⟨.dumpRoutes, .error e⟩] ∧ res = .error e ∧
        step s .dumpRules (.ok msgs) s₁ ∧ step s₁ .dumpRoutes (.error e) s') ∨
      ∃ msgs₁ msgs₂ s₁ s₂ es', es = ⟨.dumpRules, .ok msgs₁⟩ :: ⟨.dumpRoutes, .ok msgs₂⟩ :: es' ∧
        res = .ok () ∧ step s .dumpRules (.ok msgs₁) s₁ ∧ step s₁ .dumpRoutes (.ok msgs₂) s₂ ∧
        Runs step (reconcileTables iter (collectRules msgs₁) (collectRoutes msgs₂) resolved)
          s₂ es' () s' := by
  obtain ⟨r₁, s₁, es₁, rfl, hstep₁, hrest₁⟩ := runs_call_inv h
  cases r₁ with
  | error e =>
    obtain ⟨rfl, rfl, rfl⟩ := runs_ret_inv hrest₁
    exact Or.inl ⟨e, rfl, rfl, hstep₁⟩
  | ok msgs₁ =>
    obtain ⟨r₂, s₂, es₂, rfl, hstep₂, hrest₂⟩ := runs_call_inv hrest₁
    cases r₂ with
    | error e =>
      obtain ⟨rfl, rfl, rfl⟩ := runs_ret_inv hrest₂
      exact Or.inr (Or.inl ⟨msgs₁, e, s₁, rfl, rfl, hstep₁, hstep₂⟩)
    | ok msgs₂ =>
      have h' : Runs step ((reconcileTables iter (collectRules msgs₁) (collectRoutes msgs₂)
          resolved).bind fun _ => ret (Except.ok ())) s₂ es₂ res s' := hrest₂
      obtain ⟨es₃, u, s₃, es₄, rfl, hloop, hend⟩ := runs_bind_inv h'
      obtain ⟨rfl, rfl, rfl⟩ := runs_ret_inv hend
      refine Or.inr (Or.inr ⟨msgs₁, msgs₂, s₁, s₂, es₃, ?_, rfl, hstep₁, hstep₂, hloop⟩)
      rw [List.append_nil]

/-- After two true listings the loop goes over the tables that are listed or wanted, each once,
and compares each with what is in it. -/
lemma reconcileTables_listed {msgs₁ : List RuleMessage} {msgs₂ : List RouteMessage}
    (hdump₁ : List.Forall₂ IsRuleDump k.rules msgs₁)
    (hdump₂ : List.Forall₂ IsRouteDump k.routes msgs₂) (iter : IterOrder)
    (resolved : HashMap UInt32 ResolvedSpec) :
    ∃ ts, reconcileTables iter (collectRules msgs₁) (collectRoutes msgs₂) resolved =
        forEach (tableBody resolved k) ts ∧ ts.Nodup ∧
      ∀ t ∉ ts, resolved.lookup t = none ∧ (k.table t).rules = [] ∧
        (k.table t).listedRoute = none := by
  have hrules := collectRules_lookup hdump₁
  have hroutes := collectRoutes_lookup hdump₂
  refine ⟨iter.order (allTables (collectRules msgs₁) (collectRoutes msgs₂) resolved), ?_,
    (iter.perm _).nodup_iff.mpr (List.nodup_dedup _), fun t ht => ?_⟩
  · simp only [reconcileTables, hrules, hroutes]
    rfl
  · rw [(iter.perm _).mem_iff, allTables, List.mem_dedup, List.mem_append, List.mem_append,
      not_or, not_or, ← AList.mem_keys, ← AList.mem_keys, ← AList.mem_keys] at ht
    obtain ⟨⟨ht₁, ht₂⟩, ht₃⟩ := ht
    refine ⟨AList.lookup_eq_none.mpr ht₃, ?_, ?_⟩
    · by_contra hne
      exact ht₁ (mem_collectRules hdump₁ hne)
    · exact (hroutes t).symm.trans (AList.lookup_eq_none.mpr ht₂)

/-- **A pass once the interfaces are resolved**: it lists the state and goes over the tables
that are listed or wanted, each once. -/
lemma reconcileResolved_inv {iter : IterOrder} {resolved : HashMap UInt32 ResolvedSpec}
    {es : List NetlinkEvent}
    (h : Runs (KernelStep changes) (reconcileResolved iter resolved) k es (.ok ()) k') :
    ∃ e₁ e₂ es' ts, es = e₁ :: e₂ :: es' ∧ ¬ IsChange e₁.op ∧ ¬ IsChange e₂.op ∧ ts.Nodup ∧
      (∀ t ∉ ts, resolved.lookup t = none ∧ (k.table t).rules = [] ∧
        (k.table t).listedRoute = none) ∧
      Runs (KernelStep changes) (forEach (tableBody resolved k) ts) k es' () k' := by
  rcases reconcileResolved_cases h with ⟨e, -, he, -⟩ | ⟨msgs, e, k₁, -, he, -, -⟩ |
    ⟨msgs₁, msgs₂, k₁, k₂, es', rfl, -, hstep₁, hstep₂, hloop⟩
  · cases he
  · cases he
  · obtain ⟨rfl, hdump₁⟩ := kernelStep_dumpRules_inv hstep₁
    obtain ⟨rfl, hdump₂⟩ := kernelStep_dumpRoutes_inv hstep₂
    obtain ⟨ts, heq, hts, hrest⟩ :=
      reconcileTables_listed (hdump₁ _ rfl) (hdump₂ _ rfl) iter resolved
    rw [heq] at hloop
    exact ⟨_, _, es', ts, rfl, id, id, hts, hrest, hloop⟩

/-- A pass fails only when a dump fails, and has then changed nothing. -/
lemma reconcileResolved_error {iter : IterOrder} {resolved : HashMap UInt32 ResolvedSpec}
    {es : List NetlinkEvent} {err : Errno}
    (h : Runs (KernelStep changes) (reconcileResolved iter resolved) k es (.error err) k') :
    (∃ e ∈ es, ¬ Succeeds e) ∧ ∀ e ∈ es, ¬ IsChange e.op := by
  rcases reconcileResolved_cases h with ⟨e, rfl, -, -⟩ | ⟨msgs, e, k₁, rfl, -, -, -⟩ |
    ⟨msgs₁, msgs₂, k₁, k₂, es', -, hres, -⟩
  · exact ⟨⟨_, List.mem_singleton_self _, nofun⟩, by simp [IsChange]⟩
  · exact ⟨⟨_, List.mem_cons_of_mem _ (List.mem_singleton_self _), nofun⟩, by simp [IsChange]⟩
  · cases hres

end Listing

section SmoothPass

variable {k k' : Kernel} {t : UInt32}

lemma smooth_change {c : Change} {r : Except Errno Unit} (h : Smooth k (.change c) r k') :
    r = .ok () ∧ k.apply c = some k' := by
  obtain ⟨hstep, hr⟩ := h
  cases kernelStep_change_inv hstep with
  | done h => exact ⟨rfl, h⟩
  | refused => cases hr

lemma delRules_smooth (cur : List CurrentRule) (failed : Bool) :
    Alone Smooth (delRules t cur failed) (fun failed' k' => failed' = failed ∧
      (k'.table t).rules.length + cur.length = (k.table t).rules.length ∧
      (k'.table t).routes = (k.table t).routes ∧ OnlyTable t k k') k := by
  induction cur generalizing k with
  | nil => exact alone_ret.mpr ⟨rfl, rfl, rfl, fun _ _ => rfl⟩
  | cons rule cur ih =>
    refine alone_call.mpr fun r k₁ hstep => ?_
    obtain ⟨rfl, happly⟩ := smooth_change hstep
    obtain ⟨hlen, hroutes, honly⟩ := apply_delRule happly
    refine (ih (k := k₁)).mono ?_
    rintro failed' k₂ - ⟨hf, hlen', hroutes', honly'⟩
    refine ⟨hf, ?_, hroutes'.trans hroutes, honly.trans honly'⟩
    simp only [List.length_cons]
    omega

lemma delListedRoute_smooth (cur : Option CurrentRoute) (failed : Bool) :
    Alone Smooth (delListedRoute t cur failed) (fun failed' k' => failed' = failed ∧
      k'.table t = { rules := (k.table t).rules
                     routes := if cur.isSome then
                       (k.table t).routes.eraseP (agreesRoute (delRouteRequest t))
                       else (k.table t).routes } ∧ OnlyTable t k k') k := by
  cases cur with
  | none => exact alone_ret.mpr ⟨rfl, rfl, fun _ _ => rfl⟩
  | some rt =>
    refine alone_call.mpr fun r k₁ hstep => ?_
    obtain ⟨rfl, happly⟩ := smooth_change hstep
    exact alone_ret.mpr ⟨rfl, apply_delRoute happly⟩

lemma install_smooth (w : ResolvedSpec) (hempty : (k.table t).rules = []) :
    Alone Smooth (install t w) (fun _ k' =>
      k'.table t = { rules := [ruleFor w.src t w.fwmark]
                     routes := insertRoute (routeFor t w.gateway w.ifindex) (k.table t).routes } ∧
      OnlyTable t k k') k := by
  refine alone_call.mpr fun r k₁ hstep => ?_
  obtain ⟨rfl, happly⟩ := smooth_change hstep
  obtain ⟨htable, honly⟩ := apply_addRule hempty happly
  refine alone_call.mpr fun r k₂ hstep' => ?_
  obtain ⟨rfl, happly'⟩ := smooth_change hstep'
  obtain ⟨htable', honly'⟩ := apply_addRoute happly'
  refine alone_ret.mpr ⟨?_, honly.trans honly'⟩
  rw [htable', htable]

/-- The body of the loop does what `Table.after` says. -/
lemma reconcileTable_smooth (want : Option ResolvedSpec) :
    Alone Smooth
      (reconcileTable want (k.table t).listedRules (k.table t).listedRoute t)
      (fun _ k' => k'.table t = (k.table t).after t want ∧ OnlyTable t k k') k := by
  rw [reconcileTable, Table.after, Table.isUpToDate]
  split
  · exact alone_ret.mpr ⟨rfl, fun _ _ => rfl⟩
  · refine Safe.bind ((delRules_smooth _ false).mono ?_)
    rintro failed k₁ - ⟨rfl, hlen, hroutes, honly⟩
    refine Safe.bind ((delListedRoute_smooth _ false).mono ?_)
    rintro failed k₂ - ⟨rfl, htable, honly'⟩
    -- as many rules were deleted as were listed, and all were
    have hrules : (k₁.table t).rules = [] := by
      rw [Table.listedRules, List.length_map] at hlen
      exact List.length_eq_zero_iff.mp (by omega)
    rw [hrules, hroutes] at htable
    cases want with
    | none => exact alone_ret.mpr ⟨htable, honly.trans honly'⟩
    | some w =>
      refine (install_smooth w (by rw [htable])).mono ?_
      rintro - k₃ - ⟨htable', honly''⟩
      refine ⟨?_, (honly.trans honly').trans honly''⟩
      rw [htable', htable]
      rfl

/-- Nothing is done to a table that is neither listed nor wanted. -/
lemma after_of_not_listed {T : Table} (hrules : T.rules = []) (hroute : T.listedRoute = none) :
    T.after t none = T := by
  simp [Table.after, Table.rebuilt, Table.clearedRoutes, Table.isUpToDate, upToDate, hrules,
    hroute, Table.ext_iff]

/-- **A pass in which nothing fails** does to every table what `Table.after` says. -/
theorem reconcileResolved_tables {iter : IterOrder} {resolved : HashMap UInt32 ResolvedSpec}
    {es : List NetlinkEvent}
    (h : Runs (KernelStep Exact) (reconcileResolved iter resolved) k es (.ok ()) k')
    (hes : ∀ e ∈ es, Succeeds e) (t : UInt32) :
    k'.table t = (k.table t).after t (resolved.lookup t) := by
  obtain ⟨e₁, e₂, es', ts, rfl, -, -, hts, hrest, hloop⟩ := reconcileResolved_inv h
  have hsmooth : Alone Smooth (forEach (tableBody resolved k) ts)
      (fun _ k' => (∀ t ∈ ts, k'.table t = (k.table t).after t (resolved.lookup t)) ∧
        ∀ t ∉ ts, k'.table t = k.table t) k := by
    refine forEach_tables (T := k.table)
      (R := fun t T => T = (k.table t).after t (resolved.lookup t)) (fun t _ k₁ hk => ?_) hts
      fun _ _ => rfl
    have hbody := reconcileTable_smooth (k := k₁) (t := t) (resolved.lookup t)
    rwa [hk] at hbody
  have hruns : Runs Smooth (forEach (tableBody resolved k) ts) k es' () k' :=
    hloop.mono (P := Succeeds) (fun _ _ _ _ hs hstep => ⟨hstep, hs⟩)
      fun e he => hes e (by simp [he])
  obtain ⟨hdone, hother⟩ := (hsmooth.runs hruns).2
  by_cases ht : t ∈ ts
  · exact hdone t ht
  · -- the loop does not come to a table that is neither listed nor wanted
    obtain ⟨hnone, hrules, hroute⟩ := hrest t ht
    rw [hother t ht, hnone, after_of_not_listed hrules hroute]

/-- **A whole pass in which nothing fails**, lookups of links apart. -/
theorem reconcile_tables {iter : IterOrder} {desired : List RouteSpec}
    {es : List NetlinkEvent} {res : Except Errno Unit}
    (h : Runs (KernelStep Exact) (reconcile iter desired) k es res k')
    (hes : ∀ e ∈ es, Succeeds e) (t : UInt32) :
    k'.table t = (k.table t).after t (wanted desired es t) := by
  obtain ⟨es₁, resolved, k₁, es₂, rfl, h₁, h₂⟩ := runs_bind_inv h
  obtain ⟨rfl, hresolved⟩ := resolve_runs desired h₁
  have hes₂ : ∀ e ∈ es₂, Succeeds e := fun e he => hes e (List.mem_append_right es₁ he)
  cases res with
  | error err =>
    obtain ⟨⟨e, he, hfail⟩, -⟩ := reconcileResolved_error h₂
    exact absurd (hes₂ e he) hfail
  | ok u =>
    rw [reconcileResolved_tables h₂ hes₂ t, hresolved es₂ t]
    simp [wanted]

end SmoothPass

/-! ## A pass that is executed -/

/-- A pass for `markedSpec` against a kernel where every link has the index 2. -/
def markedPass (k : Kernel) : List NetlinkEvent × Except Errno Unit × Kernel :=
  (reconcile IterOrder.collected [markedSpec]).exec (Kernel.answer fun _ => some 2) k

lemma markedPass_runs (k : Kernel) : Runs (KernelStep Reliable)
    (reconcile IterOrder.collected [markedSpec]) k (markedPass k).1 (markedPass k).2.1
    (markedPass k).2.2 :=
  exec_runs (answer_step _) _ _

lemma markedPass_runs_exact (k : Kernel) : Runs (KernelStep Exact)
    (reconcile IterOrder.collected [markedSpec]) k (markedPass k).1 (markedPass k).2.1
    (markedPass k).2.2 :=
  exec_runs (fun k op => (answer_step _ k op).mono fun _ _ _ _ hr => hr.exact) _ _

end Dumbarp.Routing
