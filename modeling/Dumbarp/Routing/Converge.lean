/-
Convergence.

Whatever earlier passes left behind, one pass in which nothing fails leaves the tagged state
that its list asks for: one rule and one route for each wanted table and nothing else.  The
one exception is a rule that an earlier list asked for with the mark 0: a dump does not tell
it from an unmarked rule, and so it stays where an unmarked one is wanted.
-/
import Dumbarp.Routing.Invariant
import Dumbarp.Routing.Pass

namespace Dumbarp.Routing

open Interact Interact.Prog

/-- The tagged state of the table `t` is what `want` asks for. -/
def Kernel.Holds (k : Kernel) (t : UInt32) (want : Option ResolvedSpec) : Prop :=
  k.rulesOf t = (want.map fun w => ruleFor w.src t w.fwmark).toList ∧
    k.routesOf t = (want.map fun w => routeFor t w.gateway w.ifindex).toList

section Rebuilt

variable {s : Traced} {t : UInt32} {T : Table}

/-- Deleting a default route of dumbarp's is deleting among the tagged routes. -/
lemma filter_eraseP_agrees (qs : List Route) (t : UInt32) :
    (qs.eraseP (agreesRoute (delRouteRequest t))).filter Route.tagged =
      (qs.filter Route.tagged).eraseP (agreesRoute (delRouteRequest t)) := by
  have hagrees (q : Route) : (agreesRoute (delRouteRequest t) q && q.tagged) =
      agreesRoute (delRouteRequest t) q := by
    rw [Bool.and_eq_left_iff_imp, agreesRoute_delRouteRequest]
    exact fun hq => hq.2.2
  simp only [List.eraseP_filter, hagrees]

/-- The invariant leaves no tagged route in a table whose listed route was deleted. -/
lemma Inv.clearedRoutes (h : Inv s) (t : UInt32) :
    ((s.kernel.table t).clearedRoutes t).filter Route.tagged = [] := by
  obtain ⟨w, hw⟩ := h t
  rw [Table.clearedRoutes]
  -- the table holds one tagged route at most, a default route, and that was listed
  split
  · rw [filter_eraseP_agrees]
    show (s.kernel.routesOf t).eraseP _ = []
    have hagrees : agreesRoute (delRouteRequest t) (routeFor t w.gateway w.ifindex) = true := by
      rw [agreesRoute_delRouteRequest]
      exact ⟨rfl, rfl, routeFor_tagged _ _ _⟩
    rcases List.sublist_singleton.mp hw.routes with he | he
    · rw [he]
      rfl
    · rw [he, List.eraseP_cons_of_pos hagrees]
  · exact h.routesOf_of_not_listed (Option.not_isSome_iff_eq_none.mp ‹_›)

lemma filter_insertRoute_tagged {qs : List Route} (h : qs.filter Route.tagged = [])
    (t : UInt32) (gateway : Ipv4Addr) (ifindex : UInt32) :
    (insertRoute (routeFor t gateway ifindex) qs).filter Route.tagged =
      [routeFor t gateway ifindex] := by
  have hperm := (insertRoute_perm (routeFor t gateway ifindex) qs).filter Route.tagged
  rwa [List.filter_cons_of_pos (routeFor_tagged _ _ _), h, List.perm_singleton] at hperm

/-- A table of a history that is rebuilt holds what is wanted. -/
lemma Inv.rebuilt (h : Inv s) (t : UInt32) (want : Option ResolvedSpec) :
    ((s.kernel.table t).rebuilt t want).rules =
        (want.map fun w => ruleFor w.src t w.fwmark).toList ∧
      ((s.kernel.table t).rebuilt t want).routes.filter Route.tagged =
        (want.map fun w => routeFor t w.gateway w.ifindex).toList := by
  cases want with
  | none => exact ⟨rfl, h.clearedRoutes t⟩
  | some w => exact ⟨rfl, filter_insertRoute_tagged (h.clearedRoutes t) _ _ _⟩

/-- A table of a history that passes for up to date holds what is wanted, but for a mark that
is 0 instead of none. -/
lemma Inv.upToDate (h : Inv s) {w : ResolvedSpec}
    (hup : (s.kernel.table t).isUpToDate (some w)) :
    s.kernel.routesOf t = [routeFor t w.gateway w.ifindex] ∧
      ∃ w', Found s (s.ruleBy t) w' ∧ w'.src = w.src ∧ w'.gateway = w.gateway ∧
        s.kernel.rulesOf t = [ruleFor w.src t w'.fwmark] ∧
        (w'.fwmark = w.fwmark ∨ w'.fwmark = some 0 ∧ w.fwmark = none) := by
  obtain ⟨w', hw'⟩ := h t
  obtain ⟨w₀, r, rt, hw₀, hlist, hroute, hr, hrt⟩ := upToDate_iff.mp hup
  obtain rfl := Option.some.inj hw₀
  -- something was listed, so the table has both the rule and the route of `w'`
  have hrules : s.kernel.rulesOf t = [ruleFor w'.src t w'.fwmark] := by
    rcases List.sublist_singleton.mp hw'.rules with he | he
    · have hnil : s.kernel.listedRules t = [r] := hlist
      rw [Kernel.listedRules, he] at hnil
      cases hnil
    · exact he
  have hroutes : s.kernel.routesOf t = [routeFor t w'.gateway w'.ifindex] := by
    rcases List.sublist_singleton.mp hw'.routes with he | he
    · have hnone : s.kernel.listedRoute t = some rt := hroute
      rw [listedRoute_eq, he] at hnone
      cases hnone
    · exact he
  have hr' : r = (ruleFor w'.src t w'.fwmark).current := by
    have hone : s.kernel.listedRules t = [r] := hlist
    rw [Kernel.listedRules, hrules] at hone
    exact (List.singleton_inj.mp hone).symm
  have hrt' : rt = { gateway := w'.gateway, oif := w'.ifindex, onlink := true } := by
    have hone : s.kernel.listedRoute t = some rt := hroute
    rw [listedRoute_eq, hroutes, List.filterMap_cons_some (routeFor_current _ _ _)] at hone
    exact (Option.some.inj hone).symm
  subst hr' hrt'
  obtain ⟨hsrc, hfw, -⟩ := rule_isMatch_iff.mp hr
  obtain ⟨hgw, hoif, -⟩ := route_isMatch_iff.mp hrt
  rw [ruleFor_current] at hsrc hfw
  simp only at hsrc hfw hgw hoif
  have hfound := (hw'.ruleFound (by simp [hrules])).1
  refine ⟨by rw [hroutes, hgw, hoif], w', hfound, hsrc, hgw, by rw [hrules, hsrc], ?_⟩
  cases hm : w'.fwmark with
  | none =>
    rw [hm] at hfw
    exact Or.inl hfw
  | some m =>
    -- a mark is read back as it is, but for the mark 0
    rw [hm] at hfw
    by_cases h0 : m = 0
    · subst h0
      exact Or.inr ⟨rfl, hfw.symm⟩
    · rw [Option.filter_some_pos (by simp [h0])] at hfw
      exact Or.inl hfw

end Rebuilt

/-- **Convergence.**  After any history of a kernel whose changes take effect or fail, a pass
in which nothing but lookups of links fails leaves in every table what it wants for it, but
for an unmarked rule in whose place an earlier pass left one with the mark 0. -/
theorem converges_after_any_history {s : Traced} {last : Except Errno Unit}
    (hist : History Exact s (ret last)) {iter : IterOrder} {desired : List RouteSpec}
    {es : List NetlinkEvent} {res : Except Errno Unit} {k : Kernel}
    (hrun : Runs (KernelStep Exact) (reconcile iter desired) s.kernel es res k)
    (hes : ∀ e ∈ es, Succeeds e) (t : UInt32) :
    k.Holds t (wanted desired es t) ∨
      ∃ w, wanted desired es t = some w ∧ w.fwmark = none ∧
        k.Holds t (some { w with fwmark := some 0 }) ∧
        ∃ j ≤ s.pass, ∃ spec ∈ s.desired j,
          spec.src = w.src ∧ spec.gateway = w.gateway ∧ spec.fwmark = some 0 := by
  have hinv := history_inv (hist.mono fun _ _ _ _ h => h.lossy)
  have htable := reconcile_tables hrun hes t
  have hrules : k.rulesOf t = (k.table t).rules := rfl
  have hroutes : k.routesOf t = (k.table t).routes.filter Route.tagged := rfl
  rw [Kernel.Holds, hrules, hroutes, htable]
  -- the table is left alone, or it is cleared and rebuilt
  by_cases hup : (s.kernel.table t).isUpToDate (wanted desired es t)
  · rw [Table.after, if_pos hup]
    obtain ⟨w, -, -, hw, -⟩ := upToDate_iff.mp hup
    rw [hw] at hup ⊢
    obtain ⟨hroute, w', hfound, hsrc, hgw, hrule, hfw⟩ := hinv.upToDate hup
    rcases hfw with hfw | ⟨hzero, hnone⟩
    · rw [hfw] at hrule
      exact Or.inl ⟨hrule, hroute⟩
    · refine Or.inr ⟨w, rfl, hnone, ?_, ?_⟩
      · rw [Kernel.Holds, hrules, hroutes, htable, Table.after, if_pos (hw ▸ hup)]
        rw [hzero] at hrule
        exact ⟨hrule, hroute⟩
      · obtain ⟨hj, spec, hspec, hsrc', hgw', hfw', -⟩ := hfound
        exact ⟨_, hj, spec, hspec, hsrc'.symm.trans hsrc, hgw'.symm.trans hgw,
          hfw'.symm.trans hzero⟩
  · rw [Table.after, if_neg hup]
    exact Or.inl (hinv.rebuilt t _)

/-- A wish for the mark 0, which no packet filter tells from no mark. -/
def zeroSpec : RouteSpec := { markedSpec with fwmark := some 0 }

/-- The same wish without a mark. -/
def unmarkedSpec : RouteSpec := { markedSpec with fwmark := none }

/-- One pass for `zeroSpec` from an empty kernel. -/
def zeroHistory : Traced := ({ kernel := {} } : Traced).runPass (fun _ => some 2) [zeroSpec]

lemma zeroHistory_exact : ∃ res, History Exact zeroHistory (ret res) := by
  obtain ⟨res, h⟩ := history_firstPass (fun _ => some 2) [zeroSpec]
  exact ⟨res, h.mono fun _ _ _ _ hr => hr.exact⟩

/-- A pass for `unmarkedSpec` after it. -/
def unmarkedRun : List NetlinkEvent × Except Errno Unit × Kernel :=
  (reconcile IterOrder.collected [unmarkedSpec]).exec (Kernel.answer fun _ => some 2)
    zeroHistory.kernel

lemma unmarkedRun_runs : Runs (KernelStep Exact) (reconcile IterOrder.collected [unmarkedSpec])
    zeroHistory.kernel unmarkedRun.1 unmarkedRun.2.1 unmarkedRun.2.2 :=
  exec_runs (fun k op => (answer_step _ k op).mono fun _ _ _ _ hr => hr.exact) _ _

/-- Convergence without exception fails: the rule with the mark 0 stays. -/
theorem zero_mark_stays :
    (∃ res, History Exact zeroHistory (ret res)) ∧
      Runs (KernelStep Exact) (reconcile IterOrder.collected [unmarkedSpec])
        zeroHistory.kernel unmarkedRun.1 unmarkedRun.2.1 unmarkedRun.2.2 ∧
      (∀ e ∈ unmarkedRun.1, Succeeds e) ∧
      ¬ unmarkedRun.2.2.Holds 1846396077 (wanted [unmarkedSpec] unmarkedRun.1 1846396077) := by
  refine ⟨zeroHistory_exact, unmarkedRun_runs, by decide, fun h => ?_⟩
  have hrules : unmarkedRun.2.2.rulesOf 1846396077 =
      [ruleFor unmarkedSpec.src 1846396077 (some 0)] := by decide
  have hwanted : wanted [unmarkedSpec] unmarkedRun.1 1846396077 =
      some (unmarkedSpec.withIndex 2) := by decide
  rw [Kernel.Holds, hrules, hwanted] at h
  exact absurd h.1 (by decide)

theorem converges_after_zero_mark :
    unmarkedRun.2.2.Holds 1846396077 (wanted [unmarkedSpec] unmarkedRun.1 1846396077) ∨
      ∃ w, wanted [unmarkedSpec] unmarkedRun.1 1846396077 = some w ∧ w.fwmark = none ∧
        unmarkedRun.2.2.Holds 1846396077 (some { w with fwmark := some 0 }) ∧
        ∃ j ≤ zeroHistory.pass, ∃ spec ∈ zeroHistory.desired j,
          spec.src = w.src ∧ spec.gateway = w.gateway ∧ spec.fwmark = some 0 := by
  obtain ⟨res, h⟩ := zeroHistory_exact
  exact converges_after_any_history h unmarkedRun_runs (by decide) 1846396077

end Dumbarp.Routing
