/-
No mixed or duplicated routing state.

The invariant of a history is that the tagged objects of each table are among the rule and
the route of one spec, of one pass where both are there (`Owned`).  It survives the reports
of a kernel that loses acknowledgements, because an add is tried only when every delete of
its table was acknowledged, and a route only when its rule was.
-/
import Dumbarp.Routing.History

namespace Dumbarp.Routing

open Interact Interact.Prog

/-- The pass `j` was asked for the spec `w`, and the index is what it found for the interface
of that spec. -/
def Found (s : Traced) (j : ℕ) (w : ResolvedSpec) : Prop :=
  j ≤ s.pass ∧ ∃ spec ∈ s.desired j, w.src = spec.src ∧ w.gateway = spec.gateway ∧
    w.fwmark = spec.fwmark ∧ ⟨.getLink spec.iface, .ok (some w.ifindex)⟩ ∈ s.log j

/-- What the table `t` holds of dumbarp's is left from the spec `w`. -/
structure Owned (s : Traced) (t : UInt32) (w : ResolvedSpec) : Prop where
  rules : (s.kernel.rulesOf t).Sublist [ruleFor w.src t w.fwmark]
  routes : (s.kernel.routesOf t).Sublist [routeFor t w.gateway w.ifindex]
  ruleFound : s.kernel.rulesOf t ≠ [] → Found s (s.ruleBy t) w ∧ tableIdFor w.src = t
  routeFound : s.kernel.routesOf t ≠ [] → Found s (s.routeBy t) w ∧ tableIdFor w.src = t
  same : s.kernel.rulesOf t ≠ [] → s.kernel.routesOf t ≠ [] → s.ruleBy t = s.routeBy t

/-- **The invariant of a history.** -/
def Inv (s : Traced) : Prop := ∀ t, ∃ w, Owned s t w

/-! ## What a step may do to a table -/

/-- `s'` comes later in the same pass. -/
structure Later (s s' : Traced) : Prop where
  pass : s'.pass = s.pass
  desired : s'.desired = s.desired
  log : ∀ j, s.log j ⊆ s'.log j

lemma Later.trans {s₁ s₂ s₃ : Traced} (h₁ : Later s₁ s₂) (h₂ : Later s₂ s₃) : Later s₁ s₃ :=
  ⟨h₂.pass.trans h₁.pass, h₂.desired.trans h₁.desired,
    fun j => List.Subset.trans (h₁.log j) (h₂.log j)⟩

lemma Later.found {s s' : Traced} (h : Later s s') {j : ℕ} {w : ResolvedSpec}
    (hf : Found s j w) : Found s' j w := by
  obtain ⟨hj, spec, hspec, hsrc, hgw, hmark, hlink⟩ := hf
  exact ⟨h.pass ▸ hj, spec, h.desired ▸ hspec, hsrc, hgw, hmark, h.log j hlink⟩

/-- Nothing was installed in the table `t`. -/
structure Kept (s s' : Traced) (t : UInt32) : Prop where
  rules : (s'.kernel.rulesOf t).Sublist (s.kernel.rulesOf t)
  routes : (s'.kernel.routesOf t).Sublist (s.kernel.routesOf t)
  ruleBy : s'.ruleBy t = s.ruleBy t
  routeBy : s'.routeBy t = s.routeBy t

lemma Kept.trans {s₁ s₂ s₃ : Traced} {t : UInt32} (h₁ : Kept s₁ s₂ t) (h₂ : Kept s₂ s₃ t) :
    Kept s₁ s₃ t :=
  ⟨h₂.rules.trans h₁.rules, h₂.routes.trans h₁.routes, h₂.ruleBy.trans h₁.ruleBy,
    h₂.routeBy.trans h₁.routeBy⟩

/-- Nothing was installed at all. -/
structure Quiet (s s' : Traced) : Prop where
  later : Later s s'
  kept : ∀ t, Kept s s' t

lemma Quiet.trans {s₁ s₂ s₃ : Traced} (h₁ : Quiet s₁ s₂) (h₂ : Quiet s₂ s₃) : Quiet s₁ s₃ :=
  ⟨h₁.later.trans h₂.later, fun t => (h₁.kept t).trans (h₂.kept t)⟩

section Steps

variable {s s' : Traced} {t t' : UInt32} {w : ResolvedSpec} {op : NetlinkOp} {r : op.Res}
  {k : Kernel}

lemma later_record (s : Traced) (op : NetlinkOp) (r : op.Res) (k : Kernel) :
    Later s (s.record op r k) where
  pass := rfl
  desired := rfl
  log j e he := by
    simp only [Traced.record, Function.update_apply]
    split
    · rename_i hj
      exact List.mem_append_left _ (hj ▸ he)
    · exact he

lemma quiet_vanish (hv : Vanish s.kernel k) : Quiet s { s with kernel := k } where
  later := ⟨rfl, rfl, fun _ => List.Subset.refl _⟩
  kept t := ⟨(hv t).1, (hv t).2, rfl, rfl⟩

/-- A request that is no add and lets objects at most vanish is quiet. -/
lemma quiet_record (hrule : ∀ m, op ≠ .change (.addRule m))
    (hroute : ∀ m, op ≠ .change (.addRoute m)) (hv : Vanish s.kernel k) :
    Quiet s (s.record op r k) where
  later := later_record s op r k
  kept t := by
    refine ⟨(hv t).1, (hv t).2, ?_, ?_⟩
    · simp only [Traced.record]
      split
      · exact absurd rfl (hrule _)
      · rfl
    · simp only [Traced.record]
      split
      · exact absurd rfl (hroute _)
      · rfl

/-- A request that leaves the kernel as it is is quiet. -/
lemma quiet_unchanged : Quiet s (s.record op r s.kernel) where
  later := later_record s op r s.kernel
  kept t := by
    refine ⟨List.Sublist.refl _, List.Sublist.refl _, ?_, ?_⟩
    · simp only [Traced.record]
      split <;> simp
    · simp only [Traced.record]
      split <;> simp

lemma Owned.kept (h : Owned s t w) (hl : Later s s') (hk : Kept s s' t) : Owned s' t w := by
  -- what is there now was there before
  have hrules : s'.kernel.rulesOf t ≠ [] → s.kernel.rulesOf t ≠ [] := fun hne he =>
    hne (List.sublist_nil.mp (he ▸ hk.rules))
  have hroutes : s'.kernel.routesOf t ≠ [] → s.kernel.routesOf t ≠ [] := fun hne he =>
    hne (List.sublist_nil.mp (he ▸ hk.routes))
  refine ⟨hk.rules.trans h.rules, hk.routes.trans h.routes, fun hne => ?_, fun hne => ?_,
    fun hne hne' => ?_⟩
  · obtain ⟨hf, ht⟩ := h.ruleFound (hrules hne)
    exact ⟨hk.ruleBy ▸ hl.found hf, ht⟩
  · obtain ⟨hf, ht⟩ := h.routeFound (hroutes hne)
    exact ⟨hk.routeBy ▸ hl.found hf, ht⟩
  · rw [hk.ruleBy, hk.routeBy]
    exact h.same (hrules hne) (hroutes hne')

lemma Inv.quiet (h : Inv s) (hq : Quiet s s') : Inv s' := fun t => by
  obtain ⟨w, hw⟩ := h t
  exact ⟨w, hw.kept hq.later (hq.kept t)⟩

/-- A delete of a rule is quiet; when it is acknowledged the table has one rule less. -/
lemma step_delRule {src : Ipv4Addr} {fwmark : Option UInt32} {r : Except Errno Unit}
    (h : TracedStep Lossy s (.change (.delRule (delRuleRequest src t fwmark))) r s') :
    Quiet s s' ∧
      (r = .ok () → (s'.kernel.rulesOf t).length + 1 = (s.kernel.rulesOf t).length) := by
  have hquiet {r : Except Errno Unit} {k : Kernel} (hv : Vanish s.kernel k) :
      Quiet s (s.record (.change (.delRule (delRuleRequest src t fwmark))) r k) :=
    quiet_record (by simp) (by simp) hv
  obtain ⟨k, hk, rfl⟩ := tracedStep_inv h
  cases kernelStep_change_inv hk with
  | done htakes =>
    refine ⟨hquiet (vanish_delRule htakes), fun _ => ?_⟩
    obtain ⟨⟨l₁, r, l₂, hk, hk'⟩, -, -⟩ := takes_delRule htakes
    simp [Traced.record, hk, hk', Nat.add_assoc]
  | lost e htakes => exact ⟨hquiet (vanish_delRule htakes), by simp⟩
  | refused => exact ⟨hquiet (Vanish.refl _), by simp⟩

/-- A delete of a route is quiet; when it is acknowledged the table has one route less. -/
lemma step_delRoute {r : Except Errno Unit}
    (h : TracedStep Lossy s (.change (.delRoute (delRouteRequest t))) r s') :
    Quiet s s' ∧
      (r = .ok () → (s'.kernel.routesOf t).length + 1 = (s.kernel.routesOf t).length) := by
  have hquiet {r : Except Errno Unit} {k : Kernel} (hv : Vanish s.kernel k) :
      Quiet s (s.record (.change (.delRoute (delRouteRequest t))) r k) :=
    quiet_record (by simp) (by simp) hv
  obtain ⟨k, hk, rfl⟩ := tracedStep_inv h
  cases kernelStep_change_inv hk with
  | done htakes =>
    refine ⟨hquiet (vanish_delRoute htakes), fun _ => ?_⟩
    obtain ⟨⟨l₁, q, l₂, hk, hk'⟩, -, -⟩ := takes_delRoute htakes
    simp [Traced.record, hk, hk', Nat.add_assoc]
  | lost e htakes => exact ⟨hquiet (vanish_delRoute htakes), by simp⟩
  | refused => exact ⟨hquiet (Vanish.refl _), by simp⟩

/-- The table `t` was cleared for `w`; at most the rule of `w` is in it. -/
structure HalfWay (s : Traced) (t : UInt32) (w : ResolvedSpec) : Prop where
  rules : (s.kernel.rulesOf t).Sublist [ruleFor w.src t w.fwmark]
  ruleBy : s.kernel.rulesOf t ≠ [] → s.ruleBy t = s.pass
  routes : s.kernel.routesOf t = []
  found : Found s s.pass w
  table : tableIdFor w.src = t

lemma HalfWay.owned (h : HalfWay s t w) : Owned s t w where
  rules := h.rules
  routes := by simp [h.routes]
  ruleFound hne := ⟨(h.ruleBy hne).symm ▸ h.found, h.table⟩
  routeFound hne := absurd h.routes hne
  same _ hne := absurd h.routes hne

lemma HalfWay.quiet (h : HalfWay s t w) (hq : Quiet s s') : HalfWay s' t w where
  rules := (hq.kept t).rules.trans h.rules
  ruleBy hne := by
    rw [(hq.kept t).ruleBy, hq.later.pass]
    exact h.ruleBy fun he => hne (List.sublist_nil.mp (he ▸ (hq.kept t).rules))
  routes := List.sublist_nil.mp (h.routes ▸ (hq.kept t).routes)
  found := hq.later.pass.symm ▸ hq.later.found h.found
  table := h.table

/-- An add of the wanted rule to a cleared table. -/
lemma step_addRule {r : Except Errno Unit} (hrules : s.kernel.rulesOf t = [])
    (hroutes : s.kernel.routesOf t = []) (hfound : Found s s.pass w) (htable : tableIdFor w.src = t)
    (h : TracedStep Lossy s (.change (.addRule (addRuleRequest w.src t w.fwmark))) r s') :
    Later s s' ∧ (∀ t', t' ≠ t → Kept s s' t') ∧ HalfWay s' t w := by
  obtain ⟨k, hk, rfl⟩ := tracedStep_inv h
  have hstill : HalfWay s t w := ⟨by simp [hrules], fun hne => absurd hrules hne, hroutes, hfound,
    htable⟩
  -- the rule came in, whether or not that was acknowledged
  have hinstalled {r : Except Errno Unit}
      (htakes : Takes s.kernel (.addRule (addRuleRequest w.src t w.fwmark)) k) :
      (∀ t', t' ≠ t →
        Kept s (s.record (.change (.addRule (addRuleRequest w.src t w.fwmark))) r k) t') ∧
        HalfWay (s.record (.change (.addRule (addRuleRequest w.src t w.fwmark))) r k) t w := by
    obtain ⟨hperm, hother, hsame⟩ := takes_addRule htakes
    rw [hrules, List.perm_singleton] at hperm
    have hne : k.rules ≠ s.kernel.rules := by
      intro he
      rw [Kernel.rulesOf, he, ← Kernel.rulesOf, hrules] at hperm
      exact List.cons_ne_nil _ _ hperm.symm
    have hroutesOf (t' : UInt32) : k.routesOf t' = s.kernel.routesOf t' := by
      rw [Kernel.routesOf, Kernel.tableRoutes, hsame]
      rfl
    refine ⟨fun t' ht' => ⟨?_, ?_, ?_, rfl⟩, ?_, fun _ => ?_, ?_, ?_, htable⟩
    · exact (hother t' ht') ▸ List.Sublist.refl _
    · exact hroutesOf t' ▸ List.Sublist.refl _
    · simp [Traced.record, hne, ruleOf_addRuleRequest, Function.update_of_ne ht']
    · exact hperm ▸ List.Sublist.refl _
    · simp [Traced.record, hne, ruleOf_addRuleRequest]
    · exact (hroutesOf t).trans hroutes
    · exact (later_record _ _ _ _).found hfound
  cases kernelStep_change_inv hk with
  | done htakes => exact ⟨later_record _ _ _ _, hinstalled htakes⟩
  | lost e htakes => exact ⟨later_record _ _ _ _, hinstalled htakes⟩
  | refused =>
    exact ⟨later_record _ _ _ _, fun t' _ => quiet_unchanged.kept t', hstill.quiet quiet_unchanged⟩

/-- An add of the wanted route after the wanted rule. -/
lemma step_addRoute {r : Except Errno Unit} (hhalf : HalfWay s t w)
    (h : TracedStep Lossy s (.change (.addRoute (addRouteRequest t w.gateway w.ifindex))) r s') :
    Later s s' ∧ (∀ t', t' ≠ t → Kept s s' t') ∧ Owned s' t w := by
  obtain ⟨k, hk, rfl⟩ := tracedStep_inv h
  have hinstalled {r : Except Errno Unit}
      (htakes : Takes s.kernel (.addRoute (addRouteRequest t w.gateway w.ifindex)) k) :
      (∀ t', t' ≠ t →
        Kept s (s.record (.change (.addRoute (addRouteRequest t w.gateway w.ifindex))) r k) t') ∧
        Owned (s.record (.change (.addRoute (addRouteRequest t w.gateway w.ifindex))) r k) t w := by
    obtain ⟨hperm, hother, hsame⟩ := takes_addRoute htakes
    rw [hhalf.routes, List.perm_singleton] at hperm
    have hne : k.routes ≠ s.kernel.routes := by
      intro he
      rw [Kernel.routesOf, Kernel.tableRoutes, he, ← Kernel.tableRoutes, ← Kernel.routesOf,
        hhalf.routes] at hperm
      exact List.cons_ne_nil _ _ hperm.symm
    have hrulesOf (t' : UInt32) : k.rulesOf t' = s.kernel.rulesOf t' := by
      rw [Kernel.rulesOf, hsame]
      rfl
    have hby : (s.record (.change (.addRoute (addRouteRequest t w.gateway w.ifindex))) r
        k).routeBy t = s.pass := by
      simp [Traced.record, hne, routeOf_addRouteRequest]
    have hfound := (later_record s (.change (.addRoute (addRouteRequest t w.gateway w.ifindex))) r
      k).found hhalf.found
    refine ⟨fun t' ht' => ⟨?_, ?_, rfl, ?_⟩, ?_, ?_, fun hne' => ⟨?_, hhalf.table⟩, fun _ => ?_,
      fun hne' _ => ?_⟩
    · exact hrulesOf t' ▸ List.Sublist.refl _
    · simp only [Traced.record, Kernel.routesOf, hother t' ht']
      exact List.Sublist.refl _
    · simp [Traced.record, hne, routeOf_addRouteRequest, Function.update_of_ne ht']
    · exact (hrulesOf t).symm ▸ hhalf.rules
    · exact hperm ▸ List.Sublist.refl _
    · have hpass := hhalf.ruleBy ((hrulesOf t) ▸ hne')
      exact (hpass.symm ▸ hfound :)
    · exact ⟨hby.symm ▸ hfound, hhalf.table⟩
    · rw [hby]
      exact hhalf.ruleBy ((hrulesOf t) ▸ hne')
  cases kernelStep_change_inv hk with
  | done htakes => exact ⟨later_record _ _ _ _, hinstalled htakes⟩
  | lost e htakes => exact ⟨later_record _ _ _ _, hinstalled htakes⟩
  | refused =>
    exact ⟨later_record _ _ _ _, fun t' _ => quiet_unchanged.kept t',
      (hhalf.quiet quiet_unchanged).owned⟩

end Steps

/-! ## The loop over the tables -/

/-- Every resolved spec is one of the pass, under its own table. -/
def Wanted (resolved : HashMap UInt32 ResolvedSpec) (s : Traced) : Prop :=
  ∀ t w, resolved.lookup t = some w → Found s s.pass w ∧ tableIdFor w.src = t

lemma Wanted.later {resolved : HashMap UInt32 ResolvedSpec} {s s' : Traced}
    (h : Wanted resolved s) (hl : Later s s') : Wanted resolved s' := by
  intro t w hw
  obtain ⟨hf, ht⟩ := h t w hw
  exact ⟨hl.pass.symm ▸ hl.found hf, ht⟩

/-- The assertion of the loop: the tables `ts` are still to come, what they hold was listed,
and the specs of `resolved` are those of the pass. -/
structure Ready (rules : HashMap UInt32 (List CurrentRule)) (routes : HashMap UInt32 CurrentRoute)
    (resolved : HashMap UInt32 ResolvedSpec) (ts : List UInt32) (s : Traced) : Prop where
  inv : Inv s
  nodup : ts.Nodup
  noRules : ∀ t ∈ ts, (rules.lookup t).getD [] = [] → s.kernel.rulesOf t = []
  noRoute : ∀ t ∈ ts, routes.lookup t = none → s.kernel.routesOf t = []
  wanted : Wanted resolved s

section Loop

variable {rules : HashMap UInt32 (List CurrentRule)} {routes : HashMap UInt32 CurrentRoute}
  {resolved : HashMap UInt32 ResolvedSpec} {t : UInt32} {ts : List UInt32} {s s' : Traced}

lemma quiet_others (h : vanishing.change s s') : Quiet s s' := by
  obtain ⟨k, hv, rfl⟩ := h
  exact quiet_vanish hv

lemma Ready.quiet (h : Ready rules routes resolved ts s) (hq : Quiet s s') :
    Ready rules routes resolved ts s' where
  inv := h.inv.quiet hq
  nodup := h.nodup
  noRules t ht hl := List.sublist_nil.mp (h.noRules t ht hl ▸ (hq.kept t).rules)
  noRoute t ht hl := List.sublist_nil.mp (h.noRoute t ht hl ▸ (hq.kept t).routes)
  wanted := h.wanted.later hq.later

/-- Only the table at the head of the loop may get something. -/
lemma Ready.next (h : Ready rules routes resolved (t :: ts) s) (hl : Later s s')
    (hk : ∀ t', t' ≠ t → Kept s s' t') {w : ResolvedSpec} (hw : Owned s' t w) :
    Ready rules routes resolved ts s' where
  inv t' := by
    by_cases ht : t' = t
    · exact ⟨w, ht ▸ hw⟩
    · obtain ⟨w', hw'⟩ := h.inv t'
      exact ⟨w', hw'.kept hl (hk t' ht)⟩
  nodup := h.nodup.of_cons
  noRules t' ht' hlist := by
    have hne : t' ≠ t := fun he => (List.nodup_cons.mp h.nodup).1 (he ▸ ht')
    exact List.sublist_nil.mp (h.noRules t' (by simp [ht']) hlist ▸ (hk t' hne).rules)
  noRoute t' ht' hlist := by
    have hne : t' ≠ t := fun he => (List.nodup_cons.mp h.nodup).1 (he ▸ ht')
    exact List.sublist_nil.mp (h.noRoute t' (by simp [ht']) hlist ▸ (hk t' hne).routes)
  wanted := h.wanted.later hl

lemma Ready.tail (h : Ready rules routes resolved (t :: ts) s) :
    Ready rules routes resolved ts s where
  inv := h.inv
  nodup := h.nodup.of_cons
  noRules t' ht' := h.noRules t' (by simp [ht'])
  noRoute t' ht' := h.noRoute t' (by simp [ht'])
  wanted := h.wanted

lemma Inv.rules_length (h : Inv s) (t : UInt32) : (s.kernel.rulesOf t).length ≤ 1 := by
  obtain ⟨w, hw⟩ := h t
  exact hw.rules.length_le

lemma Inv.routes_length (h : Inv s) (t : UInt32) : (s.kernel.routesOf t).length ≤ 1 := by
  obtain ⟨w, hw⟩ := h t
  exact hw.routes.length_le

/-- What the invariant lets a table hold is seen by the listing. -/
lemma Inv.routesOf_of_not_listed (h : Inv s) (hl : s.kernel.listedRoute t = none) :
    s.kernel.routesOf t = [] := by
  obtain ⟨w, hw⟩ := h t
  refine List.eq_nil_iff_forall_not_mem.mpr fun q hq => ?_
  have hq' := hw.routes.subset hq
  rw [List.mem_singleton] at hq'
  have := listedRoute_eq_none.mp hl q hq
  rw [hq', routeFor_current] at this
  cases this

/-- Safety of a program within a history. -/
abbrev SafePass {α : Type} (p : Rtnetlink α) (Q : α → Traced → Prop) (s : Traced) : Prop :=
  Safe vanishing (TracedStep Lossy) Inv p Q s

lemma delRules_safe (cur : List CurrentRule) (failed : Bool)
    (h : Ready rules routes resolved (t :: ts) s)
    (hcur : cur = [] → failed = false → s.kernel.rulesOf t = []) :
    SafePass (delRules t cur failed) (fun failed' s' => Ready rules routes resolved (t :: ts) s' ∧
      (failed' = false → s'.kernel.rulesOf t = [])) s := by
  induction cur generalizing failed s with
  | nil =>
    intro s₁ hs₁
    have h₁ := h.quiet (quiet_others hs₁)
    refine ⟨h₁.inv, h₁, fun hf => ?_⟩
    exact List.sublist_nil.mp (hcur rfl hf ▸ ((quiet_others hs₁).kept t).rules)
  | cons rule cur ih =>
    intro s₁ hs₁
    have h₁ := h.quiet (quiet_others hs₁)
    refine ⟨h₁.inv, fun r s₂ hstep => ?_⟩
    obtain ⟨hq, hlen⟩ := step_delRule hstep
    cases r with
    | error e => exact ih true (h₁.quiet hq) (by simp)
    | ok u =>
      -- the invariant allowed one rule, and that is gone
      refine ih failed (h₁.quiet hq) fun _ _ => List.length_eq_zero_iff.mp ?_
      have h1 := h₁.inv.rules_length t
      have h2 := hlen rfl
      omega

lemma delListedRoute_safe (cur : Option CurrentRoute) (failed : Bool)
    (h : Ready rules routes resolved (t :: ts) s)
    (hrules : failed = false → s.kernel.rulesOf t = [])
    (hcur : cur = none → s.kernel.routesOf t = []) :
    SafePass (delListedRoute t cur failed) (fun failed' s' =>
      Ready rules routes resolved (t :: ts) s' ∧
      (failed' = false → s'.kernel.rulesOf t = [] ∧ s'.kernel.routesOf t = [])) s := by
  cases cur with
  | none =>
    intro s₁ hs₁
    have hq := quiet_others hs₁
    refine ⟨h.inv.quiet hq, h.quiet hq, fun hf => ⟨?_, ?_⟩⟩
    · exact List.sublist_nil.mp (hrules hf ▸ (hq.kept t).rules)
    · exact List.sublist_nil.mp (hcur rfl ▸ (hq.kept t).routes)
  | some rt =>
    intro s₁ hs₁
    have hq₁ := quiet_others hs₁
    have h₁ := h.quiet hq₁
    refine ⟨h₁.inv, fun r s₂ hstep => ?_⟩
    obtain ⟨hq₂, hlen⟩ := step_delRoute hstep
    have h₂ := h₁.quiet hq₂
    cases r with
    | error e =>
      intro s₃ hs₃
      have h₃ := h₂.quiet (quiet_others hs₃)
      exact ⟨h₃.inv, h₃, by simp⟩
    | ok u =>
      intro s₃ hs₃
      have hq₃ := quiet_others hs₃
      have h₃ := h₂.quiet hq₃
      refine ⟨h₃.inv, h₃, fun hf => ⟨?_, ?_⟩⟩
      · have he₁ := List.sublist_nil.mp (hrules hf ▸ (hq₁.kept t).rules)
        have he₂ := List.sublist_nil.mp (he₁ ▸ (hq₂.kept t).rules)
        exact List.sublist_nil.mp (he₂ ▸ (hq₃.kept t).rules)
      · have h1 := h₁.inv.routes_length t
        have h2 := hlen rfl
        have he₂ : s₂.kernel.routesOf t = [] := List.length_eq_zero_iff.mp (by omega)
        exact List.sublist_nil.mp (he₂ ▸ (hq₃.kept t).routes)

lemma install_safe {w : ResolvedSpec} (h : Ready rules routes resolved (t :: ts) s)
    (hrules : s.kernel.rulesOf t = []) (hroutes : s.kernel.routesOf t = [])
    (hw : resolved.lookup t = some w) :
    SafePass (install t w) (fun _ s' => Ready rules routes resolved ts s') s := by
  intro s₁ hs₁
  have hq₁ := quiet_others hs₁
  have h₁ := h.quiet hq₁
  refine ⟨h₁.inv, fun r s₂ hstep => ?_⟩
  obtain ⟨hfound, htable⟩ := h₁.wanted t w hw
  obtain ⟨hl₂, hk₂, hhalf⟩ := step_addRule
    (List.sublist_nil.mp (hrules ▸ (hq₁.kept t).rules))
    (List.sublist_nil.mp (hroutes ▸ (hq₁.kept t).routes)) hfound htable hstep
  cases r with
  | error e =>
    -- the rule may be there all the same; no route is tried
    intro s₃ hs₃
    have h₃ := (h₁.next hl₂ hk₂ hhalf.owned).quiet (quiet_others hs₃)
    exact ⟨h₃.inv, h₃⟩
  | ok u =>
    intro s₃ hs₃
    have hq₃ := quiet_others hs₃
    refine ⟨((h₁.next hl₂ hk₂ hhalf.owned).quiet hq₃).inv, fun r' s₄ hstep' => ?_⟩
    obtain ⟨hl₄, hk₄, hown⟩ := step_addRoute (hhalf.quiet hq₃) hstep'
    intro s₅ hs₅
    have hl : Later s₁ s₄ := (hl₂.trans hq₃.later).trans hl₄
    have hk : ∀ t', t' ≠ t → Kept s₁ s₄ t' := fun t' ht' =>
      ((hk₂ t' ht').trans (hq₃.kept t')).trans (hk₄ t' ht')
    have h₅ := (h₁.next hl hk hown).quiet (quiet_others hs₅)
    exact ⟨h₅.inv, h₅⟩

lemma reconcileTable_safe (h : Ready rules routes resolved (t :: ts) s) :
    SafePass (reconcileTable (resolved.lookup t) ((rules.lookup t).getD []) (routes.lookup t) t)
      (fun _ s' => Ready rules routes resolved ts s') s := by
  have hdone {s : Traced} (h : Ready rules routes resolved (t :: ts) s) :
      SafePass (ret ()) (fun _ s' => Ready rules routes resolved ts s') s := by
    intro s₁ hs₁
    have h₁ := h.tail.quiet (quiet_others hs₁)
    exact ⟨h₁.inv, h₁⟩
  rw [reconcileTable]
  split
  · exact hdone h
  · refine Safe.bind ((delRules_safe _ false h fun hl _ => h.noRules t (by simp) hl).mono ?_)
    rintro failed s₁ - ⟨h₁, hrules⟩
    refine Safe.bind ((delListedRoute_safe _ failed h₁ hrules fun hl =>
      h₁.noRoute t (by simp) hl).mono ?_)
    rintro failed s₂ - ⟨h₂, hempty⟩
    cases hwant : resolved.lookup t with
    | none => exact hdone h₂
    | some w =>
      cases failed with
      | true => exact hdone h₂
      | false => exact install_safe h₂ (hempty rfl).1 (hempty rfl).2 hwant

lemma reconcileTables_safe {iter : IterOrder} (hinv : Inv s) (hwanted : Wanted resolved s)
    (hrules : ∀ t, (rules.lookup t).getD [] = [] → s.kernel.rulesOf t = [])
    (hroutes : ∀ t, routes.lookup t = none → s.kernel.routesOf t = []) :
    SafePass (reconcileTables iter rules routes resolved) (fun _ s' => Inv s') s := by
  have hready : Ready rules routes resolved (iter.order (allTables rules routes resolved)) s :=
    ⟨hinv, (iter.perm _).nodup_iff.mpr (List.nodup_dedup _), fun t _ => hrules t,
      fun t _ => hroutes t, hwanted⟩
  refine (Safe.forEach (J := Ready rules routes resolved) (fun _ _ h => h.inv)
    (fun _ _ _ h hs => h.quiet (quiet_others hs)) (fun _ _ _ h => reconcileTable_safe h)
    hready).mono ?_
  exact fun _ _ _ h => h.inv

end Loop

/-! ## A whole pass -/

section Pass

variable {resolved : HashMap UInt32 ResolvedSpec} {s s' : Traced}

/-- What the cache of the indexes holds was found in this pass. -/
def Cached (cache : HashMap String UInt32) (s : Traced) : Prop :=
  ∀ iface idx, cache.lookup iface = some idx →
    ⟨.getLink iface, .ok (some idx)⟩ ∈ s.log s.pass

lemma Cached.later {cache : HashMap String UInt32} (h : Cached cache s) (hl : Later s s') :
    Cached cache s' := fun iface idx hc => hl.pass ▸ hl.log _ (h iface idx hc)

lemma Cached.insert {cache : HashMap String UInt32} {iface : String} {idx : UInt32}
    (h : Cached cache s) (hlink : ⟨.getLink iface, .ok (some idx)⟩ ∈ s.log s.pass) :
    Cached (cache.insert iface idx) s :=
  HashMap.forall_lookup_insert h hlink

lemma Wanted.insert {spec : RouteSpec} {idx : UInt32} (h : Wanted resolved s)
    (hspec : spec ∈ s.desired s.pass)
    (hlink : ⟨.getLink spec.iface, .ok (some idx)⟩ ∈ s.log s.pass) :
    Wanted (resolved.insert (tableIdFor spec.src)
      { src := spec.src, gateway := spec.gateway, ifindex := idx, fwmark := spec.fwmark }) s :=
  HashMap.forall_lookup_insert h ⟨⟨le_rfl, spec, hspec, rfl, rfl, rfl, hlink⟩, rfl⟩

lemma resolve_safe (specs : List RouteSpec) (cache : HashMap String UInt32) (hinv : Inv s)
    (hspecs : ∀ spec ∈ specs, spec ∈ s.desired s.pass) (hcache : Cached cache s)
    (hwanted : Wanted resolved s) :
    SafePass (resolve specs cache resolved)
      (fun resolved' s' => Inv s' ∧ Wanted resolved' s') s := by
  induction specs generalizing cache resolved s with
  | nil =>
    intro s₁ hs₁
    have hq₁ := quiet_others hs₁
    exact ⟨hinv.quiet hq₁, hinv.quiet hq₁, hwanted.later hq₁.later⟩
  | cons spec specs ih =>
    have hspec := hspecs spec (by simp)
    have hrest := fun spec' h => hspecs spec' (List.mem_cons_of_mem spec h)
    rw [resolve]
    cases hlookup : cache.lookup spec.iface with
    | some idx => exact ih cache hinv hrest hcache (hwanted.insert hspec (hcache _ _ hlookup))
    | none =>
      intro s₁ hs₁
      have hq₁ := quiet_others hs₁
      refine ⟨hinv.quiet hq₁, fun r s₂ hstep => ?_⟩
      obtain ⟨k, hk, rfl⟩ := tracedStep_inv hstep
      obtain rfl := kernelStep_getLink_inv hk
      have hq₂ : Quiet s₁ (s₁.record (.getLink spec.iface) r s₁.kernel) := quiet_unchanged
      have hl := hq₁.later.trans hq₂.later
      have hinv₂ := (hinv.quiet hq₁).quiet hq₂
      have hspecs₂ : ∀ spec' ∈ spec :: specs, spec' ∈
          (s₁.record (.getLink spec.iface) r s₁.kernel).desired
            (s₁.record (.getLink spec.iface) r s₁.kernel).pass :=
        fun spec' h => by
          rw [hl.desired, hl.pass]
          exact hspecs spec' h
      have hskip := ih cache hinv₂ (fun spec' h => hspecs₂ spec' (List.mem_cons_of_mem spec h))
        (hcache.later hl) (hwanted.later hl)
      -- an interface that is not found drops its spec
      match r with
      | .error e => exact hskip
      | .ok none => exact hskip
      | .ok (some idx) =>
        have hlink : ⟨.getLink spec.iface, .ok (some idx)⟩ ∈
            (s₁.record (.getLink spec.iface) (.ok (some idx)) s₁.kernel).log s₁.pass := by
          simp [Traced.record]
        exact ih (cache.insert spec.iface idx) hinv₂
          (fun spec' h => hspecs₂ spec' (List.mem_cons_of_mem spec h))
          ((hcache.later hl).insert hlink)
          ((hwanted.later hl).insert (hspecs₂ spec (by simp)) hlink)

lemma reconcileResolved_safe {iter : IterOrder} (hinv : Inv s) (hwanted : Wanted resolved s) :
    SafePass (reconcileResolved iter resolved) (fun _ s' => Inv s') s := by
  have hend {s : Traced} {a : Except Errno Unit} (h : Inv s) :
      SafePass (ret a) (fun _ s' => Inv s') s := fun s₁ hs₁ =>
    ⟨h.quiet (quiet_others hs₁), h.quiet (quiet_others hs₁)⟩
  intro s₁ hs₁
  have hq₁ := quiet_others hs₁
  have hinv₁ := hinv.quiet hq₁
  refine ⟨hinv₁, fun r₁ s₂ hstep₁ => ?_⟩
  obtain ⟨k₂, hk₂, rfl⟩ := tracedStep_inv hstep₁
  obtain ⟨rfl, hdump₁⟩ := kernelStep_dumpRules_inv hk₂
  have hq₂ : Quiet s₁ (s₁.record .dumpRules r₁ s₁.kernel) := quiet_unchanged
  cases r₁ with
  | error e => exact hend (hinv₁.quiet hq₂)
  | ok msgs₁ =>
    intro s₃ hs₃
    have hq₃ := hq₂.trans (quiet_others hs₃)
    have hinv₃ := hinv₁.quiet hq₃
    refine ⟨hinv₃, fun r₂ s₄ hstep₂ => ?_⟩
    obtain ⟨k₄, hk₄, rfl⟩ := tracedStep_inv hstep₂
    obtain ⟨rfl, hdump₂⟩ := kernelStep_dumpRoutes_inv hk₄
    have hq₄ : Quiet s₃ (s₃.record .dumpRoutes r₂ s₃.kernel) := quiet_unchanged
    cases r₂ with
    | error e => exact hend (hinv₃.quiet hq₄)
    | ok msgs₂ =>
      show SafePass ((reconcileTables iter (collectRules msgs₁) (collectRoutes msgs₂)
        resolved).bind fun _ => ret (Except.ok ())) _ _
      refine Safe.bind ((reconcileTables_safe (hinv₃.quiet hq₄)
        (hwanted.later ((hq₁.later.trans hq₃.later).trans hq₄.later)) (fun t hl => ?_)
        (fun t hl => ?_)).mono fun _ _ _ h => hend h)
      · -- what was not there when the rules were listed has not come since
        rw [collectRules_lookup (hdump₁ _ rfl)] at hl
        have he : s₁.kernel.rulesOf t = [] := List.map_eq_nil_iff.mp hl
        exact List.sublist_nil.mp (he ▸ (hq₃.kept t).rules)
      · rw [collectRoutes_lookup (hdump₂ _ rfl)] at hl
        exact hinv₃.routesOf_of_not_listed hl

/-- **A pass keeps the invariant**, at every moment and whatever vanishes meanwhile. -/
theorem reconcile_safe (iter : IterOrder) (hinv : Inv s) :
    SafePass (reconcile iter (s.desired s.pass)) (fun _ s' => Inv s') s := by
  refine Safe.bind ((resolve_safe (s.desired s.pass) ∅ hinv (fun _ h => h) ?_ ?_).mono ?_)
  · intro iface idx h
    simp at h
  · intro t w h
    simp at h
  · rintro resolved s' - ⟨hinv', hwanted⟩
    exact reconcileResolved_safe hinv' hwanted

/-- A new pass starts with the invariant. -/
lemma Inv.startPass (h : Inv s) (desired : List RouteSpec) : Inv (s.startPass desired) := by
  have hfound {j : ℕ} {w : ResolvedSpec} (hf : Found s j w) : Found (s.startPass desired) j w := by
    obtain ⟨hj, spec, hspec, hsrc, hgw, hmark, hlink⟩ := hf
    refine ⟨Nat.le_succ_of_le hj, spec, ?_, hsrc, hgw, hmark, hlink⟩
    -- the new pass has a number of its own, so the earlier lists stay
    have hne : j ≠ s.pass + 1 := by omega
    simpa only [Traced.startPass, Function.update_of_ne hne] using hspec
  intro t
  obtain ⟨w, hw⟩ := h t
  exact ⟨w, hw.rules, hw.routes, fun hne => ⟨hfound (hw.ruleFound hne).1, (hw.ruleFound hne).2⟩,
    fun hne => ⟨hfound (hw.routeFound hne).1, (hw.routeFound hne).2⟩, hw.same⟩

/-- At every moment of a history the rest of the pass is safe. -/
lemma history_safe {p : Rtnetlink (Except Errno Unit)} (h : History Lossy s p) :
    SafePass p (fun _ s' => Inv s') s := by
  induction h with
  | @start k hk =>
    have hclean : Inv { kernel := k } := fun t =>
      ⟨⟨anyAddr, anyAddr, 0, none⟩, by simp [hk.rulesOf], by simp [hk.routesOf],
        fun hne => absurd (hk.rulesOf t) hne, fun hne => absurd (hk.routesOf t) hne,
        fun hne => absurd (hk.rulesOf t) hne⟩
    intro s₁ hs₁
    exact ⟨hclean.quiet (quiet_others hs₁), hclean.quiet (quiet_others hs₁)⟩
  | @pass s res iter desired _ ih =>
    have hdesired : (s.startPass desired).desired (s.startPass desired).pass = desired := by
      simp [Traced.startPass]
    have hsafe := reconcile_safe iter (ih.now.startPass desired)
    rwa [hdesired] at hsafe
  | step _ hs ih => exact ih.advance hs
  | vanish _ hv ih => exact ih.disturb ⟨_, hv, rfl⟩

/-- **The invariant holds at every moment of a history.** -/
theorem history_inv {p : Rtnetlink (Except Errno Unit)} (h : History Lossy s p) : Inv s :=
  (history_safe h).now

end Pass

/-- **No mixed or duplicated routing state.**  At every moment of every history each table
holds at most one tagged rule and at most one tagged default route, and a rule and a route
that are there together were installed by the same pass for the same spec. -/
theorem no_mixed_routing_state {s : Traced} {p : Rtnetlink (Except Errno Unit)}
    (h : History Lossy s p) (t : UInt32) :
    (s.kernel.rulesOf t).length ≤ 1 ∧
      ((s.kernel.routesOf t).filter Route.isDefault).length ≤ 1 ∧
      ∀ r ∈ s.kernel.rulesOf t, ∀ q ∈ s.kernel.routesOf t,
        s.ruleBy t = s.routeBy t ∧ ∃ spec ∈ s.desired (s.ruleBy t), ∃ idx,
          ⟨.getLink spec.iface, .ok (some idx)⟩ ∈ s.log (s.ruleBy t) ∧
          tableIdFor spec.src = t ∧ r = ruleFor spec.src t spec.fwmark ∧
          q = routeFor t spec.gateway idx := by
  have hinv := history_inv h
  -- a rule and a route that are there together are both those of the one owner
  refine ⟨hinv.rules_length t, ?_, fun r hr q hq => ?_⟩
  · exact (List.length_filter_le _ _).trans (hinv.routes_length t)
  · obtain ⟨w, hw⟩ := hinv t
    have hr' := List.mem_singleton.mp (hw.rules.subset hr)
    have hq' := List.mem_singleton.mp (hw.routes.subset hq)
    have hsame := hw.same (List.ne_nil_of_mem hr) (List.ne_nil_of_mem hq)
    obtain ⟨⟨-, spec, hspec, hsrc, hgw, hmark, hlink⟩, htable⟩ :=
      hw.ruleFound (List.ne_nil_of_mem hr)
    refine ⟨hsame, spec, hspec, w.ifindex, hlink, hsrc ▸ htable, ?_, ?_⟩
    · rw [hr', hsrc, hmark]
    · rw [hq', hgw]

/-- One pass for `markedSpec` from an empty kernel, where every link has the index 2. -/
def markedHistory : Traced := ({ kernel := {} } : Traced).runPass (fun _ => some 2) [markedSpec]

lemma markedHistory_lossy : ∃ res, History Lossy markedHistory (ret res) := by
  obtain ⟨res, h⟩ := history_firstPass (fun _ => some 2) [markedSpec]
  exact ⟨res, h.mono fun _ _ _ _ hr => hr.exact.lossy⟩

theorem no_mixed_routing_state_marked :
    (markedHistory.kernel.rulesOf 1846396077).length = 1 ∧
      (markedHistory.kernel.routesOf 1846396077).length = 1 ∧
      ∀ r ∈ markedHistory.kernel.rulesOf 1846396077,
        ∀ q ∈ markedHistory.kernel.routesOf 1846396077,
        markedHistory.ruleBy 1846396077 = markedHistory.routeBy 1846396077 ∧
          ∃ spec ∈ markedHistory.desired (markedHistory.ruleBy 1846396077), ∃ idx,
          ⟨.getLink spec.iface, .ok (some idx)⟩ ∈
            markedHistory.log (markedHistory.ruleBy 1846396077) ∧
          tableIdFor spec.src = 1846396077 ∧ r = ruleFor spec.src 1846396077 spec.fwmark ∧
          q = routeFor 1846396077 spec.gateway idx := by
  obtain ⟨res, h⟩ := markedHistory_lossy
  exact ⟨by decide, by decide, (no_mixed_routing_state h 1846396077).2.2⟩

end Dumbarp.Routing
