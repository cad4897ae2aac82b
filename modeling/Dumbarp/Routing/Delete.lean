/-
Which listed objects the reconciler can delete.

A listed rule is deleted by a request that names the table action and, for a marked rule, a
mark without a mask, which stands for the full mask; a listed route is deleted by a request
for the default route.  So a listed object is selected by its own delete request exactly when
it is of that shape (`Rule.Deletable`, `Route.isDefault`), and a table that holds one of any
other shape is never repaired.
-/
import Dumbarp.Routing.Pass

namespace Dumbarp.Routing

open Interact Interact.Prog

/-- The rules that a delete request of the reconciler can name. -/
def Rule.Deletable (r : Rule) : Prop :=
  r.action = .toTable ∧ (r.fwMark = 0 ∨ r.fwMask = fwmaskExact)

/-- The table `t` has its wanted rule, no other, and no unwanted route. -/
def Table.Repaired (t : UInt32) (want : Option ResolvedSpec) (T : Table) : Prop :=
  T.rules = (want.map fun w => ruleFor w.src t w.fwmark).toList ∧
    T.routes.filter Route.tagged ⊆ (want.map fun w => routeFor t w.gateway w.ifindex).toList

lemma repaired_iff {k : Kernel} {t : UInt32} {want : Option ResolvedSpec} :
    (k.table t).Repaired t want ↔
      k.rulesOf t = (want.map fun w => ruleFor w.src t w.fwmark).toList ∧
        k.routesOf t ⊆ (want.map fun w => routeFor t w.gateway w.ifindex).toList :=
  Iff.rfl

section Select

variable {k : Kernel} {t : UInt32}

lemma ruleFor_deletable (src : Ipv4Addr) (table : UInt32) (fwmark : Option UInt32) :
    (ruleFor src table fwmark).Deletable := by
  refine ⟨rfl, ?_⟩
  cases fwmark with
  | none => exact Or.inl rfl
  | some m => exact Or.inr rfl

/-- The delete request for a listed rule agrees with it exactly when it is deletable. -/
lemma agreesRule_self {r : Rule} (htag : r.tagged) :
    agreesRule (delRuleRequest r.src r.table r.current.fwmark) r ↔ r.Deletable := by
  obtain ⟨hprio, hlen⟩ : r.priority = dumbarpPriority ∧ r.srcLen = 32 := by
    simpa [Rule.tagged] using htag
  rw [agreesRule_delRuleRequest, Rule.Deletable, Rule.current]
  by_cases hm : r.fwMark = 0
  · simp [hm, hprio, hlen]
  · simp [hm, hprio, hlen]

/-- A delete request for the table `t` finds what it finds among the tagged rules of `t`. -/
lemma find_agreesRule (k : Kernel) (src : Ipv4Addr) (t : UInt32) (fwmark : Option UInt32) :
    k.rules.find? (agreesRule (delRuleRequest src t fwmark)) =
      (k.rulesOf t).find? (agreesRule (delRuleRequest src t fwmark)) := by
  rw [Kernel.rulesOf, List.find?_filter]
  congr 1
  funext r
  rw [Bool.eq_iff_iff, decide_eq_true_iff, inTable_rule_iff, agreesRule_delRuleRequest]
  constructor
  · rintro ⟨hact, hlen, hsrc, htable, hprio, hmark⟩
    exact ⟨⟨by simp [Rule.tagged, hprio, hlen], htable⟩, hact, hlen, hsrc, htable, hprio, hmark⟩
  · exact fun h => h.2

lemma find_agreesRoute (k : Kernel) (t : UInt32) :
    k.routes.find? (agreesRoute (delRouteRequest t)) =
      (k.routesOf t).find? (agreesRoute (delRouteRequest t)) := by
  rw [Kernel.routesOf, Kernel.tableRoutes, List.filter_filter, List.find?_filter]
  congr 1
  funext q
  rw [Bool.eq_iff_iff, decide_eq_true_iff, Bool.and_eq_true, inTable_route_iff,
    agreesRoute_delRouteRequest]
  constructor
  · rintro ⟨htable, hdef, htag⟩
    exact ⟨⟨htag, htable⟩, htable, hdef, htag⟩
  · exact fun h => h.2

/-- **A sole rule is selected by its own delete request exactly when it is deletable.** -/
lemma delRule_selects_iff {r : Rule} (hr : k.rulesOf t = [r]) :
    k.rules.find? (agreesRule (delRuleRequest r.src t r.current.fwmark)) = some r ↔
      r.Deletable := by
  obtain ⟨-, htag, htable⟩ := mem_rulesOf.mp (hr ▸ List.mem_singleton_self r)
  rw [find_agreesRule, hr, ← agreesRule_self htag, htable]
  simp

/-- **A sole route is selected by its own delete request exactly when it is a default.** -/
lemma delRoute_selects_iff {q : Route} (hq : k.routesOf t = [q]) :
    k.routes.find? (agreesRoute (delRouteRequest t)) = some q ↔ q.isDefault := by
  obtain ⟨-, htable, htag⟩ := mem_routesOf.mp (hq ▸ List.mem_singleton_self q)
  rw [find_agreesRoute, hq]
  have hagrees : agreesRoute (delRouteRequest t) q ↔ q.isDefault := by
    rw [agreesRoute_delRouteRequest]
    exact ⟨fun h => h.2.1, fun h => ⟨htable, h, htag⟩⟩
  simp [hagrees]

end Select

/-! ## A table changes only at its turn -/

/-- The changes that the body of the loop asks for at the table `t`. -/
inductive ChangeOf (t : UInt32) : Change → Prop
  | addRule (src fwmark) : ChangeOf t (.addRule (addRuleRequest src t fwmark))
  | delRule (src fwmark) : ChangeOf t (.delRule (delRuleRequest src t fwmark))
  | addRoute (gateway ifindex) : ChangeOf t (.addRoute (addRouteRequest t gateway ifindex))
  | delRoute : ChangeOf t (.delRoute (delRouteRequest t))

section Turn

variable {k k' : Kernel} {t : UInt32}

lemma onlyTable_of_change {c : Change} {r : Except Errno Unit} (hc : ChangeOf t c)
    (h : KernelStep Exact k (.change c) r k') : OnlyTable t k k' := by
  cases kernelStep_change_inv h with
  | refused => exact fun _ _ => rfl
  | done happly =>
    have htakes := takes_of_apply happly
    cases hc with
    | addRule => exact onlyTable_of_routes (takes_addRule htakes).2.1 (takes_addRule htakes).2.2
    | delRule => exact onlyTable_of_routes (takes_delRule htakes).2.1 (takes_delRule htakes).2.2
    | addRoute => exact onlyTable_of_rules (takes_addRoute htakes).2.1 (takes_addRoute htakes).2.2
    | delRoute => exact onlyTable_of_rules (takes_delRoute htakes).2.1 (takes_delRoute htakes).2.2

lemma delRules_onlyTable (cur : List CurrentRule) (failed : Bool) :
    Alone (KernelStep Exact) (delRules t cur failed) (fun _ k' => OnlyTable t k k') k := by
  induction cur generalizing failed k with
  | nil => exact alone_ret.mpr fun _ _ => rfl
  | cons rule cur ih =>
    refine alone_call.mpr fun r k₁ hstep => ?_
    have honly := onlyTable_of_change (ChangeOf.delRule rule.src rule.fwmark) hstep
    cases r with
    | error e => exact (ih (k := k₁) true).mono fun _ _ _ h => honly.trans h
    | ok u => exact (ih (k := k₁) failed).mono fun _ _ _ h => honly.trans h

lemma delListedRoute_onlyTable (cur : Option CurrentRoute) (failed : Bool) :
    Alone (KernelStep Exact) (delListedRoute t cur failed) (fun _ k' => OnlyTable t k k') k := by
  cases cur with
  | none => exact alone_ret.mpr fun _ _ => rfl
  | some rt =>
    refine alone_call.mpr fun r k₁ hstep => ?_
    have honly := onlyTable_of_change ChangeOf.delRoute hstep
    cases r with
    | error e => exact alone_ret.mpr honly
    | ok u => exact alone_ret.mpr honly

lemma install_onlyTable (w : ResolvedSpec) :
    Alone (KernelStep Exact) (install t w) (fun _ k' => OnlyTable t k k') k := by
  refine alone_call.mpr fun r k₁ hstep => ?_
  have honly := onlyTable_of_change (ChangeOf.addRule w.src w.fwmark) hstep
  cases r with
  | error e => exact alone_ret.mpr honly
  | ok u =>
    refine alone_call.mpr fun r k₂ hstep' => alone_ret.mpr ?_
    exact honly.trans (onlyTable_of_change (ChangeOf.addRoute w.gateway w.ifindex) hstep')

/-- The body of the loop leaves the other tables alone. -/
lemma reconcileTable_onlyTable (want : Option ResolvedSpec) (haveRules : List CurrentRule)
    (haveRoute : Option CurrentRoute) :
    Alone (KernelStep Exact) (reconcileTable want haveRules haveRoute t)
      (fun _ k' => OnlyTable t k k') k := by
  rw [reconcileTable]
  split
  · exact alone_ret.mpr fun _ _ => rfl
  · refine Safe.bind ((delRules_onlyTable haveRules false).mono fun failed k₁ _ h₁ => ?_)
    refine Safe.bind ((delListedRoute_onlyTable haveRoute failed).mono fun failed k₂ _ h₂ => ?_)
    have h₁₂ := h₁.trans h₂
    cases want with
    | none => exact alone_ret.mpr h₁₂
    | some w =>
      cases failed with
      | true => exact alone_ret.mpr h₁₂
      | false => exact (install_onlyTable w).mono fun _ _ _ h₃ => h₁₂.trans h₃

end Turn

/-! ## The turn of a table with one object -/

section Repair

variable {k k' : Kernel} {t : UInt32}

/-- On a cleared table a kernel that obeys installs the wanted rule and no unwanted route. -/
lemma install_repairs (w : ResolvedSpec) (hrules : k.rulesOf t = []) (hroutes : k.routesOf t = []) :
    Alone (KernelStep Reliable) (install t w) (fun _ k' => (k'.table t).Repaired t (some w)) k := by
  refine alone_call.mpr fun r k₁ hstep => ?_
  cases kernelStep_change_inv hstep with
  | absent e h => cases h
  | present e hp =>
    rw [Kernel.present, ruleOf_addRuleRequest] at hp
    have hmem := mem_rulesOf.mpr ⟨hp, ruleFor_tagged _ _ _, ruleFor_table _ _ _⟩
    rw [hrules] at hmem
    cases hmem
  | done _ happly =>
    obtain ⟨hperm, -, hsame⟩ := takes_addRule (takes_of_apply happly)
    rw [hrules, List.perm_singleton] at hperm
    have hroutes₁ : k₁.routesOf t = [] := by
      rw [Kernel.routesOf, Kernel.tableRoutes, hsame]
      exact hroutes
    refine alone_call.mpr fun r k₂ hstep' => alone_ret.mpr ?_
    cases kernelStep_change_inv hstep' with
    | absent e h => cases h
    | present e hp => exact repaired_iff.mpr ⟨hperm, by simp [hroutes₁]⟩
    | done _ happly' =>
      obtain ⟨hperm', -, hsame'⟩ := takes_addRoute (takes_of_apply happly')
      rw [hroutes₁, List.perm_singleton] at hperm'
      refine repaired_iff.mpr ⟨?_, by simp [hperm']⟩
      rw [Kernel.rulesOf, hsame']
      exact hperm

lemma apply_delRule_eq_none {m : RuleMessage} :
    k.apply (.delRule m) = none ↔ k.rules.find? (agreesRule m) = none := by
  simp [Kernel.apply]

lemma apply_delRoute_eq_none {m : RouteMessage} :
    k.apply (.delRoute m) = none ↔ k.routes.find? (agreesRoute m) = none := by
  simp [Kernel.apply]

/-- The delete request of a sole rule is carried out exactly when the rule is deletable. -/
lemma apply_delRule_sole {r : Rule} (hr : k.rulesOf t = [r]) :
    k.apply (.delRule (delRuleRequest r.src t r.current.fwmark)) ≠ none ↔ r.Deletable := by
  rw [← delRule_selects_iff hr, Ne, apply_delRule_eq_none, find_agreesRule, hr]
  simp

/-- The delete request of a sole route is carried out exactly when the route is a default. -/
lemma apply_delRoute_sole {q : Route} (hq : k.routesOf t = [q]) :
    k.apply (.delRoute (delRouteRequest t)) ≠ none ↔ q.isDefault := by
  rw [← delRoute_selects_iff hq, Ne, apply_delRoute_eq_none, find_agreesRoute, hq]
  simp

lemma repaired_none (k : Kernel) (t : UInt32) :
    (k.table t).Repaired t none ↔ k.rulesOf t = [] ∧ k.routesOf t = [] := by
  rw [repaired_iff, Option.map_none, Option.map_none, Option.toList_none, Option.toList_none,
    List.subset_nil]

/-- What the loop does for a table once it has asked for the deletions. -/
def afterDeletions (want : Option ResolvedSpec) (t : UInt32) (failed : Bool) : Rtnetlink Unit :=
  match want with
  | none => return ()
  | some w => if failed then return () else install t w

/-- In a cleared table this puts what is wanted. -/
lemma afterDeletions_repairs (want : Option ResolvedSpec) (hrules : k.rulesOf t = [])
    (hroutes : k.routesOf t = []) :
    Alone (KernelStep Reliable) (afterDeletions want t false)
      (fun _ k' => (k'.table t).Repaired t want) k := by
  cases want with
  | none => exact alone_ret.mpr ((repaired_none _ _).mpr ⟨hrules, hroutes⟩)
  | some w => exact install_repairs w hrules hroutes

/-- Where a deletion has failed this does nothing. -/
lemma afterDeletions_failed (want : Option ResolvedSpec) {P : Kernel → Prop} (h : P k) :
    Alone (KernelStep Reliable) (afterDeletions want t true) (fun _ k' => P k') k := by
  cases want with
  | none => exact alone_ret.mpr h
  | some w => exact alone_ret.mpr h

/-- Without its only element a list is empty. -/
lemma rest_of_sole {α : Type} {a b : α} {l₁ l₂ : List α} (h : [a] = l₁ ++ b :: l₂) :
    l₁ ++ l₂ = [] := by
  rcases List.singleton_eq_append_iff.mp h with ⟨rfl, hl⟩ | ⟨-, hl⟩
  · obtain ⟨-, rfl⟩ := List.cons.inj hl
    rfl
  · cases hl

/-- The turn of a table whose only object is a rule. -/
lemma reconcileTable_sole_rule {r : Rule} (hr : k.rulesOf t = [r]) (hq : k.routesOf t = [])
    (want : Option ResolvedSpec) :
    Alone (KernelStep Reliable) (reconcileTable want [r.current] none t)
      (fun _ k' => (k'.table t).Repaired t want ↔ r.Deletable) k := by
  have hup : upToDate want [r.current] none ≠ true := by simp [upToDate]
  rw [reconcileTable, if_neg hup]
  refine alone_call.mpr fun res k₁ hstep => ?_
  have hrel : Reliable k (.delRule (delRuleRequest r.src t r.current.fwmark)) res k₁ :=
    kernelStep_change_inv hstep
  cases hrel with
  | present e hp => exact hp.elim
  | done _ happly =>
    -- the request found a rule of the table, and there is only this one
    have hdel : r.Deletable := by
      rw [← apply_delRule_sole hr, happly]
      exact Option.some_ne_none k₁
    obtain ⟨⟨l₁, r', l₂, hk, hk'⟩, -, hsame⟩ := takes_delRule (takes_of_apply happly)
    have hrules₁ : k₁.rulesOf t = [] := hk'.trans (rest_of_sole (hr.symm.trans hk))
    have hroutes₁ : k₁.routesOf t = [] := by
      rw [Kernel.routesOf, Kernel.tableRoutes, hsame]
      exact hq
    exact (afterDeletions_repairs want hrules₁ hroutes₁).mono fun _ _ _ h => iff_of_true h hdel
  | absent e hnone =>
    -- the request found nothing: the rule stays, and the add is not tried
    have hdel : ¬ r.Deletable := by
      rw [← apply_delRule_sole hr, not_not]
      exact hnone
    refine afterDeletions_failed want (P := fun k' => (k'.table t).Repaired t want ↔ r.Deletable)
      (iff_of_false (fun h => ?_) hdel)
    cases want with
    | none =>
      rw [repaired_none, hr] at h
      cases h.1
    | some w =>
      -- nor is it the wanted rule, which would be deletable
      refine hdel ?_
      have hsame : [r] = [ruleFor w.src t w.fwmark] := hr ▸ (repaired_iff.mp h).1
      rw [List.singleton_inj] at hsame
      exact hsame ▸ ruleFor_deletable _ _ _

/-- The turn of a table whose only object is a route. -/
lemma reconcileTable_sole_route {q : Route} {rt : CurrentRoute} (hr : k.rulesOf t = [])
    (hq : k.routesOf t = [q]) (want : Option ResolvedSpec) :
    Alone (KernelStep Reliable) (reconcileTable want [] (some rt) t)
      (fun _ k' => (k'.table t).Repaired t want ↔ q.isDefault) k := by
  have hup : upToDate want [] (some rt) ≠ true := by simp [upToDate]
  rw [reconcileTable, if_neg hup]
  refine alone_call.mpr fun res k₁ hstep => ?_
  have hrel : Reliable k (.delRoute (delRouteRequest t)) res k₁ := kernelStep_change_inv hstep
  cases hrel with
  | present e hp => exact hp.elim
  | done _ happly =>
    have hdef : q.isDefault := by
      rw [← apply_delRoute_sole hq, happly]
      exact Option.some_ne_none k₁
    obtain ⟨⟨l₁, q', l₂, hk, hk'⟩, -, hsame⟩ := takes_delRoute (takes_of_apply happly)
    have hroutes₁ : k₁.routesOf t = [] := hk'.trans (rest_of_sole (hq.symm.trans hk))
    have hrules₁ : k₁.rulesOf t = [] := by
      rw [Kernel.rulesOf, hsame]
      exact hr
    exact (afterDeletions_repairs want hrules₁ hroutes₁).mono fun _ _ _ h => iff_of_true h hdef
  | absent e hnone =>
    have hdef : ¬ q.isDefault := by
      rw [← apply_delRoute_sole hq, not_not]
      exact hnone
    refine afterDeletions_failed want (P := fun k' => (k'.table t).Repaired t want ↔ q.isDefault)
      (iff_of_false (fun h => ?_) hdef)
    cases want with
    | none =>
      rw [repaired_none, hq] at h
      cases h.2
    | some w =>
      refine hdef ?_
      have hsame := (repaired_iff.mp h).2 (hq ▸ List.mem_singleton_self q)
      simp only [Option.map_some, Option.toList_some, List.mem_singleton] at hsame
      exact hsame ▸ rfl

lemma tagged_of_table {k₁ : Kernel} (h : k₁.table t = k.table t) :
    k₁.rulesOf t = k.rulesOf t ∧ k₁.routesOf t = k.routesOf t :=
  ⟨congrArg Table.rules h, congrArg (fun T => T.routes.filter Route.tagged) h⟩

/-- A pass brings the table `t`, which it found with something in it, where its turn does. -/
lemma reconcile_turn {R : Table → Prop} {iter : IterOrder} {desired : List RouteSpec}
    {es : List NetlinkEvent}
    (hrun : Runs (KernelStep Reliable) (reconcile iter desired) k es (.ok ()) k')
    (hlisted : (k.table t).rules ≠ [] ∨ (k.table t).listedRoute ≠ none)
    (hturn : ∀ k₁, k₁.table t = k.table t →
      Alone (KernelStep Reliable) (reconcileTable (wanted desired es t) (k.table t).listedRules
        (k.table t).listedRoute t) (fun _ k' => R (k'.table t)) k₁) :
    R (k'.table t) := by
  obtain ⟨es₁, resolved, k₀, es₂, rfl, h₁, h₂⟩ := runs_bind_inv hrun
  obtain ⟨rfl, hresolved⟩ := resolve_runs desired h₁
  have hwant : resolved.lookup t = wanted desired (es₁ ++ es₂) t := by
    rw [hresolved es₂ t]
    simp [wanted]
  obtain ⟨e₁, e₂, es', ts, rfl, -, -, hts, hrest, hloop⟩ := reconcileResolved_inv h₂
  have ht : t ∈ ts := by
    by_contra hnot
    obtain ⟨-, hrules, hroute⟩ := hrest t hnot
    exact hlisted.elim (fun h => h hrules) (fun h => h hroute)
  have hbodies : Alone (KernelStep Reliable) (forEach (tableBody resolved k₀) ts)
      (fun _ k' => (∀ t' ∈ ts, t' = t → R (k'.table t')) ∧
        ∀ t' ∉ ts, k'.table t' = k₀.table t') k₀ := by
    refine forEach_tables (T := k₀.table) (R := fun t' T => t' = t → R T)
      (fun t' _ k₁ hk => ?_) hts fun _ _ => rfl
    have honly : Alone (KernelStep Reliable) (tableBody resolved k₀ t')
        (fun _ k' => OnlyTable t' k₁ k') k₁ :=
      (reconcileTable_onlyTable _ _ _).restrict
        fun _ _ _ _ h => h.mono fun _ _ _ _ hr => hr.exact
    -- the turns of the other tables leave this one as it was listed
    by_cases he : t' = t
    · subst he
      refine Safe.and (Safe.mono ?_ fun _ _ _ h _ => h) honly
      rw [tableBody, hwant]
      exact hturn k₁ hk
    · exact honly.mono fun _ _ _ h => ⟨fun h' => absurd h' he, h⟩
  exact (hbodies.runs hloop).2.1 t ht rfl

end Repair

/-- **What the reconciler lists it can delete exactly when it is of the shape it installs.**
For a table whose only object is a rule that is read, or a route that is read, the delete
request built from the value read selects that object, and a pass over a kernel that obeys
repairs the table, if and only if the rule is deletable, or the route is a default route. -/
theorem deletable_iff (k : Kernel) :
    (∀ (r : Rule) (msg : RuleMessage) (t : UInt32) (cur : CurrentRule),
      IsRuleDump r msg → parseDumbarpRule msg = some (t, cur) →
      k.rulesOf t = [r] → k.routesOf t = [] →
      (k.rules.find? (agreesRule (delRuleRequest cur.src t cur.fwmark)) = some r ↔
        r.Deletable) ∧
      ∀ iter desired es k',
        Runs (KernelStep Reliable) (reconcile iter desired) k es (.ok ()) k' →
        ((k'.table t).Repaired t (wanted desired es t) ↔ r.Deletable)) ∧
    ∀ (q : Route) (msg : RouteMessage) (p : ParsedRoute),
      IsRouteDump q msg → parseDumbarpRoute msg = some p →
      k.rulesOf p.table = [] → k.routesOf p.table = [q] →
      (k.routes.find? (agreesRoute (delRouteRequest p.table)) = some q ↔ q.isDefault) ∧
      ∀ iter desired es k',
        Runs (KernelStep Reliable) (reconcile iter desired) k es (.ok ()) k' →
        ((k'.table p.table).Repaired p.table (wanted desired es p.table) ↔ q.isDefault) := by
  constructor
  · intro r msg t cur hdump hparse hr hq
    rw [parse_ruleDump hdump] at hparse
    obtain ⟨-, hcur⟩ := Option.ite_none_right_eq_some.mp hparse
    obtain ⟨rfl, rfl⟩ := Prod.mk.inj (Option.some.inj hcur)
    refine ⟨delRule_selects_iff hr, fun iter desired es k' hrun => ?_⟩
    refine reconcile_turn (R := fun T => T.Repaired r.table (wanted desired es r.table) ↔
      r.Deletable) hrun (Or.inl (by simp [Kernel.table, hr])) fun k₁ hk₁ => ?_
    have hlisted : (k.table r.table).listedRules = [r.current] := by
      simp [Table.listedRules, Kernel.table, hr]
    have hroute : (k.table r.table).listedRoute = none :=
      listedRoute_eq_none.mpr (by simp [hq])
    obtain ⟨hr₁, hq₁⟩ := tagged_of_table hk₁
    rw [hlisted, hroute]
    exact reconcileTable_sole_rule (hr₁.trans hr) (hq₁.trans hq) _
  · intro q msg p hdump hparse hr hq
    have hcur := parse_routeDump hdump
    rw [hparse, Option.map_some, eq_comm, Option.map_eq_some_iff] at hcur
    obtain ⟨c, hc, he⟩ := hcur
    refine ⟨delRoute_selects_iff hq, fun iter desired es k' hrun => ?_⟩
    have hroute : (k.table p.table).listedRoute = some c := by
      have hone := listedRoute_eq k p.table
      rwa [hq, List.filterMap_cons_some hc] at hone
    refine reconcile_turn (R := fun T => T.Repaired p.table (wanted desired es p.table) ↔
      q.isDefault) hrun (Or.inr (by simp [hroute])) fun k₁ hk₁ => ?_
    have hlisted : (k.table p.table).listedRules = [] := by
      simp [Table.listedRules, Kernel.table, hr]
    obtain ⟨hr₁, hq₁⟩ := tagged_of_table hk₁
    rw [hlisted, hroute]
    exact reconcileTable_sole_route (hr₁.trans hr) (hq₁.trans hq) _

/-- A rule that compares four bits of the mark only. -/
def narrowRule : Rule := { ruleFor markedSpec.src 1846396077 (some 2) with fwMask := 0x0F }

/-- A rule with a narrow mask is listed, is not selected by its delete request and blocks its
table: a pass leaves the kernel as it was, and so does every later one. -/
theorem narrow_mask_blocks :
    parseDumbarpRule (dumpRule narrowRule) = some (1846396077, narrowRule.current) ∧
      ({ rules := [narrowRule] } : Kernel).rules.find? (agreesRule (delRuleRequest
        narrowRule.current.src 1846396077 narrowRule.current.fwmark)) = none ∧
      Runs (KernelStep Reliable) (reconcile IterOrder.collected [markedSpec])
        { rules := [narrowRule] } (markedPass { rules := [narrowRule] }).1 (.ok ())
        { rules := [narrowRule] } := by
  refine ⟨by decide, by decide, ?_⟩
  have hres : (markedPass { rules := [narrowRule] }).2 = (.ok (), { rules := [narrowRule] }) := by
    decide
  have hrun := markedPass_runs { rules := [narrowRule] }
  rwa [hres] at hrun

/-- A rule for another mark, of which it compares all bits. -/
def staleRule : Rule := ruleFor markedSpec.src 1846396077 (some 3)

/-- A marked rule with the full mask is selected by its delete request, and a pass puts the wanted
rule in its place; the default route of an unfinished pass is selected by its own. -/
theorem deletable_rule_and_route :
    ({ rules := [staleRule] } : Kernel).rules.find? (agreesRule (delRuleRequest
        staleRule.current.src 1846396077 staleRule.current.fwmark)) = some staleRule ∧
      ((markedPass { rules := [staleRule] }).2.2.table 1846396077).Repaired 1846396077
        (wanted [markedSpec] (markedPass { rules := [staleRule] }).1 1846396077) ∧
      (markedPass { rules := [staleRule] }).2.2.rules =
        [ruleFor markedSpec.src 1846396077 (some 2)] ∧
      ({ routes := [routeFor 1846396077 ⟨10, 0, 0, 9⟩ 2] } : Kernel).routes.find?
        (agreesRoute (delRouteRequest 1846396077)) =
          some (routeFor 1846396077 ⟨10, 0, 0, 9⟩ 2) := by
  have hdeletable : staleRule.Deletable := ruleFor_deletable _ _ _
  have hrun := markedPass_runs { rules := [staleRule] }
  have hok : (markedPass { rules := [staleRule] }).2.1 = .ok () := by decide
  rw [hok] at hrun
  obtain ⟨hselects, hrepairs⟩ := (deletable_iff { rules := [staleRule] }).1 staleRule
    (dumpRule staleRule) 1846396077 staleRule.current (isRuleDump_dumpRule _) (by decide)
    (by decide) (by decide)
  have hroute := ((deletable_iff { routes := [routeFor 1846396077 ⟨10, 0, 0, 9⟩ 2] }).2 _
    (dumpRoute (routeFor 1846396077 ⟨10, 0, 0, 9⟩ 2)) ⟨1846396077, ⟨10, 0, 0, 9⟩, 2, true⟩
    (isRouteDump_dumpRoute _) (by decide) (by decide) (by decide)).1
  exact ⟨hselects.mpr hdeletable, (hrepairs _ _ _ _ hrun).mpr hdeletable, by decide,
    hroute.mpr (by decide)⟩

end Dumbarp.Routing
