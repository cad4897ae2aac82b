/-
What dumbarp leaves alone.

The reconciler shares the kernel with others.  Every request of a pass, whatever the kernel
dumped and whichever requests failed, is for an object of dumbarp: the deletes name its
priority and a host source, or its protocol, and the adds carry the tag and go to a table
that the kernel does not reserve.  So a pass is a run of own edits (`OwnEdit`), and these
leave the objects of others as they were, in their order.
-/
import Dumbarp.Routing.Delete

namespace Dumbarp.Routing

open Interact Interact.Prog

/-! ## What a pass may do -/

/-- The tables that the kernel keeps for itself. -/
def Reserved (t : UInt32) : Prop := t = 0 ∨ t = 253 ∨ t = 254 ∨ t = 255

/-- One object of dumbarp comes or goes; none comes to a reserved table. -/
inductive OwnEdit : Kernel → Kernel → Prop
  | addRule (k : Kernel) {r : Rule} (hr : r.tagged) (ht : ¬ Reserved r.table) :
      OwnEdit k { k with rules := insertRule r k.rules }
  | delRule {k : Kernel} {l₁ r l₂} (hk : k.rules = l₁ ++ r :: l₂) (hr : r.tagged) :
      OwnEdit k { k with rules := l₁ ++ l₂ }
  | addRoute (k : Kernel) {q : Route} (hq : q.tagged) (ht : ¬ Reserved q.table) :
      OwnEdit k { k with routes := insertRoute q k.routes }
  | delRoute {k : Kernel} {l₁ q l₂} (hk : k.routes = l₁ ++ q :: l₂) (hq : q.tagged) :
      OwnEdit k { k with routes := l₁ ++ l₂ }

/-- The address family that a change is about. -/
def Change.family : Change → AddressFamily
  | .addRule m | .delRule m => m.header.family
  | .addRoute m | .delRoute m => m.header.family

/-- A kernel of which nothing is known but what deletes select: a lookup and a dump may be
answered in any way, a failed change may have taken effect, and a delete takes any one of the
objects that agree with it. -/
inductive LooseStep : Sem Kernel NetlinkOp NetlinkOp.Res
  | getLink (k iface r) : LooseStep k (.getLink iface) r k
  | dumpRules (k r) : LooseStep k .dumpRules r k
  | dumpRoutes (k r) : LooseStep k .dumpRoutes r k
  | change {k c r k'} (h : Lossy k c r k') : LooseStep k (.change c) r k'

/-- The steps that change nothing or make one own edit of the IPv4 state. -/
def OwnStep : Sem Kernel NetlinkOp NetlinkOp.Res := fun k op r k' =>
  LooseStep k op r k' ∧ (k' = k ∨ OwnEdit k k') ∧ ∀ c, op = .change c → c.family = .inet

/-- A listing that failed. -/
inductive FailedListing : NetlinkEvent → Prop
  | rules (e : Errno) : FailedListing ⟨.dumpRules, .error e⟩
  | routes (e : Errno) : FailedListing ⟨.dumpRoutes, .error e⟩

lemma KernelStep.loose {k k' : Kernel} {op : NetlinkOp} {r : op.Res}
    (h : KernelStep Lossy k op r k') : LooseStep k op r k' := by
  cases h with
  | getLink => exact LooseStep.getLink _ _ _
  | dumpRules => exact LooseStep.dumpRules _ _
  | dumpRulesFails => exact LooseStep.dumpRules _ _
  | dumpRoutes => exact LooseStep.dumpRoutes _ _
  | dumpRoutesFails => exact LooseStep.dumpRoutes _ _
  | change h => exact LooseStep.change h

/-! ## The requests of a pass -/

/-- The changes that a pass asks for, of whatever table; it adds to no reserved one. -/
inductive OwnChange : Change → Prop
  | addRule (src : Ipv4Addr) {t : UInt32} (fwmark : Option UInt32) (ht : ¬ Reserved t) :
      OwnChange (.addRule (addRuleRequest src t fwmark))
  | delRule (src : Ipv4Addr) (t : UInt32) (fwmark : Option UInt32) :
      OwnChange (.delRule (delRuleRequest src t fwmark))
  | addRoute {t : UInt32} (gateway : Ipv4Addr) (ifindex : UInt32) (ht : ¬ Reserved t) :
      OwnChange (.addRoute (addRouteRequest t gateway ifindex))
  | delRoute (t : UInt32) : OwnChange (.delRoute (delRouteRequest t))

/-- One of the changes of a pass. -/
def IsOwnChange (op : NetlinkOp) : Prop := ∃ c, op = .change c ∧ OwnChange c

/-- A request that changes nothing, or one of the changes of a pass. -/
def OwnRequest (op : NetlinkOp) : Prop := ∀ c, op = .change c → OwnChange c

lemma IsOwnChange.ownRequest {op : NetlinkOp} (h : IsOwnChange op) : OwnRequest op := by
  obtain ⟨c, rfl, hc⟩ := h
  intro c' hc'
  exact NetlinkOp.change.inj hc' ▸ hc

/-- **The table of a source is never a reserved one.** -/
lemma tableIdFor_not_reserved (ip : Ipv4Addr) : ¬ Reserved (tableIdFor ip) := by
  rw [tableIdFor]
  split
  · rename_i hraw
    rcases hraw with h | h | h | h <;> rw [h, Reserved] <;> decide
  · assumption

section Requests

variable {t : UInt32} {iter : IterOrder}

/-- The first loop resolves specs for tables of sources only. -/
lemma resolve_ends {specs : List RouteSpec} {cache : HashMap String UInt32}
    {resolved : HashMap UInt32 ResolvedSpec}
    (h : ∀ t w, resolved.lookup t = some w → ¬ Reserved t) :
    Ends (fun m : HashMap UInt32 ResolvedSpec => ∀ t w, m.lookup t = some w → ¬ Reserved t)
      (resolve specs cache resolved) := by
  induction specs generalizing cache resolved with
  | nil => exact h
  | cons spec specs ih =>
    have hstore (w' : ResolvedSpec) : ∀ t w,
        (resolved.insert (tableIdFor spec.src) w').lookup t = some w → ¬ Reserved t :=
      HashMap.forall_lookup_insert h (tableIdFor_not_reserved spec.src)
    rw [resolve]
    cases cache.lookup spec.iface with
    | some idx => exact ih (hstore _)
    | none =>
      intro r
      cases r with
      | error e => exact ih h
      | ok found =>
        cases found with
        | none => exact ih h
        | some idx => exact ih (hstore _)

lemma delRules_makes (cur : List CurrentRule) (failed : Bool) :
    Makes IsOwnChange (delRules t cur failed) := by
  induction cur generalizing failed with
  | nil => trivial
  | cons rule cur ih =>
    refine ⟨⟨_, rfl, OwnChange.delRule _ _ _⟩, fun r => ?_⟩
    cases r with
    | error e => exact ih true
    | ok u => exact ih failed

lemma delListedRoute_makes (cur : Option CurrentRoute) (failed : Bool) :
    Makes IsOwnChange (delListedRoute t cur failed) := by
  cases cur with
  | none => trivial
  | some rt =>
    refine ⟨⟨_, rfl, OwnChange.delRoute _⟩, fun r => ?_⟩
    cases r <;> trivial

lemma install_makes (w : ResolvedSpec) (ht : ¬ Reserved t) : Makes IsOwnChange (install t w) := by
  refine ⟨⟨_, rfl, OwnChange.addRule _ _ ht⟩, fun r => ?_⟩
  cases r with
  | error e => trivial
  | ok u => exact ⟨⟨_, rfl, OwnChange.addRoute _ _ ht⟩, fun _ => trivial⟩

/-- The body of the loop, at any table and for whatever was listed there. -/
lemma reconcileTable_makes {want : Option ResolvedSpec} (haveRules : List CurrentRule)
    (haveRoute : Option CurrentRoute) (ht : ∀ w, want = some w → ¬ Reserved t) :
    Makes IsOwnChange (reconcileTable want haveRules haveRoute t) := by
  rw [reconcileTable]
  split
  · trivial
  · refine (delRules_makes haveRules false).bind fun failed => ?_
    refine (delListedRoute_makes haveRoute failed).bind fun failed => ?_
    cases want with
    | none => trivial
    | some w =>
      cases failed with
      | true => trivial
      | false => exact install_makes w (ht w rfl)

/-- The loop over the tables, for whatever was listed. -/
lemma reconcileTables_makes (currentRules : HashMap UInt32 (List CurrentRule))
    (currentRoutes : HashMap UInt32 CurrentRoute) {resolved : HashMap UInt32 ResolvedSpec}
    (h : ∀ t w, resolved.lookup t = some w → ¬ Reserved t) :
    Makes IsOwnChange (reconcileTables iter currentRules currentRoutes resolved) :=
  makes_forEach fun t _ => reconcileTable_makes _ _ (h t)

/-- **Every request of a pass is an own one**, whatever is dumped and whatever fails. -/
lemma reconcile_makes (desired : List RouteSpec) : Makes OwnRequest (reconcile iter desired) := by
  have hown : ∀ op, IsLookup op → OwnRequest op := by
    rintro - ⟨iface, rfl⟩ c ⟨⟩
  have hlookup := (resolve_makes desired ∅ ∅).mono hown
  refine hlookup.bind_ends (resolve_ends fun t w hw => absurd hw (by simp)) fun resolved hres => ?_
  refine ⟨nofun, fun r => ?_⟩
  cases r with
  | error e => trivial
  | ok msgs₁ =>
    refine ⟨nofun, fun r => ?_⟩
    cases r with
    | error e => trivial
    | ok msgs₂ =>
      have htables : Makes IsOwnChange
          (reconcileTables iter (collectRules msgs₁) (collectRoutes msgs₂) resolved) :=
        reconcileTables_makes _ _ hres
      exact (htables.mono fun _ hop => hop.ownRequest).bind fun _ => trivial

end Requests

/-! ## What own requests leave -/

section Effects

variable {k k' : Kernel}

lemma looseStep_silent {op : NetlinkOp} {r : op.Res} (h : LooseStep k op r k')
    (hop : ¬ IsChange op) : k' = k := by
  cases h with
  | getLink | dumpRules | dumpRoutes => rfl
  | change h => exact absurd trivial hop

lemma lossy_inv {c : Change} {r : Except Errno Unit} (h : Lossy k c r k') :
    k' = k ∨ Takes k c k' := by
  cases h with
  | done h => exact Or.inr h
  | lost e h => exact Or.inr h
  | refused => exact Or.inl rfl

/-- An own change takes effect as an own edit: what a delete selects carries the tag. -/
lemma takes_ownEdit {c : Change} (hc : OwnChange c) (h : Takes k c k') : OwnEdit k k' := by
  cases hc with
  | addRule src fwmark ht =>
    cases h
    rw [ruleOf_addRuleRequest]
    exact OwnEdit.addRule k (ruleFor_tagged _ _ _) ht
  | addRoute gateway ifindex ht =>
    cases h
    rw [routeOf_addRouteRequest]
    exact OwnEdit.addRoute k (routeFor_tagged _ _ _) ht
  | delRule src t fwmark =>
    cases h with
    | delRule hk hr =>
      obtain ⟨-, hlen, -, -, hprio, -⟩ := agreesRule_delRuleRequest.mp hr
      exact OwnEdit.delRule hk (by simp [Rule.tagged, hlen, hprio])
  | delRoute t =>
    cases h with
    | delRoute hk hq =>
      obtain ⟨-, -, htag⟩ := agreesRoute_delRouteRequest.mp hq
      exact OwnEdit.delRoute hk htag

lemma ownChange_family {c : Change} (hc : OwnChange c) : c.family = .inet := by
  cases hc with
  | addRule src fwmark ht =>
    cases fwmark <;> simp only [Change.family, addRuleRequest, RuleMessage.tableId] <;>
      split <;> rfl
  | delRule src t fwmark => cases fwmark <;> rfl
  | addRoute gateway ifindex ht =>
    rw [Change.family, addRouteRequest, RouteMessage.tableId]
    split <;> rfl
  | delRoute t =>
    rw [Change.family, delRouteRequest, RouteMessage.tableId]
    split <;> rfl

/-- The step lemma: an own request, answered by any kernel, makes an own step. -/
lemma ownStep_of_request {op : NetlinkOp} {r : op.Res} (hop : OwnRequest op)
    (h : LooseStep k op r k') : OwnStep k op r k' := by
  refine ⟨h, ?_, fun c hc => ownChange_family (hop c hc)⟩
  cases h with
  | getLink | dumpRules | dumpRoutes => exact Or.inl rfl
  | change h => exact (lossy_inv h).imp_right (takes_ownEdit (hop _ rfl))

/-- The rules of others. -/
def Kernel.foreignRules (k : Kernel) : List Rule := k.rules.filter fun r => !r.tagged

/-- The routes of others. -/
def Kernel.foreignRoutes (k : Kernel) : List Route := k.routes.filter fun q => !q.tagged

lemma filter_insertRoute_of_neg {p : Route → Bool} {q : Route} (hq : p q = false)
    (qs : List Route) : (insertRoute q qs).filter p = qs.filter p := by
  induction qs with
  | nil => simp [insertRoute, hq]
  | cons x xs ih =>
    rw [insertRoute]
    split
    · simp only [List.filter_cons, ih]
    · rw [List.filter_cons, hq]
      rfl

/-- **An own edit leaves the objects of others as they are**, in their order. -/
lemma OwnEdit.foreign (h : OwnEdit k k') :
    k'.foreignRules = k.foreignRules ∧ k'.foreignRoutes = k.foreignRoutes := by
  cases h with
  | addRule hr ht => exact ⟨filter_insertRule (by simp [hr]) _, rfl⟩
  | addRoute hq ht => exact ⟨rfl, filter_insertRoute_of_neg (by simp [hq]) _⟩
  | delRule hk hr =>
    refine ⟨?_, rfl⟩
    rw [Kernel.foreignRules, Kernel.foreignRules, hk, List.filter_append, List.filter_append,
      List.filter_cons_of_neg (by simp [hr])]
  | delRoute hk hq =>
    refine ⟨rfl, ?_⟩
    rw [Kernel.foreignRoutes, Kernel.foreignRoutes, hk, List.filter_append, List.filter_append,
      List.filter_cons_of_neg (by simp [hq])]

end Effects

/-! ## A pass -/

section Pass

variable {k k' : Kernel} {iter : IterOrder} {desired : List RouteSpec} {es : List NetlinkEvent}
  {res : Except Errno Unit}

lemma resolve_loose {resolved : HashMap UInt32 ResolvedSpec}
    (h : Runs LooseStep (resolve desired ∅ ∅) k es resolved k') :
    k' = k ∧ ∀ e ∈ es, IsLookup e.op := by
  have hmakes := resolve_makes desired ∅ ∅
  refine ⟨hmakes.preserves (J := fun s => s = k) ?_ h rfl, hmakes.events h⟩
  rintro s - r s' ⟨iface, rfl⟩ hstep rfl
  exact looseStep_silent hstep id

/-- A pass with a failed listing asks for no change. -/
lemma failedListing_silent (h : Runs LooseStep (reconcile iter desired) k es res k')
    (hfail : ∃ e ∈ es, FailedListing e) : k' = k ∧ ∀ e ∈ es, ¬ IsChange e.op := by
  obtain ⟨es₁, resolved, k₁, es₂, rfl, h₁, h₂⟩ := runs_bind_inv h
  obtain ⟨rfl, hlookup⟩ := resolve_loose h₁
  have hsilent : ∀ e ∈ es₁, ¬ IsChange e.op := fun e he => (hlookup e he).not_isChange
  rcases reconcileResolved_cases h₂ with ⟨e, rfl, -, hstep⟩ |
    ⟨msgs, e, k₂, rfl, -, hstep₁, hstep₂⟩ | ⟨msgs₁, msgs₂, k₂, k₃, es', rfl, -, -, -, hloop⟩
  · exact ⟨looseStep_silent hstep id, by simpa [or_imp, forall_and, IsChange] using hsilent⟩
  · refine ⟨?_, by simpa [or_imp, forall_and, IsChange] using hsilent⟩
    exact (looseStep_silent hstep₂ id).trans (looseStep_silent hstep₁ id)
  · -- neither listing failed, and a pass makes no other: its loop makes changes only
    have hres := (resolve_ends fun t w hw => absurd hw (by simp)).runs h₁
    have hchange := (reconcileTables_makes _ _ hres).events hloop
    obtain ⟨e, he, hfailed⟩ := hfail
    exfalso
    simp only [List.mem_append, List.mem_cons] at he
    rcases he with he | rfl | rfl | he
    · obtain ⟨iface, hop⟩ := hlookup e he
      cases hfailed <;> cases hop
    · cases hfailed
    · cases hfailed
    · obtain ⟨c, hop, -⟩ := hchange e he
      cases hfailed <;> cases hop

/-- **Foreign routing state is never touched.** -/
theorem foreign_untouched (h : Runs LooseStep (reconcile iter desired) k es res k') :
    Runs OwnStep (reconcile iter desired) k es res k' ∧
      k'.foreignRules = k.foreignRules ∧ k'.foreignRoutes = k.foreignRoutes ∧
      ((∃ e ∈ es, FailedListing e) → k' = k ∧ ∀ e ∈ es, ¬ IsChange e.op) := by
  have hmakes : Makes OwnRequest (reconcile iter desired) := reconcile_makes desired
  have hown : Runs OwnStep (reconcile iter desired) k es res k' :=
    h.mono (P := fun e => OwnRequest e.op) (fun _ _ _ _ hop hs => ownStep_of_request hop hs)
      (hmakes.events h)
  have hforeign : k'.foreignRules = k.foreignRules ∧ k'.foreignRoutes = k.foreignRoutes := by
    refine hmakes.preserves (J := fun s => s.foreignRules = k.foreignRules ∧
      s.foreignRoutes = k.foreignRoutes) ?_ h ⟨rfl, rfl⟩
    intro s op r s' hop hstep hs
    obtain ⟨-, rfl | hedit, -⟩ := ownStep_of_request hop hstep
    · exact hs
    · obtain ⟨hrules, hroutes⟩ := hedit.foreign
      exact ⟨hrules.trans hs.1, hroutes.trans hs.2⟩
  exact ⟨hown, hforeign.1, hforeign.2, failedListing_silent h⟩

/-- A kernel where others have a rule for the marked source and a route in its table. -/
def sharedTable : Kernel where
  rules := [{ ruleFor markedSpec.src 1846396077 (some 2) with priority := 100 }]
  routes := [{ routeFor 1846396077 ⟨10, 0, 0, 9⟩ 3 with protocol := rtprotStatic }]

lemma markedPass_runs_loose (k : Kernel) : Runs LooseStep
    (reconcile IterOrder.collected [markedSpec]) k (markedPass k).1 (markedPass k).2.1
    (markedPass k).2.2 :=
  exec_runs (fun k op => ((answer_step _ k op).mono fun _ _ _ _ hr => hr.exact.lossy).loose) _ _

/-- A pass adds its rule next to the rule and the route of others and keeps them. -/
theorem foreign_untouched_in_shared_table :
    (markedPass sharedTable).2.2.rules ≠ sharedTable.rules ∧
      (markedPass sharedTable).2.2.foreignRules = sharedTable.rules ∧
      (markedPass sharedTable).2.2.foreignRoutes = sharedTable.routes := by
  obtain ⟨-, hrules, hroutes, -⟩ := foreign_untouched (markedPass_runs_loose sharedTable)
  exact ⟨by decide, hrules, hroutes⟩

end Pass

end Dumbarp.Routing
