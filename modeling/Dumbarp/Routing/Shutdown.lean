/-
Shutting down `dumbarp-routerd`.

Two activities share the kernel: the background loop, which runs pass after pass, and the
main task, which on a signal runs one pass for the empty list and returns, and with it the
process ends.  Nothing keeps the background loop from adding an object after the teardown has
listed the kernel; an object added then is removed only if a delete request that the teardown
still has to make happens to select it.
-/
import Dumbarp.Routing.Delete
import Dumbarp.Routing.Invariant

namespace Dumbarp.Routing

open Interact Interact.Prog

/-- The process after start-up. -/
structure Router where
  kernel : Kernel
  /-- What is left of the pass of the background loop; a result between two passes. -/
  background : Rtnetlink (Except Errno Unit)
  /-- What is left of the teardown; nothing before the signal. -/
  main : Option (Rtnetlink (Except Errno Unit))

/-- The main task has not returned. -/
def Router.Running (s : Router) : Prop := ∀ res, s.main ≠ some (ret res)

/-- A dump that does not fail. -/
def DumpOk : NetlinkEvent → Prop
  | ⟨.dumpRules, r⟩ => ∃ msgs, r = .ok msgs
  | ⟨.dumpRoutes, r⟩ => ∃ msgs, r = .ok msgs
  | _ => True

/-- The change that took effect, if the event is one. -/
def carriedOut : NetlinkEvent → Option Change
  | ⟨.change c, .ok _⟩ => some c
  | _ => none

/-- The steps of the process, with the change that the background loop carried out. -/
inductive RouterStep : Router → Option Change → Router → Prop
  | background {k k' : Kernel} {op : NetlinkOp} {r : op.Res}
      {next : op.Res → Rtnetlink (Except Errno Unit)} {main}
      (hrun : Router.Running ⟨k, call op next, main⟩) (h : KernelStep Reliable k op r k')
      (hok : DumpOk ⟨op, r⟩) :
      RouterStep ⟨k, call op next, main⟩ (carriedOut ⟨op, r⟩) ⟨k', next r, main⟩
  | pass {k : Kernel} {res} {main} (iter : IterOrder) (desired : List RouteSpec)
      (hrun : Router.Running ⟨k, ret res, main⟩) :
      RouterStep ⟨k, ret res, main⟩ none ⟨k, reconcile iter desired, main⟩
  | signal {k : Kernel} {bg} (iter : IterOrder) :
      RouterStep ⟨k, bg, none⟩ none ⟨k, bg, some (reconcile iter [])⟩
  | main {k k' : Kernel} {bg} {op : NetlinkOp} {r : op.Res}
      {next : op.Res → Rtnetlink (Except Errno Unit)} (h : KernelStep Reliable k op r k')
      (hok : DumpOk ⟨op, r⟩) :
      RouterStep ⟨k, bg, some (call op next)⟩ none ⟨k', bg, some (next r)⟩

/-- **The runs of the process** in which every step meets `ok`.  At the start the tagged state
is what earlier passes left. -/
inductive Reached (ok : Router → Option Change → Prop) : Router → Prop
  | start {s : Traced} {res : Except Errno Unit} (h : History Reliable s (ret res)) :
      Reached ok ⟨s.kernel, ret res, none⟩
  | step {s s' : Router} {l : Option Change} (h : Reached ok s) (hs : RouterStep s l s')
      (hok : ok s l) : Reached ok s'

/-! ## What the teardown still has to do -/

/-- The answers of a kernel with nothing in it. -/
def emptyAnswer : (op : NetlinkOp) → op.Res
  | .getLink _ => .ok none
  | .dumpRules => .ok []
  | .dumpRoutes => .ok []
  | .change _ => .ok ()

/-- The changes that a program asks for when what it has yet to list is empty. -/
def pending {α : Type} : Rtnetlink α → List Change
  | ret _ => []
  | call op next =>
    (match op with
      | .change c => [c]
      | _ => []) ++ pending (next (emptyAnswer op))

/-- The teardown `p` has listed the rules. -/
def RulesListed (p : Rtnetlink (Except Errno Unit)) : Prop := p.head ≠ some .dumpRules

/-- The teardown `p` has listed the rules and the routes. -/
def RoutesListed (p : Rtnetlink (Except Errno Unit)) : Prop :=
  RulesListed p ∧ p.head ≠ some .dumpRoutes

/-- The teardown `p` will see or select what the change `c` adds. -/
def Covers (p : Rtnetlink (Except Errno Unit)) : Change → Prop
  | .addRule m => RulesListed p → ∃ m', .delRule m' ∈ pending p ∧ agreesRule m' (ruleOf m)
  | .addRoute m => RoutesListed p → ∃ m', .delRoute m' ∈ pending p ∧ agreesRoute m' (routeOf m)
  | _ => True

/-- A step of the background loop that adds nothing the teardown misses. -/
def Benign (s : Router) (l : Option Change) : Prop :=
  ∀ p c, s.main = some p → l = some c → Covers p c

/-! ## The teardown as a list of delete requests -/

/-- Ask for some changes one after the other, whatever is answered. -/
def requests : List Change → Rtnetlink Unit
  | [] => ret ()
  | c :: cs => call (.change c) fun _ => requests cs

def ruleDeletes (t : UInt32) (cur : List CurrentRule) : List Change :=
  cur.map fun rule => .delRule (delRuleRequest rule.src t rule.fwmark)

def routeDeletes (t : UInt32) (cur : Option CurrentRoute) : List Change :=
  (cur.map fun _ => Change.delRoute (delRouteRequest t)).toList

/-- The delete requests of a teardown that has listed the kernel. -/
def deletes (iter : IterOrder) (rules : HashMap UInt32 (List CurrentRule))
    (routes : HashMap UInt32 CurrentRoute) : List Change :=
  (iter.order (allTables rules routes ∅)).flatMap fun t =>
    ruleDeletes t ((rules.lookup t).getD []) ++ routeDeletes t (routes.lookup t)

/-- What is left of a teardown that has listed the kernel. -/
def deleting (cs : List Change) : Rtnetlink (Except Errno Unit) :=
  (requests cs).bind fun _ => ret (.ok ())

/-- What is left of a teardown that has listed the rules. -/
def listingRoutes (iter : IterOrder) (rules : HashMap UInt32 (List CurrentRule)) :
    Rtnetlink (Except Errno Unit) :=
  call .dumpRoutes fun
    | .error e => ret (.error e)
    | .ok msgs => deleting (deletes iter rules (collectRoutes msgs))

lemma requests_append (cs cs' : List Change) :
    requests (cs ++ cs') = (requests cs).bind fun _ => requests cs' := by
  induction cs with
  | nil => rfl
  | cons c cs ih =>
    simp only [List.cons_append, requests, call_bind, ih]

lemma forEach_requests (g : UInt32 → List Change) (ts : List UInt32) :
    forEach (fun t => requests (g t)) ts = requests (ts.flatMap g) := by
  induction ts with
  | nil => rfl
  | cons t ts ih => rw [forEach, ih, List.flatMap_cons, requests_append]

/-- Where nothing hinges on their success, the deletes of the rules are mere requests. -/
lemma delRules_bind {α : Type} {f : Bool → Rtnetlink α} (hf : ∀ b, f b = f false) (t : UInt32)
    (cur : List CurrentRule) (failed : Bool) :
    (delRules t cur failed).bind f = (requests (ruleDeletes t cur)).bind fun _ => f false := by
  induction cur generalizing failed with
  | nil => exact hf failed
  | cons rule cur ih =>
    refine congrArg (call _) (funext fun r => ?_)
    cases r with
    | error e => exact ih true
    | ok u => exact ih failed

lemma delListedRoute_bind {α : Type} {f : Bool → Rtnetlink α} (hf : ∀ b, f b = f false)
    (t : UInt32) (cur : Option CurrentRoute) (failed : Bool) :
    (delListedRoute t cur failed).bind f =
      (requests (routeDeletes t cur)).bind fun _ => f false := by
  cases cur with
  | none => exact hf failed
  | some rt =>
    refine congrArg (call _) (funext fun r => ?_)
    cases r with
    | error e => exact hf true
    | ok u => exact hf failed

/-- The body of the loop at a table that is not wanted. -/
lemma reconcileTable_unwanted (haveRules : List CurrentRule) (haveRoute : Option CurrentRoute)
    (t : UInt32) : reconcileTable none haveRules haveRoute t =
      requests (ruleDeletes t haveRules ++ routeDeletes t haveRoute) := by
  have hup : upToDate none haveRules haveRoute ≠ true := by simp [upToDate]
  rw [reconcileTable, if_neg hup, requests_append]
  -- nothing is added, so whether a delete failed does not matter
  refine (delRules_bind (fun b => ?_) t haveRules false).trans ?_
  · simp only [bind_eq]
    rw [delListedRoute_bind (fun _ => rfl), delListedRoute_bind (fun _ => rfl)]
  · congr 1
    funext u
    exact (delListedRoute_bind (fun _ => rfl) t haveRoute false).trans (bind_ret _)

lemma teardown_eq (iter : IterOrder) :
    reconcile iter [] = call .dumpRules fun
      | .error e => ret (.error e)
      | .ok msgs => listingRoutes iter (collectRules msgs) := by
  refine congrArg (call _) (funext fun r₁ => ?_)
  cases r₁ with
  | error e => rfl
  | ok msgs₁ =>
    refine congrArg (call _) (funext fun r₂ => ?_)
    cases r₂ with
    | error e => rfl
    | ok msgs₂ =>
      show (reconcileTables iter (collectRules msgs₁) (collectRoutes msgs₂) ∅).bind
        (fun _ => ret (Except.ok ())) = deleting _
      rw [deleting, deletes, ← forEach_requests]
      simp only [reconcileTables, AList.lookup_empty, reconcileTable_unwanted]

lemma pending_deleting (cs : List Change) : pending (deleting cs) = cs := by
  induction cs with
  | nil => rfl
  | cons c cs ih => exact congrArg (c :: ·) ih

lemma pending_listingRoutes (iter : IterOrder) (rules : HashMap UInt32 (List CurrentRule)) :
    pending (listingRoutes iter rules) = deletes iter rules ∅ :=
  pending_deleting _

/-! ## The invariant of the teardown -/

/-- Every tagged rule is selected by one of the requests `cs`. -/
def CoversRules (k : Kernel) (cs : List Change) : Prop :=
  ∀ t, ∀ r ∈ k.rulesOf t, ∃ m, .delRule m ∈ cs ∧ agreesRule m r

/-- Every tagged route is selected by one of the requests `cs`. -/
def CoversRoutes (k : Kernel) (cs : List Change) : Prop :=
  ∀ t, ∀ q ∈ k.routesOf t, ∃ m, .delRoute m ∈ cs ∧ agreesRoute m q

/-- The delete requests of the reconciler. -/
inductive IsDelete : Change → Prop
  | rule (src t fwmark) : IsDelete (.delRule (delRuleRequest src t fwmark))
  | route (t) : IsDelete (.delRoute (delRouteRequest t))

/-- **The invariant of the teardown**: what it has listed it will delete. -/
inductive Teardown (k : Kernel) : Rtnetlink (Except Errno Unit) → Prop
  | begun (iter : IterOrder) : Teardown k (reconcile iter [])
  | rulesListed {iter rules} (h : CoversRules k (deletes iter rules ∅)) :
      Teardown k (listingRoutes iter rules)
  | listed {cs} (hcs : ∀ c ∈ cs, IsDelete c) (hrules : CoversRules k cs)
      (hroutes : CoversRoutes k cs) : Teardown k (deleting cs)

section Invariant

variable {k k' : Kernel} {p : Rtnetlink (Except Errno Unit)} {cs : List Change}

lemma CoversRules.vanish (h : CoversRules k cs) (hv : Vanish k k') : CoversRules k' cs :=
  fun t r hr => h t r ((hv t).1.subset hr)

lemma CoversRoutes.vanish (h : CoversRoutes k cs) (hv : Vanish k k') : CoversRoutes k' cs :=
  fun t q hq => h t q ((hv t).2.subset hq)

lemma Teardown.vanish (h : Teardown k p) (hv : Vanish k k') : Teardown k' p := by
  cases h with
  | begun iter => exact Teardown.begun iter
  | rulesListed h => exact Teardown.rulesListed (h.vanish hv)
  | listed hcs hrules hroutes => exact Teardown.listed hcs (hrules.vanish hv) (hroutes.vanish hv)

lemma head_deleting (cs : List Change) : RoutesListed (deleting cs) := by
  cases cs <;> exact ⟨nofun, nofun⟩

lemma CoversRules.addRule {m : RuleMessage} (h : CoversRules k cs)
    (hm : ∃ m', .delRule m' ∈ cs ∧ agreesRule m' (ruleOf m)) :
    CoversRules { k with rules := insertRule (ruleOf m) k.rules } cs := by
  intro t r hr
  obtain ⟨hmem, htag, htable⟩ := mem_rulesOf.mp hr
  rcases List.mem_cons.mp ((insertRule_perm _ _).mem_iff.mp hmem) with rfl | hmem
  · exact hm
  · exact h t r (mem_rulesOf.mpr ⟨hmem, htag, htable⟩)

lemma CoversRoutes.addRoute {m : RouteMessage} (h : CoversRoutes k cs)
    (hm : ∃ m', .delRoute m' ∈ cs ∧ agreesRoute m' (routeOf m)) :
    CoversRoutes { k with routes := insertRoute (routeOf m) k.routes } cs := by
  intro t q hq
  obtain ⟨hmem, htable, htag⟩ := mem_routesOf.mp hq
  rcases List.mem_cons.mp ((insertRoute_perm _ _).mem_iff.mp hmem) with rfl | hmem
  · exact hm
  · exact h t q (mem_routesOf.mpr ⟨hmem, htable, htag⟩)

/-- The invariant survives a change of the background loop that misses nothing. -/
lemma Teardown.change (h : Teardown k p) {c : Change} (happly : k.apply c = some k')
    (hcov : Covers p c) : Teardown k' p := by
  cases c with
  | delRule m => exact h.vanish (vanish_delRule (takes_of_apply happly))
  | delRoute m => exact h.vanish (vanish_delRoute (takes_of_apply happly))
  | addRule m =>
    obtain rfl := Option.some.inj happly
    cases h with
    | begun iter => exact Teardown.begun iter
    | rulesListed h =>
      -- the rules are listed already, so a request must be left for the new one
      have hm := hcov (by simp [RulesListed, listingRoutes, head])
      rw [pending_listingRoutes] at hm
      exact Teardown.rulesListed (h.addRule hm)
    | listed hcs hrules hroutes =>
      have hm := hcov (head_deleting _).1
      rw [pending_deleting] at hm
      exact Teardown.listed hcs (hrules.addRule hm) hroutes
  | addRoute m =>
    obtain rfl := Option.some.inj happly
    cases h with
    | begun iter => exact Teardown.begun iter
    | rulesListed h => exact Teardown.rulesListed h  -- the routes are listed after this add
    | listed hcs hrules hroutes =>
      have hm := hcov (head_deleting _)
      rw [pending_deleting] at hm
      exact Teardown.listed hcs hrules (hroutes.addRoute hm)

end Invariant

/-! ## The steps of the teardown -/

section Steps

variable {iter : IterOrder} {rules : HashMap UInt32 (List CurrentRule)}
  {routes : HashMap UInt32 CurrentRoute} {t : UInt32}

/-- The delete requests for rules are those for the listed rules. -/
lemma delRule_mem_deletes {m : RuleMessage} :
    .delRule m ∈ deletes iter rules routes ↔
      ∃ t, ∃ rule ∈ (rules.lookup t).getD [], m = delRuleRequest rule.src t rule.fwmark := by
  simp only [deletes, List.mem_flatMap, List.mem_append, ruleDeletes, routeDeletes, List.mem_map,
    Option.mem_toList, Option.map_eq_some_iff, Change.delRule.injEq, reduceCtorEq,
    and_false, exists_false, or_false, (iter.perm _).mem_iff]
  constructor
  · rintro ⟨t, -, rule, hrule, rfl⟩
    exact ⟨t, rule, hrule, rfl⟩
  · rintro ⟨t, rule, hrule, rfl⟩
    refine ⟨t, ?_, rule, hrule, rfl⟩
    cases hl : rules.lookup t with
    | none =>
      rw [hl] at hrule
      cases hrule
    | some l =>
      have hkey : t ∈ rules.keys := AList.mem_keys.mp (AList.lookup_isSome.mp (by simp [hl]))
      simp [allTables, hkey]

/-- The delete requests for routes are those for the tables with a listed route. -/
lemma delRoute_mem_deletes {rt : CurrentRoute} (h : routes.lookup t = some rt) :
    .delRoute (delRouteRequest t) ∈ deletes iter rules routes := by
  have hkey : t ∈ routes.keys := AList.mem_keys.mp (AList.lookup_isSome.mp (by simp [h]))
  refine List.mem_flatMap.mpr ⟨t, ?_, ?_⟩
  · rw [(iter.perm _).mem_iff]
    simp [allTables, hkey]
  · simp [routeDeletes, h]

lemma isDelete_of_mem_deletes {c : Change} (h : c ∈ deletes iter rules routes) : IsDelete c := by
  obtain ⟨t, -, hc⟩ := List.mem_flatMap.mp h
  rcases List.mem_append.mp hc with hc | hc
  · obtain ⟨rule, -, rfl⟩ := List.mem_map.mp hc
    exact IsDelete.rule _ _ _
  · obtain ⟨rt, -, rfl⟩ := Option.map_eq_some_iff.mp (Option.mem_toList.mp hc)
    exact IsDelete.route t

variable {s : Traced} {k' : Kernel}

/-- The rules of a history are covered once they are listed. -/
lemma Inv.coversRules (h : Inv s) {msgs : List RuleMessage}
    (hdump : List.Forall₂ IsRuleDump s.kernel.rules msgs) :
    CoversRules s.kernel (deletes iter (collectRules msgs) routes) := by
  intro t r hr
  obtain ⟨w, hw⟩ := h t
  have hrw := List.mem_singleton.mp (hw.rules.subset hr)
  obtain ⟨-, htag, htable⟩ := mem_rulesOf.mp hr
  refine ⟨delRuleRequest r.src t r.current.fwmark, delRule_mem_deletes.mpr ?_, ?_⟩
  · refine ⟨t, r.current, ?_, rfl⟩
    rw [collectRules_lookup hdump]
    exact List.mem_map_of_mem hr
  · rw [← htable, agreesRule_self htag, hrw]
    exact ruleFor_deletable _ _ _

/-- The routes of a history are covered once they are listed. -/
lemma Inv.coversRoutes (h : Inv s) {msgs : List RouteMessage}
    (hdump : List.Forall₂ IsRouteDump s.kernel.routes msgs) :
    CoversRoutes s.kernel (deletes iter rules (collectRoutes msgs)) := by
  intro t q hq
  obtain ⟨w, hw⟩ := h t
  have hqw := List.mem_singleton.mp (hw.routes.subset hq)
  cases hl : s.kernel.listedRoute t with
  | none =>
    rw [h.routesOf_of_not_listed hl] at hq
    cases hq
  | some rt =>
    refine ⟨delRouteRequest t, delRoute_mem_deletes ((collectRoutes_lookup hdump t).trans hl), ?_⟩
    rw [agreesRoute_delRouteRequest, hqw]
    exact ⟨rfl, rfl, routeFor_tagged _ _ _⟩

section Delete

variable {k : Kernel} {cs : List Change}

lemma CoversRules.of_delRoute {m : RouteMessage} (h : CoversRules k (.delRoute m :: cs)) :
    CoversRules k cs := by
  intro t r hr
  obtain ⟨m', hm', hagree⟩ := h t r hr
  exact ⟨m', by simpa using hm', hagree⟩

lemma CoversRoutes.of_delRule {m : RuleMessage} (h : CoversRoutes k (.delRule m :: cs)) :
    CoversRoutes k cs := by
  intro t q hq
  obtain ⟨m', hm', hagree⟩ := h t q hq
  exact ⟨m', by simpa using hm', hagree⟩

/-- A rule that the first request does not select is selected by a later one. -/
lemma CoversRules.rest {m : RuleMessage} (h : CoversRules k (.delRule m :: cs)) {r : Rule}
    (hr : r ∈ k.rulesOf t) (hno : ¬ agreesRule m r) : ∃ m', .delRule m' ∈ cs ∧ agreesRule m' r := by
  obtain ⟨m', hm', hagree⟩ := h t r hr
  rcases List.mem_cons.mp hm' with hm' | hm'
  · cases hm'
    exact absurd hagree hno
  · exact ⟨m', hm', hagree⟩

lemma CoversRoutes.rest {m : RouteMessage} (h : CoversRoutes k (.delRoute m :: cs)) {q : Route}
    (hq : q ∈ k.routesOf t) (hno : ¬ agreesRoute m q) :
    ∃ m', .delRoute m' ∈ cs ∧ agreesRoute m' q := by
  obtain ⟨m', hm', hagree⟩ := h t q hq
  rcases List.mem_cons.mp hm' with hm' | hm'
  · cases hm'
    exact absurd hagree hno
  · exact ⟨m', hm', hagree⟩

end Delete

/-- A delete of a rule that was made leaves only rules it does not select: the invariant allows
one rule a table. -/
lemma Inv.delete_rule (h : Inv s) {src : Ipv4Addr} {fwmark : Option UInt32} {cs : List Change}
    {r : Except Errno Unit}
    (hrules : CoversRules s.kernel (.delRule (delRuleRequest src t fwmark) :: cs))
    (hstep : Reliable s.kernel (.delRule (delRuleRequest src t fwmark)) r k') :
    Vanish s.kernel k' ∧ CoversRules k' cs := by
  cases hstep with
  | present e hp => exact hp.elim
  | absent e hnone =>
    -- nothing agrees with the request, so it covered nothing
    have hfind := apply_delRule_eq_none.mp hnone
    refine ⟨Vanish.refl _, fun t' r hr => hrules.rest hr ?_⟩
    exact List.find?_eq_none.mp hfind r (mem_rulesOf.mp hr).1
  | done _ happly =>
    have hv := vanish_delRule (takes_of_apply happly)
    refine ⟨hv, fun t' r hr => hrules.rest ((hv t').1.subset hr) fun hagree => ?_⟩
    -- a rule that agrees lies in the table that has just lost its only rule
    obtain ⟨-, -, -, htable, -, -⟩ := agreesRule_delRuleRequest.mp hagree
    have ht' : t' = t := (mem_rulesOf.mp hr).2.2.symm.trans htable
    obtain ⟨⟨l₁, r₀, l₂, hk, hk'⟩, -, -⟩ := takes_delRule (takes_of_apply happly)
    have hlen := h.rules_length t
    rw [hk, List.length_append, List.length_cons] at hlen
    rw [ht', hk'] at hr
    have hpos := List.length_pos_of_mem hr
    rw [List.length_append] at hpos
    omega

/-- A delete of a route that was made leaves only routes it does not select. -/
lemma Inv.delete_route (h : Inv s) {cs : List Change} {r : Except Errno Unit}
    (hroutes : CoversRoutes s.kernel (.delRoute (delRouteRequest t) :: cs))
    (hstep : Reliable s.kernel (.delRoute (delRouteRequest t)) r k') :
    Vanish s.kernel k' ∧ CoversRoutes k' cs := by
  cases hstep with
  | present e hp => exact hp.elim
  | absent e hnone =>
    have hfind := apply_delRoute_eq_none.mp hnone
    refine ⟨Vanish.refl _, fun t' q hq => hroutes.rest hq ?_⟩
    exact List.find?_eq_none.mp hfind q (mem_routesOf.mp hq).1
  | done _ happly =>
    have hv := vanish_delRoute (takes_of_apply happly)
    refine ⟨hv, fun t' q hq => hroutes.rest ((hv t').2.subset hq) fun hagree => ?_⟩
    obtain ⟨htable, -, -⟩ := agreesRoute_delRouteRequest.mp hagree
    have ht' : t' = t := (mem_routesOf.mp hq).2.1.symm.trans htable
    obtain ⟨⟨l₁, q₀, l₂, hk, hk'⟩, -, -⟩ := takes_delRoute (takes_of_apply happly)
    have hlen := h.routes_length t
    rw [hk, List.length_append, List.length_cons] at hlen
    rw [ht', hk'] at hq
    have hpos := List.length_pos_of_mem hq
    rw [List.length_append] at hpos
    omega

/-- A request that is made no longer covers only what it removed. -/
lemma Inv.delete (h : Inv s) {c : Change} {cs : List Change} {r : Except Errno Unit}
    (hc : IsDelete c) (hrules : CoversRules s.kernel (c :: cs))
    (hroutes : CoversRoutes s.kernel (c :: cs)) (hstep : Reliable s.kernel c r k') :
    Vanish s.kernel k' ∧ CoversRules k' cs ∧ CoversRoutes k' cs := by
  cases hc with
  | rule src t fwmark =>
    obtain ⟨hv, hrules'⟩ := h.delete_rule hrules hstep
    exact ⟨hv, hrules', hroutes.of_delRule.vanish hv⟩
  | route t =>
    obtain ⟨hv, hroutes'⟩ := h.delete_route hroutes hstep
    exact ⟨hv, hrules.of_delRoute.vanish hv, hroutes'⟩

/-- The teardown's own steps keep its invariant, and objects only vanish. -/
lemma Teardown.step {p : Rtnetlink (Except Errno Unit)} (hinv : Inv s)
    (h : Teardown s.kernel p) {op : NetlinkOp} {r : op.Res}
    {next : op.Res → Rtnetlink (Except Errno Unit)} (hp : p = call op next)
    (hstep : KernelStep Reliable s.kernel op r k') (hok : DumpOk ⟨op, r⟩) :
    Vanish s.kernel k' ∧ Teardown k' (next r) := by
  cases h with
  | begun iter =>
    rw [teardown_eq] at hp
    obtain ⟨rfl, hnext⟩ := Prog.call.inj hp
    obtain rfl := eq_of_heq hnext
    -- the dump shows every rule there is, so each gets its request
    obtain ⟨rfl, hdump⟩ := kernelStep_dumpRules_inv hstep
    obtain ⟨msgs, rfl⟩ := hok
    exact ⟨Vanish.refl _, Teardown.rulesListed (hinv.coversRules (hdump _ rfl))⟩
  | @rulesListed iter rules hcov =>
    obtain ⟨rfl, hnext⟩ := Prog.call.inj hp
    obtain rfl := eq_of_heq hnext
    obtain ⟨rfl, hdump⟩ := kernelStep_dumpRoutes_inv hstep
    obtain ⟨msgs, rfl⟩ := hok
    refine ⟨Vanish.refl _, Teardown.listed (fun c hc => isDelete_of_mem_deletes hc) ?_
      (hinv.coversRoutes (hdump _ rfl))⟩
    -- the requests for the rules do not depend on the routes
    intro t r hr
    obtain ⟨m, hm, hagree⟩ := hcov t r hr
    exact ⟨m, delRule_mem_deletes.mpr (delRule_mem_deletes.mp hm), hagree⟩
  | @listed cs hcs hrules hroutes =>
    cases cs with
    | nil => cases hp
    | cons c cs =>
      obtain ⟨rfl, hnext⟩ := Prog.call.inj hp
      obtain rfl := eq_of_heq hnext
      obtain ⟨hv, hrules', hroutes'⟩ := hinv.delete (hcs c (by simp)) hrules hroutes
        (kernelStep_change_inv hstep)
      exact ⟨hv, Teardown.listed (fun c' hc' => hcs c' (by simp [hc'])) hrules' hroutes'⟩

end Steps

/-! ## The runs of the process -/

/-- A step of the background loop that misses nothing keeps the invariant of the teardown. -/
lemma Teardown.background {k k' : Kernel} {p : Rtnetlink (Except Errno Unit)} {op : NetlinkOp}
    {r : op.Res} (h : Teardown k p) (hstep : KernelStep Reliable k op r k')
    (hcov : ∀ c, carriedOut ⟨op, r⟩ = some c → Covers p c) : Teardown k' p := by
  cases op with
  | getLink iface => exact kernelStep_getLink_inv hstep ▸ h
  | dumpRules => exact (kernelStep_dumpRules_inv hstep).1 ▸ h
  | dumpRoutes => exact (kernelStep_dumpRoutes_inv hstep).1 ▸ h
  | change c =>
    cases kernelStep_change_inv hstep with
    | done _ happly => exact h.change happly (hcov c rfl)
    | present => exact h
    | absent => exact h

/-- **The invariant of the process**: the background loop is in a history of the kernel, and
the teardown covers what it has listed. -/
lemma reached_inv {s : Router} (h : Reached Benign s) :
    ∃ s₀ : Traced, s₀.kernel = s.kernel ∧ History Lossy s₀ s.background ∧
      ∀ p, s.main = some p → Teardown s.kernel p := by
  induction h with
  | @start s res hist => exact ⟨s, rfl, hist.mono fun _ _ _ _ hr => hr.exact.lossy, nofun⟩
  | step _ hs hok ih =>
    obtain ⟨s₀, hkernel, hist, hmain⟩ := ih
    cases hs with
    | @background k k' op r next main hrun hstep hdump =>
      -- one more request of the history
      obtain rfl : s₀.kernel = k := hkernel
      refine ⟨s₀.record op r k', rfl, hist.step (TracedStep.mk (hstep.mono ?_)), fun p hp => ?_⟩
      · exact fun _ _ _ _ hr => hr.exact.lossy
      · exact (hmain p hp).background hstep fun c hc => hok p c hp hc
    | pass iter desired hrun =>
      exact ⟨s₀.startPass desired, hkernel, hist.pass iter desired, hmain⟩
    | signal iter =>
      refine ⟨s₀, hkernel, hist, fun p hp => ?_⟩
      obtain rfl := Option.some.inj hp
      exact Teardown.begun iter
    | @main k k' bg op r next hstep hdump =>
      -- to the background loop the deletes of the teardown are objects that vanish
      obtain rfl : s₀.kernel = k := hkernel
      obtain ⟨hv, htear⟩ := (hmain _ rfl).step (history_inv hist) rfl hstep hdump
      refine ⟨{ s₀ with kernel := k' }, rfl, hist.vanish hv, fun p hp => ?_⟩
      obtain rfl := Option.some.inj hp
      exact htear

/-- **Shutdown leaves nothing behind** in every run in which each add of the background loop,
once the teardown has listed objects of its kind, is of an object that a delete request the
teardown has still to make selects. -/
theorem shutdown_leaves_nothing {s : Router} (h : Reached Benign s) {res : Except Errno Unit}
    (hreturned : s.main = some (ret res)) : s.kernel.Clean := by
  obtain ⟨s₀, -, -, hmain⟩ := reached_inv h
  generalize hp : (ret res : Rtnetlink (Except Errno Unit)) = p at hreturned
  cases hmain p hreturned with
  | begun iter => cases hp
  | rulesListed hcov => cases hp
  | @listed cs hcs hrules hroutes =>
    cases cs with
    | cons c cs => cases hp
    | nil =>
      refine ⟨fun r hr htag => ?_, fun q hq htag => ?_⟩
      · obtain ⟨m, hm, -⟩ := hrules r.table r (mem_rulesOf.mpr ⟨hr, htag, rfl⟩)
        cases hm
      · obtain ⟨m, hm, -⟩ := hroutes q.table q (mem_routesOf.mpr ⟨hq, rfl, htag⟩)
        cases hm

/-! ## Runs by a schedule -/

/-- Who moves next: the background loop, which starts a pass for some specs when it rests, or
the main task, which starts the teardown when it waits. -/
inductive Turn
  | background (desired : List RouteSpec)
  | main

/-- One turn against the kernel that answers by a function. -/
def Router.turn (link : String → Option UInt32) (s : Router) : Turn → Router
  | .background desired =>
    match s.main, s.background with
    | some (ret _), _ => s
    | _, ret _ => { s with background := reconcile IterOrder.collected desired }
    | _, call op next =>
      let (r, k) := s.kernel.answer link op
      { s with kernel := k, background := next r }
  | .main =>
    match s.main with
    | none => { s with main := some (reconcile IterOrder.collected []) }
    | some (ret _) => s
    | some (call op next) =>
      let (r, k) := s.kernel.answer link op
      { s with kernel := k, main := some (next r) }

/-- The process after some turns. -/
def Router.run (link : String → Option UInt32) (s : Router) (turns : List Turn) : Router :=
  turns.foldl (Router.turn link) s

section Schedule

variable {ok : Router → Option Change → Prop} {link : String → Option UInt32} {s : Router}

lemma dumpOk_answer (k : Kernel) (op : NetlinkOp) : DumpOk ⟨op, (k.answer link op).1⟩ := by
  cases op with
  | getLink iface => trivial
  | dumpRules => exact ⟨_, rfl⟩
  | dumpRoutes => exact ⟨_, rfl⟩
  | change c => trivial

/-- A turn is a step, or nothing when the process has ended; the main task adds nothing. -/
lemma turn_step (link : String → Option UInt32) (s : Router) (turn : Turn) :
    s.turn link turn = s ∨
      ∃ l, RouterStep s l (s.turn link turn) ∧ (turn = .main → l = none) := by
  obtain ⟨k, bg, main⟩ := s
  cases turn with
  | background desired =>
    rcases main with _ | ⟨res⟩ | ⟨op', next'⟩
    · cases bg with
      | ret res => exact Or.inr ⟨_, RouterStep.pass _ desired nofun, nofun⟩
      | call op next =>
        exact Or.inr ⟨_, RouterStep.background nofun (answer_step link k op) (dumpOk_answer k op),
          nofun⟩
    · exact Or.inl rfl
    · cases bg with
      | ret res => exact Or.inr ⟨_, RouterStep.pass _ desired nofun, nofun⟩
      | call op next =>
        exact Or.inr ⟨_, RouterStep.background nofun (answer_step link k op) (dumpOk_answer k op),
          nofun⟩
  | main =>
    rcases main with _ | ⟨res⟩ | ⟨op, next⟩
    · exact Or.inr ⟨none, RouterStep.signal _, fun _ => rfl⟩
    · exact Or.inl rfl
    · exact Or.inr ⟨none, RouterStep.main (answer_step link k op) (dumpOk_answer k op),
        fun _ => rfl⟩

lemma Reached.turn (h : Reached ok s) {turn : Turn}
    (hok : ∀ l, (turn = .main → l = none) → ok s l) : Reached ok (s.turn link turn) := by
  rcases turn_step link s turn with he | ⟨l, hs, hl⟩
  · rwa [he]
  · exact h.step hs (hok l hl)

/-- Where every step is allowed, every schedule gives a run. -/
lemma Reached.run (h : Reached (fun _ _ => True) s) (turns : List Turn) :
    Reached (fun _ _ => True) (s.run link turns) := by
  induction turns generalizing s with
  | nil => exact h
  | cons turn turns ih => exact ih (h.turn fun _ _ => trivial)

/-- What the background loop does before the signal is benign. -/
lemma Reached.beforeSignal (h : Reached Benign s) (hmain : s.main = none)
    (ds : List (List RouteSpec)) : Reached Benign (s.run link (ds.map .background)) := by
  induction ds generalizing s with
  | nil => exact h
  | cons d ds ih =>
    refine ih (h.turn fun l _ p c hp => ?_) ?_
    · rw [hmain] at hp
      cases hp
    · obtain ⟨k, bg, main⟩ := s
      obtain rfl : main = none := hmain
      cases bg <;> rfl

/-- The main task's own turns are benign. -/
lemma Reached.mainAlone (h : Reached Benign s) (n : ℕ) :
    Reached Benign (s.run link (List.replicate n .main)) := by
  induction n generalizing s with
  | zero => exact h
  | succ n ih =>
    refine ih (h.turn fun l hl p c _ hc => ?_)
    rw [hl rfl] at hc
    cases hc

end Schedule

/-- The process over an empty kernel. -/
def freshRouter : Router := ⟨{}, ret (.ok ()), none⟩

lemma freshRouter_reached (ok : Router → Option Change → Prop) : Reached ok freshRouter :=
  Reached.start (s := { kernel := {} }) (History.start ⟨by simp, by simp⟩)

/-- The background loop lists an empty kernel; the signal comes and the teardown lists it too;
then the background loop adds its rule, and the teardown returns. -/
def lateAdd : Router :=
  freshRouter.run (fun _ => some 2)
    [.background [markedSpec], .background [], .background [], .background [],
      .main, .main, .background [], .main]

/-- A rule added after the teardown has listed the rules stays. -/
theorem late_add_stays :
    Reached (fun _ _ => True) lateAdd ∧ lateAdd.main = some (ret (.ok ())) ∧
      ¬ lateAdd.kernel.Clean := by
  refine ⟨(freshRouter_reached _).run _, rfl, fun h => ?_⟩
  have hrule : ruleFor markedSpec.src 1846396077 (some 2) ∈ lateAdd.kernel.rules := by decide
  exact h.1 _ hrule (ruleFor_tagged _ _ _)

/-- A whole pass of the background loop, and then the signal and the teardown. -/
def undone : Router :=
  (freshRouter.run (fun _ => some 2)
    ([[markedSpec], [], [], [], [], []].map .background)).run (fun _ => some 2)
      (List.replicate 5 .main)

/-- A pass that ended before the signal is undone. -/
theorem finished_pass_is_undone : undone.kernel.Clean := by
  have hreached : Reached Benign undone :=
    ((freshRouter_reached Benign).beforeSignal rfl _).mainAlone 5
  have hreturned : undone.main = some (ret (.ok ())) := rfl
  exact shutdown_leaves_nothing hreached hreturned

end Dumbarp.Routing
