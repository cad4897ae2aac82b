/-
Tables are processed independently.

An environment in which the outcome of every operation is given beforehand (`Outcomes`), for
each table by its own count of operations.  What a pass makes of a table is then what the
body of the loop makes of a kernel that holds this table and nothing else (`tablePass`): the
order of the tables, the other tables and the failures there play no part.
-/
import Dumbarp.Routing.Delete

namespace Dumbarp.Routing

open Interact Interact.Prog

/-! ## Outcomes given beforehand -/

/-- The outcomes of a pass: the answer to the n-th lookup of a link, the failures of the two
listings, and for each table the failures of the changes asked of it, by their count. -/
structure Outcomes where
  link : ℕ → Except Errno (Option UInt32)
  rules : Option Errno := none
  routes : Option Errno := none
  change : UInt32 → ℕ → Option Errno

/-- What becomes of the two listings together. -/
def Outcomes.listing (o : Outcomes) : Except Errno Unit :=
  match o.rules, o.routes with
  | some e, _ => .error e
  | none, some e => .error e
  | none, none => .ok ()

/-- A kernel that counts what it was asked. -/
structure Judged where
  kernel : Kernel
  looked : ℕ := 0
  asked : UInt32 → ℕ := fun _ => 0

/-- The table that a change names. -/
def Change.table : Change → UInt32
  | .addRule m | .delRule m => m.tableOf
  | .addRoute m | .delRoute m => m.tableOf

/-- A change that is to fail changes nothing.  One that is to succeed is carried out, which
still fails when its object is absent or already there. -/
def Kernel.judge (k : Kernel) (c : Change) : Option Errno → Except Errno Unit × Kernel
  | some e => (.error e, k)
  | none => k.carryOut c

/-- The answer to a change. -/
def Judged.change (o : Outcomes) (s : Judged) (c : Change) : Except Errno Unit × Judged :=
  let (r, k) := s.kernel.judge c (o.change c.table (s.asked c.table))
  (r, { s with kernel := k, asked := Function.update s.asked c.table (s.asked c.table + 1) })

/-- The steps of a kernel under given outcomes. -/
inductive JudgedStep (o : Outcomes) : Sem Judged NetlinkOp NetlinkOp.Res
  | getLink (s iface) :
      JudgedStep o s (.getLink iface) (o.link s.looked) { s with looked := s.looked + 1 }
  | dumpRules {s : Judged} {msgs} (ho : o.rules = none)
      (h : List.Forall₂ IsRuleDump s.kernel.rules msgs) : JudgedStep o s .dumpRules (.ok msgs) s
  | dumpRulesFails {s e} (ho : o.rules = some e) : JudgedStep o s .dumpRules (.error e) s
  | dumpRoutes {s : Judged} {msgs} (ho : o.routes = none)
      (h : List.Forall₂ IsRouteDump s.kernel.routes msgs) : JudgedStep o s .dumpRoutes (.ok msgs) s
  | dumpRoutesFails {s e} (ho : o.routes = some e) : JudgedStep o s .dumpRoutes (.error e) s
  | change (s c) : JudgedStep o s (.change c) (s.change o c).1 (s.change o c).2

/-! ## A table on its own -/

/-- The kernel that holds the table `t` and nothing else. -/
def Kernel.only (k : Kernel) (t : UInt32) : Kernel where
  rules := k.rulesOf t
  routes := k.tableRoutes t

/-- A table on its own, with the number of changes asked of it. -/
@[ext]
structure LoneTable where
  kernel : Kernel
  asked : ℕ

/-- The table `t` of a kernel that counts. -/
def Judged.lone (s : Judged) (t : UInt32) : LoneTable := ⟨s.kernel.only t, s.asked t⟩

/-- The answers to the requests for one table; at its turn only changes are asked for. -/
def LoneTable.answer (failures : ℕ → Option Errno) (x : LoneTable) :
    (op : NetlinkOp) → op.Res × LoneTable
  | .getLink _ => (.ok none, x)
  | .dumpRules => (.ok [], x)
  | .dumpRoutes => (.ok [], x)
  | .change c =>
    let (r, k) := x.kernel.judge c (failures x.asked)
    (r, ⟨k, x.asked + 1⟩)

/-- The body of the loop for the table `t`, executed on a kernel that holds only this table:
what becomes of the table when its changes fail as `failures` says. -/
def tablePass (failures : ℕ → Option Errno) (t : UInt32) (want : Option ResolvedSpec)
    (K : Kernel) : Kernel :=
  (exec (LoneTable.answer failures) (reconcileTable want (K.listedRules t) (K.listedRoute t) t)
    ⟨K, 0⟩).2.2.kernel

section Only

variable {k : Kernel} {t : UInt32}

@[simp] lemma rulesOf_only (k : Kernel) (t : UInt32) : (k.only t).rulesOf t = k.rulesOf t := by
  simp [Kernel.only, Kernel.rulesOf]

@[simp] lemma tableRoutes_only (k : Kernel) (t : UInt32) :
    (k.only t).tableRoutes t = k.tableRoutes t := by
  simp [Kernel.only, Kernel.tableRoutes]

lemma listedRules_only (k : Kernel) (t : UInt32) :
    (k.only t).listedRules t = (k.table t).listedRules := by
  rw [Kernel.listedRules, rulesOf_only]
  rfl

lemma listedRoute_only (k : Kernel) (t : UInt32) :
    (k.only t).listedRoute t = (k.table t).listedRoute := by
  rw [Kernel.listedRoute, tableRoutes_only]
  rfl

/-- Nothing is done to a table that is neither listed nor wanted. -/
lemma tablePass_of_not_listed (failures : ℕ → Option Errno) (hrules : (k.table t).rules = [])
    (hroute : (k.table t).listedRoute = none) :
    tablePass failures t none (k.only t) = k.only t := by
  rw [tablePass, listedRules_only, listedRoute_only, hroute, Table.listedRules, hrules]
  rfl

lemma only_of_table {k' : Kernel} (h : k'.table t = k.table t) : k'.only t = k.only t := by
  rw [Kernel.only, Kernel.only]
  exact congrArg (fun T : Table => ({ rules := T.rules, routes := T.routes } : Kernel)) h

lemma changeOf_table {c : Change} (hc : ChangeOf t c) : c.table = t := by
  cases hc with
  | addRule src fwmark =>
    exact (congrArg Rule.table (ruleOf_addRuleRequest src t fwmark)).trans (ruleFor_table _ _ _)
  | delRule src fwmark =>
    cases fwmark <;>
      simp [Change.table, RuleMessage.tableOf, delRuleRequest, RuleMessage.push, RuleFields.read]
  | addRoute gateway ifindex =>
    exact (congrArg Route.table (routeOf_addRouteRequest t gateway ifindex)).trans
      (routeFor_table _ _ _)
  | delRoute => exact tableOf_delRouteRequest t

/-- A request for the table sees the objects of its table only. -/
lemma present_only {c : Change} (hc : ChangeOf t c) : (k.only t).present c ↔ k.present c := by
  cases hc with
  | delRule | delRoute => exact Iff.rfl
  | addRule src fwmark =>
    rw [Kernel.present, Kernel.present, ruleOf_addRuleRequest, Kernel.only, mem_rulesOf]
    exact ⟨fun h => h.1, fun h => ⟨h, ruleFor_tagged _ _ _, ruleFor_table _ _ _⟩⟩
  | addRoute gateway ifindex =>
    simp only [Kernel.present, routeOf_addRouteRequest, Kernel.only, Kernel.tableRoutes,
      List.mem_filter, inTable_route_iff, routeFor_table]
    constructor
    · rintro ⟨q, ⟨hq, -⟩, h⟩
      exact ⟨q, hq, h⟩
    · rintro ⟨q, hq, htable, h⟩
      exact ⟨q, ⟨hq, htable⟩, htable, h⟩

/-- A change takes effect on a table as it does when there is no other.  A rule is added to a
table that has none, so its place among the rules of others does not show. -/
lemma apply_only {c : Change} (hc : ChangeOf t c)
    (hadd : (∃ m, c = .addRule m) → k.rulesOf t = []) :
    (k.only t).apply c = (k.apply c).map fun k' => k'.only t := by
  cases hc with
  | addRule src fwmark =>
    obtain ⟨hperm, -, -⟩ := takes_addRule (Takes.addRule k (addRuleRequest src t fwmark))
    rw [hadd ⟨_, rfl⟩, List.perm_singleton, ruleOf_addRuleRequest] at hperm
    simp only [Kernel.apply, Option.map_some, Option.some.injEq, Kernel.only, hperm,
      hadd ⟨_, rfl⟩, insertRule, ruleOf_addRuleRequest]
    rfl
  | addRoute gateway ifindex =>
    simp only [Kernel.apply, Option.map_some, Option.some.injEq, Kernel.only,
      routeOf_addRouteRequest, Kernel.tableRoutes, filter_insertRoute, routeFor_table, if_true]
    rfl
  | delRule src fwmark =>
    have hany : (k.rulesOf t).any (agreesRule (delRuleRequest src t fwmark)) =
        k.rules.any (agreesRule (delRuleRequest src t fwmark)) := by
      simp only [Kernel.rulesOf, List.any_filter, Bool.and_comm, agreesRule_and_inTable]
    have hrules : (k.rulesOf t).eraseP (agreesRule (delRuleRequest src t fwmark)) =
        (k.rules.eraseP (agreesRule (delRuleRequest src t fwmark))).filter (Rule.inTable t) := by
      simp only [Kernel.rulesOf, List.eraseP_filter, agreesRule_and_inTable]
    simp only [Kernel.apply, Kernel.only, hany]
    split
    · rw [hrules]
      rfl
    · rfl
  | delRoute =>
    have hany : (k.tableRoutes t).any (agreesRoute (delRouteRequest t)) =
        k.routes.any (agreesRoute (delRouteRequest t)) := by
      simp only [Kernel.tableRoutes, List.any_filter, Bool.and_comm, agreesRoute_and_inTable]
    have hroutes : (k.tableRoutes t).eraseP (agreesRoute (delRouteRequest t)) =
        (k.routes.eraseP (agreesRoute (delRouteRequest t))).filter (Route.inTable t) := by
      simp only [Kernel.tableRoutes, List.eraseP_filter, agreesRoute_and_inTable]
    simp only [Kernel.apply, Kernel.only, hany]
    split
    · rw [hroutes]
      rfl
    · rfl

/-- **A judged change of a table** is answered, and changes the table, as if it were alone. -/
lemma judge_only {c : Change} (hc : ChangeOf t c)
    (hadd : (∃ m, c = .addRule m) → k.rulesOf t = []) (failure : Option Errno) :
    (k.only t).judge c failure =
      ((k.judge c failure).1, (k.judge c failure).2.only t) := by
  cases failure with
  | some e => rfl
  | none =>
    simp only [Kernel.judge, Kernel.carryOut, present_only hc, apply_only hc hadd]
    split
    · rfl
    · cases k.apply c <;> rfl

lemma judge_onlyTable {c : Change} (hc : ChangeOf t c) (failure : Option Errno) :
    OnlyTable t k (k.judge c failure).2 := by
  cases failure with
  | some e => exact fun _ _ => rfl
  | none => exact onlyTable_of_change hc (KernelStep.change (carryOut_reliable k c).exact)

end Only

/-! ## The turn of a table -/

section Turn

variable {o : Outcomes} {s s' : Judged} {t : UInt32}

/-- Only the table `t` was touched. -/
def Judged.Only (t : UInt32) (s s' : Judged) : Prop := ∀ t', t' ≠ t → s'.lone t' = s.lone t'

lemma Judged.Only.trans {s₁ s₂ s₃ : Judged} (h₁ : Judged.Only t s₁ s₂)
    (h₂ : Judged.Only t s₂ s₃) : Judged.Only t s₁ s₃ :=
  fun t' ht' => (h₂ t' ht').trans (h₁ t' ht')

/-- The step lemma: a change of the table `t`, asked of the whole kernel or of the table on its
own, is answered alike and does the same. -/
lemma change_turn {c : Change} {r : Except Errno Unit} (hc : ChangeOf t c)
    (hadd : (∃ m, c = .addRule m) → s.kernel.rulesOf t = [])
    (h : JudgedStep o s (.change c) r s') :
    r = ((s.lone t).answer (o.change t) (.change c)).1 ∧
      s'.lone t = ((s.lone t).answer (o.change t) (.change c)).2 ∧ s.Only t s' := by
  cases h with
  | change =>
    simp only [Judged.change, changeOf_table hc, LoneTable.answer, Judged.lone, judge_only hc hadd,
      Function.update_self, true_and]
    intro t' ht'
    simp only [Judged.lone, LoneTable.mk.injEq, Function.update_of_ne ht', and_true]
    exact only_of_table (judge_onlyTable hc _ t' ht')

/-- A change of the table `t` that adds no rule. -/
def TurnRequest (t : UInt32) (op : NetlinkOp) : Prop :=
  ∃ c, op = .change c ∧ ChangeOf t c ∧ ∀ m, c ≠ .addRule m

/-- What asks for such changes runs on the whole kernel as on the table on its own. -/
lemma turn_simulates {α : Type} {p : Rtnetlink α} (hp : Makes (TurnRequest t) p) (s : Judged) :
    Alone (JudgedStep o) p (fun a s' => (a, s'.lone t) =
      (exec (LoneTable.answer (o.change t)) p (s.lone t)).2 ∧ s.Only t s') s := by
  have hsim : Alone (JudgedStep o) p (fun a s' =>
      a = (exec (LoneTable.answer (o.change t)) p (s.lone t)).2.1 ∧
        s'.lone t = (exec (LoneTable.answer (o.change t)) p (s.lone t)).2.2 ∧ s.Only t s') s :=
    hp.simulates (R := fun s' x => s'.lone t = x ∧ s.Only t s') (fun s₁ x op r s₂ hop hR hstep => by
      obtain ⟨c, rfl, hc, hadd⟩ := hop
      obtain ⟨rfl, honly⟩ := hR
      obtain ⟨hr, hturn, honly'⟩ := change_turn hc (fun ⟨m, hm⟩ => absurd hm (hadd m)) hstep
      exact ⟨hr, hturn, honly.trans honly'⟩) ⟨rfl, fun _ _ => rfl⟩
  refine hsim.mono ?_
  rintro a s' - ⟨ha, hturn, honly⟩
  exact ⟨Prod.ext ha hturn, honly⟩

lemma delRules_turn (cur : List CurrentRule) (failed : Bool) :
    Makes (TurnRequest t) (delRules t cur failed) := by
  induction cur generalizing failed with
  | nil => trivial
  | cons rule cur ih =>
    refine ⟨⟨_, rfl, ChangeOf.delRule _ _, nofun⟩, fun r => ?_⟩
    cases r with
    | error e => exact ih true
    | ok u => exact ih failed

lemma delListedRoute_turn (cur : Option CurrentRoute) (failed : Bool) :
    Makes (TurnRequest t) (delListedRoute t cur failed) := by
  cases cur with
  | none => trivial
  | some rt =>
    refine ⟨⟨_, rfl, ChangeOf.delRoute, nofun⟩, fun r => ?_⟩
    cases r <;> trivial

/-- A failed delete is not forgotten. -/
lemma delRules_ends (cur : List CurrentRule) : Ends (· = true) (delRules t cur true) := by
  induction cur with
  | nil => rfl
  | cons rule cur ih =>
    intro r
    cases r with
    | error e => exact ih
    | ok u => exact ih

lemma delListedRoute_ends (cur : Option CurrentRoute) :
    Ends (· = true) (delListedRoute t cur true) := by
  cases cur with
  | none => rfl
  | some rt =>
    intro r
    cases r <;> rfl

lemma judge_ok {k : Kernel} {c : Change} {failure : Option Errno}
    (h : (k.judge c failure).1 = .ok ()) : k.apply c = some (k.judge c failure).2 := by
  cases failure with
  | some e => cases h
  | none =>
    simp only [Kernel.judge, Kernel.carryOut] at h ⊢
    by_cases hp : k.present c
    · rw [if_pos hp] at h
      cases h
    · rw [if_neg hp] at h ⊢
      cases hk : k.apply c with
      | some k' => rfl
      | none =>
        rw [hk] at h
        cases h

lemma length_delRule {k k' : Kernel} {m : RuleMessage} (h : k.apply (.delRule m) = some k') :
    k'.rules.length + 1 = k.rules.length := by
  cases takes_of_apply h with
  | delRule hk hr => simp [hk, Nat.add_assoc]

/-- A program that begins with a change goes on with what the table makes of it. -/
lemma exec_change {α : Type} (failures : ℕ → Option Errno) (c : Change) (x : LoneTable)
    {prog : Rtnetlink α} {next : Except Errno Unit → Rtnetlink α}
    (h : prog = call (.change c) next) :
    (exec (LoneTable.answer failures) prog x).2 =
      (exec (LoneTable.answer failures) (next (x.kernel.judge c (failures x.asked)).1)
        ⟨(x.kernel.judge c (failures x.asked)).2, x.asked + 1⟩).2 := by
  rw [h]
  rfl

/-- If no delete failed, as many rules are gone as were listed. -/
lemma exec_delRules (failures : ℕ → Option Errno) (cur : List CurrentRule) {failed : Bool}
    {x : LoneTable} (h : (exec (LoneTable.answer failures) (delRules t cur failed) x).2.1 = false) :
    (exec (LoneTable.answer failures) (delRules t cur failed) x).2.2.kernel.rules.length +
      cur.length = x.kernel.rules.length := by
  induction cur generalizing failed x with
  | nil => rfl
  | cons rule cur ih =>
    set c : Change := .delRule (delRuleRequest rule.src t rule.fwmark)
    have hexec : (exec (LoneTable.answer failures) (delRules t (rule :: cur) failed) x).2 = _ :=
      exec_change failures c x rfl
    rw [hexec] at h ⊢
    cases hr : (x.kernel.judge c (failures x.asked)).1 with
    | error e =>
      rw [hr] at h
      have htrue := (delRules_ends (t := t) cur).exec (LoneTable.answer failures)
        ⟨(x.kernel.judge c (failures x.asked)).2, x.asked + 1⟩
      exact absurd (htrue.symm.trans h) (by decide)
    | ok u =>
      rw [hr] at h
      have hlen : (x.kernel.judge c (failures x.asked)).2.rules.length + 1 =
          x.kernel.rules.length := length_delRule (judge_ok hr)
      have hrest : (exec (LoneTable.answer failures) (delRules t cur failed)
          ⟨(x.kernel.judge c (failures x.asked)).2, x.asked + 1⟩).2.2.kernel.rules.length +
            cur.length = (x.kernel.judge c (failures x.asked)).2.rules.length := ih h
      show (exec (LoneTable.answer failures) (delRules t cur failed)
        ⟨(x.kernel.judge c (failures x.asked)).2, x.asked + 1⟩).2.2.kernel.rules.length +
          (cur.length + 1) = x.kernel.rules.length
      omega

lemma judge_delRoute_rules (k : Kernel) (m : RouteMessage) (failure : Option Errno) :
    (k.judge (.delRoute m) failure).2.rules = k.rules := by
  cases failure with
  | some e => rfl
  | none =>
    rw [Kernel.judge, Kernel.carryOut, if_neg (by simp [Kernel.present]), Kernel.apply]
    by_cases h : k.routes.any (agreesRoute m) <;> simp [h]

lemma exec_delListedRoute (failures : ℕ → Option Errno) (cur : Option CurrentRoute)
    (failed : Bool) (x : LoneTable) :
    (exec (LoneTable.answer failures) (delListedRoute t cur failed) x).2.2.kernel.rules =
      x.kernel.rules := by
  cases cur with
  | none => rfl
  | some rt =>
    set c : Change := .delRoute (delRouteRequest t)
    have hexec : (exec (LoneTable.answer failures) (delListedRoute t (some rt) failed) x).2 = _ :=
      exec_change failures c x rfl
    rw [hexec]
    cases (x.kernel.judge c (failures x.asked)).1 <;> exact judge_delRoute_rules _ _ _

lemma install_turn (w : ResolvedSpec) (hrules : s.kernel.rulesOf t = []) :
    Alone (JudgedStep o) (install t w) (fun _ s' => s'.lone t =
      (exec (LoneTable.answer (o.change t)) (install t w) (s.lone t)).2.2 ∧ s.Only t s') s := by
  refine alone_call.mpr fun r s₁ hstep => ?_
  obtain ⟨hr, hturn, honly⟩ :=
    change_turn (ChangeOf.addRule w.src w.fwmark) (fun _ => hrules) hstep
  have hexec (next : Except Errno Unit → Rtnetlink Unit)
      (h : install t w = call (.change (.addRule (addRuleRequest w.src t w.fwmark))) next) :
      (exec (LoneTable.answer (o.change t)) (install t w) (s.lone t)).2 =
        (exec (LoneTable.answer (o.change t)) (next r) (s₁.lone t)).2 := by
    rw [h, exec_call, ← hr, ← hturn]
  rw [hexec _ rfl]
  cases r with
  | error e => exact alone_ret.mpr ⟨rfl, honly⟩
  | ok u =>
    have hmakes : Makes (TurnRequest t)
        ((addRoute t w.gateway w.ifindex).bind fun _ => ret ()) :=
      ⟨⟨_, rfl, ChangeOf.addRoute _ _, nofun⟩, fun _ => trivial⟩
    refine (turn_simulates hmakes s₁).mono ?_
    rintro a s₂ - ⟨ha, honly'⟩
    exact ⟨congrArg Prod.snd ha, honly.trans honly'⟩

/-- **The turn of a table**: the body of the loop does to the table what it does to the table
on its own, and touches no other.  When the rule is added, the table has none left. -/
lemma reconcileTable_turn (want : Option ResolvedSpec) {haveRules : List CurrentRule}
    (haveRoute : Option CurrentRoute) (hlen : haveRules.length = (s.kernel.rulesOf t).length) :
    Alone (JudgedStep o) (reconcileTable want haveRules haveRoute t) (fun _ s' => s'.lone t =
      (exec (LoneTable.answer (o.change t)) (reconcileTable want haveRules haveRoute t)
        (s.lone t)).2.2 ∧ s.Only t s') s := by
  rw [reconcileTable]
  by_cases hup : upToDate want haveRules haveRoute
  · rw [if_pos hup]
    exact alone_ret.mpr ⟨rfl, fun _ _ => rfl⟩
  · rw [if_neg hup, bind_eq, exec_bind]
    refine Safe.bind ((turn_simulates (delRules_turn haveRules false) s).mono ?_)
    rintro failed s₁ - ⟨h₁, honly₁⟩
    have hleft : failed = false →
        (s₁.lone t).kernel.rules.length + haveRules.length = (s.lone t).kernel.rules.length := by
      intro hf
      rw [show s₁.lone t = _ from congrArg Prod.snd h₁]
      exact exec_delRules (o.change t) haveRules ((congrArg Prod.fst h₁).symm.trans hf)
    rw [← h₁]
    rw [bind_eq, exec_bind]
    refine Safe.bind ((turn_simulates (delListedRoute_turn haveRoute failed) s₁).mono ?_)
    rintro failed' s₂ - ⟨h₂, honly₂⟩
    have hrules := exec_delListedRoute (t := t) (o.change t) haveRoute failed (s₁.lone t)
    have hfailed : failed' = false → failed = false := by
      rintro rfl
      cases failed with
      | false => rfl
      | true =>
        have htrue := (delListedRoute_ends (t := t) haveRoute).exec (LoneTable.answer (o.change t))
          (s₁.lone t)
        rw [← h₂] at htrue
        exact htrue.symm
    rw [← h₂] at hrules ⊢
    have honly := honly₁.trans honly₂
    cases want with
    | none => exact alone_ret.mpr ⟨rfl, honly⟩
    | some w =>
      cases failed' with
      | true => exact alone_ret.mpr ⟨rfl, honly⟩
      | false =>
        -- no delete failed, so the table has no rule left
        have hempty : s₂.kernel.rulesOf t = [] := by
          have hcount := hleft (hfailed rfl)
          have hsame : s₂.kernel.rulesOf t = s₁.kernel.rulesOf t := hrules
          refine hsame.trans (List.length_eq_zero_iff.mp ?_)
          have hall : (s₁.kernel.rulesOf t).length + haveRules.length =
            (s.kernel.rulesOf t).length := hcount
          omega
        refine (install_turn w hempty).mono ?_
        rintro - s₃ - ⟨h₃, honly₃⟩
        exact ⟨h₃, honly.trans honly₃⟩

end Turn

/-! ## A pass under given outcomes -/

section Pass

variable {o : Outcomes} {s s' : Judged} {k : Kernel} {iter : IterOrder} {desired : List RouteSpec}
  {es : List NetlinkEvent} {res : Except Errno Unit}

lemma judgedStep_getLink_inv {iface : String} {r : Except Errno (Option UInt32)}
    (h : JudgedStep o s (.getLink iface) r s') :
    r = o.link s.looked ∧ s' = { s with looked := s.looked + 1 } := by
  cases h
  exact ⟨rfl, rfl⟩

lemma judgedStep_dumpRules_inv {r : Except Errno (List RuleMessage)}
    (h : JudgedStep o s .dumpRules r s') : s' = s ∧
      (∀ e, r = .error e → o.rules = some e) ∧
      ∀ msgs, r = .ok msgs → o.rules = none ∧ List.Forall₂ IsRuleDump s.kernel.rules msgs := by
  cases h with
  | dumpRules ho h =>
    refine ⟨rfl, nofun, fun msgs hm => ?_⟩
    obtain rfl := Except.ok.inj hm
    exact ⟨ho, h⟩
  | dumpRulesFails ho =>
    refine ⟨rfl, fun e he => ?_, nofun⟩
    obtain rfl := Except.error.inj he
    exact ho

lemma judgedStep_dumpRoutes_inv {r : Except Errno (List RouteMessage)}
    (h : JudgedStep o s .dumpRoutes r s') : s' = s ∧
      (∀ e, r = .error e → o.routes = some e) ∧
      ∀ msgs, r = .ok msgs → o.routes = none ∧ List.Forall₂ IsRouteDump s.kernel.routes msgs := by
  cases h with
  | dumpRoutes ho h =>
    refine ⟨rfl, nofun, fun msgs hm => ?_⟩
    obtain rfl := Except.ok.inj hm
    exact ⟨ho, h⟩
  | dumpRoutesFails ho =>
    refine ⟨rfl, fun e he => ?_, nofun⟩
    obtain rfl := Except.error.inj he
    exact ho

/-- Under given outcomes a kernel does what it may do. -/
lemma JudgedStep.exact {op : NetlinkOp} {r : op.Res} (h : JudgedStep o s op r s') :
    KernelStep Exact s.kernel op r s'.kernel := by
  cases h with
  | getLink => exact KernelStep.getLink _ _ _
  | dumpRules ho h => exact KernelStep.dumpRules h
  | dumpRulesFails ho => exact KernelStep.dumpRulesFails _ _
  | dumpRoutes ho h => exact KernelStep.dumpRoutes h
  | dumpRoutesFails ho => exact KernelStep.dumpRoutesFails _ _
  | change _ c =>
    refine KernelStep.change ?_
    show Exact s.kernel c (s.kernel.judge c _).1 (s.kernel.judge c _).2
    cases o.change c.table (s.asked c.table) with
    | some e => exact Exact.refused _ _ _
    | none => exact (carryOut_reliable s.kernel c).exact

/-- The lookups leave the kernel alone, and resolve what is wanted. -/
lemma resolve_judged {resolved : HashMap UInt32 ResolvedSpec}
    (h : Runs (JudgedStep o) (resolve desired ∅ ∅) s es resolved s') :
    s'.kernel = s.kernel ∧ s'.asked = s.asked ∧
      ∀ es' t, resolved.lookup t = wanted desired (es ++ es') t := by
  obtain ⟨-, hlookup⟩ := resolve_runs desired (h.map fun _ _ _ _ hs => hs.exact)
  have hkeep := (resolve_makes desired ∅ ∅).preserves
    (J := fun s₁ : Judged => s₁.kernel = s.kernel ∧ s₁.asked = s.asked) ?_ h ⟨rfl, rfl⟩
  · exact ⟨hkeep.1, hkeep.2, fun es' t => by simpa [wanted] using hlookup es' t⟩
  · rintro s₁ - r s₂ ⟨iface, rfl⟩ hstep hJ
    obtain ⟨-, rfl⟩ := judgedStep_getLink_inv hstep
    exact hJ

/-- **A pass under given outcomes** makes of every table what it would make of it alone. -/
lemma reconcile_judged
    (h : Runs (JudgedStep o) (reconcile iter desired) { kernel := k } es res s') :
    res = o.listing ∧ (o.listing ≠ .ok () → s'.kernel = k) ∧ (o.listing = .ok () →
      ∀ t, s'.kernel.only t = tablePass (o.change t) t (wanted desired es t) (k.only t)) := by
  obtain ⟨es₁, resolved, s₁, es₂, rfl, h₁, h₂⟩ := runs_bind_inv h
  obtain ⟨hkernel, hasked, hwant⟩ := resolve_judged h₁
  rcases reconcileResolved_cases h₂ with ⟨e, rfl, rfl, hstep⟩ |
    ⟨msgs, e, s₂, rfl, rfl, hstep₁, hstep₂⟩ |
    ⟨msgs₁, msgs₂, s₂, s₃, es', rfl, rfl, hstep₁, hstep₂, hloop⟩
  · obtain ⟨rfl, hfail, -⟩ := judgedStep_dumpRules_inv hstep
    have hlisting : o.listing = .error e := by rw [Outcomes.listing, hfail e rfl]
    rw [hlisting]
    exact ⟨rfl, fun _ => hkernel, nofun⟩
  · obtain ⟨rfl, -, hdump⟩ := judgedStep_dumpRules_inv hstep₁
    obtain ⟨rfl, hfail, -⟩ := judgedStep_dumpRoutes_inv hstep₂
    have hlisting : o.listing = .error e := by
      rw [Outcomes.listing, (hdump _ rfl).1, hfail e rfl]
    rw [hlisting]
    exact ⟨rfl, fun _ => hkernel, nofun⟩
  · obtain ⟨rfl, -, hdump₁⟩ := judgedStep_dumpRules_inv hstep₁
    obtain ⟨rfl, -, hdump₂⟩ := judgedStep_dumpRoutes_inv hstep₂
    obtain ⟨horules, hrules⟩ := hdump₁ _ rfl
    obtain ⟨horoutes, hroutes⟩ := hdump₂ _ rfl
    have hlisting : o.listing = .ok () := by rw [Outcomes.listing, horules, horoutes]
    obtain ⟨ts, heq, hts, hrest⟩ := reconcileTables_listed hrules hroutes iter resolved
    rw [heq] at hloop
    rw [hlisting]
    rw [hkernel] at hloop hrest
    have hstart (t : UInt32) : s₃.lone t = ⟨k.only t, 0⟩ := by
      simp only [Judged.lone, hkernel, hasked]
    -- every turn starts from the table as it was listed, with no change asked of it
    have hturns : Alone (JudgedStep o) (forEach (tableBody resolved k) ts)
        (fun _ s' => (∀ t ∈ ts, (s'.lone t).kernel =
          tablePass (o.change t) t (resolved.lookup t) (k.only t)) ∧
          ∀ t ∉ ts, s'.lone t = s₃.lone t) s₃ := by
      refine alone_forEach (V := fun t => (⟨k.only t, 0⟩ : LoneTable))
        (R := fun t (x : LoneTable) =>
          x.kernel = tablePass (o.change t) t (resolved.lookup t) (k.only t))
        (fun t _ s hs => ?_) hts fun t _ => hstart t
      have hrules : s.kernel.rulesOf t = k.rulesOf t :=
        congrArg (fun x : LoneTable => x.kernel.rules) hs
      have hlen : (k.table t).listedRules.length = (s.kernel.rulesOf t).length := by
        rw [hrules, Table.listedRules, List.length_map]
        rfl
      refine (reconcileTable_turn (resolved.lookup t) (k.table t).listedRoute hlen).mono ?_
      rintro - s' - ⟨hturn, honly⟩
      refine ⟨?_, honly⟩
      rw [hturn, hs, tablePass, listedRules_only, listedRoute_only]
    obtain ⟨hdone, hother⟩ := (hturns.runs hloop).2
    refine ⟨rfl, fun hne => absurd rfl hne, fun _ t => ?_⟩
    rw [← hwant _ t]
    by_cases ht : t ∈ ts
    · exact hdone t ht
    · obtain ⟨hnone, hrules, hroute⟩ := hrest t ht
      rw [hnone, tablePass_of_not_listed _ hrules hroute]
      exact congrArg LoneTable.kernel ((hother t ht).trans (hstart t))

/-- A lookup is answered in one way only. -/
lemma lookup_unique (s : Judged) (op : NetlinkOp) (r₁ : op.Res) (s₁ : Judged) (r₂ : op.Res)
    (s₂ : Judged) (hop : IsLookup op) (h₁ : JudgedStep o s op r₁ s₁)
    (h₂ : JudgedStep o s op r₂ s₂) : r₁ = r₂ ∧ s₁ = s₂ := by
  obtain ⟨iface, rfl⟩ := hop
  obtain ⟨rfl, rfl⟩ := judgedStep_getLink_inv h₁
  obtain ⟨rfl, rfl⟩ := judgedStep_getLink_inv h₂
  exact ⟨rfl, rfl⟩

/-- Two passes with the same lookups want the same. -/
lemma wanted_unique {iter' : IterOrder} {es' : List NetlinkEvent} {res' : Except Errno Unit}
    {s₁ s₂ s₃ : Judged} (h : Runs (JudgedStep o) (reconcile iter desired) s₁ es res s₂)
    (h' : Runs (JudgedStep o) (reconcile iter' desired) s₁ es' res' s₃) (t : UInt32) :
    wanted desired es t = wanted desired es' t := by
  obtain ⟨es₁, resolved, _, es₂, rfl, h₁, -⟩ := runs_bind_inv h
  obtain ⟨es₁', resolved', _, es₂', rfl, h₁', -⟩ := runs_bind_inv h'
  obtain ⟨rfl, rfl, rfl⟩ := (resolve_makes desired ∅ ∅).runs_unique lookup_unique h₁ h₁'
  exact ((resolve_judged h₁).2.2 es₂ t).symm.trans ((resolve_judged h₁).2.2 es₂' t)

/-- Kernels whose tables hold the same have the same tagged objects. -/
lemma tagged_perm {k k' : Kernel} (h : ∀ t, k.only t = k'.only t) :
    (k.rules.filter Rule.tagged).Perm (k'.rules.filter Rule.tagged) ∧
      (k.routes.filter Route.tagged).Perm (k'.routes.filter Route.tagged) := by
  constructor <;> rw [List.perm_iff_count]
  · intro r
    by_cases hr : r.tagged
    · have hrules : k.rulesOf r.table = k'.rulesOf r.table := congrArg Kernel.rules (h r.table)
      have hin : r.inTable r.table := inTable_rule_iff.mpr ⟨hr, rfl⟩
      rw [List.count_filter hr, List.count_filter hr, ← List.count_filter (l := k.rules) hin,
        ← List.count_filter (l := k'.rules) hin]
      exact congrArg (List.count r) hrules
    · rw [List.count_eq_zero.mpr (by simp [hr]), List.count_eq_zero.mpr (by simp [hr])]
  · intro q
    by_cases hq : q.tagged
    · have hroutes : k.tableRoutes q.table = k'.tableRoutes q.table :=
        congrArg Kernel.routes (h q.table)
      have hin : q.inTable q.table := inTable_route_iff.mpr rfl
      rw [List.count_filter hq, List.count_filter hq, ← List.count_filter (l := k.routes) hin,
        ← List.count_filter (l := k'.routes) hin]
      exact congrArg (List.count q) hroutes
    · rw [List.count_eq_zero.mpr (by simp [hq]), List.count_eq_zero.mpr (by simp [hq])]

end Pass

/-- **Tables are processed independently.**  Two passes with the same outcomes end with the same
tagged rules and routes, whatever the orders of their tables.  What a table holds in the end
depends only on what is wanted for it, what it held, and the outcomes of its own changes; and
with both listings the pass runs to its end and makes of every table what it makes of it alone,
whatever fails elsewhere. -/
theorem tables_independent {o₁ o₂ : Outcomes} {iter₁ iter₂ : IterOrder}
    {desired₁ desired₂ : List RouteSpec} {k₁ k₂ : Kernel} {es₁ es₂ : List NetlinkEvent}
    {res₁ res₂ : Except Errno Unit} {s₁ s₂ : Judged}
    (h₁ : Runs (JudgedStep o₁) (reconcile iter₁ desired₁) { kernel := k₁ } es₁ res₁ s₁)
    (h₂ : Runs (JudgedStep o₂) (reconcile iter₂ desired₂) { kernel := k₂ } es₂ res₂ s₂) :
    (o₁ = o₂ → desired₁ = desired₂ → k₁ = k₂ → res₁ = res₂ ∧
      (s₁.kernel.rules.filter Rule.tagged).Perm (s₂.kernel.rules.filter Rule.tagged) ∧
      (s₁.kernel.routes.filter Route.tagged).Perm (s₂.kernel.routes.filter Route.tagged)) ∧
    (o₁.listing = .ok () → o₂.listing = .ok () → ∀ t,
      wanted desired₁ es₁ t = wanted desired₂ es₂ t → k₁.only t = k₂.only t →
      o₁.change t = o₂.change t → s₁.kernel.only t = s₂.kernel.only t) ∧
    (o₁.listing = .ok () → res₁ = .ok () ∧ ∀ t, s₁.kernel.only t =
      tablePass (o₁.change t) t (wanted desired₁ es₁ t) (k₁.only t)) := by
  obtain ⟨hres₁, hfail₁, htables₁⟩ := reconcile_judged h₁
  obtain ⟨hres₂, hfail₂, htables₂⟩ := reconcile_judged h₂
  refine ⟨?_, ?_, fun hlisting => ⟨hres₁.trans hlisting, htables₁ hlisting⟩⟩
  · rintro rfl rfl rfl
    refine ⟨hres₁.trans hres₂.symm, tagged_perm fun t => ?_⟩
    by_cases hlisting : o₁.listing = .ok ()
    · rw [htables₁ hlisting t, htables₂ hlisting t, wanted_unique h₁ h₂ t]
    · rw [hfail₁ hlisting, hfail₂ hlisting]
  · intro hlisting₁ hlisting₂ t hwant hk ho
    rw [htables₁ hlisting₁ t, htables₂ hlisting₂ t, hwant, hk, ho]

/-! ## A pass that is executed -/

/-- The kernel that has the outcomes `o` and dumps in Linux's way. -/
def Judged.answer (o : Outcomes) (s : Judged) : (op : NetlinkOp) → op.Res × Judged
  | .getLink _ => (o.link s.looked, { s with looked := s.looked + 1 })
  | .dumpRules => (o.rules.elim (.ok (s.kernel.rules.map dumpRule)) .error, s)
  | .dumpRoutes => (o.routes.elim (.ok (s.kernel.routes.map dumpRoute)) .error, s)
  | .change c => s.change o c

lemma judgedStep_answer (o : Outcomes) (s : Judged) (op : NetlinkOp) :
    JudgedStep o s op (s.answer o op).1 (s.answer o op).2 := by
  cases op with
  | getLink iface => exact JudgedStep.getLink s iface
  | dumpRules =>
    cases ho : o.rules with
    | some e => simpa [Judged.answer, ho] using JudgedStep.dumpRulesFails (s := s) ho
    | none =>
      have hdump : List.Forall₂ IsRuleDump s.kernel.rules (s.kernel.rules.map dumpRule) :=
        List.forall₂_map_right_iff.mpr (List.forall₂_same.mpr fun r _ => isRuleDump_dumpRule r)
      simpa [Judged.answer, ho] using JudgedStep.dumpRules ho hdump
  | dumpRoutes =>
    cases ho : o.routes with
    | some e => simpa [Judged.answer, ho] using JudgedStep.dumpRoutesFails (s := s) ho
    | none =>
      have hdump : List.Forall₂ IsRouteDump s.kernel.routes (s.kernel.routes.map dumpRoute) :=
        List.forall₂_map_right_iff.mpr (List.forall₂_same.mpr fun q _ => isRouteDump_dumpRoute q)
      simpa [Judged.answer, ho] using JudgedStep.dumpRoutes ho hdump
  | change c => exact JudgedStep.change s c

/-- The elements show in the opposite order. -/
def IterOrder.reversed : IterOrder := ⟨List.reverse, List.reverse_perm⟩

/-- The first table of the two is busy. -/
def busyTable : Outcomes where
  link _ := .ok (some 2)
  change t _ := if t = tableIdFor markedSpec.src then some (-16) else none

/-- A pass for two sources under `busyTable`. -/
def busyPass (iter : IterOrder) : List NetlinkEvent × Except Errno Unit × Judged :=
  (reconcile iter [markedSpec, { markedSpec with src := ⟨10, 0, 0, 2⟩ }]).exec
    (Judged.answer busyTable) { kernel := {} }

lemma busyPass_runs (iter : IterOrder) : Runs (JudgedStep busyTable)
    (reconcile iter [markedSpec, { markedSpec with src := ⟨10, 0, 0, 2⟩ }]) { kernel := {} }
    (busyPass iter).1 (busyPass iter).2.1 (busyPass iter).2.2 :=
  exec_runs (judgedStep_answer busyTable) _ _

/-- In either order the busy table stays empty and the other gets its rule. -/
theorem busy_table_in_either_order :
    (busyPass .collected).2.2.kernel.rules = [ruleFor ⟨10, 0, 0, 2⟩ 167772162 (some 2)] ∧
      ((busyPass .collected).2.2.kernel.rules.filter Rule.tagged).Perm
        ((busyPass .reversed).2.2.kernel.rules.filter Rule.tagged) := by
  refine ⟨by decide, ?_⟩
  exact ((tables_independent (busyPass_runs .collected) (busyPass_runs .reversed)).1
    rfl rfl rfl).2.1

end Dumbarp.Routing
