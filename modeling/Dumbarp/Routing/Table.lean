/-
One table of the kernel at a time.

Every change the reconciler asks for names one table.  `Kernel.rulesOf` and
`Kernel.routesOf` are the tagged objects of a table in the order of the dump; this file says
what each of the four requests does to them, that the other tables keep theirs, and what the
two listings hold for a table.
-/
import Dumbarp.Routing.Dump
import Dumbarp.Routing.Reconcile

namespace Dumbarp.Routing

/-- The rule is tagged and leads to the table `t`. -/
def Rule.inTable (t : UInt32) (r : Rule) : Bool := r.tagged && r.table == t

/-- The route, of dumbarp or not, lies in the table `t`. -/
def Route.inTable (t : UInt32) (q : Route) : Bool := q.table == t

/-- The tagged rules of a table. -/
def Kernel.rulesOf (k : Kernel) (t : UInt32) : List Rule := k.rules.filter (Rule.inTable t)

/-- All routes of a table, those of others included. -/
def Kernel.tableRoutes (k : Kernel) (t : UInt32) : List Route := k.routes.filter (Route.inTable t)

/-- The tagged routes of a table. -/
def Kernel.routesOf (k : Kernel) (t : UInt32) : List Route :=
  (k.tableRoutes t).filter Route.tagged

/-- The rule that `add_rule` installs. -/
def ruleFor (src : Ipv4Addr) (table : UInt32) (fwmark : Option UInt32) : Rule where
  action := .toTable
  table := table
  priority := dumbarpPriority
  srcLen := 32
  src := src
  fwMark := fwmark.getD 0
  fwMask := if fwmark.isSome then fwmaskExact else 0

/-- The route that `add_route` installs. -/
def routeFor (table : UInt32) (gateway : Ipv4Addr) (ifindex : UInt32) : Route where
  table := table
  dst := anyAddr
  dstLen := 0
  protocol := dumbarpProto
  gateway := some gateway
  oif := some ifindex
  flags := rtnhOnlink

variable {k k' : Kernel} {t t' : UInt32}

@[simp] lemma inTable_rule_iff {r : Rule} : r.inTable t ↔ r.tagged ∧ r.table = t := by
  simp [Rule.inTable]

@[simp] lemma inTable_route_iff {q : Route} : q.inTable t ↔ q.table = t := by
  simp [Route.inTable]

lemma mem_rulesOf {r : Rule} : r ∈ k.rulesOf t ↔ r ∈ k.rules ∧ r.tagged ∧ r.table = t := by
  simp [Kernel.rulesOf]

lemma mem_routesOf {q : Route} : q ∈ k.routesOf t ↔ q ∈ k.routes ∧ q.table = t ∧ q.tagged := by
  simp only [Kernel.routesOf, Kernel.tableRoutes, List.mem_filter, inTable_route_iff, and_assoc]

@[simp] lemma ruleFor_tagged (src : Ipv4Addr) (table : UInt32) (fwmark : Option UInt32) :
    (ruleFor src table fwmark).tagged = true := by
  simp [Rule.tagged, ruleFor]

@[simp] lemma routeFor_tagged (table : UInt32) (gateway : Ipv4Addr) (ifindex : UInt32) :
    (routeFor table gateway ifindex).tagged = true := by
  simp [Route.tagged, routeFor]

@[simp] lemma ruleFor_table (src : Ipv4Addr) (table : UInt32) (fwmark : Option UInt32) :
    (ruleFor src table fwmark).table = table := rfl

@[simp] lemma routeFor_table (table : UInt32) (gateway : Ipv4Addr) (ifindex : UInt32) :
    (routeFor table gateway ifindex).table = table := rfl

/-! ## The objects that requests describe -/

/-- A table number that is no bigger than a byte survives the header. -/
lemma toUInt32_toUInt8 {t : UInt32} (h : ¬ t > 255) : t.toUInt8.toUInt32 = t := by
  apply UInt32.toNat_inj.mp
  have h255 : t.toNat ≤ 255 := by
    have := UInt32.le_iff_toNat_le.mp (UInt32.not_lt.mp h)
    simpa using this
  simp only [UInt8.toNat_toUInt32, UInt32.toNat_toUInt8]
  omega

lemma ruleOf_addRuleRequest (src : Ipv4Addr) (table : UInt32) (fwmark : Option UInt32) :
    ruleOf (addRuleRequest src table fwmark) = ruleFor src table fwmark := by
  by_cases ht : table > 255
  · cases fwmark <;>
      simp [ruleOf, ruleFor, addRuleRequest, RuleMessage.tableId, RuleMessage.push,
        RuleMessage.tableOf, RuleFields.read, ht]
  · cases fwmark <;>
      simp [ruleOf, ruleFor, addRuleRequest, RuleMessage.tableId, RuleMessage.push,
        RuleMessage.tableOf, RuleFields.read, ht, toUInt32_toUInt8 ht]

lemma routeOf_addRouteRequest (table : UInt32) (gateway : Ipv4Addr) (ifindex : UInt32) :
    routeOf (addRouteRequest table gateway ifindex) = routeFor table gateway ifindex := by
  by_cases ht : table > 255
  · simp [routeOf, routeFor, addRouteRequest, RouteMessage.tableId, RouteMessage.push,
      RouteMessage.protocol, RouteMessage.onlink, RouteMessage.tableOf, RouteMessage.dstOf,
      RouteFields.read, newRouteMessage, ht]
  · simp [routeOf, routeFor, addRouteRequest, RouteMessage.tableId, RouteMessage.push,
      RouteMessage.protocol, RouteMessage.onlink, RouteMessage.tableOf, RouteMessage.dstOf,
      RouteFields.read, newRouteMessage, ht, toUInt32_toUInt8 ht]

/-- The rules that a delete request of the reconciler selects. -/
lemma agreesRule_delRuleRequest {src : Ipv4Addr} {table : UInt32} {fwmark : Option UInt32}
    {r : Rule} :
    agreesRule (delRuleRequest src table fwmark) r ↔
      r.action = .toTable ∧ r.srcLen = 32 ∧ r.src = src ∧ r.table = table ∧
        r.priority = dumbarpPriority ∧
        ∀ m, fwmark = some m → m ≠ 0 → r.fwMark = m ∧ r.fwMask = fwmaskExact := by
  have haction : r.action = RuleAction.toTable ↔ RuleAction.toTable = r.action := eq_comm
  cases fwmark with
  | none => simp [agreesRule, delRuleRequest, haction, and_assoc]
  | some m =>
    simp [agreesRule, delRuleRequest, RuleMessage.push, RuleMessage.hasMask, haction, and_assoc,
      or_iff_not_imp_left]

lemma tableOf_delRouteRequest (table : UInt32) : (delRouteRequest table).tableOf = table := by
  by_cases ht : table > 255
  · simp [delRouteRequest, RouteMessage.tableId, RouteMessage.tableOf, RouteMessage.protocol,
      newRouteMessage, RouteFields.read, ht]
  · simp [delRouteRequest, RouteMessage.tableId, RouteMessage.tableOf, RouteMessage.protocol,
      newRouteMessage, ht, toUInt32_toUInt8 ht]

/-- The routes that a delete request of the reconciler selects. -/
lemma agreesRoute_delRouteRequest {table : UInt32} {q : Route} :
    agreesRoute (delRouteRequest table) q ↔ q.table = table ∧ q.isDefault ∧ q.tagged := by
  rw [agreesRoute, tableOf_delRouteRequest]
  by_cases ht : table > 255 <;>
    simp [delRouteRequest, RouteMessage.tableId, RouteMessage.dstOf, RouteMessage.protocol,
      newRouteMessage, ht, Route.isDefault, Route.tagged, and_assoc]

/-- What a delete request for a table selects is a tagged rule of that table. -/
lemma agreesRule_and_inTable (src : Ipv4Addr) (t : UInt32) (fwmark : Option UInt32) (r : Rule) :
    (agreesRule (delRuleRequest src t fwmark) r && r.inTable t) =
      agreesRule (delRuleRequest src t fwmark) r := by
  rw [Bool.and_eq_left_iff_imp, agreesRule_delRuleRequest, inTable_rule_iff]
  rintro ⟨-, hlen, -, htable, hprio, -⟩
  exact ⟨by simp [Rule.tagged, hlen, hprio], htable⟩

lemma agreesRoute_and_inTable (t : UInt32) (q : Route) :
    (agreesRoute (delRouteRequest t) q && q.inTable t) = agreesRoute (delRouteRequest t) q := by
  rw [Bool.and_eq_left_iff_imp, agreesRoute_delRouteRequest, inTable_route_iff]
  exact fun hq => hq.1

/-! ## What the changes do to a table -/

lemma insertRule_perm (r : Rule) (rs : List Rule) : (insertRule r rs).Perm (r :: rs) := by
  induction rs with
  | nil => exact List.Perm.refl _
  | cons x xs ih =>
    rw [insertRule]
    split
    · exact (ih.cons x).trans (List.Perm.swap r x xs)
    · exact List.Perm.refl _

lemma insertRoute_perm (q : Route) (qs : List Route) : (insertRoute q qs).Perm (q :: qs) := by
  induction qs with
  | nil => exact List.Perm.refl _
  | cons x xs ih =>
    rw [insertRoute]
    split
    · exact (ih.cons x).trans (List.Perm.swap q x xs)
    · exact List.Perm.refl _

/-- What a view does not show may be inserted without changing it. -/
lemma filter_insertRule {p : Rule → Bool} {r : Rule} (hr : p r = false) (rs : List Rule) :
    (insertRule r rs).filter p = rs.filter p := by
  induction rs with
  | nil => simp [insertRule, hr]
  | cons x xs ih =>
    rw [insertRule]
    split
    · simp only [List.filter_cons, ih]
    · rw [List.filter_cons, hr]
      rfl

/-- A route takes its place among the routes of its own table. -/
lemma filter_insertRoute (q : Route) (qs : List Route) (t : UInt32) :
    (insertRoute q qs).filter (Route.inTable t) =
      if q.table = t then insertRoute q (qs.filter (Route.inTable t))
      else qs.filter (Route.inTable t) := by
  induction qs with
  | nil => by_cases hq : q.table = t <;> simp [insertRoute, Route.inTable, hq]
  | cons x xs ih =>
    rw [insertRoute]
    by_cases hq : q.table = t
    · rw [if_pos hq] at ih ⊢
      -- only the routes of its own table decide where `q` goes
      by_cases hx : x.table = t
      · rw [List.filter_cons_of_pos (by simp [hx]), insertRoute]
        split
        · rw [List.filter_cons_of_pos (by simp [hx]), ih]
        · rw [List.filter_cons_of_pos (by simp [hq]), List.filter_cons_of_pos (by simp [hx])]
      · rw [if_pos (Or.inl (hq ▸ hx)), List.filter_cons_of_neg (by simp [hx]),
          List.filter_cons_of_neg (by simp [hx]), ih]
    · rw [if_neg hq] at ih ⊢
      split
      · rw [List.filter_cons, List.filter_cons, ih]
      · rw [List.filter_cons_of_neg (by simp [hq])]

section Effects

variable {src gateway : Ipv4Addr} {fwmark : Option UInt32} {ifindex : UInt32}

lemma takes_addRule (h : Takes k (.addRule (addRuleRequest src t fwmark)) k') :
    (k'.rulesOf t).Perm (ruleFor src t fwmark :: k.rulesOf t) ∧
      (∀ t', t' ≠ t → k'.rulesOf t' = k.rulesOf t') ∧ k'.routes = k.routes := by
  cases h
  rw [ruleOf_addRuleRequest]
  refine ⟨?_, fun t' ht' => ?_, rfl⟩
  · have hp := (insertRule_perm (ruleFor src t fwmark) k.rules).filter (Rule.inTable t)
    rwa [List.filter_cons_of_pos (by simp)] at hp
  · exact filter_insertRule (by simp [Rule.inTable, Ne.symm ht']) k.rules

lemma takes_delRule (h : Takes k (.delRule (delRuleRequest src t fwmark)) k') :
    (∃ l₁ r l₂, k.rulesOf t = l₁ ++ r :: l₂ ∧ k'.rulesOf t = l₁ ++ l₂) ∧
      (∀ t', t' ≠ t → k'.rulesOf t' = k.rulesOf t') ∧ k'.routes = k.routes := by
  obtain ⟨l₁, r, l₂, hk, hr, rfl⟩ : ∃ l₁ r l₂, k.rules = l₁ ++ r :: l₂ ∧
      agreesRule (delRuleRequest src t fwmark) r ∧ k' = { k with rules := l₁ ++ l₂ } := by
    cases h with
    | delRule hk hr => exact ⟨_, _, _, hk, hr, rfl⟩
  obtain ⟨-, hlen, -, htable, hprio, -⟩ := agreesRule_delRuleRequest.mp hr
  have htagged : r.tagged = true := by simp [Rule.tagged, hlen, hprio]
  refine ⟨⟨l₁.filter (Rule.inTable t), r, l₂.filter (Rule.inTable t), ?_, ?_⟩,
    fun t' ht' => ?_, rfl⟩
  · rw [Kernel.rulesOf, hk, List.filter_append, List.filter_cons_of_pos (by simp [htagged, htable])]
  · rw [Kernel.rulesOf, List.filter_append]
  · rw [Kernel.rulesOf, Kernel.rulesOf, hk, List.filter_append, List.filter_append,
      List.filter_cons_of_neg (by simp [htable, Ne.symm ht'])]

lemma takes_addRoute (h : Takes k (.addRoute (addRouteRequest t gateway ifindex)) k') :
    (k'.routesOf t).Perm (routeFor t gateway ifindex :: k.routesOf t) ∧
      (∀ t', t' ≠ t → k'.tableRoutes t' = k.tableRoutes t') ∧ k'.rules = k.rules := by
  cases h
  rw [routeOf_addRouteRequest]
  refine ⟨?_, fun t' ht' => ?_, rfl⟩
  · rw [Kernel.routesOf, Kernel.tableRoutes, filter_insertRoute, if_pos (routeFor_table _ _ _)]
    have hp := (insertRoute_perm (routeFor t gateway ifindex) (k.tableRoutes t)).filter Route.tagged
    rwa [List.filter_cons_of_pos (routeFor_tagged _ _ _)] at hp
  · rw [Kernel.tableRoutes, filter_insertRoute, if_neg (by simp [Ne.symm ht'])]
    rfl

lemma takes_delRoute (h : Takes k (.delRoute (delRouteRequest t)) k') :
    (∃ l₁ q l₂, k.routesOf t = l₁ ++ q :: l₂ ∧ k'.routesOf t = l₁ ++ l₂) ∧
      (∀ t', t' ≠ t → k'.tableRoutes t' = k.tableRoutes t') ∧ k'.rules = k.rules := by
  obtain ⟨l₁, q, l₂, hk, hq, rfl⟩ : ∃ l₁ q l₂, k.routes = l₁ ++ q :: l₂ ∧
      agreesRoute (delRouteRequest t) q ∧ k' = { k with routes := l₁ ++ l₂ } := by
    cases h with
    | delRoute hk hq => exact ⟨_, _, _, hk, hq, rfl⟩
  obtain ⟨htable, -, htagged⟩ := agreesRoute_delRouteRequest.mp hq
  refine ⟨⟨(l₁.filter (Route.inTable t)).filter Route.tagged, q,
    (l₂.filter (Route.inTable t)).filter Route.tagged, ?_, ?_⟩, fun t' ht' => ?_, rfl⟩
  · rw [Kernel.routesOf, Kernel.tableRoutes, hk, List.filter_append,
      List.filter_cons_of_pos (by simp [htable]), List.filter_append,
      List.filter_cons_of_pos htagged]
  · rw [Kernel.routesOf, Kernel.tableRoutes, List.filter_append, List.filter_append]
  · rw [Kernel.tableRoutes, Kernel.tableRoutes, hk, List.filter_append, List.filter_append,
      List.filter_cons_of_neg (by simp [htable, Ne.symm ht'])]

end Effects

/-! ## What the listings hold for a table -/

/-- What `list_rules` holds for a table. -/
def Kernel.listedRules (k : Kernel) (t : UInt32) : List CurrentRule :=
  (k.rulesOf t).map Rule.current

/-- What `list_routes` holds for a table: the route dumped last. -/
def Kernel.listedRoute (k : Kernel) (t : UInt32) : Option CurrentRoute :=
  ((k.tableRoutes t).filterMap Route.current).getLast?

@[simp] lemma routeFor_current (table : UInt32) (gateway : Ipv4Addr) (ifindex : UInt32) :
    (routeFor table gateway ifindex).current =
      some { gateway, oif := ifindex, onlink := true } := by
  have honlink : hasOnlink rtnhOnlink = true := by decide
  rw [Route.current, if_pos (routeFor_tagged _ _ _)]
  simp [routeFor, honlink]

/-- A rule of dumbarp's is read back with its mark, but for a mark 0. -/
@[simp] lemma ruleFor_current (src : Ipv4Addr) (table : UInt32) (fwmark : Option UInt32) :
    (ruleFor src table fwmark).current =
      { src
        fwmark := fwmark.filter (· ≠ 0)
        fwmask := expectedFwmask (fwmark.filter (· ≠ 0)) } := by
  have hmask : fwmaskExact ≠ 0 := by decide
  cases fwmark with
  | none => simp [Rule.current, ruleFor, expectedFwmask]
  | some m =>
    by_cases hm : m = 0 <;> simp [Rule.current, ruleFor, expectedFwmask, Option.filter, hm, hmask]

/-- Routes of others play no part in the listing. -/
lemma listedRoute_eq (k : Kernel) (t : UInt32) :
    k.listedRoute t = ((k.routesOf t).filterMap Route.current).getLast? := by
  rw [Kernel.listedRoute, Kernel.routesOf, List.filterMap_filter]
  congr 2
  funext q
  by_cases htag : q.tagged <;> simp [Route.current, htag]

/-- No route is listed for a table when none of its routes is read. -/
lemma listedRoute_eq_none : k.listedRoute t = none ↔ ∀ q ∈ k.routesOf t, q.current = none := by
  rw [listedRoute_eq, List.getLast?_eq_none_iff, List.filterMap_eq_nil_iff]

lemma collectRules_lookup_aux {rs : List Rule} {msgs : List RuleMessage}
    (h : List.Forall₂ IsRuleDump rs msgs) (out : HashMap UInt32 (List CurrentRule)) :
    ((msgs.foldl takeRule out).lookup t).getD [] =
      (out.lookup t).getD [] ++ (rs.filter (Rule.inTable t)).map Rule.current := by
  induction h generalizing out with
  | nil => simp
  | @cons r msg rs msgs hr _ ih =>
    rw [List.foldl_cons, ih, takeRule, parse_ruleDump hr]
    by_cases htag : r.tagged
    · by_cases ht : r.table = t
      · subst ht
        simp [htag, Rule.inTable]
      · simp [htag, ht, Rule.inTable, AList.lookup_insert_ne (Ne.symm ht)]
    · simp [htag, Rule.inTable]

/-- **The rules listed for a table** are its tagged rules. -/
lemma collectRules_lookup {msgs : List RuleMessage} (h : List.Forall₂ IsRuleDump k.rules msgs)
    (t : UInt32) : ((collectRules msgs).lookup t).getD [] = k.listedRules t := by
  rw [collectRules, collectRules_lookup_aux h]
  rfl

lemma collectRoutes_lookup_aux {qs : List Route} {msgs : List RouteMessage}
    (h : List.Forall₂ IsRouteDump qs msgs) (out : HashMap UInt32 CurrentRoute) :
    (msgs.foldl takeRoute out).lookup t =
      (((qs.filter (Route.inTable t)).filterMap Route.current).getLast?).or (out.lookup t) := by
  induction h generalizing out with
  | nil => simp
  | @cons q msg qs msgs hq _ ih =>
    rw [List.foldl_cons, ih, takeRoute]
    have hparse := parse_routeDump hq
    -- a message is read, and then replaces what the table had, or it is passed over
    rcases hp : parseDumbarpRoute msg with _ | p
    · have hc : q.current = none := by simpa [hp] using hparse.symm
      by_cases ht : q.table = t <;> simp [Route.inTable, ht, hc]
    · obtain ⟨c, hc, hct⟩ : ∃ c, q.current = some c ∧ (p.table, p.intoValue) = (q.table, c) := by
        rw [hp, Option.map_some, eq_comm, Option.map_eq_some_iff] at hparse
        obtain ⟨c, hc, he⟩ := hparse
        exact ⟨c, hc, he.symm⟩
      obtain ⟨hpt, hpc⟩ := Prod.mk.inj hct
      simp only [hpt, hpc]
      by_cases ht : q.table = t
      · subst ht
        simp [Route.inTable, hc, List.getLast?_cons]
      · simp [Route.inTable, ht, AList.lookup_insert_ne (Ne.symm ht)]

/-- **The route listed for a table** is the one dumped last. -/
lemma collectRoutes_lookup {msgs : List RouteMessage} (h : List.Forall₂ IsRouteDump k.routes msgs)
    (t : UInt32) : (collectRoutes msgs).lookup t = k.listedRoute t := by
  rw [collectRoutes, collectRoutes_lookup_aux h]
  simp [Kernel.listedRoute, Kernel.tableRoutes]

/-- The listing has a key for each table with a tagged rule. -/
lemma mem_collectRules {msgs : List RuleMessage} (h : List.Forall₂ IsRuleDump k.rules msgs)
    (ht : k.rulesOf t ≠ []) : t ∈ collectRules msgs := by
  rw [← AList.lookup_isSome]
  cases hl : (collectRules msgs).lookup t with
  | some rules => rfl
  | none =>
    have := collectRules_lookup h t
    rw [hl, Option.getD_none, Kernel.listedRules, eq_comm, List.map_eq_nil_iff] at this
    exact absurd this ht

end Dumbarp.Routing
