/-
What dumbarp reads in a dump.

Whatever order the kernel gives to the attributes, `parse_dumbarp_rule` accepts exactly the
dumps of tagged rules and `parse_dumbarp_route` those of tagged routes with a gateway and an
interface, and what they keep is a function of the object: `Rule.current`, `Route.current`.
-/
import Dumbarp.Lib.Fields
import Dumbarp.Routing.Kernel

namespace Dumbarp.Routing

/-- What the reconciler keeps of a rule. -/
def Rule.current (r : Rule) : CurrentRule where
  src := r.src
  fwmark := if r.fwMark = 0 then none else some r.fwMark
  fwmask := if r.fwMark = 0 ∨ r.fwMask = 0 then none else some r.fwMask

/-- What the reconciler keeps of a route. -/
def Route.current (q : Route) : Option CurrentRoute :=
  if q.tagged then
    match q.gateway, q.oif with
    | some gateway, some oif => some { gateway, oif, onlink := hasOnlink q.flags }
    | _, _ => none
  else none

/-! ## The loop over the attributes of a rule -/

namespace RuleAttribute

def asPriority : RuleAttribute → Option UInt32
  | priority p => some p
  | _ => none

def asSource : RuleAttribute → Option Ipv4Addr
  | source (.v4 ip) => some ip
  | _ => none

def asTable : RuleAttribute → Option UInt32
  | table t => some t
  | _ => none

def asFwMark : RuleAttribute → Option UInt32
  | fwMark m => some m
  | _ => none

def asFwMask : RuleAttribute → Option UInt32
  | fwMask m => some m
  | _ => none

variable {a : RuleAttribute}

@[simp] lemma asPriority_eq_some {p : UInt32} : a.asPriority = some p ↔ a = priority p := by
  cases a <;> simp [asPriority]

@[simp] lemma asSource_eq_some {ip : Ipv4Addr} : a.asSource = some ip ↔ a = source (.v4 ip) := by
  cases a with
  | source ip' => cases ip' <;> simp [asSource]
  | _ => simp [asSource]

@[simp] lemma asTable_eq_some {t : UInt32} : a.asTable = some t ↔ a = table t := by
  cases a <;> simp [asTable]

@[simp] lemma asFwMark_eq_some {m : UInt32} : a.asFwMark = some m ↔ a = fwMark m := by
  cases a <;> simp [asFwMark]

@[simp] lemma asFwMask_eq_some {m : UInt32} : a.asFwMask = some m ↔ a = fwMask m := by
  cases a <;> simp [asFwMask]

end RuleAttribute

/-- Each variable of the loop follows the attributes of its own kind. -/
lemma RuleFields.read_fields (f : RuleFields) (a : RuleAttribute) :
    (f.read a).priority = a.asPriority.or f.priority ∧ (f.read a).src = a.asSource.or f.src ∧
      (f.read a).tableAttr = a.asTable.or f.tableAttr ∧
      (f.read a).fwmark = a.asFwMark.or f.fwmark ∧ (f.read a).fwmask = a.asFwMask.or f.fwmask := by
  cases a with
  | source ip => cases ip <;> exact ⟨rfl, rfl, rfl, rfl, rfl⟩
  | _ => exact ⟨rfl, rfl, rfl, rfl, rfl⟩

section Rule

variable {r : Rule} {msg : RuleMessage}

lemma fields_priority (h : IsRuleDump r msg) :
    (msg.attributes.foldl RuleFields.read {}).priority =
      if r.priority = 0 then none else some r.priority := by
  refine Fields.foldl_eq (fun s a => (s.read_fields a).1) (fun v => ?_) rfl
  simp only [RuleAttribute.asPriority_eq_some, exists_eq_right, h.priority]
  grind

lemma fields_src (h : IsRuleDump r msg) :
    (msg.attributes.foldl RuleFields.read {}).src = if r.srcLen = 0 then none else some r.src := by
  refine Fields.foldl_eq (fun s a => (s.read_fields a).2.1) (fun v => ?_) rfl
  simp only [RuleAttribute.asSource_eq_some, exists_eq_right, h.source]
  grind

lemma fields_fwmark (h : IsRuleDump r msg) :
    (msg.attributes.foldl RuleFields.read {}).fwmark =
      if r.fwMark = 0 then none else some r.fwMark := by
  refine Fields.foldl_eq (fun s a => (s.read_fields a).2.2.2.1) (fun v => ?_) rfl
  simp only [RuleAttribute.asFwMark_eq_some, exists_eq_right, h.fwMark]
  grind

lemma fields_fwmask (h : IsRuleDump r msg) :
    (msg.attributes.foldl RuleFields.read {}).fwmask =
      if r.fwMask = 0 then none else some r.fwMask := by
  refine Fields.foldl_eq (fun s a => (s.read_fields a).2.2.2.2) (fun v => ?_) rfl
  simp only [RuleAttribute.asFwMask_eq_some, exists_eq_right, h.fwMask]
  grind

lemma tableOf_ruleDump (h : IsRuleDump r msg) : msg.tableOf = r.table := by
  rw [RuleMessage.tableOf]
  -- the table is in an attribute, or else in the header
  by_cases ht : ∃ t, .table t ∈ msg.attributes
  · obtain ⟨t, ht⟩ := ht
    have htable := h.tableAttr t ht
    have hf : (msg.attributes.foldl RuleFields.read {}).tableAttr = some r.table := by
      refine Fields.foldl_eq (fun s a => (s.read_fields a).2.2.1) (fun v => ?_) rfl
      simp only [RuleAttribute.asTable_eq_some, exists_eq_right, Option.some.injEq]
      exact ⟨fun hv => (h.tableAttr v hv).symm, fun hv => by rwa [← hv, ← htable]⟩
    rw [hf, Option.getD_some]
  · push Not at ht
    have hf : (msg.attributes.foldl RuleFields.read {}).tableAttr = none := by
      refine Fields.foldl_eq (fun s a => (s.read_fields a).2.2.1) (fun v => ?_) rfl
      simp [ht]
    rw [hf, Option.getD_none, h.tableHeader ht]

/-- **A dumped rule is read exactly when it carries the tag**, with its table and value. -/
theorem parse_ruleDump (h : IsRuleDump r msg) :
    parseDumbarpRule msg = if r.tagged then some (r.table, r.current) else none := by
  have ht := tableOf_ruleDump h
  rw [RuleMessage.tableOf] at ht
  simp only [parseDumbarpRule, h.family, fields_priority h, fields_src h, fields_fwmark h,
    fields_fwmask h, h.srcLen, ht, Rule.tagged, Rule.current, dumbarpPriority]
  grind

end Rule

/-! ## The loop over the attributes of a route -/

namespace RouteAttribute

def asGateway : RouteAttribute → Option Ipv4Addr
  | gateway (.v4 ip) => some ip
  | _ => none

def asOif : RouteAttribute → Option UInt32
  | oif i => some i
  | _ => none

def asTable : RouteAttribute → Option UInt32
  | table t => some t
  | _ => none

variable {a : RouteAttribute}

@[simp] lemma asGateway_eq_some {ip : Ipv4Addr} : a.asGateway = some ip ↔ a = gateway (.v4 ip) := by
  cases a with
  | gateway ip' => cases ip' <;> simp [asGateway]
  | _ => simp [asGateway]

@[simp] lemma asOif_eq_some {i : UInt32} : a.asOif = some i ↔ a = oif i := by
  cases a <;> simp [asOif]

@[simp] lemma asTable_eq_some {t : UInt32} : a.asTable = some t ↔ a = table t := by
  cases a <;> simp [asTable]

end RouteAttribute

/-- Each variable of the loop follows the attributes of its own kind. -/
lemma RouteFields.read_fields (f : RouteFields) (a : RouteAttribute) :
    (f.read a).gateway = a.asGateway.or f.gateway ∧ (f.read a).oif = a.asOif.or f.oif ∧
      (f.read a).tableAttr = a.asTable.or f.tableAttr := by
  cases a with
  | gateway ip => cases ip <;> exact ⟨rfl, rfl, rfl⟩
  | _ => exact ⟨rfl, rfl, rfl⟩

section Route

variable {q : Route} {msg : RouteMessage}

lemma fields_gateway (h : IsRouteDump q msg) :
    (msg.attributes.foldl RouteFields.read {}).gateway = q.gateway := by
  refine Fields.foldl_eq (fun s a => (s.read_fields a).1) (fun v => ?_) rfl
  simp only [RouteAttribute.asGateway_eq_some, exists_eq_right, h.gateway]

lemma fields_oif (h : IsRouteDump q msg) :
    (msg.attributes.foldl RouteFields.read {}).oif = q.oif := by
  refine Fields.foldl_eq (fun s a => (s.read_fields a).2.1) (fun v => ?_) rfl
  simp only [RouteAttribute.asOif_eq_some, exists_eq_right, h.oif]

lemma tableOf_routeDump (h : IsRouteDump q msg) : msg.tableOf = q.table := by
  rw [RouteMessage.tableOf]
  by_cases ht : ∃ t, .table t ∈ msg.attributes
  · obtain ⟨t, ht⟩ := ht
    have htable := h.tableAttr t ht
    have hf : (msg.attributes.foldl RouteFields.read {}).tableAttr = some q.table := by
      refine Fields.foldl_eq (fun s a => (s.read_fields a).2.2) (fun v => ?_) rfl
      simp only [RouteAttribute.asTable_eq_some, exists_eq_right, Option.some.injEq]
      exact ⟨fun hv => (h.tableAttr v hv).symm, fun hv => by rwa [← hv, ← htable]⟩
    rw [hf, Option.getD_some]
  · push Not at ht
    have hf : (msg.attributes.foldl RouteFields.read {}).tableAttr = none := by
      refine Fields.foldl_eq (fun s a => (s.read_fields a).2.2) (fun v => ?_) rfl
      simp [ht]
    rw [hf, Option.getD_none, h.tableHeader ht]

/-- **A dumped route is read exactly when it carries the tag, a gateway and an interface.** -/
theorem parse_routeDump (h : IsRouteDump q msg) :
    (parseDumbarpRoute msg).map (fun p => (p.table, p.intoValue)) =
      q.current.map (fun c => (q.table, c)) := by
  have ht := tableOf_routeDump h
  rw [RouteMessage.tableOf] at ht
  simp only [parseDumbarpRoute, h.family, h.protocol, fields_gateway h, fields_oif h, h.flags, ht,
    Route.current, Route.tagged]
  by_cases hp : q.protocol = dumbarpProto
  · rcases q.gateway with _ | g <;> rcases q.oif with _ | o <;> simp [hp, ParsedRoute.intoValue]
  · simp [hp]

end Route

end Dumbarp.Routing
