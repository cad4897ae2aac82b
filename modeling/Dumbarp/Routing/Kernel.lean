/-
The kernel as the reconciler meets it over netlink.

A kernel is its list of IPv4 policy rules and its list of IPv4 routes, in the order in which
it dumps them.  `Kernel.apply` is what a change does when it takes effect: a new rule goes
behind the rules of the same or a smaller priority number, a new route into the order of its
table, and a delete removes the first object that agrees with every attribute of the
request.  How changes may fail differs from result to result, so the step relation
`KernelStep` is given the behaviour of changes as an argument: `Exact` (effect or error),
`Lossy` (an error may hide an effect, a delete takes any agreeing object) and `Reliable`
(only an absent or an already present object is an error).
-/
import Dumbarp.Lib.Interact
import Dumbarp.Routing.Message
import Mathlib.Data.List.Basic

namespace Dumbarp.Routing

open Interact

/-! ## Objects and their dumps -/

/-- A policy rule.  `rest` stands for the selectors and options dumbarp never looks at. -/
structure Rule where
  action : RuleAction
  table : UInt32
  priority : UInt32
  srcLen : UInt8
  src : Ipv4Addr
  fwMark : UInt32
  fwMask : UInt32
  rest : List ℕ := []
deriving DecidableEq, Repr

/-- A route of one of the kernel's tables. -/
structure Route where
  table : UInt32
  dst : Ipv4Addr
  dstLen : UInt8
  protocol : UInt8
  gateway : Option Ipv4Addr
  oif : Option UInt32
  flags : UInt32
deriving DecidableEq, Repr

/-- The rules that carry dumbarp's tag: its priority and a host source. -/
def Rule.tagged (r : Rule) : Bool := r.priority == dumbarpPriority && r.srcLen == 32

/-- The routes that carry dumbarp's tag: its protocol. -/
def Route.tagged (q : Route) : Bool := q.protocol == dumbarpProto

/-- The destination `0.0.0.0`. -/
def anyAddr : Ipv4Addr := ⟨0, 0, 0, 0⟩

/-- The route to everywhere. -/
def Route.isDefault (q : Route) : Bool := q.dst == anyAddr && q.dstLen == 0

/-- `msg` is a dump of the rule `r`: whatever the order of its attributes, it reports the
priority, the source and the mark and mask where they are not zero, and the table in an
attribute or, when it fits, in the header. -/
structure IsRuleDump (r : Rule) (msg : RuleMessage) : Prop where
  family : msg.header.family = .inet
  srcLen : msg.header.srcLen = r.srcLen
  action : msg.header.action = r.action
  priority : ∀ p, .priority p ∈ msg.attributes ↔ p = r.priority ∧ r.priority ≠ 0
  source : ∀ ip, .source ip ∈ msg.attributes ↔ ip = .v4 r.src ∧ r.srcLen ≠ 0
  tableAttr : ∀ t, .table t ∈ msg.attributes → t = r.table
  tableHeader : (∀ t, .table t ∉ msg.attributes) → msg.header.table.toUInt32 = r.table
  fwMark : ∀ m, .fwMark m ∈ msg.attributes ↔ m = r.fwMark ∧ r.fwMark ≠ 0
  fwMask : ∀ m, .fwMask m ∈ msg.attributes ↔ m = r.fwMask ∧ r.fwMask ≠ 0

/-- `msg` is a dump of the route `q`. -/
structure IsRouteDump (q : Route) (msg : RouteMessage) : Prop where
  family : msg.header.family = .inet
  dstLen : msg.header.dstLen = q.dstLen
  protocol : msg.header.protocol = q.protocol
  flags : msg.header.flags = q.flags
  gateway : ∀ ip, .gateway (.v4 ip) ∈ msg.attributes ↔ q.gateway = some ip
  oif : ∀ i, .oif i ∈ msg.attributes ↔ q.oif = some i
  tableAttr : ∀ t, .table t ∈ msg.attributes → t = q.table
  tableHeader : (∀ t, .table t ∉ msg.attributes) → msg.header.table.toUInt32 = q.table

/-- The dump that Linux writes for a rule. -/
def dumpRule (r : Rule) : RuleMessage where
  header :=
    { family := .inet, srcLen := r.srcLen, action := r.action
      table := if r.table < 256 then r.table.toUInt8 else 252 }
  attributes :=
    .table r.table :: (if r.priority ≠ 0 then [.priority r.priority] else [])
      ++ (if r.srcLen ≠ 0 then [.source (.v4 r.src)] else [])
      ++ (if r.fwMark ≠ 0 then [.fwMark r.fwMark] else [])
      ++ (if r.fwMask ≠ 0 then [.fwMask r.fwMask] else []) ++ r.rest.map .other

/-- The dump that Linux writes for a route. -/
def dumpRoute (q : Route) : RouteMessage where
  header :=
    { family := .inet, dstLen := q.dstLen, protocol := q.protocol, flags := q.flags
      table := if q.table < 256 then q.table.toUInt8 else 252 }
  attributes :=
    .table q.table :: (if q.dstLen ≠ 0 then [.destination (.v4 q.dst)] else [])
      ++ (q.gateway.map fun ip => .gateway (.v4 ip)).toList ++ (q.oif.map .oif).toList

lemma isRuleDump_dumpRule (r : Rule) : IsRuleDump r (dumpRule r) where
  family := rfl
  srcLen := rfl
  action := rfl
  priority p := by simp [dumpRule]; grind
  source ip := by simp [dumpRule]; grind
  tableAttr t := by simp [dumpRule]
  tableHeader h := absurd (by simp [dumpRule]) (h r.table)
  fwMark m := by simp [dumpRule]; grind
  fwMask m := by simp [dumpRule]; grind

lemma isRouteDump_dumpRoute (q : Route) : IsRouteDump q (dumpRoute q) where
  family := rfl
  dstLen := rfl
  protocol := rfl
  flags := rfl
  gateway ip := by simp [dumpRoute]
  oif i := by simp [dumpRoute]
  tableAttr t := by simp [dumpRoute]
  tableHeader h := absurd (by simp [dumpRoute]) (h q.table)

/-! ## What a request asks for -/

/-- The last table attribute, or else the header's table. -/
def RuleMessage.tableOf (m : RuleMessage) : UInt32 :=
  (m.attributes.foldl RuleFields.read {}).tableAttr.getD m.header.table.toUInt32

/-- The rule that an add request describes.  A nonzero mark that comes without a mask is
compared in full. -/
def ruleOf (m : RuleMessage) : Rule :=
  let f := m.attributes.foldl RuleFields.read {}
  let mark := f.fwmark.getD 0
  { action := m.header.action
    table := m.tableOf
    priority := f.priority.getD 0
    srcLen := m.header.srcLen
    src := f.src.getD anyAddr
    fwMark := mark
    fwMask := f.fwmask.getD (if mark ≠ 0 then fwmaskExact else 0) }

/-- Whether a delete request carries a mask. -/
def RuleMessage.hasMask (m : RuleMessage) : Bool :=
  m.attributes.any fun
    | .fwMask _ => true
    | _ => false

/-- Whether the rule `r` agrees with every attribute of the delete request `m`.  A nonzero
mark that comes without a mask stands for the full mask. -/
def agreesRule (m : RuleMessage) (r : Rule) : Bool :=
  (m.header.action == .unspec || m.header.action == r.action) &&
    m.attributes.all fun
      | .priority p => r.priority == p
      | .source (.v4 ip) => r.srcLen == m.header.srcLen && r.src == ip
      | .source (.v6 _) => false
      | .table t => r.table == t
      | .fwMark v => v == 0 || (r.fwMark == v && (m.hasMask || r.fwMask == fwmaskExact))
      | .fwMask v => v == 0 || r.fwMask == v
      | .other k => r.rest.contains k

/-- The last table attribute, or else the header's table. -/
def RouteMessage.tableOf (m : RouteMessage) : UInt32 :=
  (m.attributes.foldl RouteFields.read {}).tableAttr.getD m.header.table.toUInt32

/-- The destination a request names: none is `0.0.0.0`. -/
def RouteMessage.dstOf (m : RouteMessage) : Ipv4Addr :=
  m.attributes.foldl (fun d a => match a with | .destination (.v4 ip) => ip | _ => d) anyAddr

/-- The route that an add request describes. -/
def routeOf (m : RouteMessage) : Route :=
  let f := m.attributes.foldl RouteFields.read {}
  { table := m.tableOf
    dst := m.dstOf
    dstLen := m.header.dstLen
    protocol := m.header.protocol
    gateway := f.gateway
    oif := f.oif
    flags := m.header.flags }

/-- Whether the route `q` agrees with the delete request `m`: the same table, destination
prefix and protocol, and the next hop where the request names one. -/
def agreesRoute (m : RouteMessage) (q : Route) : Bool :=
  q.table == m.tableOf && q.dst == m.dstOf && q.dstLen == m.header.dstLen &&
    q.protocol == m.header.protocol &&
    m.attributes.all fun
      | .gateway (.v4 ip) => q.gateway == some ip
      | .oif i => q.oif == some i
      | _ => true

/-! ## The state and its changes -/

/-- The routing state of a kernel, in the order of its dumps. -/
structure Kernel where
  rules : List Rule := []
  routes : List Route := []
deriving DecidableEq, Repr

/-- A new rule goes behind those that precede it or have the same priority. -/
def insertRule (r : Rule) : List Rule → List Rule
  | [] => [r]
  | x :: xs => if x.priority ≤ r.priority then x :: insertRule r xs else r :: x :: xs

/-- A table is dumped by destination, the longer prefix of one address first. -/
def Route.before (x q : Route) : Bool :=
  x.dst.toU32 < q.dst.toU32 || (x.dst == q.dst && q.dstLen < x.dstLen)

/-- A new route goes into the order of its table, before those to the same destination. -/
def insertRoute (q : Route) : List Route → List Route
  | [] => [q]
  | x :: xs => if x.table ≠ q.table ∨ x.before q then x :: insertRoute q xs else q :: x :: xs

/-- A request that changes the state. -/
inductive Change
  | addRule (m : RuleMessage)
  | delRule (m : RuleMessage)
  | addRoute (m : RouteMessage)
  | delRoute (m : RouteMessage)
deriving DecidableEq, Repr

/-- What a change does when it takes effect; a delete needs an object that agrees. -/
def Kernel.apply (k : Kernel) : Change → Option Kernel
  | .addRule m => some { k with rules := insertRule (ruleOf m) k.rules }
  | .delRule m =>
    if k.rules.any (agreesRule m) then some { k with rules := k.rules.eraseP (agreesRule m) }
    else none
  | .addRoute m => some { k with routes := insertRoute (routeOf m) k.routes }
  | .delRoute m =>
    if k.routes.any (agreesRoute m) then some { k with routes := k.routes.eraseP (agreesRoute m) }
    else none

/-- What a change may do when a delete takes any one of the objects that agree. -/
inductive Takes : Kernel → Change → Kernel → Prop
  | addRule (k m) : Takes k (.addRule m) { k with rules := insertRule (ruleOf m) k.rules }
  | delRule {k : Kernel} {m l₁ r l₂} (hk : k.rules = l₁ ++ r :: l₂) (hr : agreesRule m r) :
      Takes k (.delRule m) { k with rules := l₁ ++ l₂ }
  | addRoute (k m) : Takes k (.addRoute m) { k with routes := insertRoute (routeOf m) k.routes }
  | delRoute {k : Kernel} {m l₁ q l₂} (hk : k.routes = l₁ ++ q :: l₂) (hq : agreesRoute m q) :
      Takes k (.delRoute m) { k with routes := l₁ ++ l₂ }

lemma takes_of_apply {k k' : Kernel} {c : Change} (h : k.apply c = some k') : Takes k c k' := by
  cases c with
  | addRule m =>
    obtain rfl := Option.some.inj h
    exact Takes.addRule k m
  | addRoute m =>
    obtain rfl := Option.some.inj h
    exact Takes.addRoute k m
  | delRule m =>
    simp only [Kernel.apply, List.any_eq_true, Option.ite_none_right_eq_some,
      Option.some.injEq] at h
    obtain ⟨⟨r, hr, hm⟩, rfl⟩ := h
    obtain ⟨r', l₁, l₂, -, hr', hk, he⟩ := List.exists_of_eraseP hr hm
    rw [he]
    exact Takes.delRule hk hr'
  | delRoute m =>
    simp only [Kernel.apply, List.any_eq_true, Option.ite_none_right_eq_some,
      Option.some.injEq] at h
    obtain ⟨⟨q, hq, hm⟩, rfl⟩ := h
    obtain ⟨q', l₁, l₂, -, hq', hk, he⟩ := List.exists_of_eraseP hq hm
    rw [he]
    exact Takes.delRoute hk hq'

/-! ## Requests over netlink -/

/-- The number of an error the kernel reports. -/
abbrev Errno : Type := ℤ

/-- What `RouteManager` asks of the kernel. -/
inductive NetlinkOp
  | getLink (iface : String)
  | dumpRules
  | dumpRoutes
  | change (c : Change)
deriving DecidableEq

/-- A request to change the kernel. -/
def IsChange : NetlinkOp → Prop
  | .change _ => True
  | _ => False

instance : (op : NetlinkOp) → Decidable (IsChange op)
  | .getLink _ => .isFalse id
  | .dumpRules => .isFalse id
  | .dumpRoutes => .isFalse id
  | .change _ => .isTrue trivial

/-- What the kernel answers; a link that is not found is no error of the request. -/
@[reducible] def NetlinkOp.Res : NetlinkOp → Type
  | .getLink _ => Except Errno (Option UInt32)
  | .dumpRules => Except Errno (List RuleMessage)
  | .dumpRoutes => Except Errno (List RouteMessage)
  | .change _ => Except Errno Unit

abbrev NetlinkEvent : Type := Event NetlinkOp NetlinkOp.Res

/-- How a kernel treats a change: the state before, the request, the report, the state
after. -/
abbrev Behaviour : Type := Kernel → Change → Except Errno Unit → Kernel → Prop

/-- The steps of a kernel: dumps report the true state or fail, lookups of links may find
anything, and changes go by `changes`. -/
inductive KernelStep (changes : Behaviour) : Sem Kernel NetlinkOp NetlinkOp.Res
  | getLink (k iface r) : KernelStep changes k (.getLink iface) r k
  | dumpRules {k : Kernel} {msgs} (h : List.Forall₂ IsRuleDump k.rules msgs) :
      KernelStep changes k .dumpRules (.ok msgs) k
  | dumpRulesFails (k e) : KernelStep changes k .dumpRules (.error e) k
  | dumpRoutes {k : Kernel} {msgs} (h : List.Forall₂ IsRouteDump k.routes msgs) :
      KernelStep changes k .dumpRoutes (.ok msgs) k
  | dumpRoutesFails (k e) : KernelStep changes k .dumpRoutes (.error e) k
  | change {k c r k'} (h : changes k c r k') : KernelStep changes k (.change c) r k'

/-- A change takes effect completely or fails and changes nothing. -/
inductive Exact : Behaviour
  | done {k c k'} (h : k.apply c = some k') : Exact k c (.ok ()) k'
  | refused (k c e) : Exact k c (.error e) k

/-- A change that reports failure may or may not have taken effect. -/
inductive Lossy : Behaviour
  | done {k c k'} (h : Takes k c k') : Lossy k c (.ok ()) k'
  | lost {k c k'} (e) (h : Takes k c k') : Lossy k c (.error e) k'
  | refused (k c e) : Lossy k c (.error e) k

/-- The object that an add would create is already there. -/
def Kernel.present (k : Kernel) : Change → Prop
  | .addRule m => ruleOf m ∈ k.rules
  | .addRoute m => ∃ q ∈ k.routes, q.table = (routeOf m).table ∧ q.dst = (routeOf m).dst ∧
      q.dstLen = (routeOf m).dstLen
  | _ => False

/-- A change takes effect unless its object is absent or already present. -/
inductive Reliable : Behaviour
  | done {k c k'} (hp : ¬ k.present c) (h : k.apply c = some k') : Reliable k c (.ok ()) k'
  | present {k c} (e) (hp : k.present c) : Reliable k c (.error e) k
  | absent {k c} (e) (h : k.apply c = none) : Reliable k c (.error e) k

lemma Exact.lossy {k k' : Kernel} {c : Change} {r} (h : Exact k c r k') : Lossy k c r k' := by
  cases h with
  | done h => exact Lossy.done (takes_of_apply h)
  | refused => exact Lossy.refused _ _ _

lemma Reliable.exact {k k' : Kernel} {c : Change} {r} (h : Reliable k c r k') :
    Exact k c r k' := by
  cases h with
  | done _ h => exact Exact.done h
  | present => exact Exact.refused _ _ _
  | absent => exact Exact.refused _ _ _

section StepInversion

variable {changes : Behaviour} {k k' : Kernel}

lemma kernelStep_getLink_inv {iface : String} {r : Except Errno (Option UInt32)}
    (h : KernelStep changes k (.getLink iface) r k') : k' = k := by
  cases h
  rfl

lemma kernelStep_dumpRules_inv {r : Except Errno (List RuleMessage)}
    (h : KernelStep changes k .dumpRules r k') :
    k' = k ∧ ∀ msgs, r = .ok msgs → List.Forall₂ IsRuleDump k.rules msgs := by
  cases h with
  | dumpRules h =>
    refine ⟨rfl, fun msgs hm => ?_⟩
    obtain rfl := Except.ok.inj hm
    exact h
  | dumpRulesFails => exact ⟨rfl, by simp⟩

lemma kernelStep_dumpRoutes_inv {r : Except Errno (List RouteMessage)}
    (h : KernelStep changes k .dumpRoutes r k') :
    k' = k ∧ ∀ msgs, r = .ok msgs → List.Forall₂ IsRouteDump k.routes msgs := by
  cases h with
  | dumpRoutes h =>
    refine ⟨rfl, fun msgs hm => ?_⟩
    obtain rfl := Except.ok.inj hm
    exact h
  | dumpRoutesFails => exact ⟨rfl, by simp⟩

lemma kernelStep_change_inv {c : Change} {r : Except Errno Unit}
    (h : KernelStep changes k (.change c) r k') : changes k c r k' := by
  cases h with
  | change h => exact h

end StepInversion

lemma KernelStep.mono {A B : Behaviour} (hAB : ∀ k c r k', A k c r k' → B k c r k')
    {k k' : Kernel} {op : NetlinkOp} {r : op.Res} (h : KernelStep A k op r k') :
    KernelStep B k op r k' := by
  cases h with
  | getLink => exact KernelStep.getLink _ _ _
  | dumpRules h => exact KernelStep.dumpRules h
  | dumpRulesFails => exact KernelStep.dumpRulesFails _ _
  | dumpRoutes h => exact KernelStep.dumpRoutes h
  | dumpRoutesFails => exact KernelStep.dumpRoutesFails _ _
  | change h => exact KernelStep.change (hAB _ _ _ _ h)

/-! ## A kernel that answers by a function -/

instance (k : Kernel) : (c : Change) → Decidable (k.present c)
  | .addRule m => inferInstanceAs (Decidable (ruleOf m ∈ k.rules))
  | .addRoute m =>
    inferInstanceAs (Decidable (∃ q ∈ k.routes, q.table = (routeOf m).table ∧
      q.dst = (routeOf m).dst ∧ q.dstLen = (routeOf m).dstLen))
  | .delRule _ => inferInstanceAs (Decidable False)
  | .delRoute _ => inferInstanceAs (Decidable False)

/-- `EEXIST`. -/
def eexist : Errno := -17

/-- `ENOENT`. -/
def enoent : Errno := -2

/-- Carry out a change unless its object is absent or already present. -/
def Kernel.carryOut (k : Kernel) (c : Change) : Except Errno Unit × Kernel :=
  if k.present c then (.error eexist, k)
  else
    match k.apply c with
    | some k' => (.ok (), k')
    | none => (.error enoent, k)

/-- The kernel that has the links `link`, dumps in Linux's way and does what it is asked. -/
def Kernel.answer (link : String → Option UInt32) (k : Kernel) : (op : NetlinkOp) → op.Res × Kernel
  | .getLink iface => (.ok (link iface), k)
  | .dumpRules => (.ok (k.rules.map dumpRule), k)
  | .dumpRoutes => (.ok (k.routes.map dumpRoute), k)
  | .change c => k.carryOut c

lemma carryOut_reliable (k : Kernel) (c : Change) :
    Reliable k c (k.carryOut c).1 (k.carryOut c).2 := by
  rw [Kernel.carryOut]
  split
  · exact Reliable.present eexist ‹_›
  · cases h : k.apply c with
    | some k' => exact Reliable.done ‹_› h
    | none => exact Reliable.absent enoent h

lemma answer_step (link : String → Option UInt32) (k : Kernel) (op : NetlinkOp) :
    KernelStep Reliable k op (k.answer link op).1 (k.answer link op).2 := by
  cases op with
  | getLink iface => exact KernelStep.getLink _ _ _
  | dumpRules =>
    refine KernelStep.dumpRules (List.forall₂_map_right_iff.mpr ?_)
    exact List.forall₂_same.mpr fun r _ => isRuleDump_dumpRule r
  | dumpRoutes =>
    refine KernelStep.dumpRoutes (List.forall₂_map_right_iff.mpr ?_)
    exact List.forall₂_same.mpr fun q _ => isRouteDump_dumpRoute q
  | change c => exact KernelStep.change (carryOut_reliable k c)

end Dumbarp.Routing
