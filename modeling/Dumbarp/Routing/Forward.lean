/-
What the rules and routes are for: the way of a packet.

Linux tries its rules in the order of their priorities.  A rule that selects a packet, by source
and mark, looks for the destination in its table, and the route with the longest prefix there is
the way; a table without one leaves the packet to the next rule.  This file puts that reading
over the kernel of the reconciler: in a kernel that holds what a list wishes for, a packet that
others leave to dumbarp goes the way that the list wishes for it, and in any kernel that the
invariant allows, what dumbarp's rules and routes do to a packet is what one spec asked for.
-/
import Dumbarp.Lib.Policy
import Dumbarp.Routing.Converge

namespace Dumbarp.Routing

open Interact Interact.Prog

/-! ## The lookup of Linux -/

/-- What decides how a packet is routed. -/
structure Packet where
  src : Ipv4Addr
  dst : Ipv4Addr
  mark : UInt32
deriving DecidableEq, Repr

/-- The address lies in the network: the leading bits agree. -/
def covers (net : Ipv4Addr) (len : UInt8) (ip : Ipv4Addr) : Bool :=
  ip.toU32.toNat / 2 ^ (32 - len.toNat) == net.toU32.toNat / 2 ^ (32 - len.toNat)

/-- A rule selects by the source and by the bits of the mark under its mask. -/
def Rule.selects (r : Rule) (p : Packet) : Bool :=
  covers r.src r.srcLen p.src && (p.mark ^^^ r.fwMark) &&& r.fwMask == 0

/-- A rule that leads to a table and has no selectors or options beside source and mark. -/
def Rule.plain (r : Rule) : Bool := r.action == .toTable && r.rest.isEmpty

/-- The route is one for the destination. -/
def Route.leadsTo (ip : Ipv4Addr) (q : Route) : Bool := covers q.dst q.dstLen ip

/-- The route of a table for a destination. -/
def Kernel.find (k : Kernel) (t : UInt32) (ip : Ipv4Addr) : Option Route :=
  Policy.longest (Route.leadsTo ip) (fun q => q.dstLen.toNat) (k.tableRoutes t)

/-- The way a rule knows for a packet.  `other` says what the rules do that have selectors,
options or actions which dumbarp never uses. -/
def Kernel.way (other : Rule → Packet → Option Route) (k : Kernel) (p : Packet) (r : Rule) :
    Option Route :=
  if r.plain then if r.selects p then k.find r.table p.dst else none else other r p

/-- The rule and the route by which a packet leaves. -/
def Kernel.forward (other : Rule → Packet → Option Route) (k : Kernel) (p : Packet) :
    Option (Rule × Route) :=
  Policy.verdict (k.way other p) k.rules

/-- The way of a packet by the rules of others. -/
def Kernel.forwardOthers (other : Rule → Packet → Option Route) (k : Kernel) (p : Packet) :
    Option (Rule × Route) :=
  Policy.verdict (k.way other p) (k.rules.filter fun r => !r.tagged)

/-- Others leave the packet to dumbarp: no rule of theirs decides before dumbarp's, and no route
of theirs in the table of the source leads to the destination. -/
structure LeavesRoom (other : Rule → Packet → Option Route) (k : Kernel) (p : Packet) : Prop where
  rules : ∃ front back, k.rules = front ++ back ∧
    (∀ r ∈ front, r.tagged = false → k.way other p r = none) ∧ ∀ r ∈ back, r.tagged = false
  routes : ∀ q ∈ k.tableRoutes (tableIdFor p.src), q.tagged = false → q.leadsTo p.dst = false

/-! ## The way that is wished for -/

/-- The spec is about the packet. -/
def ResolvedSpec.admits (w : ResolvedSpec) (p : Packet) : Bool :=
  w.src == p.src && w.fwmark.all (· == p.mark)

/-- The way that a list of wishes, one for each table, means for a packet. -/
def wish (want : UInt32 → Option ResolvedSpec) (p : Packet) : Option (Rule × Route) :=
  (want (tableIdFor p.src)).bind fun w =>
    if w.admits p then
      some (ruleFor w.src (tableIdFor p.src) w.fwmark,
        routeFor (tableIdFor p.src) w.gateway w.ifindex)
    else none

lemma covers_host {net ip : Ipv4Addr} : covers net 32 ip = true ↔ net = ip := by
  have hlen : (32 : UInt8).toNat = 32 := rfl
  simp only [covers, hlen, Nat.sub_self, pow_zero, Nat.div_one, beq_iff_eq, UInt32.toNat_inj]
  exact ⟨fun h => (Ipv4Addr.toU32_injective h).symm, fun h => h ▸ rfl⟩

@[simp] lemma covers_any (net ip : Ipv4Addr) : covers net 0 ip = true := by
  have hlen : (0 : UInt8).toNat = 0 := rfl
  have hip := ip.toU32.toNat_lt
  have hnet := net.toU32.toNat_lt
  simp only [covers, hlen, Nat.sub_zero, beq_iff_eq]
  rw [Nat.div_eq_of_lt hip, Nat.div_eq_of_lt hnet]

/-- Under the full mask marks are compared as they are. -/
lemma masked_exact_iff {a b : UInt32} : (a ^^^ b) &&& fwmaskExact = 0 ↔ a = b := by
  have hmask : fwmaskExact = -1 := rfl
  rw [hmask, UInt32.and_neg_one, UInt32.xor_eq_zero_iff]

@[simp] lemma ruleFor_plain (src : Ipv4Addr) (t : UInt32) (fwmark : Option UInt32) :
    (ruleFor src t fwmark).plain = true := rfl

@[simp] lemma routeFor_leadsTo (t : UInt32) (gateway : Ipv4Addr) (ifindex : UInt32)
    (ip : Ipv4Addr) : (routeFor t gateway ifindex).leadsTo ip = true :=
  covers_any _ _

/-- **A rule of dumbarp's selects** the packets that its spec is about. -/
lemma ruleFor_selects {w : ResolvedSpec} {t : UInt32} {p : Packet} :
    (ruleFor w.src t w.fwmark).selects p = w.admits p := by
  rw [Bool.eq_iff_iff]
  simp only [Rule.selects, ResolvedSpec.admits, Bool.and_eq_true, beq_iff_eq]
  refine and_congr covers_host ?_
  cases w.fwmark with
  | none => simp [ruleFor]
  | some m =>
    show (p.mark ^^^ m) &&& fwmaskExact = 0 ↔ _
    rw [masked_exact_iff, Option.all_some, beq_iff_eq, eq_comm]

lemma admits_src {w : ResolvedSpec} {p : Packet} (h : w.admits p) : w.src = p.src := by
  simp only [ResolvedSpec.admits, Bool.and_eq_true, beq_iff_eq] at h
  exact h.1

lemma admits_mark {w : ResolvedSpec} {p : Packet} (h : w.admits p) {m : UInt32}
    (hm : w.fwmark = some m) : m = p.mark := by
  simp only [ResolvedSpec.admits, Bool.and_eq_true, hm, Option.all_some, beq_iff_eq] at h
  exact h.2

/-! ## A kernel that holds what is wished for -/

section Forward

variable {other : Rule → Packet → Option Route} {k : Kernel} {p : Packet} {t : UInt32}
  {want : UInt32 → Option ResolvedSpec}

/-- A tagged rule that knows a way was made for a spec about the packet. -/
lemma way_ruleFor_ne_none {w : ResolvedSpec}
    (h : k.way other p (ruleFor w.src t w.fwmark) ≠ none) : w.admits p := by
  rw [Kernel.way, if_pos (ruleFor_plain _ _ _), ruleFor_selects] at h
  by_contra hno
  simp [hno] at h

/-- The table of a spec knows one way to everywhere, unless others put a route there. -/
lemma way_ruleFor {w : ResolvedSpec}
    (hroutes : k.routesOf t = [routeFor t w.gateway w.ifindex])
    (hforeign : ∀ q ∈ k.tableRoutes t, q.tagged = false → q.leadsTo p.dst = false) :
    k.way other p (ruleFor w.src t w.fwmark) =
      if w.admits p then some (routeFor t w.gateway w.ifindex) else none := by
  have hfind : k.find t p.dst = some (routeFor t w.gateway w.ifindex) := by
    rw [Kernel.find, ← Policy.longest_filter hforeign]
    show Policy.longest _ _ (k.routesOf t) = _
    rw [hroutes, Policy.longest_singleton, if_pos (routeFor_leadsTo _ _ _ _)]
  rw [Kernel.way, if_pos (ruleFor_plain _ _ _), ruleFor_selects, ruleFor_table, hfind]

/-- In a kernel that holds what is wished for, a tagged rule that knows a way for a packet is that
of the wish about it. -/
lemma Kernel.Holds.rule_of_way (h : ∀ t, k.Holds t (want t))
    (htable : ∀ t w, want t = some w → tableIdFor w.src = t) {r : Rule} (hr : r ∈ k.rules)
    (htag : r.tagged) (hway : k.way other p r ≠ none) :
    ∃ w, want (tableIdFor p.src) = some w ∧ w.admits p ∧
      r = ruleFor w.src (tableIdFor p.src) w.fwmark := by
  have hmem : r ∈ k.rulesOf r.table := mem_rulesOf.mpr ⟨hr, htag, rfl⟩
  rw [(h r.table).1] at hmem
  cases hw : want r.table with
  | none => simp [hw] at hmem
  | some w =>
    have hrw : r = ruleFor w.src r.table w.fwmark := by simpa [hw] using hmem
    rw [hrw] at hway
    have hadmits := way_ruleFor_ne_none hway
    have ht : tableIdFor p.src = r.table := admits_src hadmits ▸ htable _ _ hw
    rw [ht]
    exact ⟨w, hw, hadmits, hrw⟩

lemma wish_eq_some {way : Rule × Route} (h : wish want p = some way) :
    ∃ w, want (tableIdFor p.src) = some w ∧ w.admits p ∧
      way = (ruleFor w.src (tableIdFor p.src) w.fwmark,
        routeFor (tableIdFor p.src) w.gateway w.ifindex) := by
  obtain ⟨w, hw, hway⟩ := Option.bind_eq_some_iff.mp h
  split at hway
  · rename_i hadmits
    exact ⟨w, hw, hadmits, (Option.some.inj hway).symm⟩
  · cases hway

/-- **The tagged rules of a kernel that holds what is wished for** send a packet that a wish is
about the wished way. -/
lemma Kernel.Holds.verdict_wished (h : ∀ t, k.Holds t (want t))
    (htable : ∀ t w, want t = some w → tableIdFor w.src = t)
    (hforeign : ∀ q ∈ k.tableRoutes (tableIdFor p.src), q.tagged = false →
      q.leadsTo p.dst = false) {way : Rule × Route} (hwish : wish want p = some way) :
    Policy.verdict (k.way other p) (k.rules.filter Rule.tagged) = some way := by
  obtain ⟨w, hw, hadmits, rfl⟩ := wish_eq_some hwish
  obtain ⟨hrules, hroutes⟩ := h (tableIdFor p.src)
  rw [hw] at hrules hroutes
  have hmem : ruleFor w.src (tableIdFor p.src) w.fwmark ∈ k.rules.filter Rule.tagged := by
    have hone := List.mem_singleton_self (ruleFor w.src (tableIdFor p.src) w.fwmark)
    rw [show [_] = k.rulesOf _ from hrules.symm] at hone
    exact List.mem_filter.mpr ⟨(mem_rulesOf.mp hone).1, ruleFor_tagged _ _ _⟩
  have hway : k.way other p (ruleFor w.src (tableIdFor p.src) w.fwmark) = _ :=
    way_ruleFor hroutes hforeign
  rw [if_pos hadmits] at hway
  refine Policy.verdict_of_only hmem hway fun r hr hne => ?_
  by_contra hsome
  obtain ⟨hr, htag⟩ := List.mem_filter.mp hr
  obtain ⟨w', hw', -, rfl⟩ := Kernel.Holds.rule_of_way h htable hr htag hsome
  obtain rfl := Option.some.inj (hw.symm.trans hw')
  exact hne rfl

/-- A packet that no wish is about passes the tagged rules by. -/
lemma Kernel.Holds.forward_unwished (h : ∀ t, k.Holds t (want t))
    (htable : ∀ t w, want t = some w → tableIdFor w.src = t) (hwish : wish want p = none) :
    k.forward other p = k.forwardOthers other p := by
  refine (Policy.verdict_filter fun r hr htag => ?_).symm
  by_contra hsome
  obtain ⟨w, hw, hadmits, -⟩ :=
    Kernel.Holds.rule_of_way h htable hr (by simpa using htag) hsome
  rw [wish, hw, Option.bind_some, if_pos hadmits] at hwish
  cases hwish

/-- Dumbarp's rules decide first, and those of others the rest. -/
lemma LeavesRoom.forward (h : LeavesRoom other k p) :
    k.forward other p =
      (Policy.verdict (k.way other p) (k.rules.filter Rule.tagged)).or
        (k.forwardOthers other p) := by
  obtain ⟨front, back, hk, hfront, hback⟩ := h.rules
  rw [Kernel.forward, Kernel.forwardOthers, hk]
  exact Policy.verdict_split hfront hback

end Forward

/-! ## After a pass, and at any moment -/

section Passes

variable {s : Traced} {iter : IterOrder} {desired : List RouteSpec} {es : List NetlinkEvent}
  {res : Except Errno Unit} {k : Kernel}

lemma wanted_table {desired : List RouteSpec} {es : List NetlinkEvent} {t : UInt32}
    {w : ResolvedSpec} (h : wanted desired es t = some w) : tableIdFor w.src = t := by
  have hmem := List.mem_of_getLast? h
  simpa using (List.mem_filter.mp hmem).2

/-- A pass in which nothing fails leaves in every table what it wants for it, as long as no pass
was ever asked for the mark 0. -/
lemma Inv.holds (hinv : Inv s) (hzero : ∀ j ≤ s.pass, ∀ spec ∈ s.desired j, spec.fwmark ≠ some 0)
    (hrun : Runs (KernelStep Exact) (reconcile iter desired) s.kernel es res k)
    (hes : ∀ e ∈ es, Succeeds e) (t : UInt32) : k.Holds t (wanted desired es t) := by
  have htable := reconcile_tables hrun hes t
  have hrules : k.rulesOf t = (k.table t).rules := rfl
  have hroutes : k.routesOf t = (k.table t).routes.filter Route.tagged := rfl
  rw [Kernel.Holds, hrules, hroutes, htable]
  by_cases hup : (s.kernel.table t).isUpToDate (wanted desired es t)
  · rw [Table.after, if_pos hup]
    obtain ⟨w, -, -, hw, -⟩ := upToDate_iff.mp hup
    rw [hw] at hup ⊢
    obtain ⟨hroute, w', ⟨hj, spec, hspec, -, -, hmark, -⟩, -, -, hrule, hfw⟩ := hinv.upToDate hup
    rcases hfw with hfw | ⟨hfw, -⟩
    · rw [hfw] at hrule
      exact ⟨hrule, hroute⟩
    · exact absurd (hmark.symm.trans hfw) (hzero _ hj spec hspec)
  · rw [Table.after, if_neg hup]
    exact hinv.rebuilt t _

/-- What the kernel of a history does to a packet by dumbarp's rules and routes is what one spec
of one pass asked for. -/
lemma Inv.forwarded (hinv : Inv s) {other : Rule → Packet → Option Route} {p : Packet} {r : Rule}
    {q : Route} (h : s.kernel.forward other p = some (r, q)) (hr : r.tagged) (hq : q.tagged) :
    ∃ j ≤ s.pass, ∃ spec ∈ s.desired j, spec.src = p.src ∧
      (∀ m, spec.fwmark = some m → m = p.mark) ∧ q.gateway = some spec.gateway ∧
      ∃ idx, q.oif = some idx ∧ ⟨.getLink spec.iface, .ok (some idx)⟩ ∈ s.log j := by
  obtain ⟨hr', hway⟩ := Policy.verdict_mem h
  obtain ⟨w, hw⟩ := hinv r.table
  have hmem : r ∈ s.kernel.rulesOf r.table := mem_rulesOf.mpr ⟨hr', hr, rfl⟩
  have hrw := List.mem_singleton.mp (hw.rules.subset hmem)
  rw [hrw] at hway
  have hadmits := way_ruleFor_ne_none (by rw [hway]; simp)
  -- the way was found in the table of the rule
  rw [Kernel.way, if_pos (ruleFor_plain _ _ _), ruleFor_selects, if_pos hadmits] at hway
  have hfound := (Policy.longest_mem hway).1
  have hqmem : q ∈ s.kernel.routesOf r.table := List.mem_filter.mpr ⟨hfound, hq⟩
  have hqw := List.mem_singleton.mp (hw.routes.subset hqmem)
  obtain ⟨⟨hj, spec, hspec, hsrc, hgw, hmark, hlink⟩, -⟩ :=
    hw.ruleFound (List.ne_nil_of_mem hmem)
  refine ⟨_, hj, spec, hspec, hsrc.symm.trans (admits_src hadmits), fun m hm => ?_, ?_,
    w.ifindex, ?_, hlink⟩
  · exact admits_mark hadmits (hmark.trans hm)
  · rw [hqw, ← hgw]
    rfl
  · rw [hqw]
    rfl

end Passes

/-! ## The specs of a list that are wanted -/

/-- What is wanted was wished for. -/
lemma mem_resolvedSpecs {w : ResolvedSpec} {specs : List RouteSpec} {cache : HashMap String UInt32}
    {es : List NetlinkEvent} (h : w ∈ resolvedSpecs specs cache es) :
    ∃ spec ∈ specs, ∃ idx, w = spec.withIndex idx := by
  induction specs generalizing cache es with
  | nil => simp [resolvedSpecs] at h
  | cons spec specs ih =>
    have hrest {c : HashMap String UInt32} {es : List NetlinkEvent}
        (hw : w ∈ resolvedSpecs specs c es) : ∃ s ∈ spec :: specs, ∃ i, w = s.withIndex i := by
      obtain ⟨s, hs, i, hi⟩ := ih hw
      exact ⟨s, List.mem_cons_of_mem _ hs, i, hi⟩
    have hhead {c : HashMap String UInt32} {es : List NetlinkEvent} {idx : UInt32}
        (hw : w ∈ spec.withIndex idx :: resolvedSpecs specs c es) :
        ∃ s ∈ spec :: specs, ∃ i, w = s.withIndex i := by
      rcases List.mem_cons.mp hw with rfl | hw
      · exact ⟨spec, List.mem_cons_self, idx, rfl⟩
      · exact hrest hw
    cases hc : cache.lookup spec.iface with
    | some idx =>
      rw [resolvedSpecs_cached hc] at h
      exact hhead h
    | none =>
      cases es with
      | nil => simp [resolvedSpecs, hc] at h
      | cons e es =>
        cases he : linkOf e with
        | some idx =>
          rw [resolvedSpecs_found hc he] at h
          exact hhead h
        | none =>
          rw [resolvedSpecs_missed hc he] at h
          exact hrest h

/-- Where every lookup finds an index, the specs resolve one by one. -/
lemma resolvedSpecs_each {changes : Behaviour} {k k' : Kernel} {es : List NetlinkEvent}
    (specs : List RouteSpec) {cache : HashMap String UInt32}
    {resolved m : HashMap UInt32 ResolvedSpec}
    (h : Runs (KernelStep changes) (resolve specs cache resolved) k es m k')
    (hes : ∀ e ∈ es, (linkOf e).isSome) (rest : List NetlinkEvent) :
    List.Forall₂ (fun spec w => ∃ idx, w = spec.withIndex idx ∧
        (cache.lookup spec.iface = some idx ∨ ⟨.getLink spec.iface, .ok (some idx)⟩ ∈ es))
      specs (resolvedSpecs specs cache (es ++ rest)) := by
  induction specs generalizing cache resolved es k with
  | nil => simp [resolvedSpecs]
  | cons spec specs ih =>
    rw [resolve] at h
    cases hlookup : cache.lookup spec.iface with
    | some idx =>
      rw [hlookup] at h
      rw [resolvedSpecs_cached hlookup]
      exact List.Forall₂.cons ⟨idx, rfl, Or.inl hlookup⟩ (ih h hes)
    | none =>
      rw [hlookup] at h
      obtain ⟨r, k₁, es₁, rfl, -, hrun⟩ := runs_call_inv h
      obtain ⟨hhead, hes₁⟩ := List.forall_mem_cons.mp hes
      rcases r with e | _ | idx
      · exact absurd hhead (by simp [linkOf])
      · exact absurd hhead (by simp [linkOf])
      · rw [List.cons_append, resolvedSpecs_found hlookup rfl]
        refine List.Forall₂.cons ⟨idx, rfl, Or.inr List.mem_cons_self⟩ ?_
        refine (ih hrun hes₁).imp fun s w hspec => ?_
        obtain ⟨i, hw, hi⟩ := hspec
        refine ⟨i, hw, ?_⟩
        -- what the cache has gained was found just now
        rcases hi with hi | hi
        · by_cases hiface : s.iface = spec.iface
          · rw [hiface, AList.lookup_insert, Option.some.injEq] at hi
            subst hi
            exact Or.inr (hiface ▸ List.mem_cons_self)
          · rw [AList.lookup_insert_ne hiface] at hi
            exact Or.inl hi
        · exact Or.inr (List.mem_cons_of_mem _ hi)

section Last

variable {R : RouteSpec → ResolvedSpec → Prop} (hR : ∀ spec w, R spec w → w.src = spec.src)
include hR

/-- No spec is the last for a table that the list has none for. -/
lemma lastFor_eq_none {t : UInt32} {specs : List RouteSpec} {ws : List ResolvedSpec}
    (h : List.Forall₂ R specs ws) (hspecs : ∀ s ∈ specs, tableIdFor s.src ≠ t) :
    lastFor t ws = none := by
  induction h with
  | nil => rfl
  | @cons spec w specs ws hw _ ih =>
    have hne : tableIdFor w.src ≠ t := hR spec w hw ▸ hspecs spec List.mem_cons_self
    rw [lastFor_cons, ih fun s hs => hspecs s (List.mem_cons_of_mem _ hs), if_neg hne]
    rfl

/-- The last spec for a table stands for it, whatever the list has before. -/
lemma lastFor_of_last {spec : RouteSpec} {after : List RouteSpec}
    (hafter : ∀ s ∈ after, tableIdFor s.src ≠ tableIdFor spec.src) :
    ∀ {before : List RouteSpec} {ws : List ResolvedSpec},
      List.Forall₂ R (before ++ spec :: after) ws →
        ∃ w, R spec w ∧ lastFor (tableIdFor spec.src) ws = some w
  | [], _, h => by
    obtain ⟨w, ws, hw, hws, rfl⟩ := List.forall₂_cons_left_iff.mp h
    refine ⟨w, hw, ?_⟩
    rw [lastFor_cons, lastFor_eq_none hR hws hafter, if_pos (by rw [hR spec w hw])]
    rfl
  | s :: before, _, h => by
    obtain ⟨v, ws, -, hws, rfl⟩ := List.forall₂_cons_left_iff.mp h
    obtain ⟨w, hw, hlast⟩ := lastFor_of_last hafter hws
    refine ⟨w, hw, ?_⟩
    rw [lastFor_cons, hlast]
    rfl

end Last

/-- A list with a spec for a table has a last one for it. -/
lemma exists_last_for {t : UInt32} {specs : List RouteSpec}
    (h : ∃ spec ∈ specs, tableIdFor spec.src = t) :
    ∃ before spec after, specs = before ++ spec :: after ∧ tableIdFor spec.src = t ∧
      ∀ s ∈ after, tableIdFor s.src ≠ t := by
  induction specs with
  | nil => simp at h
  | cons s specs ih =>
    by_cases hlater : ∃ spec ∈ specs, tableIdFor spec.src = t
    · obtain ⟨before, spec, after, rfl, hspec, hafter⟩ := ih hlater
      exact ⟨s :: before, spec, after, rfl, hspec, hafter⟩
    · obtain ⟨spec, hmem, hspec⟩ := h
      have hs : spec = s := (List.mem_cons.mp hmem).resolve_right fun h => hlater ⟨spec, h, hspec⟩
      exact ⟨[], s, specs, rfl, hs ▸ hspec, fun s' hs' he => hlater ⟨s', hs', he⟩⟩

/-- No lookup that missed its interface. -/
def LinkFound : NetlinkEvent → Prop
  | ⟨.getLink _, r⟩ => ∃ idx, r = .ok (some idx)
  | _ => True

instance : (e : NetlinkEvent) → Decidable (LinkFound e)
  | ⟨.getLink _, .ok (some idx)⟩ => .isTrue ⟨idx, rfl⟩
  | ⟨.getLink _, .ok none⟩ => .isFalse fun ⟨_, h⟩ => by cases h
  | ⟨.getLink _, .error _⟩ => .isFalse fun ⟨_, h⟩ => by cases h
  | ⟨.dumpRules, _⟩ => .isTrue trivial
  | ⟨.dumpRoutes, _⟩ => .isTrue trivial
  | ⟨.change _, _⟩ => .isTrue trivial

/-- **The last spec for a table is the one that is wanted**, if the lookups of a pass find every
interface. -/
lemma wanted_of_last {changes : Behaviour} {k k' : Kernel} {iter : IterOrder}
    {es : List NetlinkEvent} {res : Except Errno Unit} {before after : List RouteSpec}
    {spec : RouteSpec}
    (hrun : Runs (KernelStep changes) (reconcile iter (before ++ spec :: after)) k es res k')
    (hlinks : ∀ e ∈ es, LinkFound e)
    (hafter : ∀ s ∈ after, tableIdFor s.src ≠ tableIdFor spec.src) :
    ∃ idx, ⟨.getLink spec.iface, .ok (some idx)⟩ ∈ es ∧
      wanted (before ++ spec :: after) es (tableIdFor spec.src) = some (spec.withIndex idx) := by
  obtain ⟨es₁, resolved, k₁, es₂, rfl, h₁, -⟩ := runs_bind_inv hrun
  have hes : ∀ e ∈ es₁, (linkOf e).isSome := by
    intro e he
    obtain ⟨iface, hop⟩ := (resolve_makes _ _ _).events h₁ e he
    obtain ⟨op, r⟩ := e
    obtain rfl : op = .getLink iface := hop
    obtain ⟨idx, rfl⟩ : ∃ idx, r = .ok (some idx) := hlinks _ (List.mem_append_left _ he)
    rfl
  obtain ⟨w, ⟨idx, rfl, hidx⟩, hlast⟩ :=
    lastFor_of_last (fun _ _ ⟨_, hw, _⟩ => hw ▸ rfl) hafter (resolvedSpecs_each _ h₁ hes es₂)
  refine ⟨idx, ?_, hlast⟩
  rcases hidx with hidx | hidx
  · simp at hidx
  · exact List.mem_append_left _ hidx

end Dumbarp.Routing
