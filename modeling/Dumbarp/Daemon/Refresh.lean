/-
The routes of `dumbarpd` (`dumbarp-daemon/src/refresh.rs`).

Where the daemon manages routes, a task of its own hands the routes of the leases there are to the
reconciler, again and again, while the DHCP tasks go on: a pass takes its list at its first moment,
and leases come and go during the rest of it.  The daemon may be killed at any moment, and then
starts over with no lease and with the routes it had left in the kernel.
-/
import Dumbarp.Daemon.Plane
import Dumbarp.Routing.Lives

namespace Dumbarp.Daemon

open Interact Interact.Prog Engine Routing Tasks

/-! ## The daemon and its routes -/

/-- `reconcile_routing`, with a router. -/
def reconcileRouting : Reconciler AppState Unit where
  init := ()
  pass s _ := ((), s.currentRoutes)
  manages := true
  purges := false

/-- **The lives of a daemon that manages routes**: its tasks take steps, its passes begin and go on,
it is killed and starts over, and objects of the kernel vanish, in any order. -/
inductive Managed (cfg : Config) :
    Dumbarpd cfg → Life AppState Unit → Rtnetlink (Except Errno Unit) → Prop
  | boots {k : Kernel} (hk : k.Clean) :
      Managed cfg (spawnAll cfg) { state := (), traced := { kernel := k } } (ret (.ok ()))
  | restarts {d l loop} (h : Managed cfg d l loop) : Managed cfg (spawnAll cfg) l (ret (.ok ()))
  | task {d l loop i t s} (h : Managed cfg d l loop)
      (hstep : TaskStep cfg.dscpId (cfg.ifaces.get i) (d.task i) d.shared t s) :
      Managed cfg (d.set i t s) l loop
  | pass {d l res} (iter : IterOrder) (h : Managed cfg d l (ret res)) :
      Managed cfg d (l.pass reconcileRouting d.shared) (reconcile iter d.shared.currentRoutes)
  | step {d l s} {op : NetlinkOp} {next : op.Res → Rtnetlink (Except Errno Unit)} {r : op.Res}
      (h : Managed cfg d l (call op next)) (hs : TracedStep Lossy l.traced op r s) :
      Managed cfg d { l with traced := s } (next r)
  | vanish {d l loop k} (h : Managed cfg d l loop) (hv : Vanish l.traced.kernel k) :
      Managed cfg d (l.withKernel k) loop

section Managed

variable {cfg : Config} {d : Dumbarpd cfg} {l : Life AppState Unit}
  {loop : Rtnetlink (Except Errno Unit)}

/-- What the passes do is the life of a program whose inputs are the states it finds. -/
lemma Managed.lives (h : Managed cfg d l loop) : Lives reconcileRouting l loop none := by
  induction h with
  | boots hk => exact Lives.start rfl (Lives.machine hk)
  | restarts _ ih => exact Lives.start rfl ih
  | task _ _ ih => exact ih
  | @pass d _ _ iter _ ih => exact ih.pass iter d.shared not_ended_none
  | step _ hs ih => exact ih.step not_ended_none hs
  | vanish _ hv ih => exact ih.vanish hv

/-- What the tasks do is a run of the daemon. -/
lemma Managed.reachable (h : Managed cfg d l loop) : Reachable cfg d := by
  induction h with
  | boots => exact Relation.ReflTransGen.refl
  | restarts => exact Relation.ReflTransGen.refl
  | task _ hstep ih => exact ih.tail (Turn.mk hstep)
  | pass _ _ ih => exact ih
  | step _ _ ih => exact ih
  | vanish _ _ ih => exact ih

/-- A pass has found the daemon in a state that it can come to. -/
lemma Managed.met (h : Managed cfg d l loop) {j : ℕ} {s : AppState} {u : Unit}
    (hmet : l.met j = some (s, u)) : ∃ d' : Dumbarpd cfg, Reachable cfg d' ∧ d'.shared = s := by
  induction h with
  | boots => cases hmet
  | restarts _ ih => exact ih hmet
  | task _ _ ih => exact ih hmet
  | @pass d l _ _ h ih =>
    simp only [Life.pass, Function.update_apply] at hmet
    split at hmet
    · exact ⟨d, h.reachable, (Prod.mk.inj (Option.some.inj hmet)).1⟩
    · exact ih hmet
  | step _ _ ih => exact ih hmet
  | vanish _ _ ih => exact ih hmet

/-- A route is that of a lease. -/
lemma mem_currentRoutes {s : AppState} {spec : RouteSpec} :
    spec ∈ s.currentRoutes ↔ ∃ iface info, s.leases.lookup iface = some info ∧
      spec = { src := info.ip, gateway := info.gateway, iface := iface, fwmark := none } := by
  rw [AppState.currentRoutes, List.mem_map]
  constructor
  · rintro ⟨⟨iface, info⟩, hmem, rfl⟩
    exact ⟨iface, info, mem_entries.mp hmem, rfl⟩
  · rintro ⟨iface, info, hl, rfl⟩
    exact ⟨(iface, info), mem_entries.mpr hl, rfl⟩

/-! ## At any moment -/

variable {other : Rule → Packet → Option Route} {p : Packet}

/-- **A daemon never misdirects.**  Whatever requests failed or were lost, however leases came and
went during a pass, and whenever the daemon was killed: if its rules and routes send a packet
anywhere, then the source of the packet was leased on an interface when some pass began, and the
packet goes to the gateway of that lease by that interface; and the engine answered for the source
there, unless the task of the interface was between its two updates. -/
theorem daemon_never_misdirects (hifaces : cfg.ifaces.Nodup) (h : Managed cfg d l loop) {r : Rule}
    {q : Route} (hf : l.traced.kernel.forward other p = some (r, q)) (hr : r.tagged)
    (hq : q.tagged) :
    ∃ j, ∃ d' : Dumbarpd cfg, l.met j = some (d'.shared, ()) ∧ Reachable cfg d' ∧
      ∃ i info, d'.shared.leases.lookup (cfg.ifaces.get i) = some info ∧ info.ip = p.src ∧
        q.gateway = some info.gateway ∧
        (∃ idx, q.oif = some idx ∧
          ⟨.getLink (cfg.ifaces.get i), .ok (some idx)⟩ ∈ l.traced.log j) ∧
        ((d'.task i).phase.settled = true →
          AnswersFor d'.shared.engine (cfg.ifaces.get i) p.src) := by
  obtain ⟨j, s, u, hmet, spec, hspec, hsrc, -, hgw, hlink⟩ := h.lives.forwarded hf hr hq
  obtain ⟨d', hreach, rfl⟩ := h.met hmet
  obtain ⟨iface, info, hlease, rfl⟩ := mem_currentRoutes.mp hspec
  have hlisted : iface ∈ cfg.ifaces := by
    by_contra hno
    exact (hreach.unlisted hno).2 (HashMap.mem_iff_lookup.mpr ⟨info, hlease⟩)
  obtain ⟨i, rfl⟩ := List.get_of_mem hlisted
  refine ⟨j, d', hmet, hreach, i, info, hlease, hsrc, hgw, hlink, fun hsettled => ?_⟩
  have hagrees := (hreach.coherent hifaces i).agrees hsettled
  exact hsrc ▸ (hagrees info.ip).mp ⟨info, hlease, rfl⟩

/-! ## After a pass -/

/-- No rule of a daemon asks for a mark. -/
lemma currentRoutes_unmarked {s : AppState} : ∀ spec ∈ s.currentRoutes, spec.fwmark = none := by
  intro spec hspec
  obtain ⟨iface, info, -, rfl⟩ := mem_currentRoutes.mp hspec
  rfl

section Smooth

variable {res : Except Errno Unit} {iter : IterOrder} {es : List NetlinkEvent}
  {res' : Except Errno Unit} {k : Kernel}

/-- A packet from an address that the engine answers for leaves where it does. -/
lemma Managed.forward_answered (h : Managed cfg d l (ret res)) (hifaces : cfg.ifaces.Nodup)
    (hd : Settled d)
    (hrun : Runs (KernelStep Exact) (reconcile iter d.shared.currentRoutes) l.traced.kernel es res'
      k)
    (hes : ∀ e ∈ es, Succeeds e) (hlinks : ∀ e ∈ es, LinkFound e) (hroom : LeavesRoom other k p)
    (hanswers : ∃ iface, AnswersFor d.shared.engine iface p.src)
    (hsole : ∀ spec ∈ d.shared.currentRoutes, tableIdFor spec.src = tableIdFor p.src →
      spec.src = p.src) :
    ∃ iface info idx, AnswersFor d.shared.engine iface p.src ∧
      d.shared.leases.lookup iface = some info ∧ info.ip = p.src ∧
      ⟨.getLink iface, .ok (some idx)⟩ ∈ es ∧
      k.forward other p = some (ruleFor p.src (tableIdFor p.src) none,
        routeFor (tableIdFor p.src) info.gateway idx) := by
  have htruthful := h.reachable.truthful hifaces hd
  obtain ⟨iface₀, hanswers⟩ := hanswers
  obtain ⟨spec₀, hmem₀, -, hsrc₀⟩ := (htruthful.mem_currentRoutes iface₀ p.src).mpr hanswers
  obtain ⟨before, spec, after, hsplit, htable, hafter⟩ :=
    exists_last_for ⟨spec₀, hmem₀, by rw [hsrc₀]⟩
  have hmem : spec ∈ d.shared.currentRoutes := by simp [hsplit]
  have hsrc := hsole spec hmem htable
  obtain ⟨iface, info, hlease, rfl⟩ := mem_currentRoutes.mp hmem
  have hip : info.ip = p.src := hsrc
  obtain ⟨idx, hidx, hforward⟩ := h.lives.forward_last
    (fun _ _ _ _ spec hspec => by simp [currentRoutes_unmarked spec hspec]) (hsplit ▸ hrun) hes
    hlinks hroom (fun s hs he => hafter s hs (he.trans htable)) hip nofun
  exact ⟨iface, info, idx, (htruthful iface p.src).mp ⟨info, hlease, hip⟩, hlease, hip, hidx,
    hforward⟩

end Smooth

/-- **A daemon routes where it answers.**  Once a pass goes through that began while no task was
between its two updates: a packet from an address that the engine answers for leaves by an interface
where it does, to the gateway of the lease there, if the pass found its interfaces, no other leased
address has the same table, and others leave the packet to dumbarp; a packet from any other address
goes the way of the rules of others. -/
theorem routes_where_it_answers (hifaces : cfg.ifaces.Nodup) {res : Except Errno Unit}
    (h : Managed cfg d l (ret res)) (hd : Settled d) {iter : IterOrder} {es : List NetlinkEvent}
    {res' : Except Errno Unit} {k : Kernel}
    (hrun : Runs (KernelStep Exact) (reconcile iter d.shared.currentRoutes) l.traced.kernel es res'
      k)
    (hes : ∀ e ∈ es, Succeeds e) :
    ((∃ iface, AnswersFor d.shared.engine iface p.src) →
      (∀ spec ∈ d.shared.currentRoutes, tableIdFor spec.src = tableIdFor p.src →
        spec.src = p.src) →
      (∀ e ∈ es, LinkFound e) → LeavesRoom other k p →
      ∃ iface info idx, AnswersFor d.shared.engine iface p.src ∧
        d.shared.leases.lookup iface = some info ∧ info.ip = p.src ∧
        ⟨.getLink iface, .ok (some idx)⟩ ∈ es ∧
        k.forward other p = some (ruleFor p.src (tableIdFor p.src) none,
          routeFor (tableIdFor p.src) info.gateway idx)) ∧
    ((∀ iface, ¬ AnswersFor d.shared.engine iface p.src) →
      k.forward other p = k.forwardOthers other p) := by
  constructor
  · intro hanswers hsole hlinks hroom
    exact h.forward_answered hifaces hd hrun hes hlinks hroom hanswers hsole
  · intro hnone
    have hwish : wish (wanted d.shared.currentRoutes es) p = none := by
      rw [wish, Option.bind_eq_none_iff]
      intro w hw
      refine if_neg fun hadmits => ?_
      obtain ⟨spec, hspec, idx, rfl⟩ :=
        mem_resolvedSpecs (List.mem_filter.mp (List.mem_of_getLast? hw)).1
      obtain ⟨iface, info, hlease, rfl⟩ := mem_currentRoutes.mp hspec
      have htruthful := h.reachable.truthful hifaces hd
      exact hnone iface ((htruthful iface p.src).mp ⟨info, hlease, admits_src hadmits⟩)
    exact h.lives.forward_unwished
      (fun _ _ _ _ spec hspec => by simp [currentRoutes_unmarked spec hspec]) hrun hes hwish

end Managed

/-! ## The first lease of a daemon -/

section First

variable {cfg : Config} {d : Dumbarpd cfg}

/-- The tasks may go on before the first pass. -/
lemma Reachable.managed (h : Reachable cfg d) {k : Kernel} (hk : k.Clean) :
    Managed cfg d { state := (), traced := { kernel := k } } (ret (.ok ())) := by
  induction h with
  | refl => exact Managed.boots hk
  | tail _ hturn ih =>
    obtain ⟨hstep⟩ := hturn
    exact ih.task hstep

/-- What is left of a pass may run to its end. -/
lemma Managed.runs {l : Life AppState Unit} {loop : Rtnetlink (Except Errno Unit)}
    (h : Managed cfg d l loop) {s s' : Traced} {es : List NetlinkEvent} {res : Except Errno Unit}
    (hs : l.traced = s) (hruns : Runs (TracedStep Lossy) loop s es res s') :
    Managed cfg d { l with traced := s' } (ret res) := by
  induction hruns generalizing l with
  | ret => exact hs ▸ h
  | call hstep _ ih =>
    subst hs
    have hend := ih (h.step hstep) rfl
    exact hend

/-- A kernel that answers by a function runs what is left of a pass. -/
lemma Managed.executed (link : String → Option UInt32) {l : Life AppState Unit}
    {loop : Rtnetlink (Except Errno Unit)} (h : Managed cfg d l loop) :
    ∃ res, Managed cfg d { l with traced := (loop.exec (Traced.answer link) l.traced).2.2 }
      (ret res) :=
  ⟨_, h.runs rfl
    (exec_runs (fun s op => (TracedStep.mk (answer_step link s.kernel op)).mono
      fun _ _ _ _ hr => hr.exact.lossy) _ _)⟩

end First

/-- The route of the first lease. -/
def firstRoute : RouteSpec :=
  { src := firstLease.ip, gateway := firstLease.gateway, iface := "eth0", fwmark := none }

lemma currentRoutes_first {s : AppState} (h : s.leases = AList.insert "eth0" firstLease ∅) :
    s.currentRoutes = [firstRoute] := by
  rw [AppState.currentRoutes, AppState.entries, h]
  rfl

/-- A packet from the leased address. -/
def firstPacket : Packet := ⟨firstLease.ip, ⟨8, 8, 8, 8⟩, 0⟩

/-- What a pass does to an empty kernel. -/
def firstTraced : Traced := ({ kernel := {} } : Traced).runPass (fun _ => some 2) [firstRoute]

lemma emptyKernel_clean : Kernel.Clean {} := ⟨by simp, by simp⟩

theorem daemon_never_misdirects_first :
    ∃ (d : Dumbarpd taggedIface.config) (l : Life AppState Unit) (res : Except Errno Unit),
      Managed taggedIface.config d l (ret res) ∧
      l.traced.kernel.forward (fun _ _ => none) firstPacket =
        some (ruleFor firstLease.ip 167772165 none, routeFor 167772165 firstLease.gateway 2) ∧
      ∃ j, ∃ d' : Dumbarpd taggedIface.config, l.met j = some (d'.shared, ()) ∧
        ∃ i info, d'.shared.leases.lookup (taggedIface.config.ifaces.get i) = some info ∧
          info.ip = firstPacket.src := by
  obtain ⟨d, hreach, -, -, hleases⟩ := exists_leased
  have hpass := (hreach.reachable.managed emptyKernel_clean).pass IterOrder.collected
  obtain ⟨res, hmanaged⟩ := hpass.executed fun _ => some 2
  have hforward : firstTraced.kernel.forward (fun _ _ => none) firstPacket =
      some (ruleFor firstLease.ip 167772165 none, routeFor 167772165 firstLease.gateway 2) := by
    decide
  have hpassed : ((reconcile IterOrder.collected d.shared.currentRoutes).exec
      (Traced.answer fun _ => some 2)
      (({ kernel := {} } : Traced).startPass d.shared.currentRoutes)).2.2 = firstTraced := by
    rw [currentRoutes_first hleases]
    rfl
  rw [← hpassed] at hforward
  refine ⟨d, _, _, hmanaged, hforward, ?_⟩
  obtain ⟨j, d', hmet, -, i, info, hlease, hip, -⟩ :=
    daemon_never_misdirects (by decide) hmanaged hforward (ruleFor_tagged _ _ _)
      (routeFor_tagged _ _ _)
  exact ⟨j, d', hmet, i, info, hlease, hip⟩

/-- A pass for the first lease. -/
def firstRun : List NetlinkEvent × Except Errno Unit × Kernel :=
  (reconcile IterOrder.collected [firstRoute]).exec (Kernel.answer fun _ => some 2) {}

theorem routes_first_lease :
    ∃ d : Dumbarpd taggedIface.config, PlaneReachable taggedIface.config d ∧ Settled d ∧
      ∃ iface info idx, AnswersFor d.shared.engine iface firstPacket.src ∧
        d.shared.leases.lookup iface = some info ∧ info.ip = firstPacket.src ∧
        ⟨.getLink iface, .ok (some idx)⟩ ∈ firstRun.1 ∧
        firstRun.2.2.forward (fun _ _ => none) firstPacket =
          some (ruleFor firstPacket.src (tableIdFor firstPacket.src) none,
            routeFor (tableIdFor firstPacket.src) info.gateway idx) := by
  obtain ⟨d, hreach, hsettled, -, hleases⟩ := exists_leased
  have hroutes := currentRoutes_first hleases
  have hrun : Runs (KernelStep Exact) (reconcile IterOrder.collected d.shared.currentRoutes) {}
      firstRun.1 firstRun.2.1 firstRun.2.2 := by
    rw [hroutes]
    exact exec_runs (fun k op => (answer_step _ k op).mono fun _ _ _ _ hr => hr.exact) _ _
  have hroom : LeavesRoom (fun _ _ => none) firstRun.2.2 firstPacket :=
    ⟨⟨[ruleFor firstLease.ip 167772165 none], [], by decide, by simp, by simp⟩, by decide⟩
  obtain ⟨hanswered, -⟩ := routes_where_it_answers (by decide)
    (hreach.reachable.managed emptyKernel_clean) hsettled hrun (by decide)
  have hanswers : AnswersFor d.shared.engine "eth0" firstPacket.src := by
    refine (hreach.reachable.truthful (by decide) hsettled "eth0" _).mp ⟨firstLease, ?_, rfl⟩
    rw [hleases]
    exact AList.lookup_insert _
  refine ⟨d, hreach, hsettled, hanswered ⟨"eth0", hanswers⟩ ?_ (by decide) hroom⟩
  rw [hroutes]
  intro spec hspec _
  rw [List.mem_singleton.mp hspec]
  rfl

end Dumbarp.Daemon
