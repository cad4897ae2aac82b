/-
The programs that reconcile, over their whole lives.

A router, a gateway and a daemon run the same loop: a pass makes of what it meets and of the
state it has a list of specs, and hands it to the reconciler.  Each may be killed at any moment,
in the middle of a pass too, and then starts over with nothing but the kernel left of its past.  A
router purges the kernel when it starts, and tears down what there is when it is told to stop,
while its loop still runs.  `Lives` are the moments of such lives, one after the other on one
machine; the invariant of a history holds at every one of them.
-/
import Dumbarp.Routing.Foreign
import Dumbarp.Routing.Forward
import Dumbarp.Routing.Shutdown

namespace Dumbarp.Routing

open Interact Interact.Prog

/-! ## Lives -/

/-- A program that runs passes.  `ι` is what a pass meets outside the program, `σ` what the program
keeps from pass to pass. -/
structure Reconciler (ι σ : Type) where
  /-- What the program starts with. -/
  init : σ
  /-- What a pass leaves, and the list it makes for the reconciler. -/
  pass : ι → σ → σ × List RouteSpec
  /-- The program has a reconciler. -/
  manages : Bool
  /-- The program removes what is tagged when it starts and when it is told to stop. -/
  purges : Bool

/-- What a pass does with its list. -/
def Reconciler.handOver {ι σ : Type} (P : Reconciler ι σ) (iter : IterOrder)
    (desired : List RouteSpec) : Rtnetlink (Except Errno Unit) :=
  if P.manages then reconcile iter desired else ret (.ok ())

/-- The program and its machine, with what the numbered passes have met.  A purge has a number
too, but meets nothing. -/
structure Life (ι σ : Type) where
  state : σ
  traced : Traced
  met : ℕ → Option (ι × σ) := fun _ => none

section Lives

variable {ι σ : Type} {P : Reconciler ι σ}

/-- The kernel has changed by other hands than the loop's. -/
def Life.withKernel (l : Life ι σ) (k : Kernel) : Life ι σ :=
  { l with traced := { l.traced with kernel := k } }

/-- A pass begins. -/
def Life.pass (P : Reconciler ι σ) (x : ι) (l : Life ι σ) : Life ι σ where
  state := (P.pass x l.state).1
  traced := l.traced.startPass (P.pass x l.state).2
  met := Function.update l.met (l.traced.pass + 1) (some (x, l.state))

/-- The program starts over with a purge. -/
def Life.purge (P : Reconciler ι σ) (l : Life ι σ) : Life ι σ :=
  { l with state := P.init, traced := l.traced.startPass [] }

/-- The main task has returned, and the process is gone. -/
def Ended (main : Option (Rtnetlink (Except Errno Unit))) : Prop := ∃ res, main = some (ret res)

/-- **The lives of a program** on a machine with nothing of dumbarp's at the start.
`Lives P l loop main` says that at some moment `l` is how things stand, `loop` is left of the
pass under way and `main` of the teardown, if that has begun. -/
inductive Lives (P : Reconciler ι σ) :
    Life ι σ → Rtnetlink (Except Errno Unit) → Option (Rtnetlink (Except Errno Unit)) → Prop
  | machine {k : Kernel} (hk : k.Clean) :
      Lives P { state := P.init, traced := { kernel := k } } (ret (.ok ())) (some (ret (.ok ())))
  | start {l loop main} (hp : P.purges = false) (h : Lives P l loop main) :
      Lives P { l with state := P.init } (ret (.ok ())) none
  | purge {l loop main} (iter : IterOrder) (hp : P.purges = true) (h : Lives P l loop main) :
      Lives P (l.purge P) (reconcile iter []) none
  | pass {l res main} (iter : IterOrder) (x : ι) (hrun : ¬ Ended main)
      (h : Lives P l (ret res) main) :
      Lives P (l.pass P x) (P.handOver iter (P.pass x l.state).2) main
  | step {l main s} {op : NetlinkOp} {next : op.Res → Rtnetlink (Except Errno Unit)} {r : op.Res}
      (hrun : ¬ Ended main) (h : Lives P l (call op next) main)
      (hs : TracedStep Lossy l.traced op r s) : Lives P { l with traced := s } (next r) main
  | signal {l loop} (iter : IterOrder) (hp : P.purges = true) (h : Lives P l loop none) :
      Lives P l loop (some (reconcile iter []))
  | teardown {l loop k} {op : NetlinkOp} {next : op.Res → Rtnetlink (Except Errno Unit)}
      {r : op.Res} (h : Lives P l loop (some (call op next)))
      (hs : KernelStep Lossy l.traced.kernel op r k) :
      Lives P (l.withKernel k) loop (some (next r))
  | vanish {l loop main k} (h : Lives P l loop main) (hv : Vanish l.traced.kernel k) :
      Lives P (l.withKernel k) loop main

/-! ## A teardown only takes away -/

/-- The request adds nothing. -/
def AddsNothing : NetlinkOp → Prop
  | .change (.addRule _) | .change (.addRoute _) => False
  | _ => True

lemma requests_addsNothing {cs : List Change} (h : ∀ c ∈ cs, AddsNothing (.change c)) :
    Makes AddsNothing (requests cs) := by
  induction cs with
  | nil => trivial
  | cons c cs ih =>
    exact ⟨h c List.mem_cons_self, fun _ => ih fun c' hc' => h c' (List.mem_cons_of_mem _ hc')⟩

lemma deletes_addNothing (iter : IterOrder) (rules : HashMap UInt32 (List CurrentRule))
    (routes : HashMap UInt32 CurrentRoute) :
    ∀ c ∈ deletes iter rules routes, AddsNothing (.change c) := by
  intro c hc
  obtain ⟨t, -, hc⟩ := List.mem_flatMap.mp hc
  rcases List.mem_append.mp hc with hc | hc
  · obtain ⟨rule, -, rfl⟩ := List.mem_map.mp hc
    trivial
  · obtain ⟨rt, -, rfl⟩ := Option.mem_map.mp (Option.mem_toList.mp hc)
    trivial

lemma teardown_addsNothing (iter : IterOrder) : Makes AddsNothing (reconcile iter []) := by
  rw [teardown_eq]
  refine ⟨trivial, fun r => ?_⟩
  cases r with
  | error e => trivial
  | ok msgs =>
    refine ⟨trivial, fun r => ?_⟩
    cases r with
    | error e => trivial
    | ok msgs' =>
      exact (requests_addsNothing (deletes_addNothing iter _ _)).bind fun _ => trivial

/-- To take away is one more way to vanish. -/
lemma vanish_of_addsNothing {k k' : Kernel} {op : NetlinkOp} {r : op.Res} (hop : AddsNothing op)
    (h : KernelStep Lossy k op r k') : Vanish k k' := by
  have htakes {c : Change} (hc : AddsNothing (.change c)) (h : Takes k c k') : Vanish k k' := by
    cases c with
    | addRule m => exact hc.elim
    | addRoute m => exact hc.elim
    | delRule m => exact vanish_delRule h
    | delRoute m => exact vanish_delRoute h
  cases h with
  | getLink => exact Vanish.refl k
  | dumpRules => exact Vanish.refl k
  | dumpRulesFails => exact Vanish.refl k
  | dumpRoutes => exact Vanish.refl k
  | dumpRoutesFails => exact Vanish.refl k
  | change h =>
    rcases lossy_inv h with rfl | h
    · exact Vanish.refl _
    · exact htakes hop h

/-! ## The invariant of a life -/

/-- What a program has at its pass `n`: what it starts with, or what the pass before left. -/
def Inherited (P : Reconciler ι σ) (met : ℕ → Option (ι × σ)) (n : ℕ) (s : σ) : Prop :=
  s = P.init ∨ ∃ i x t, n = i + 1 ∧ met i = some (x, t) ∧ s = (P.pass x t).1

/-- The list of a numbered pass. -/
def asked (P : Reconciler ι σ) : Option (ι × σ) → List RouteSpec
  | none => []
  | some (x, s) => (P.pass x s).2

/-- **The invariant of a life.** -/
structure Sound (P : Reconciler ι σ) (l : Life ι σ) (loop : Rtnetlink (Except Errno Unit))
    (main : Option (Rtnetlink (Except Errno Unit))) : Prop where
  loop : SafePass loop (fun _ s => Inv s) l.traced
  main : ∀ p, main = some p → Makes AddsNothing p
  desired : ∀ j ≤ l.traced.pass, l.traced.desired j = asked P (l.met j)
  past : ∀ j x s, l.met j = some (x, s) → j ≤ l.traced.pass ∧ Inherited P l.met j s
  state : Inherited P l.met (l.traced.pass + 1) l.state

lemma Inherited.update {met : ℕ → Option (ι × σ)} {n m : ℕ} {s : σ} (h : Inherited P met n s)
    (hn : n ≤ m) (v : Option (ι × σ)) : Inherited P (Function.update met m v) n s := by
  rcases h with h | ⟨i, x, t, rfl, hmet, hs⟩
  · exact Or.inl h
  · exact Or.inr ⟨i, x, t, rfl, by rwa [Function.update_of_ne (by omega)], hs⟩

section Steps

variable {l : Life ι σ} {loop : Rtnetlink (Except Errno Unit)}
  {main : Option (Rtnetlink (Except Errno Unit))}

/-- Objects may vanish by any hand. -/
lemma Sound.withKernel {k : Kernel} (h : Sound P l loop main) (hv : Vanish l.traced.kernel k) :
    Sound P (l.withKernel k) loop main where
  loop := h.loop.disturb ⟨k, hv, rfl⟩
  main := h.main
  desired := h.desired
  past := h.past
  state := h.state

/-- A pass keeps the invariant from its first moment. -/
lemma startPass_safe {s : Traced} (h : Inv s) (iter : IterOrder) (desired : List RouteSpec) :
    SafePass (reconcile iter desired) (fun _ s' => Inv s') (s.startPass desired) := by
  have hsafe := reconcile_safe iter (h.startPass desired)
  rwa [show (s.startPass desired).desired (s.startPass desired).pass = desired by
    simp [Traced.startPass]] at hsafe

/-- A history with nothing under way is safe where the invariant holds. -/
lemma rest_safe {s : Traced} (h : Inv s) (res : Except Errno Unit) :
    SafePass (ret res) (fun _ s' => Inv s') s := fun _ hs =>
  ⟨h.quiet (quiet_others hs), h.quiet (quiet_others hs)⟩

/-- With or without a reconciler. -/
lemma handOver_safe {s : Traced} (h : Inv s) (iter : IterOrder) (desired : List RouteSpec) :
    SafePass (P.handOver iter desired) (fun _ s' => Inv s') (s.startPass desired) := by
  rw [Reconciler.handOver]
  split
  · exact startPass_safe h iter desired
  · exact rest_safe (h.startPass desired) _

/-- The lists of the passes, with one more. -/
lemma desired_startPass {l : Life ι σ} {v : Option (ι × σ)}
    (h : ∀ j ≤ l.traced.pass, l.traced.desired j = asked P (l.met j)) :
    ∀ j ≤ l.traced.pass + 1,
      (l.traced.startPass (asked P v)).desired j =
        asked P (Function.update l.met (l.traced.pass + 1) v j) := by
  intro j hj
  by_cases heq : j = l.traced.pass + 1
  · subst heq
    simp [Traced.startPass]
  · simp only [Traced.startPass, Function.update_of_ne heq]
    exact h j (by omega)

lemma Sound.pass (h : Sound P l loop main) (iter : IterOrder) (x : ι) :
    Sound P (l.pass P x) (P.handOver iter (P.pass x l.state).2) main where
  loop := handOver_safe h.loop.now iter _
  main := h.main
  desired := desired_startPass (v := some (x, l.state)) h.desired
  past j y s hmet := by
    show j ≤ l.traced.pass + 1 ∧ _
    by_cases heq : j = l.traced.pass + 1
    · subst heq
      obtain ⟨rfl, rfl⟩ : x = y ∧ l.state = s := by simpa [Life.pass] using hmet
      exact ⟨le_rfl, h.state.update le_rfl _⟩
    · simp only [Life.pass, Function.update_of_ne heq] at hmet
      obtain ⟨hj, hs⟩ := h.past j y s hmet
      exact ⟨by omega, hs.update (by omega) _⟩
  state := Or.inr ⟨l.traced.pass + 1, x, l.state, rfl, by simp [Life.pass], rfl⟩

lemma Sound.purge (h : Sound P l loop main) (iter : IterOrder) :
    Sound P (l.purge P) (reconcile iter []) none where
  loop := startPass_safe h.loop.now iter []
  main p hp := by cases hp
  desired j hj := by
    have hnone : l.met (l.traced.pass + 1) = none := by
      by_contra hsome
      obtain ⟨⟨x, s⟩, hmet⟩ := Option.ne_none_iff_exists'.mp hsome
      have := (h.past _ x s hmet).1
      omega
    have hlist := desired_startPass (v := none) h.desired j hj
    rwa [show Function.update l.met (l.traced.pass + 1) none = l.met by
      rw [← hnone, Function.update_eq_self]] at hlist
  past j x s hmet := by
    obtain ⟨hj, hs⟩ := h.past j x s hmet
    exact ⟨Nat.le_succ_of_le hj, hs⟩
  state := Or.inl rfl

end Steps

/-- **The invariant holds at every moment of every life.** -/
theorem Lives.sound {l : Life ι σ} {loop : Rtnetlink (Except Errno Unit)}
    {main : Option (Rtnetlink (Except Errno Unit))} (h : Lives P l loop main) :
    Sound P l loop main := by
  induction h with
  | machine hk =>
    refine ⟨history_safe (History.start hk), fun p hp => ?_, fun j _ => rfl, fun j x s hmet => ?_,
      Or.inl rfl⟩
    · obtain rfl := Option.some.inj hp
      trivial
    · cases hmet
  | start _ _ ih =>
    exact ⟨rest_safe ih.loop.now _, fun p hp => (nomatch hp), ih.desired, ih.past, Or.inl rfl⟩
  | purge iter _ _ ih => exact ih.purge iter
  | pass iter x _ _ ih => exact ih.pass iter x
  | @step l main s op next r _ _ hs ih =>
    obtain ⟨k, hk, rfl⟩ := tracedStep_inv hs
    exact ⟨ih.loop.advance hs, ih.main, ih.desired, ih.past, ih.state⟩
  | signal iter _ _ ih =>
    refine ⟨ih.loop, fun p hp => ?_, ih.desired, ih.past, ih.state⟩
    obtain rfl := Option.some.inj hp
    exact teardown_addsNothing iter
  | teardown _ hs ih =>
    obtain ⟨hop, hnext⟩ := ih.main _ rfl
    have hsound := ih.withKernel (vanish_of_addsNothing hop hs)
    refine ⟨hsound.loop, fun p hp => ?_, hsound.desired, hsound.past, hsound.state⟩
    obtain rfl := Option.some.inj hp
    exact hnext _
  | vanish _ hv ih => exact ih.withKernel hv

/-- **The rule of runs.**  What a program starts with, and each pass keeps, holds of what each pass
starts from. -/
lemma Sound.each {l : Life ι σ} {loop : Rtnetlink (Except Errno Unit)}
    {main : Option (Rtnetlink (Except Errno Unit))} (h : Sound P l loop main) {J : ℕ → σ → Prop}
    (hinit : ∀ n, J n P.init)
    (hpass : ∀ i x t, l.met i = some (x, t) → J i t → J (i + 1) (P.pass x t).1) :
    ∀ n s, Inherited P l.met n s → J n s := by
  intro n
  induction n with
  | zero =>
    rintro s (rfl | ⟨i, x, t, hi, -⟩)
    · exact hinit 0
    · omega
  | succ n ih =>
    rintro s (rfl | ⟨i, x, t, hi, hmet, rfl⟩)
    · exact hinit (n + 1)
    · obtain rfl : n = i := Nat.succ.inj hi
      exact hpass n x t hmet (ih t (h.past n x t hmet).2)

section Packets

variable {l : Life ι σ} {loop : Rtnetlink (Except Errno Unit)}
  {main : Option (Rtnetlink (Except Errno Unit))} {other : Rule → Packet → Option Route}
  {p : Packet}

/-- **At every moment of every life**, what dumbarp's rules and routes do to a packet is what one
spec of one pass asked for, with the index that the pass found for its interface. -/
lemma Lives.forwarded (h : Lives P l loop main) {r : Rule} {q : Route}
    (hf : l.traced.kernel.forward other p = some (r, q)) (hr : r.tagged) (hq : q.tagged) :
    ∃ j x s, l.met j = some (x, s) ∧ ∃ spec ∈ (P.pass x s).2, spec.src = p.src ∧
      (∀ m, spec.fwmark = some m → m = p.mark) ∧ q.gateway = some spec.gateway ∧
      ∃ idx, q.oif = some idx ∧ ⟨.getLink spec.iface, .ok (some idx)⟩ ∈ l.traced.log j := by
  have hsound := h.sound
  obtain ⟨j, hj, spec, hspec, rest⟩ := hsound.loop.now.forwarded hf hr hq
  rw [hsound.desired j hj] at hspec
  cases hmet : l.met j with
  | none => simp [hmet, asked] at hspec
  | some m =>
    rw [hmet] at hspec
    exact ⟨j, m.1, m.2, hmet, spec, hspec, rest⟩

/-- A pass that goes through leaves in every table what it wants for it. -/
lemma Lives.holds {res : Except Errno Unit} (h : Lives P l (ret res) main)
    (hzero : ∀ j x s, l.met j = some (x, s) → ∀ spec ∈ (P.pass x s).2, spec.fwmark ≠ some 0)
    {iter : IterOrder} {desired : List RouteSpec} {es : List NetlinkEvent}
    {res' : Except Errno Unit} {k : Kernel}
    (hrun : Runs (KernelStep Exact) (reconcile iter desired) l.traced.kernel es res' k)
    (hes : ∀ e ∈ es, Succeeds e) (t : UInt32) : k.Holds t (wanted desired es t) := by
  have hsound := h.sound
  refine hsound.loop.now.holds (fun j hj spec hspec => ?_) hrun hes t
  rw [hsound.desired j hj] at hspec
  cases hmet : l.met j with
  | none => simp [hmet, asked] at hspec
  | some m =>
    rw [hmet] at hspec
    exact hzero j m.1 m.2 hmet spec hspec

/-- Once a pass has gone through, a packet that a wish is about goes the wished way. -/
lemma Lives.forward_wished {res : Except Errno Unit} (h : Lives P l (ret res) main)
    (hzero : ∀ j x s, l.met j = some (x, s) → ∀ spec ∈ (P.pass x s).2, spec.fwmark ≠ some 0)
    {iter : IterOrder} {desired : List RouteSpec} {es : List NetlinkEvent}
    {res' : Except Errno Unit} {k : Kernel}
    (hrun : Runs (KernelStep Exact) (reconcile iter desired) l.traced.kernel es res' k)
    (hes : ∀ e ∈ es, Succeeds e) (hroom : LeavesRoom other k p) {way : Rule × Route}
    (hwish : wish (wanted desired es) p = some way) : k.forward other p = some way := by
  have hholds := h.holds hzero hrun hes
  rw [hroom.forward,
    Kernel.Holds.verdict_wished hholds (fun _ _ => wanted_table) hroom.routes hwish,
    Option.some_or]

/-- Any other goes the way of the rules of others. -/
lemma Lives.forward_unwished {res : Except Errno Unit} (h : Lives P l (ret res) main)
    (hzero : ∀ j x s, l.met j = some (x, s) → ∀ spec ∈ (P.pass x s).2, spec.fwmark ≠ some 0)
    {iter : IterOrder} {desired : List RouteSpec} {es : List NetlinkEvent}
    {res' : Except Errno Unit} {k : Kernel}
    (hrun : Runs (KernelStep Exact) (reconcile iter desired) l.traced.kernel es res' k)
    (hes : ∀ e ∈ es, Succeeds e) (hwish : wish (wanted desired es) p = none) :
    k.forward other p = k.forwardOthers other p :=
  Kernel.Holds.forward_unwished (h.holds hzero hrun hes) (fun _ _ => wanted_table) hwish

/-- The last spec for its table has its way with the packets that it is about. -/
lemma Lives.forward_last {res : Except Errno Unit} (h : Lives P l (ret res) main)
    (hzero : ∀ j x s, l.met j = some (x, s) → ∀ spec ∈ (P.pass x s).2, spec.fwmark ≠ some 0)
    {iter : IterOrder} {before after : List RouteSpec} {spec : RouteSpec}
    {es : List NetlinkEvent} {res' : Except Errno Unit} {k : Kernel}
    (hrun : Runs (KernelStep Exact) (reconcile iter (before ++ spec :: after)) l.traced.kernel es
      res' k)
    (hes : ∀ e ∈ es, Succeeds e) (hlinks : ∀ e ∈ es, LinkFound e) (hroom : LeavesRoom other k p)
    (hafter : ∀ s ∈ after, tableIdFor s.src ≠ tableIdFor spec.src) (hsrc : spec.src = p.src)
    (hmark : ∀ m, spec.fwmark = some m → p.mark = m) :
    ∃ idx, ⟨.getLink spec.iface, .ok (some idx)⟩ ∈ es ∧
      k.forward other p = some (ruleFor p.src (tableIdFor p.src) spec.fwmark,
        routeFor (tableIdFor p.src) spec.gateway idx) := by
  obtain ⟨idx, hidx, hwanted⟩ := wanted_of_last hrun hlinks hafter
  have hadmits : (spec.withIndex idx).admits p = true := by
    simp only [ResolvedSpec.admits, RouteSpec.withIndex, hsrc, beq_self_eq_true, Bool.true_and,
      Option.all_eq_true, beq_iff_eq]
    exact fun m hm => (hmark m hm).symm
  refine ⟨idx, hidx, h.forward_wished hzero hrun hes hroom ?_⟩
  rw [wish, ← hsrc, hwanted, Option.bind_some, if_pos hadmits]
  rfl

/-- **The forwarding plane after a pass.**  Whatever earlier passes did, failed to do or lost
track of, and whenever the program was killed, once a pass goes through without a failure each
packet that a wish of its list is about goes the wished way, if others leave it to dumbarp, and any
other packet goes the way of the rules of others.  Only the mark 0 must not have been wished for. -/
theorem forwards_as_wished {res : Except Errno Unit} (h : Lives P l (ret res) main)
    (hzero : ∀ j x s, l.met j = some (x, s) → ∀ spec ∈ (P.pass x s).2, spec.fwmark ≠ some 0)
    {x : ι} {iter : IterOrder} {es : List NetlinkEvent} {res' : Except Errno Unit} {k : Kernel}
    (hrun : Runs (KernelStep Exact) (reconcile iter (P.pass x l.state).2) l.traced.kernel es res' k)
    (hes : ∀ e ∈ es, Succeeds e) :
    (∀ way, wish (wanted (P.pass x l.state).2 es) p = some way → LeavesRoom other k p →
      k.forward other p = some way) ∧
      (wish (wanted (P.pass x l.state).2 es) p = none →
        k.forward other p = k.forwardOthers other p) :=
  ⟨fun _ hwish hroom => h.forward_wished hzero hrun hes hroom hwish,
    h.forward_unwished hzero hrun hes⟩

end Packets

/-- What is left of a pass may run to its end. -/
lemma Lives.runs {l : Life ι σ} {loop : Rtnetlink (Except Errno Unit)}
    {main : Option (Rtnetlink (Except Errno Unit))} (h : Lives P l loop main)
    (hrun : ¬ Ended main) {s s' : Traced} {es : List NetlinkEvent} {res : Except Errno Unit}
    (hs : l.traced = s) (hruns : Runs (TracedStep Lossy) loop s es res s') :
    Lives P { l with traced := s' } (ret res) main := by
  induction hruns generalizing l with
  | ret => exact hs ▸ h
  | call hstep _ ih =>
    subst hs
    have hend := ih (h.step hrun hstep) rfl
    exact hend

lemma not_ended_none : ¬ Ended none := fun ⟨_, h⟩ => by cases h

/-- A kernel that answers by a function runs what is left of a pass. -/
lemma Lives.executed (link : String → Option UInt32) {l : Life ι σ}
    {loop : Rtnetlink (Except Errno Unit)} (h : Lives P l loop none) :
    ∃ res, Lives P { l with traced := (loop.exec (Traced.answer link) l.traced).2.2 } (ret res)
      none :=
  ⟨_, h.runs not_ended_none rfl
    (exec_runs (fun s op => (TracedStep.mk (answer_step link s.kernel op)).mono
      fun _ _ _ _ hr => hr.exact.lossy) _ _)⟩

end Lives

/-! ## A source that moves to another gateway -/

/-- A program that asks for what it is given. -/
def givenSpecs : Reconciler (List RouteSpec) Unit := ⟨(), fun specs _ => ((), specs), true, false⟩

/-- The rule and the default route of the main table. -/
def mainKernel : Kernel where
  rules := [⟨.toTable, 254, 32766, 0, anyAddr, 0, 0, []⟩]
  routes := [⟨254, anyAddr, 0, 3, some ⟨10, 0, 0, 254⟩, some 3, 0⟩]

/-- After one pass for `markedSpec` beside the main table. -/
def settledLife : Life (List RouteSpec) Unit where
  state := ()
  traced := ({ kernel := mainKernel } : Traced).runPass (fun _ => some 2) [markedSpec]
  met := Function.update (fun _ => none) 1 (some ([markedSpec], ()))

lemma settledLife_lives : ∃ res, Lives givenSpecs settledLife (ret res) none := by
  have hmachine : Lives givenSpecs { state := (), traced := { kernel := mainKernel } }
      (ret (.ok ())) (some (ret (.ok ()))) := Lives.machine ⟨by decide, by decide⟩
  exact ((Lives.start rfl hmachine).pass IterOrder.collected [markedSpec] not_ended_none).executed
    fun _ => some 2

/-- The same source behind another gateway. -/
def movedSpec : RouteSpec := { markedSpec with gateway := ⟨10, 0, 0, 2⟩ }

/-- A pass for `movedSpec` after it. -/
def movedRun : List NetlinkEvent × Except Errno Unit × Kernel :=
  (reconcile IterOrder.collected [movedSpec]).exec (Kernel.answer fun _ => some 2)
    settledLife.traced.kernel

/-- A packet that the spec is about. -/
def markedPacket : Packet := ⟨markedSpec.src, ⟨8, 8, 8, 8⟩, 2⟩

lemma movedRun_leavesRoom : LeavesRoom (fun _ _ => none) movedRun.2.2 markedPacket where
  rules := ⟨[ruleFor markedSpec.src 1846396077 (some 2)], mainKernel.rules, by decide, by simp,
    by decide⟩
  routes := by decide

/-- A packet from another source. -/
def otherPacket : Packet := ⟨⟨110, 0, 0, 1⟩, ⟨8, 8, 8, 8⟩, 2⟩

theorem forwards_moved :
    movedRun.2.2.forward (fun _ _ => none) markedPacket =
        some (ruleFor markedSpec.src 1846396077 (some 2), routeFor 1846396077 ⟨10, 0, 0, 2⟩ 2) ∧
      movedRun.2.2.forward (fun _ _ => none) otherPacket =
        movedRun.2.2.forwardOthers (fun _ _ => none) otherPacket := by
  obtain ⟨res, hlives⟩ := settledLife_lives
  have hrun : Runs (KernelStep Exact) (reconcile IterOrder.collected [movedSpec])
      settledLife.traced.kernel movedRun.1 movedRun.2.1 movedRun.2.2 :=
    exec_runs (fun k op => (answer_step _ k op).mono fun _ _ _ _ hr => hr.exact) _ _
  have hzero : ∀ j x s, settledLife.met j = some (x, s) →
      ∀ spec ∈ (givenSpecs.pass x s).2, spec.fwmark ≠ some 0 := by
    intro j x s hmet
    by_cases hj : j = 1
    · subst hj
      obtain ⟨rfl, -⟩ : [markedSpec] = x ∧ () = s := by simpa [settledLife] using hmet
      show ∀ spec ∈ [markedSpec], spec.fwmark ≠ some 0
      decide
    · simp [settledLife, Function.update_of_ne hj] at hmet
  exact ⟨(forwards_as_wished hlives hzero hrun (by decide)).1 _ (by decide) movedRun_leavesRoom,
    (forwards_as_wished hlives hzero hrun (by decide)).2 (by decide)⟩

end Dumbarp.Routing
