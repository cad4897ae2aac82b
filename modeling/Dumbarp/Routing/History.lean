/-
Histories of passes.

A history runs one pass of the reconciler after the other against one kernel.  It records
beside the kernel what the passes were asked to do, the requests they made and which pass
installed the rule and the route of a table, so that a result can say where an object comes
from.  Objects may vanish from the kernel at any moment, as a route does when its interface
goes down.
-/
import Dumbarp.Routing.Table
import Mathlib.Logic.Function.Basic

namespace Dumbarp.Routing

open Interact Interact.Prog

/-- A kernel together with the history of the passes over it. -/
structure Traced where
  kernel : Kernel
  /-- The number of the pass under way. -/
  pass : ℕ := 0
  /-- What each pass was asked to bring about. -/
  desired : ℕ → List RouteSpec := fun _ => []
  /-- The requests of each pass so far, with their answers. -/
  log : ℕ → List NetlinkEvent := fun _ => []
  /-- The pass that installed the rule of a table last. -/
  ruleBy : UInt32 → ℕ := fun _ => 0
  /-- The pass that installed the route of a table last. -/
  routeBy : UInt32 → ℕ := fun _ => 0

namespace Traced

/-- The history after one more request, which left the kernel `k`.  An add counts as an
installation when it changed the kernel, whatever was reported. -/
def record (s : Traced) (op : NetlinkOp) (r : op.Res) (k : Kernel) : Traced where
  kernel := k
  pass := s.pass
  desired := s.desired
  log := Function.update s.log s.pass (s.log s.pass ++ [⟨op, r⟩])
  ruleBy :=
    match op with
    | .change (.addRule m) =>
      if k.rules = s.kernel.rules then s.ruleBy
      else Function.update s.ruleBy (ruleOf m).table s.pass
    | _ => s.ruleBy
  routeBy :=
    match op with
    | .change (.addRoute m) =>
      if k.routes = s.kernel.routes then s.routeBy
      else Function.update s.routeBy (routeOf m).table s.pass
    | _ => s.routeBy

/-- The history when a new pass starts. -/
def startPass (s : Traced) (desired : List RouteSpec) : Traced :=
  { s with pass := s.pass + 1, desired := Function.update s.desired (s.pass + 1) desired }

end Traced

/-- The steps of a pass over a kernel with its history. -/
inductive TracedStep (changes : Behaviour) : Sem Traced NetlinkOp NetlinkOp.Res
  | mk {s : Traced} {op : NetlinkOp} {r : op.Res} {k : Kernel}
      (h : KernelStep changes s.kernel op r k) : TracedStep changes s op r (s.record op r k)

/-- Tagged objects may vanish, those of others may change at will. -/
def Vanish (k k' : Kernel) : Prop :=
  ∀ t, (k'.rulesOf t).Sublist (k.rulesOf t) ∧ (k'.routesOf t).Sublist (k.routesOf t)

/-- The kernel holds nothing of dumbarp's. -/
def Kernel.Clean (k : Kernel) : Prop :=
  (∀ r ∈ k.rules, ¬ r.tagged) ∧ ∀ q ∈ k.routes, ¬ q.tagged

/-- **The histories of a kernel** with nothing of dumbarp's at the start: passes run one at a
time, each with any list of specs, and objects vanish.  `History changes s p` says that `s`
is a moment of such a history and that `p` is left of the pass under way; between two passes
`p` is a mere result. -/
inductive History (changes : Behaviour) : Traced → Rtnetlink (Except Errno Unit) → Prop
  | start {k : Kernel} (hk : k.Clean) : History changes { kernel := k } (ret (.ok ()))
  | pass {s : Traced} {res : Except Errno Unit} (iter : IterOrder) (desired : List RouteSpec)
      (h : History changes s (ret res)) :
      History changes (s.startPass desired) (reconcile iter desired)
  | step {s s' : Traced} {op : NetlinkOp} {next : op.Res → Rtnetlink (Except Errno Unit)}
      {r : op.Res} (h : History changes s (call op next)) (hs : TracedStep changes s op r s') :
      History changes s' (next r)
  | vanish {s : Traced} {p : Rtnetlink (Except Errno Unit)} {k : Kernel}
      (h : History changes s p) (hv : Vanish s.kernel k) :
      History changes { s with kernel := k } p

lemma Vanish.refl (k : Kernel) : Vanish k k := fun _ => ⟨List.Sublist.refl _, List.Sublist.refl _⟩

lemma Vanish.trans {k₁ k₂ k₃ : Kernel} (h₁ : Vanish k₁ k₂) (h₂ : Vanish k₂ k₃) : Vanish k₁ k₃ :=
  fun t => ⟨(h₂ t).1.trans (h₁ t).1, (h₂ t).2.trans (h₁ t).2⟩

/-- What others do to the state of a history. -/
def vanishing : Others Traced where
  change s s' := ∃ k, Vanish s.kernel k ∧ s' = { s with kernel := k }
  refl s := ⟨s.kernel, Vanish.refl s.kernel, rfl⟩
  trans := by
    rintro s₁ s₂ s₃ ⟨k₂, h₂, rfl⟩ ⟨k₃, h₃, rfl⟩
    exact ⟨k₃, h₂.trans h₃, rfl⟩

lemma Kernel.Clean.rulesOf {k : Kernel} (h : k.Clean) (t : UInt32) : k.rulesOf t = [] := by
  refine List.filter_eq_nil_iff.mpr fun r hr => ?_
  simp [h.1 r hr]

lemma Kernel.Clean.routesOf {k : Kernel} (h : k.Clean) (t : UInt32) : k.routesOf t = [] := by
  refine List.filter_eq_nil_iff.mpr fun q hq => ?_
  exact h.2 q (List.mem_of_mem_filter hq)

lemma tracedStep_inv {changes : Behaviour} {s s' : Traced} {op : NetlinkOp} {r : op.Res}
    (h : TracedStep changes s op r s') :
    ∃ k, KernelStep changes s.kernel op r k ∧ s' = s.record op r k := by
  cases h with
  | mk h => exact ⟨_, h, rfl⟩

lemma TracedStep.mono {A B : Behaviour} (hAB : ∀ k c r k', A k c r k' → B k c r k')
    {s s' : Traced} {op : NetlinkOp} {r : op.Res} (h : TracedStep A s op r s') :
    TracedStep B s op r s' := by
  cases h with
  | mk h => exact TracedStep.mk (h.mono hAB)

/-- A history of a kernel that fails less is one of a kernel that fails more. -/
lemma History.mono {A B : Behaviour} (hAB : ∀ k c r k', A k c r k' → B k c r k') {s : Traced}
    {p : Rtnetlink (Except Errno Unit)} (h : History A s p) : History B s p := by
  induction h with
  | start hk => exact History.start hk
  | pass iter desired _ ih => exact History.pass iter desired ih
  | step _ hs ih => exact History.step ih (hs.mono hAB)
  | vanish _ hv ih => exact History.vanish ih hv

/-! ## Histories of the kernel that answers by a function -/

/-- The answer to a request, with the history after it. -/
def Traced.answer (link : String → Option UInt32) (s : Traced) (op : NetlinkOp) :
    op.Res × Traced :=
  ((s.kernel.answer link op).1,
    s.record op (s.kernel.answer link op).1 (s.kernel.answer link op).2)

/-- The history after one more pass against a kernel that has the links `link`. -/
def Traced.runPass (link : String → Option UInt32) (s : Traced) (desired : List RouteSpec) :
    Traced :=
  ((reconcile IterOrder.collected desired).exec (Traced.answer link) (s.startPass desired)).2.2

lemma History.runs {changes : Behaviour} {s s' : Traced} {p : Rtnetlink (Except Errno Unit)}
    {es : List NetlinkEvent} {res : Except Errno Unit} (h : History changes s p)
    (hrun : Runs (TracedStep changes) p s es res s') : History changes s' (ret res) := by
  induction hrun with
  | ret => exact h
  | call hstep _ ih => exact ih (h.step hstep)

lemma History.runPass (link : String → Option UInt32) {s : Traced} {res : Except Errno Unit}
    (h : History Reliable s (ret res)) (desired : List RouteSpec) :
    ∃ res', History Reliable (s.runPass link desired) (ret res') :=
  ⟨_, (h.pass IterOrder.collected desired).runs
    (exec_runs (fun s op => TracedStep.mk (answer_step link s.kernel op)) _ _)⟩

/-- One pass over an empty kernel. -/
lemma history_firstPass (link : String → Option UInt32) (desired : List RouteSpec) :
    ∃ res, History Reliable (({ kernel := {} } : Traced).runPass link desired) (ret res) :=
  (History.start ⟨by simp, by simp⟩).runPass link desired

/-! ## A delete is one more way to vanish -/

lemma vanish_of_sublist {k k' : Kernel} (hrules : k'.rules.Sublist k.rules)
    (hroutes : k'.routes.Sublist k.routes) : Vanish k k' :=
  fun _ => ⟨hrules.filter _, (hroutes.filter _).filter _⟩

lemma vanish_delRule {k k' : Kernel} {m : RuleMessage} (h : Takes k (.delRule m) k') :
    Vanish k k' := by
  cases h with
  | delRule hk _ =>
    exact vanish_of_sublist (hk ▸ (List.sublist_cons_self _ _).append_left _)
      (List.Sublist.refl _)

lemma vanish_delRoute {k k' : Kernel} {m : RouteMessage} (h : Takes k (.delRoute m) k') :
    Vanish k k' := by
  cases h with
  | delRoute hk _ =>
    exact vanish_of_sublist (List.Sublist.refl _)
      (hk ▸ (List.sublist_cons_self _ _).append_left _)

end Dumbarp.Routing
