/-
Programs that talk to an environment, and a rely/guarantee logic for them.

A program is the tree of the requests it makes: after each request it goes on as the
answer tells it.  What the answers may be, and what a request does to the state of the
environment, is a relation `Sem σ Op Res`; the same program can thus be run against a
kernel that never fails, one that fails at will, and one that is shared with another
program.  Three readings of a program are given:

* `Prog.Runs step p s es a s'`: run alone from `s`, the program `p` may make the requests
  and get the answers `es`, return `a` and leave the state `s'`;
* `Prog.exec answer p s`: the run against an environment that is a function;
* `Prog.Safe others step inv p Q s`: run from `s` in the presence of others, who may change
  the state before every request and before the end, `p` keeps `inv` at every moment and
  ends only in results and states that satisfy `Q`.
-/
import Mathlib.Tactic.Lemma

namespace Interact

/-- A program that makes requests `Op`, is answered in `Res` and returns an `α`. -/
inductive Prog (Op : Type) (Res : Op → Type) (α : Type) : Type
  | ret (a : α)
  | call (op : Op) (next : Res op → Prog Op Res α)

/-- The behaviours of an environment: `step s op r s'` when the request `op`, made in the
state `s`, may be answered `r` and lead to `s'`. -/
abbrev Sem (σ Op : Type) (Res : Op → Type) : Type := σ → (op : Op) → Res op → σ → Prop

/-- A request together with its answer. -/
structure Event (Op : Type) (Res : Op → Type) where
  op : Op
  res : Res op

/-- What the others may do to the state while a program is at rest: any number of changes,
none included. -/
structure Others (σ : Type) where
  change : σ → σ → Prop
  refl : ∀ s, change s s
  trans : ∀ {s₁ s₂ s₃}, change s₁ s₂ → change s₂ s₃ → change s₁ s₃

/-- Nobody else touches the state. -/
def Others.nobody (σ : Type) : Others σ where
  change s s' := s' = s
  refl _ := rfl
  trans h₁ h₂ := h₂.trans h₁

variable {Op : Type} {Res : Op → Type} {σ α β : Type}

namespace Prog

/-- Run `p`, then `f` on its result. -/
def bind : Prog Op Res α → (α → Prog Op Res β) → Prog Op Res β
  | ret a, f => f a
  | call op next, f => call op fun r => (next r).bind f

instance : Monad (Prog Op Res) where
  pure := ret
  bind := bind

/-- The request that the program makes next. -/
def head : Prog Op Res α → Option Op
  | ret _ => none
  | call op _ => some op

/-- The program that makes one request and returns the answer. -/
def request (op : Op) : Prog Op Res (Res op) := call op ret

/-- Run `body` on each element of a list, in order. -/
def forEach (body : α → Prog Op Res Unit) : List α → Prog Op Res Unit
  | [] => ret ()
  | x :: xs => (body x).bind fun _ => forEach body xs

/-- Run `body` on each element of a list, in order, up to the first error. -/
def tryEach {E : Type} (body : α → Prog Op Res (Except E Unit)) :
    List α → Prog Op Res (Except E Unit)
  | [] => ret (.ok ())
  | x :: xs =>
    (body x).bind fun
      | .ok () => tryEach body xs
      | .error e => ret (.error e)

@[simp] lemma pure_eq (a : α) : (pure a : Prog Op Res α) = ret a := rfl

@[simp] lemma bind_eq (p : Prog Op Res α) (f : α → Prog Op Res β) : (p >>= f) = p.bind f := rfl

@[simp] lemma ret_bind (a : α) (f : α → Prog Op Res β) : (ret a).bind f = f a := rfl

@[simp] lemma call_bind (op : Op) (next : Res op → Prog Op Res α) (f : α → Prog Op Res β) :
    (call op next).bind f = call op fun r => (next r).bind f := rfl

@[simp] lemma request_bind (op : Op) (f : Res op → Prog Op Res β) :
    (request op).bind f = call op f := rfl

lemma bind_ret (p : Prog Op Res α) : p.bind ret = p := by
  induction p with
  | ret a => rfl
  | call op next ih => exact congrArg (call op) (funext ih)

/-! ## Runs -/

/-- The runs of a program that has the environment to itself. -/
inductive Runs (step : Sem σ Op Res) :
    Prog Op Res α → σ → List (Event Op Res) → α → σ → Prop
  | ret (a : α) (s : σ) : Runs step (.ret a) s [] a s
  | call {op : Op} {next : Res op → Prog Op Res α} {s s₁ s' : σ} {r : Res op}
      {es : List (Event Op Res)} {a : α} (hstep : step s op r s₁)
      (hrest : Runs step (next r) s₁ es a s') :
      Runs step (.call op next) s (⟨op, r⟩ :: es) a s'

variable {step : Sem σ Op Res} {s s' : σ} {es : List (Event Op Res)}

lemma runs_ret_inv {a b : α} (h : Runs step (.ret a) s es b s') : es = [] ∧ b = a ∧ s' = s := by
  cases h
  exact ⟨rfl, rfl, rfl⟩

lemma runs_call_inv {op : Op} {next : Res op → Prog Op Res α} {a : α}
    (h : Runs step (.call op next) s es a s') :
    ∃ r s₁ es', es = ⟨op, r⟩ :: es' ∧ step s op r s₁ ∧ Runs step (next r) s₁ es' a s' := by
  cases h with
  | call hstep hrest => exact ⟨_, _, _, rfl, hstep, hrest⟩

/-- A run of a sequence is a run of its first part followed by one of the second. -/
lemma runs_bind_inv {p : Prog Op Res α} {f : α → Prog Op Res β} {b : β}
    (h : Runs step (p.bind f) s es b s') :
    ∃ es₁ a s₁ es₂, es = es₁ ++ es₂ ∧ Runs step p s es₁ a s₁ ∧ Runs step (f a) s₁ es₂ b s' := by
  induction p generalizing s es with
  | ret a => exact ⟨[], a, s, es, rfl, Runs.ret a s, h⟩
  | call op next ih =>
    obtain ⟨r, s₁, es', rfl, hstep, hrest⟩ := runs_call_inv h
    obtain ⟨es₁, a, s₂, es₂, rfl, h₁, h₂⟩ := ih r hrest
    exact ⟨⟨op, r⟩ :: es₁, a, s₂, es₂, rfl, Runs.call hstep h₁, h₂⟩

lemma Runs.bind {p : Prog Op Res α} {f : α → Prog Op Res β} {a : α} {b : β} {s₁ : σ}
    {es₁ es₂ : List (Event Op Res)} (h₁ : Runs step p s es₁ a s₁)
    (h₂ : Runs step (f a) s₁ es₂ b s') : Runs step (p.bind f) s (es₁ ++ es₂) b s' := by
  induction h₁ with
  | ret a s => exact h₂
  | call hstep _ ih => exact Runs.call hstep (ih h₂)

/-- A run in which every step is one of a smaller semantics is a run of that semantics. -/
lemma Runs.mono {step' : Sem σ Op Res} {P : Event Op Res → Prop}
    (hsub : ∀ s op r s', P ⟨op, r⟩ → step s op r s' → step' s op r s')
    {p : Prog Op Res α} {a : α} (h : Runs step p s es a s') (hes : ∀ e ∈ es, P e) :
    Runs step' p s es a s' := by
  induction h with
  | ret a s => exact Runs.ret a s
  | call hstep _ ih =>
    exact Runs.call (hsub _ _ _ _ (hes _ (by simp)) hstep) (ih fun e he => hes e (by simp [he]))

/-- The image of a run under a map of states that takes steps to steps. -/
lemma Runs.map {τ : Type} {step' : Sem τ Op Res} {f : σ → τ}
    (hf : ∀ s op r s', step s op r s' → step' (f s) op r (f s')) {p : Prog Op Res α} {a : α}
    (h : Runs step p s es a s') : Runs step' p (f s) es a (f s') := by
  induction h with
  | ret a s => exact Runs.ret a (f s)
  | call hstep _ ih => exact Runs.call (hf _ _ _ _ hstep) ih

/-- **A loop with an early exit** runs its body on an element of a sorted list, or ends in error
at that element or before it. -/
lemma runs_tryEach {E : Type} {body : α → Prog Op Res (Except E Unit)} {R : α → α → Prop}
    {x : α} {res : Except E Unit} :
    ∀ {xs : List α} {s s' : σ} {es : List (Event Op Res)}, xs.Pairwise R →
      Runs step (tryEach body xs) s es res s' → x ∈ xs →
        (∃ s₁ es₁ s₂, Runs step (body x) s₁ es₁ (.ok ()) s₂ ∧ es₁ ⊆ es) ∨
          ∃ y, (y = x ∨ R y x) ∧ ∃ s₁ es₁ e s₂, Runs step (body y) s₁ es₁ (.error e) s₂ ∧ es₁ ⊆ es
  | [], _, _, _, _, _, hx => absurd hx List.not_mem_nil
  | y :: xs, _, _, _, hsorted, hrun, hx => by
    -- the first element is this one or before it, so an error at it ends the loop in time
    obtain ⟨es₁, r, s₁, es₂, rfl, hbody, hrest⟩ := runs_bind_inv hrun
    obtain ⟨hy, hsorted⟩ := List.pairwise_cons.mp hsorted
    have hxy : y = x ∨ R y x := by
      rcases List.mem_cons.mp hx with rfl | hx
      · exact Or.inl rfl
      · exact Or.inr (hy x hx)
    cases r with
    | error e =>
      exact Or.inr ⟨y, hxy, _, es₁, e, s₁, hbody, List.subset_append_left _ _⟩
    | ok u =>
      rcases List.mem_cons.mp hx with rfl | hx
      · exact Or.inl ⟨_, es₁, s₁, hbody, List.subset_append_left _ _⟩
      · rcases runs_tryEach hsorted hrest hx with ⟨s₂, es', s₃, h, hsub⟩ |
          ⟨z, hz, s₂, es', e, s₃, h, hsub⟩
        · exact Or.inl ⟨s₂, es', s₃, h, List.Subset.trans hsub (List.subset_append_right _ _)⟩
        · exact Or.inr
            ⟨z, hz, s₂, es', e, s₃, h, List.Subset.trans hsub (List.subset_append_right _ _)⟩

/-- **A loop with an early exit that succeeds** has run its body on each element, between the
elements before it and those after it. -/
lemma runs_tryEach_ok {E : Type} {body : α → Prog Op Res (Except E Unit)} {x : α} :
    ∀ {xs : List α} {s s' : σ} {es : List (Event Op Res)},
      Runs step (tryEach body xs) s es (.ok ()) s' → x ∈ xs →
        ∃ ys zs s₁ s₂ es₁ es₂ es₃, xs = ys ++ x :: zs ∧
          Runs step (tryEach body ys) s es₁ (.ok ()) s₁ ∧ Runs step (body x) s₁ es₂ (.ok ()) s₂ ∧
          Runs step (tryEach body zs) s₂ es₃ (.ok ()) s'
  | [], _, _, _, _, hx => absurd hx List.not_mem_nil
  | y :: xs, s, _, _, hrun, hx => by
    obtain ⟨es₁, r, s₁, es₂, rfl, hbody, hrest⟩ := runs_bind_inv hrun
    cases r with
    | error e => cases (runs_ret_inv hrest).2.1
    | ok u =>
      by_cases hxy : x = y
      · subst hxy
        exact ⟨[], xs, s, s₁, [], es₁, es₂, rfl, Runs.ret _ _, hbody, hrest⟩
      · have hx : x ∈ xs := List.mem_of_ne_of_mem hxy hx
        obtain ⟨ys, zs, t₁, t₂, es₁', es₂', es₃', rfl, hys, hxr, hzs⟩ := runs_tryEach_ok hrest hx
        exact ⟨y :: ys, zs, t₁, t₂, _, es₂', es₃', rfl, hbody.bind hys, hxr, hzs⟩

/-! ## The requests of a program -/

/-- Whatever the answers, the program makes only requests that satisfy `P`. -/
def Makes (P : Op → Prop) : Prog Op Res α → Prop
  | .ret _ => True
  | .call op next => P op ∧ ∀ r, Makes P (next r)

section Makes

variable {P : Op → Prop} {p : Prog Op Res α} {a : α}

lemma Makes.bind {f : α → Prog Op Res β} (h : Makes P p) (hf : ∀ a, Makes P (f a)) :
    Makes P (p.bind f) := by
  induction p with
  | ret a => exact hf a
  | call op next ih => exact ⟨h.1, fun r => ih r (h.2 r)⟩

lemma Makes.mono {P' : Op → Prop} (h : Makes P p) (hP : ∀ op, P op → P' op) : Makes P' p := by
  induction p with
  | ret a => trivial
  | call op next ih => exact ⟨hP op h.1, fun r => ih r (h.2 r)⟩

/-- Whatever the answers, the program makes requests that satisfy `P`, and from some point on only
such that satisfy `P'`. -/
def MakesThen (P P' : Op → Prop) : Prog Op Res α → Prop
  | .ret _ => True
  | .call op next => (P op ∧ ∀ r, MakesThen P P' (next r)) ∨ Makes P' (.call op next)

lemma Makes.then_bind {P' : Op → Prop} {f : α → Prog Op Res β} (h : Makes P p)
    (hf : ∀ a, Makes P' (f a)) : MakesThen P P' (p.bind f) := by
  induction p with
  | ret a =>
    have hmakes := hf a
    rw [ret_bind]
    cases hp : f a with
    | ret b => trivial
    | call op next => exact Or.inr (hp ▸ hmakes)
  | call op next ih => exact Or.inl ⟨h.1, fun r => ih r (h.2 r)⟩

/-- Whatever the answers, the program returns only results that satisfy `Q`. -/
def Ends (Q : α → Prop) : Prog Op Res α → Prop
  | .ret a => Q a
  | .call _ next => ∀ r, Ends Q (next r)

lemma Ends.runs {Q : α → Prop} (h : Ends Q p) (hrun : Runs step p s es a s') : Q a := by
  induction hrun with
  | ret a s => exact h
  | call _ _ ih => exact ih (h _)

lemma Ends.bind {f : α → Prog Op Res β} {Q : α → Prop} {Q' : β → Prop} (h : Ends Q p)
    (hf : ∀ a, Q a → Ends Q' (f a)) : Ends Q' (p.bind f) := by
  induction p with
  | ret a => exact hf a h
  | call op next ih => exact fun r => ih r (h r)

/-- Nothing need be known of the first part of a sequence. -/
lemma ends_bind {f : α → Prog Op Res β} {Q : β → Prop} (hf : ∀ a, Ends Q (f a)) :
    Ends Q (p.bind f) := by
  induction p with
  | ret a => exact hf a
  | call op next ih => exact ih

/-- The second part of a sequence has to make good requests only on results of the first. -/
lemma Makes.bind_ends {f : α → Prog Op Res β} {Q : α → Prop} (h : Makes P p) (hQ : Ends Q p)
    (hf : ∀ a, Q a → Makes P (f a)) : Makes P (p.bind f) := by
  induction p with
  | ret a => exact hf a hQ
  | call op next ih => exact ⟨h.1, fun r => ih r (h.2 r) (hQ r)⟩

lemma makes_forEach {body : β → Prog Op Res Unit} {xs : List β}
    (h : ∀ x ∈ xs, Makes P (body x)) : Makes P (forEach body xs) := by
  induction xs with
  | nil => trivial
  | cons x xs ih =>
    exact (h x List.mem_cons_self).bind fun _ => ih fun y hy => h y (List.mem_cons_of_mem _ hy)

lemma makes_tryEach {E : Type} {body : β → Prog Op Res (Except E Unit)} {xs : List β}
    (h : ∀ x ∈ xs, Makes P (body x)) : Makes P (tryEach body xs) := by
  induction xs with
  | nil => trivial
  | cons x xs ih =>
    refine (h x List.mem_cons_self).bind fun r => ?_
    cases r with
    | ok u => exact ih fun y hy => h y (List.mem_cons_of_mem _ hy)
    | error e => trivial

lemma Makes.events (h : Makes P p) (hrun : Runs step p s es a s') : ∀ e ∈ es, P e.op := by
  induction hrun with
  | ret a s => simp
  | call hstep _ ih =>
    intro e he
    rcases List.mem_cons.mp he with rfl | he
    · exact h.1
    · exact ih (h.2 _) e he

/-- What every such request keeps, the run keeps. -/
lemma Makes.preserves {J : σ → Prop} (h : Makes P p)
    (hJ : ∀ s op r s', P op → step s op r s' → J s → J s') (hrun : Runs step p s es a s')
    (hs : J s) : J s' := by
  induction hrun with
  | ret a s => exact hs
  | call hstep _ ih => exact ih (h.2 _) (hJ _ _ _ _ h.1 hstep hs)

/-- A program whose requests are answered in one way only has one run. -/
lemma Makes.runs_unique {es₁ es₂ : List (Event Op Res)} {a₁ a₂ : α} {s₁ s₂ : σ} (h : Makes P p)
    (hstep : ∀ s op r₁ s₁ r₂ s₂, P op → step s op r₁ s₁ → step s op r₂ s₂ → r₁ = r₂ ∧ s₁ = s₂)
    (h₁ : Runs step p s es₁ a₁ s₁) (h₂ : Runs step p s es₂ a₂ s₂) :
    es₁ = es₂ ∧ a₁ = a₂ ∧ s₁ = s₂ := by
  induction h₁ generalizing es₂ with
  | ret a s =>
    obtain ⟨rfl, rfl, rfl⟩ := runs_ret_inv h₂
    exact ⟨rfl, rfl, rfl⟩
  | call hs₁ _ ih =>
    obtain ⟨r, s₃, es, rfl, hs₂, hrest⟩ := runs_call_inv h₂
    obtain ⟨rfl, rfl⟩ := hstep _ _ _ _ _ _ h.1 hs₁ hs₂
    obtain ⟨rfl, ha, hs⟩ := ih (h.2 _) hrest
    exact ⟨rfl, ha, hs⟩

/-- Run alone from `s`, the program `p` may be on its way here: `q` is left, in this state. -/
inductive Midway (step : Sem σ Op Res) (p : Prog Op Res α) (s : σ) : Prog Op Res α → σ → Prop
  | start : Midway step p s p s
  | request {op : Op} {next : Res op → Prog Op Res α} {r : Res op} {s₁ s₂ : σ}
      (h : Midway step p s (.call op next) s₁) (hstep : step s₁ op r s₂) :
      Midway step p s (next r) s₂

/-- What every such request keeps holds wherever the program is on its way. -/
lemma Makes.midway {J : σ → Prop} {q : Prog Op Res α} (h : Makes P p)
    (hJ : ∀ s op r s', P op → step s op r s' → J s → J s') (hmid : Midway step p s q s')
    (hs : J s) : Makes P q ∧ J s' := by
  induction hmid with
  | start => exact ⟨h, hs⟩
  | request _ hstep ih => exact ⟨ih.1.2 _, hJ _ _ _ _ ih.1.1 hstep ih.2⟩

/-- What one event of the run establishes and every request keeps, holds at the end. -/
lemma Makes.establishes {J : σ → Prop} {e : Event Op Res} (h : Makes P p)
    (hJ : ∀ s op r s', P op → step s op r s' → J s → J s')
    (he : ∀ s s', step s e.op e.res s' → J s') (hrun : Runs step p s es a s') (hmem : e ∈ es) :
    J s' := by
  induction hrun with
  | ret a s => cases hmem
  | call hstep hrest ih =>
    rcases List.mem_cons.mp hmem with rfl | hmem
    · exact (h.2 _).preserves hJ hrest (he _ _ hstep)
    · exact ih (h.2 _) hmem

end Makes

/-! ## What a program can do -/

/-- Some run of `p` from `s` ends in a result and a state that satisfy `Q`. -/
def Can (step : Sem σ Op Res) (p : Prog Op Res α) (s : σ) (Q : α → σ → Prop) : Prop :=
  ∃ es a s', Runs step p s es a s' ∧ Q a s'

section Can

variable {p : Prog Op Res α} {Q : α → σ → Prop}

lemma can_ret {a : α} (h : Q a s) : Can step (.ret a) s Q := ⟨[], a, s, Runs.ret a s, h⟩

lemma can_call {op : Op} {next : Res op → Prog Op Res α} {r : Res op} {s₁ : σ}
    (hstep : step s op r s₁) (h : Can step (next r) s₁ Q) : Can step (.call op next) s Q := by
  obtain ⟨es, a, s', hrun, hQ⟩ := h
  exact ⟨_, a, s', Runs.call hstep hrun, hQ⟩

lemma Can.bind {f : α → Prog Op Res β} {Q : β → σ → Prop}
    (h : Can step p s fun a s' => Can step (f a) s' Q) : Can step (p.bind f) s Q := by
  obtain ⟨es₁, a, s₁, h₁, es₂, b, s₂, h₂, hQ⟩ := h
  exact ⟨es₁ ++ es₂, b, s₂, h₁.bind h₂, hQ⟩

lemma Can.mono {Q' : α → σ → Prop} (h : Can step p s Q) (hQ : ∀ a s', Q a s' → Q' a s') :
    Can step p s Q' := by
  obtain ⟨es, a, s', hrun, h⟩ := h
  exact ⟨es, a, s', hrun, hQ a s' h⟩

/-- Where every request has an answer, every program has a run. -/
lemma can_of_total (htotal : ∀ s op, ∃ r s', step s op r s') (p : Prog Op Res α) (s : σ) :
    Can step p s fun _ _ => True := by
  induction p generalizing s with
  | ret a => exact can_ret trivial
  | call op next ih =>
    obtain ⟨r, s₁, hstep⟩ := htotal s op
    exact can_call hstep (ih r s₁)

end Can

/-! ## Execution against an environment that is a function -/

/-- Run `p` against an environment that answers by `answer`. -/
def exec (answer : σ → (op : Op) → Res op × σ) : Prog Op Res α → σ → List (Event Op Res) × α × σ
  | .ret a, s => ([], a, s)
  | .call op next, s =>
    let (r, s₁) := answer s op
    let (es, a, s') := exec answer (next r) s₁
    (⟨op, r⟩ :: es, a, s')

/-- The execution against a function is a run of every semantics that allows its answers. -/
lemma exec_runs {answer : σ → (op : Op) → Res op × σ}
    (h : ∀ s op, step s op (answer s op).1 (answer s op).2) (p : Prog Op Res α) (s : σ) :
    Runs step p s (exec answer p s).1 (exec answer p s).2.1 (exec answer p s).2.2 := by
  induction p generalizing s with
  | ret a => exact Runs.ret a s
  | call op next ih => exact Runs.call (h s op) (ih _ _)

lemma exec_call (answer : σ → (op : Op) → Res op × σ) {op : Op} (next : Res op → Prog Op Res α)
    (s : σ) :
    (exec answer (.call op next) s).2 = (exec answer (next (answer s op).1) (answer s op).2).2 :=
  rfl

/-- A sequence is executed part by part. -/
lemma exec_bind (answer : σ → (op : Op) → Res op × σ) (p : Prog Op Res α) (f : α → Prog Op Res β)
    (s : σ) :
    (exec answer (p.bind f) s).2 =
      (exec answer (f (exec answer p s).2.1) (exec answer p s).2.2).2 := by
  induction p generalizing s with
  | ret a => rfl
  | call op next ih => exact ih _ _

lemma Ends.exec {Q : α → Prop} {p : Prog Op Res α} (h : Ends Q p)
    (answer : σ → (op : Op) → Res op × σ) (s : σ) : Q (exec answer p s).2.1 := by
  induction p generalizing s with
  | ret a => exact h
  | call op next ih => exact ih _ (h _) _

/-- What holds of every answer of the function holds of the events of an execution. -/
lemma exec_events {answer : σ → (op : Op) → Res op × σ} {P : Event Op Res → Prop}
    (h : ∀ s op, P ⟨op, (answer s op).1⟩) (p : Prog Op Res α) (s : σ) :
    ∀ e ∈ (exec answer p s).1, P e := by
  induction p generalizing s with
  | ret a => simp [exec]
  | call op next ih =>
    intro e he
    rcases List.mem_cons.mp he with rfl | he
    · exact h s op
    · exact ih _ _ e he

/-! ## Safety in the presence of others -/

/-- Run from `s` while others change the state before every request and before the end, the
program keeps `inv` at every moment and establishes `Q`. -/
def Safe (others : Others σ) (step : Sem σ Op Res) (inv : σ → Prop) :
    Prog Op Res α → (α → σ → Prop) → σ → Prop
  | .ret a, Q, s => ∀ s₁, others.change s s₁ → inv s₁ ∧ Q a s₁
  | .call op next, Q, s => ∀ s₁, others.change s s₁ →
      inv s₁ ∧ ∀ r s₂, step s₁ op r s₂ → Safe others step inv (next r) Q s₂

section Safe

variable {others : Others σ} {inv : σ → Prop} {p : Prog Op Res α} {Q Q' : α → σ → Prop}

/-- The invariant holds now. -/
lemma Safe.now (h : Safe others step inv p Q s) : inv s := by
  cases p with
  | ret a => exact (h s (others.refl s)).1
  | call op next => exact (h s (others.refl s)).1

/-- Safety survives a change made by the others. -/
lemma Safe.disturb (h : Safe others step inv p Q s) (hs : others.change s s') :
    Safe others step inv p Q s' := by
  cases p with
  | ret a => exact fun s₁ h₁ => h s₁ (others.trans hs h₁)
  | call op next => exact fun s₁ h₁ => h s₁ (others.trans hs h₁)

/-- Safety survives the program's own next step. -/
lemma Safe.advance {op : Op} {next : Res op → Prog Op Res α} {r : Res op}
    (h : Safe others step inv (.call op next) Q s) (hs : step s op r s') :
    Safe others step inv (next r) Q s' :=
  (h s (others.refl s)).2 r s' hs

lemma Safe.mono (h : Safe others step inv p Q s) (hQ : ∀ a s, inv s → Q a s → Q' a s) :
    Safe others step inv p Q' s := by
  induction p generalizing s with
  | ret a =>
    intro s₁ h₁
    obtain ⟨hinv, hpost⟩ := h s₁ h₁
    exact ⟨hinv, hQ a s₁ hinv hpost⟩
  | call op next ih =>
    intro s₁ h₁
    obtain ⟨hinv, hnext⟩ := h s₁ h₁
    exact ⟨hinv, fun r s₂ hs => ih r (hnext r s₂ hs)⟩

/-- What is safe stays so in an environment with fewer behaviours. -/
lemma Safe.restrict {step' : Sem σ Op Res} (h : Safe others step inv p Q s)
    (hsub : ∀ s op r s', step' s op r s' → step s op r s') : Safe others step' inv p Q s := by
  induction p generalizing s with
  | ret a => exact h
  | call op next ih =>
    intro s₁ h₁
    obtain ⟨hinv, hnext⟩ := h s₁ h₁
    exact ⟨hinv, fun r s₂ hs => ih r (hnext r s₂ (hsub _ _ _ _ hs))⟩

/-- **The rule of conjunction.** -/
lemma Safe.and (h : Safe others step inv p Q s) (h' : Safe others step inv p Q' s) :
    Safe others step inv p (fun a s => Q a s ∧ Q' a s) s := by
  induction p generalizing s with
  | ret a =>
    intro s₁ h₁
    exact ⟨(h s₁ h₁).1, (h s₁ h₁).2, (h' s₁ h₁).2⟩
  | call op next ih =>
    intro s₁ h₁
    obtain ⟨hinv, hnext⟩ := h s₁ h₁
    exact ⟨hinv, fun r s₂ hs => ih r (hnext r s₂ hs) ((h' s₁ h₁).2 r s₂ hs)⟩

/-- **The rule of sequencing.** -/
lemma Safe.bind {f : α → Prog Op Res β} {Q : β → σ → Prop}
    (h : Safe others step inv p (fun a s => Safe others step inv (f a) Q s) s) :
    Safe others step inv (p.bind f) Q s := by
  induction p generalizing s with
  | ret a => exact (h s (others.refl s)).2
  | call op next ih =>
    intro s₁ h₁
    obtain ⟨hinv, hnext⟩ := h s₁ h₁
    exact ⟨hinv, fun r s₂ hs => ih r (hnext r s₂ hs)⟩

/-- **The rule of loops.**  The invariant `J` speaks of the elements still to come. -/
lemma Safe.forEach {body : β → Prog Op Res Unit} {J : List β → σ → Prop}
    (hinv : ∀ xs s, J xs s → inv s)
    (hstable : ∀ xs s s', J xs s → others.change s s' → J xs s')
    (hbody : ∀ x xs s, J (x :: xs) s → Safe others step inv (body x) (fun _ s' => J xs s') s)
    {xs : List β} (h : J xs s) :
    Safe others step inv (Prog.forEach body xs) (fun _ s' => J [] s') s := by
  induction xs generalizing s with
  | nil =>
    intro s₁ h₁
    have hJ := hstable _ _ _ h h₁
    exact ⟨hinv _ _ hJ, hJ⟩
  | cons x xs ih =>
    refine Safe.bind ((hbody x xs s h).mono ?_)
    intro _ s' _ hJ
    exact ih hJ

/-- **Adequacy for runs.**  What is safe ends, when it runs alone, as promised. -/
lemma Safe.runs {a : α} (h : Safe others step inv p Q s) (hrun : Runs step p s es a s') :
    inv s' ∧ Q a s' := by
  induction hrun with
  | ret a s => exact h s (others.refl s)
  | call hstep _ ih => exact ih (h.advance hstep)

end Safe

/-! ## Programs that run alone -/

/-- Run alone from `s`, the program ends only in results and states that satisfy `Q`. -/
abbrev Alone (step : Sem σ Op Res) (p : Prog Op Res α) (Q : α → σ → Prop) (s : σ) : Prop :=
  Safe (Others.nobody σ) step (fun _ => True) p Q s

@[simp] lemma alone_ret {a : α} {Q : α → σ → Prop} : Alone step (.ret a) Q s ↔ Q a s := by
  simp [Alone, Safe, Others.nobody]

@[simp] lemma alone_call {op : Op} {next : Res op → Prog Op Res α} {Q : α → σ → Prop} :
    Alone step (.call op next) Q s ↔ ∀ r s₁, step s op r s₁ → Alone step (next r) Q s₁ := by
  simp [Alone, Safe, Others.nobody]

/-- **Simulation by a function.**  If every request is answered as the function answers it and
keeps the relation to the function's state, so does the program. -/
lemma Makes.simulates {τ : Type} {answer : τ → (op : Op) → Res op × τ} {R : σ → τ → Prop}
    {P : Op → Prop} {p : Prog Op Res α} {x : τ} (h : Makes P p)
    (hsim : ∀ s x op r s', P op → R s x → step s op r s' →
      r = (answer x op).1 ∧ R s' (answer x op).2) (hs : R s x) :
    Alone step p (fun a s' => a = (exec answer p x).2.1 ∧ R s' (exec answer p x).2.2) s := by
  induction p generalizing s x with
  | ret a => exact alone_ret.mpr ⟨rfl, hs⟩
  | call op next ih =>
    refine alone_call.mpr fun r s₁ hstep => ?_
    obtain ⟨rfl, hR⟩ := hsim _ _ _ _ _ h.1 hs hstep
    exact ih _ (h.2 _) hR

/-- **The elements of a loop are treated one by one.**  If the body for `x` brings the view of
`x` from `V x` into `R x` and leaves all other views, the loop does so for each element. -/
lemma alone_forEach {ι γ : Type} {view : σ → ι → γ} {body : ι → Prog Op Res Unit} {V : ι → γ}
    {R : ι → γ → Prop} {xs : List ι}
    (hbody : ∀ x ∈ xs, ∀ s, view s x = V x → Alone step (body x)
      (fun _ s' => R x (view s' x) ∧ ∀ y, y ≠ x → view s' y = view s y) s)
    (hxs : xs.Nodup) (hV : ∀ x ∈ xs, view s x = V x) :
    Alone step (forEach body xs)
      (fun _ s' => (∀ x ∈ xs, R x (view s' x)) ∧ ∀ y ∉ xs, view s' y = view s y) s := by
  induction xs generalizing s with
  | nil => simp [forEach]
  | cons x xs ih =>
    obtain ⟨hx, hxs⟩ := List.nodup_cons.mp hxs
    refine Safe.bind ((hbody x (by simp) s (hV x (by simp))).mono ?_)
    rintro - s₁ - ⟨hR, honly⟩
    have hne {y : ι} (hy : y ∈ xs) : y ≠ x := fun he => hx (he ▸ hy)
    refine (ih (fun y hy => hbody y (by simp [hy])) hxs fun y hy => ?_).mono ?_
    · rw [honly y (hne hy)]
      exact hV y (by simp [hy])
    · rintro - s₂ - ⟨hdone, hrest⟩
      refine ⟨fun y hy => ?_, fun y hy => ?_⟩
      · rcases List.mem_cons.mp hy with rfl | hy
        · exact (hrest y hx).symm ▸ hR
        · exact hdone y hy
      · have hy' : y ∉ xs := fun h => hy (List.mem_cons_of_mem x h)
        exact (hrest y hy').trans (honly y fun he => hy (he ▸ List.mem_cons_self))

end Prog

end Interact
