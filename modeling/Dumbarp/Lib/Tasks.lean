/-
Tasks that share a state.

A task has a state of its own and takes steps on it and on the shared state; any task may
take the next step.  What every task keeps for itself and no other task disturbs, holds of all
tasks in whatever order they run.
-/
import Mathlib.Logic.Function.Basic
import Mathlib.Logic.Relation
import Mathlib.Tactic.Lemma

namespace Tasks

open Relation

/-- The steps of tasks: `step i l s l' s'` when the task `i`, whose state is `l`, may go on to
`l'` and change the shared state from `s` to `s'`. -/
abbrev Steps (ι L S : Type) : Type := ι → L → S → L → S → Prop

/-- The states of all tasks and the state they share. -/
structure System (ι L S : Type) where
  task : ι → L
  shared : S

variable {ι L S : Type} [DecidableEq ι]

/-- The system once the task `i` has taken a step. -/
def System.set (σ : System ι L S) (i : ι) (l : L) (s : S) : System ι L S :=
  ⟨Function.update σ.task i l, s⟩

section Set

variable (σ : System ι L S) (i : ι) (l : L) (s : S)

@[simp] lemma System.set_shared : (σ.set i l s).shared = s := rfl

@[simp] lemma System.set_task : (σ.set i l s).task i = l := Function.update_self _ _ _

lemma System.set_task_of_ne {j : ι} (h : j ≠ i) : (σ.set i l s).task j = σ.task j :=
  Function.update_of_ne h _ _

end Set

variable {step : Steps ι L S} {σ σ' : System ι L S}

/-- One task takes one step. -/
inductive Turn (step : Steps ι L S) (σ : System ι L S) : System ι L S → Prop
  | mk {i : ι} {l : L} {s : S} (h : step i (σ.task i) σ.shared l s) : Turn step σ (σ.set i l s)

/-- Any number of steps, of any tasks. -/
abbrev Reach (step : Steps ι L S) : System ι L S → System ι L S → Prop := ReflTransGen (Turn step)

lemma Reach.turn {i : ι} {l l' : L} {s s' : S} (h : Reach step σ σ') (hl : σ'.task i = l)
    (hs : σ'.shared = s) (hstep : step i l s l' s') : Reach step σ (σ'.set i l' s') := by
  subst hl hs
  exact h.tail (Turn.mk hstep)

/-- Tasks that can do more come further. -/
lemma Reach.mono {step' : Steps ι L S} (hsub : ∀ i l s l' s', step i l s l' s' → step' i l s l' s')
    (h : Reach step σ σ') : Reach step' σ σ' := by
  refine ReflTransGen.mono ?_ _ _ h
  rintro σ₁ σ₂ ⟨hs⟩
  exact ⟨hsub _ _ _ _ _ hs⟩

/-- What every step keeps of the shared state. -/
lemma Reach.shared {K : S → Prop} (hstep : ∀ i l s l' s', K s → step i l s l' s' → K s')
    (h : Reach step σ σ') (hK : K σ.shared) : K σ'.shared := by
  induction h with
  | refl => exact hK
  | tail _ hturn ih =>
    obtain ⟨hs⟩ := hturn
    exact hstep _ _ _ _ _ ih hs

/-- **The rule of tasks.**  What a task keeps by its own steps, and no step of another task
disturbs, holds of every task in every order of steps. -/
theorem Reach.each {J : ι → L → S → Prop}
    (own : ∀ i l s l' s', J i l s → step i l s l' s' → J i l' s')
    (others : ∀ i j l s l' s' m, j ≠ i → J j m s → step i l s l' s' → J j m s')
    (h : Reach step σ σ') (hJ : ∀ i, J i (σ.task i) σ.shared) (i : ι) :
    J i (σ'.task i) σ'.shared := by
  induction h generalizing i with
  | refl => exact hJ i
  | @tail σ₁ _ _ hturn ih =>
    obtain @⟨k, l, s, hs⟩ := hturn
    by_cases hik : i = k
    · subst hik
      rw [System.set_task]
      exact own _ _ _ _ _ (ih i) hs
    · rw [System.set_task_of_ne σ₁ k l s hik]
      exact others _ _ _ _ _ _ _ hik (ih i) hs

/-- The runs from `σ`: the turns, each with the task that took it and the system it found, and
the system at the end. -/
inductive Trace (step : Steps ι L S) (σ : System ι L S) :
    List (ι × System ι L S) → System ι L S → Prop
  | start : Trace step σ [] σ
  | turn {taken : List (ι × System ι L S)} {σ' : System ι L S} {i : ι} {l : L} {s : S}
      (h : Trace step σ taken σ') (hstep : step i (σ'.task i) σ'.shared l s) :
      Trace step σ (taken ++ [(i, σ')]) (σ'.set i l s)

/-- A run goes on with a step of a task whose state is known. -/
lemma Trace.next {taken : List (ι × System ι L S)} {i : ι} {l l' : L} {s' : S}
    (h : Trace step σ taken σ') (hl : σ'.task i = l) (hstep : step i l σ'.shared l' s') :
    Trace step σ (taken ++ [(i, σ')]) (σ'.set i l' s') := by
  subst hl
  exact h.turn hstep

/-- The systems that a run comes through, the last one included. -/
def visited (taken : List (ι × System ι L S)) (σ : System ι L S) : List (System ι L S) :=
  taken.map Prod.snd ++ [σ]

omit [DecidableEq ι] in
lemma forall_visited_append {taken : List (ι × System ι L S)} {i : ι} {P : System ι L S → Prop} :
    (∀ τ ∈ visited (taken ++ [(i, σ)]) σ', P τ) ↔ (∀ τ ∈ visited taken σ, P τ) ∧ P σ' := by
  simp [visited, or_imp, forall_and, and_assoc]

/-- What holds at the start and is kept by every turn holds of all a run comes through. -/
lemma Trace.visited {P : System ι L S → Prop} {taken : List (ι × System ι L S)}
    (h : Trace step σ taken σ') (hσ : P σ)
    (hturn : ∀ i τ l s, (i, τ) ∈ taken → P τ → step i (τ.task i) τ.shared l s → P (τ.set i l s)) :
    ∀ τ ∈ visited taken σ', P τ := by
  induction h with
  | start => simpa [Tasks.visited] using hσ
  | @turn taken σ₁ i l s h hstep ih =>
    have hbefore := ih fun j τ l s hmem => hturn j τ l s (List.mem_append_left _ hmem)
    refine forall_visited_append.mpr ⟨hbefore, ?_⟩
    refine hturn i σ₁ l s (by simp) (hbefore σ₁ ?_) hstep
    simp [Tasks.visited]

end Tasks
