/-
Reading the fields of a record off a list of attributes.

A loop over attributes that sets one variable for each kind of attribute leaves in each
variable the last attribute of that kind.  When all attributes of a kind carry the same
value, their order and repetition do not matter.
-/
import Mathlib.Data.List.Basic

namespace Fields

variable {S A V : Type} {read : S → A → S} {get : S → Option V} {f : A → Option V}

/-- The variable after the loop, when it was set before and no attribute says otherwise. -/
lemma foldl_eq_some (hread : ∀ s a, get (read s a) = (f a).or (get s)) {v : V} {as : List A}
    (has : ∀ a ∈ as, ∀ v', f a = some v' → v' = v) {s : S} (hs : get s = some v) :
    get (as.foldl read s) = some v := by
  induction as generalizing s with
  | nil => exact hs
  | cons a as ih =>
    refine ih (fun b hb => has b (by simp [hb])) ?_
    rw [hread]
    cases hf : f a with
    | none => simpa using hs
    | some v' => simp [has a (by simp) v' hf]

/-- **The variable after the loop** is the value that the attributes of its kind carry. -/
theorem foldl_eq (hread : ∀ s a, get (read s a) = (f a).or (get s)) {v : Option V} {as : List A}
    (has : ∀ v', (∃ a ∈ as, f a = some v') ↔ v = some v') {s : S} (hs : get s = none) :
    get (as.foldl read s) = v := by
  induction as generalizing s with
  | nil =>
    cases v with
    | none => exact hs
    | some v => simpa using (has v).mpr rfl
  | cons a as ih =>
    cases hf : f a with
    | some v₀ =>
      -- the variable is set now, and the rest of the list agrees with it
      have hv : v = some v₀ := (has v₀).mp ⟨a, by simp, hf⟩
      have hsame : ∀ b ∈ as, ∀ v', f b = some v' → v' = v₀ := by
        intro b hb v' hb'
        have := (has v').mp ⟨b, by simp [hb], hb'⟩
        rw [hv, Option.some.injEq] at this
        exact this.symm
      rw [hv]
      exact foldl_eq_some hread hsame (by rw [hread, hf]; rfl)
    | none =>
      refine ih (fun v' => ?_) (by rw [hread, hf]; exact hs)
      rw [← has v']
      simp [hf]

end Fields
