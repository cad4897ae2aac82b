/-
The greatest element of a list by a key.

Of several elements with the greatest key the last one counts.
-/
import Mathlib.Tactic.Lemma
import Mathlib.Order.Lattice

namespace MaxByKey

variable {α κ : Type} [LinearOrder κ] {key : α → κ}

/-- The later of two elements, unless the key of the earlier is greater. -/
def later (key : α → κ) (best a : α) : α := if key a < key best then best else a

/-- The last element with the greatest key. -/
def maxByKey (key : α → κ) : List α → Option α
  | [] => none
  | a :: as => some (as.foldl (later key) a)

lemma later_eq (key : α → κ) (best a : α) : later key best a = best ∨ later key best a = a := by
  rw [later]
  split
  · exact Or.inl rfl
  · exact Or.inr rfl

lemma le_later (key : α → κ) (best a : α) :
    key best ≤ key (later key best a) ∧ key a ≤ key (later key best a) := by
  rw [later]
  split
  · exact ⟨le_rfl, le_of_lt ‹_›⟩
  · exact ⟨not_lt.mp ‹_›, le_rfl⟩

/-- What a fold keeps came from the list or was there before, and nothing has a greater key. -/
lemma foldl_later (as : List α) (best : α) :
    as.foldl (later key) best ∈ best :: as ∧
      ∀ b ∈ best :: as, key b ≤ key (as.foldl (later key) best) := by
  induction as generalizing best with
  | nil => simp
  | cons a as ih =>
    obtain ⟨hmem, hmax⟩ := ih (later key best a)
    obtain ⟨hbest, ha⟩ := le_later key best a
    have hle := hmax (later key best a) (by simp)
    rw [List.foldl_cons]
    refine ⟨?_, fun b hb => ?_⟩
    · rcases List.mem_cons.mp hmem with heq | hmem
      · rw [heq]
        rcases later_eq key best a with h | h <;> rw [h] <;> simp
      · simp [hmem]
    · rcases List.mem_cons.mp hb with rfl | hb
      · exact le_trans hbest hle
      · rcases List.mem_cons.mp hb with rfl | hb
        · exact le_trans ha hle
        · exact hmax b (by simp [hb])

/-- There is no greatest element exactly if there is no element. -/
lemma maxByKey_eq_none {as : List α} : maxByKey key as = none ↔ as = [] := by
  cases as <;> simp [maxByKey]

/-- **The selected element** is one of the list, and none has a greater key. -/
theorem maxByKey_eq_some {as : List α} {a : α} (h : maxByKey key as = some a) :
    a ∈ as ∧ ∀ b ∈ as, key b ≤ key a := by
  cases as with
  | nil => cases h
  | cons b as =>
    obtain rfl := Option.some.inj h
    exact foldl_later as b

end MaxByKey
