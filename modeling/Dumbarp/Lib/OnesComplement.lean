/-
One's-complement sums of words, and their incremental update.

The words are the numbers up to `M`, in the base `M + 1`.  A sum is brought back to a word by
adding its carries to its low digit until none is left.  This keeps the sum modulo `M`, and as it
keeps a positive sum positive, it decides between the two words `0` and `M` that stand for zero
modulo `M`: only the empty sum folds to `0`.

A checksum is the complement of the sum of the other words.  When one of these is replaced, the
new checksum can be computed from the old one and the two words.
-/
import Mathlib.Data.Nat.ModEq
import Mathlib.Tactic.Lemma

namespace OnesComplement

variable {M : ℕ}

/-! ## Folding -/

/-- Add the carries of a sum to its low digit. -/
def addBack (M n : ℕ) : ℕ := n % (M + 1) + n / (M + 1)

lemma addBack_add (M n : ℕ) : addBack M n + M * (n / (M + 1)) = n := by
  have h := Nat.mod_add_div n (M + 1)
  have hmul : (M + 1) * (n / (M + 1)) = M * (n / (M + 1)) + n / (M + 1) := Nat.succ_mul _ _
  rw [addBack]
  omega

lemma addBack_modEq (M n : ℕ) : addBack M n ≡ n [MOD M] := by
  have h : addBack M n + M * (n / (M + 1)) ≡ addBack M n [MOD M] := by
    show (addBack M n + M * (n / (M + 1))) % M = addBack M n % M
    exact Nat.add_mul_mod_self_left _ _ _
  rw [addBack_add] at h
  exact h.symm

lemma addBack_of_le {n : ℕ} (h : n ≤ M) : addBack M n = n := by
  have hlt : n < M + 1 := by omega
  rw [addBack, Nat.mod_eq_of_lt hlt, Nat.div_eq_of_lt hlt, Nat.add_zero]

lemma addBack_pos {n : ℕ} (h : 0 < n) : 0 < addBack M n := by
  by_cases hle : n ≤ M
  · rwa [addBack_of_le hle]
  · have hdiv : 0 < n / (M + 1) := Nat.div_pos (by omega) (by omega)
    rw [addBack]
    omega

lemma addBack_lt {n : ℕ} (hM : 0 < M) (h : M < n) : addBack M n < n := by
  have hadd := addBack_add M n
  have hdiv : 0 < n / (M + 1) := Nat.div_pos (by omega) (by omega)
  have hmul : 0 < M * (n / (M + 1)) := Nat.mul_pos hM hdiv
  omega

/-- Add the carries back until there are none. -/
def fold (M n : ℕ) : ℕ :=
  if 0 < M ∧ M < n then fold M (addBack M n) else n
termination_by n
decreasing_by exact addBack_lt (by omega) (by omega)

lemma fold_of_le {n : ℕ} (h : n ≤ M) : fold M n = n := by
  rw [fold, if_neg (by omega)]

lemma fold_addBack {n : ℕ} (hM : 0 < M) : fold M (addBack M n) = fold M n := by
  by_cases h : M < n
  · rw [fold.eq_1 M n, if_pos ⟨hM, h⟩]
  · rw [addBack_of_le (by omega)]

/-- **What folding does**: it gives a word, which is positive for a positive sum, and congruent to
the sum. -/
lemma fold_spec (hM : 0 < M) (n : ℕ) :
    fold M n ≤ M ∧ (0 < n → 0 < fold M n) ∧ fold M n ≡ n [MOD M] := by
  induction n using Nat.strong_induction_on with
  | _ n ih =>
    by_cases h : M < n
    · obtain ⟨hle, hpos, hmod⟩ := ih (addBack M n) (addBack_lt hM h)
      rw [fold_addBack hM] at hle hpos hmod
      exact ⟨hle, fun hn => hpos (addBack_pos hn), hmod.trans (addBack_modEq M n)⟩
    · rw [fold_of_le (by omega)]
      exact ⟨by omega, id, Nat.ModEq.refl n⟩

/-- A positive word is determined by what it is modulo `M`. -/
lemma eq_of_modEq {x y : ℕ} (hx : 0 < x) (hx' : x ≤ M) (hy : 0 < y) (hy' : y ≤ M)
    (h : x ≡ y [MOD M]) : x = y := by
  have hxM : (x - 1) % M = x - 1 := Nat.mod_eq_of_lt (by omega)
  have hyM : (y - 1) % M = y - 1 := Nat.mod_eq_of_lt (by omega)
  have hpred : x - 1 ≡ y - 1 [MOD M] := by
    refine Nat.ModEq.add_right_cancel' 1 ?_
    rw [Nat.sub_add_cancel hx, Nat.sub_add_cancel hy]
    exact h
  have heq : (x - 1) % M = (y - 1) % M := hpred
  omega

/-- Congruent positive sums fold to the same word. -/
lemma fold_congr (hM : 0 < M) {m n : ℕ} (hm : 0 < m) (hn : 0 < n) (h : m ≡ n [MOD M]) :
    fold M m = fold M n := by
  obtain ⟨hle, hpos, hmod⟩ := fold_spec hM m
  obtain ⟨hle', hpos', hmod'⟩ := fold_spec hM n
  exact eq_of_modEq (hpos hm) hle (hpos' hn) hle' (hmod.trans (h.trans hmod'.symm))

/-- A positive sum folds to all ones iff it is zero modulo `M`. -/
lemma fold_eq_top_iff (hM : 0 < M) {n : ℕ} (hn : 0 < n) : fold M n = M ↔ n ≡ 0 [MOD M] := by
  have htop : M ≡ 0 [MOD M] := by
    show M % M = 0 % M
    rw [Nat.mod_self, Nat.zero_mod]
  obtain ⟨hle, hpos, hmod⟩ := fold_spec hM n
  constructor
  · intro h
    rw [h] at hmod
    exact hmod.symm.trans htop
  · intro h
    exact eq_of_modEq (hpos hn) hle hM le_rfl (hmod.trans (h.trans htop.symm))

/-- A sum of at most three words has no carry left after two rounds. -/
lemma addBack_addBack_le (hM : 2 < M) {n : ℕ} (h : n ≤ 3 * M) : addBack M (addBack M n) ≤ M := by
  have hmod : n % (M + 1) ≤ M := Nat.lt_succ_iff.mp (Nat.mod_lt _ (by omega))
  have hdiv : n / (M + 1) < 3 := (Nat.div_lt_iff_lt_mul (by omega)).mpr (by omega)
  have hfirst : addBack M n ≤ M + 2 := by
    rw [addBack]
    omega
  by_cases hle : addBack M n ≤ M
  · rwa [addBack_of_le hle]
  · -- one carry is left, over a low digit of at most one
    have hadd := addBack_add M (addBack M n)
    have hone : addBack M n / (M + 1) = 1 :=
      Nat.div_eq_of_lt_le (by omega) (by omega)
    rw [hone] at hadd
    omega

/-! ## Replacing a word -/

/-- The new checksum when the word `old` is replaced by `new`. -/
def replace (M check old new : ℕ) : ℕ := M - fold M ((M - check) + (M - old) + new)

/-- The update compensates the replacement, whatever the checksum was. -/
lemma replace_add_modEq (hM : 0 < M) {check old : ℕ} (new : ℕ) (hc : check ≤ M) (ho : old ≤ M) :
    replace M check old new + new ≡ check + old [MOD M] := by
  obtain ⟨hle, -, hmod⟩ := fold_spec hM ((M - check) + (M - old) + new)
  rw [replace]
  generalize hsum : (M - check) + (M - old) + new = sum at hle hmod ⊢
  refine Nat.ModEq.add_right_cancel' sum ?_
  have hleft : M - fold M sum + new + sum ≡ M - fold M sum + new + fold M sum [MOD M] :=
    hmod.symm.add_left _
  have hsame : M - fold M sum + new + fold M sum + M = check + old + sum := by omega
  refine hleft.trans ?_
  rw [← hsame]
  show _ % M = _ % M
  rw [Nat.add_mod_right]

/-- **The update is exact**: if the checksum is the complement of a sum, the new one is the
complement of the new sum. -/
lemma replace_eq (hM : 0 < M) {old new : ℕ} (rest : ℕ) (ho : old ≤ M) (hn : 0 < new) :
    replace M (M - fold M (old + rest)) old new = M - fold M (new + rest) := by
  obtain ⟨hle, -, hmod⟩ := fold_spec hM (old + rest)
  rw [replace, Nat.sub_sub_self hle]
  have hcongr : fold M (old + rest) + (M - old) + new ≡ new + rest [MOD M] := by
    have hleft : fold M (old + rest) + (M - old) + new ≡ old + rest + (M - old) + new [MOD M] :=
      (hmod.add_right _).add_right _
    have hsame : old + rest + (M - old) + new = new + rest + M := by omega
    rw [hsame] at hleft
    refine hleft.trans ?_
    show _ % M = _ % M
    rw [Nat.add_mod_right]
  rw [fold_congr hM (by omega) (by omega) hcongr]

end OnesComplement
