/-
Policy routing.

A packet is tried against a list of rules.  A rule may know a way for it; the first way counts,
and a rule without one lets the packet pass on to the next.  Among the entries of a table the
one that covers the destination with the longest prefix is the way.
-/
import Mathlib.Data.List.MinMax
import Mathlib.Tactic.Lemma

namespace Policy

variable {ρ β : Type}

/-! ## The rules -/

/-- The first rule that knows a way, with that way. -/
def verdict (way : ρ → Option β) (rules : List ρ) : Option (ρ × β) :=
  rules.findSome? fun r => (way r).map (r, ·)

section Verdict

variable {way : ρ → Option β} {rules front back : List ρ} {r : ρ} {b : β}

@[simp] lemma verdict_nil : verdict way [] = none := rfl

lemma verdict_cons (way : ρ → Option β) (r : ρ) (rules : List ρ) :
    verdict way (r :: rules) = ((way r).map (r, ·)).or (verdict way rules) := by
  rw [verdict, List.findSome?_cons]
  cases way r <;> rfl

lemma verdict_append (way : ρ → Option β) (front back : List ρ) :
    verdict way (front ++ back) = (verdict way front).or (verdict way back) := by
  induction front with
  | nil => simp
  | cons r front ih => rw [List.cons_append, verdict_cons, verdict_cons, ih, Option.or_assoc]

lemma verdict_eq_none : verdict way rules = none ↔ ∀ r ∈ rules, way r = none := by
  simp [verdict]

/-- A verdict comes from a rule of the list. -/
lemma verdict_mem (h : verdict way rules = some (r, b)) : r ∈ rules ∧ way r = some b := by
  obtain ⟨r', hr', heq⟩ := List.exists_of_findSome?_eq_some h
  obtain ⟨b', hb', heq⟩ := Option.map_eq_some_iff.mp heq
  obtain ⟨rfl, rfl⟩ := Prod.mk.inj heq
  exact ⟨hr', hb'⟩

/-- Rules without a way may be left out. -/
lemma verdict_filter {own : ρ → Bool} (h : ∀ r ∈ rules, own r = false → way r = none) :
    verdict way (rules.filter own) = verdict way rules := by
  induction rules with
  | nil => rfl
  | cons r rules ih =>
    have ih := ih fun r' hr' => h r' (List.mem_cons_of_mem r hr')
    cases hr : own r with
    | true => rw [List.filter_cons_of_pos hr, verdict_cons, verdict_cons, ih]
    | false =>
      rw [List.filter_cons_of_neg (by simp [hr]), verdict_cons, ih, h r (by simp) hr]
      rfl

/-- The only rule that knows a way decides, wherever it stands. -/
lemma verdict_of_only (hr : r ∈ rules) (hway : way r = some b)
    (honly : ∀ r' ∈ rules, r' ≠ r → way r' = none) : verdict way rules = some (r, b) := by
  cases hv : verdict way rules with
  | none => simp [verdict_eq_none.mp hv r hr] at hway
  | some v =>
    obtain ⟨r', b'⟩ := v
    obtain ⟨hr', hb'⟩ := verdict_mem hv
    by_cases heq : r' = r
    · subst heq
      rw [Option.some.inj (hb'.symm.trans hway)]
    · simp [honly r' hr' heq] at hb'

/-- **Own rules that stand first decide first.**  As long as the rules of others among them know
no way, the others are asked for the packets that the own rules pass on. -/
lemma verdict_split {own : ρ → Bool} (hfront : ∀ r ∈ front, own r = false → way r = none)
    (hback : ∀ r ∈ back, own r = false) :
    verdict way (front ++ back) =
      (verdict way ((front ++ back).filter own)).or
        (verdict way ((front ++ back).filter fun r => !own r)) := by
  have hnone : verdict way (front.filter fun r => !own r) = none := by
    refine verdict_eq_none.mpr fun r hr => ?_
    obtain ⟨hr, hown⟩ := List.mem_filter.mp hr
    exact hfront r hr (by simpa using hown)
  have hownBack : back.filter own = [] :=
    List.filter_eq_nil_iff.mpr fun r hr => by simp [hback r hr]
  have hallBack : (back.filter fun r => !own r) = back :=
    List.filter_eq_self.mpr fun r hr => by simp [hback r hr]
  rw [List.filter_append, List.filter_append, hownBack, hallBack, List.append_nil,
    verdict_filter hfront, verdict_append, verdict_append, hnone, Option.none_or]

end Verdict

/-! ## The entries of a table -/

/-- The entry with the longest prefix among those that cover the destination. -/
def longest (covers : β → Bool) (len : β → ℕ) (entries : List β) : Option β :=
  (entries.filter covers).argmax len

section Longest

variable {covers : β → Bool} {len : β → ℕ} {entries : List β} {b : β}

/-- **The way of a table** covers the destination, and no other entry that does is longer. -/
lemma longest_mem (h : longest covers len entries = some b) :
    b ∈ entries ∧ covers b = true ∧ ∀ b' ∈ entries, covers b' → len b' ≤ len b := by
  have hb := List.mem_filter.mp (List.argmax_mem h)
  refine ⟨hb.1, hb.2, fun b' hb' hc => ?_⟩
  exact List.le_of_mem_argmax (List.mem_filter.mpr ⟨hb', hc⟩) h

/-- Entries that do not cover the destination may be left out. -/
lemma longest_filter {own : β → Bool} (h : ∀ b ∈ entries, own b = false → covers b = false) :
    longest covers len (entries.filter own) = longest covers len entries := by
  rw [longest, longest, List.filter_filter]
  congr 1
  refine List.filter_congr fun b hb => ?_
  cases hown : own b with
  | true => simp
  | false => simp [h b hb hown]

lemma longest_singleton : longest covers len [b] = if covers b then some b else none := by
  cases h : covers b <;> simp [longest, h]

@[simp] lemma longest_nil : longest covers len [] = none := rfl

end Longest

end Policy
