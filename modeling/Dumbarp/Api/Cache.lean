/-
The stale-tolerant cache of the reconcilers (`dumbarp-api/src/cache.rs`).

A round of fetches is applied to the cache as a whole: a fetched value replaces the cached one
and is stamped with the time of the round, and a failed fetch keeps the cached value as long as
its stamp is fresh and drops it otherwise.  The mutex makes each round one step.  Times are
natural numbers, so that `Instant::duration_since` is truncated subtraction.
-/
import Dumbarp.Lib.HashMap
import Dumbarp.Net.Ipv4
import Mathlib.Tactic.Common

namespace Dumbarp.Api

variable {T ε : Type}

/-! ## The code -/

/-- `Leases`: what a daemon answers. -/
structure Leases where
  ips : List Ipv4Addr
  dumbarpdId : Option UInt8
deriving DecidableEq, Repr

/-- `DaemonRoutes`: what a gateway knows of a daemon. -/
structure DaemonRoutes where
  name : String
  nexthop : Ipv4Addr
  device : String
  dumbarpdId : Option UInt8
  ips : List Ipv4Addr
deriving DecidableEq, Repr

/-- `CachedEntry`. -/
structure CachedEntry (T : Type) where
  value : T
  lastSuccess : ℕ
deriving DecidableEq, Repr

/-- `Cache`: the map under the mutex. -/
abbrev Cache (T : Type) : Type := HashMap String (CachedEntry T)

/-- `LeaseCache`. -/
abbrev LeaseCache : Type := Cache Leases

/-- `RoundStats`. -/
structure RoundStats where
  fetchedOk : ℕ := 0
  usedCache : ℕ := 0
  dropped : ℕ := 0
deriving DecidableEq, Repr

/-- `now.duration_since(last) < stale_after`. -/
def fresh (now staleAfter last : ℕ) : Bool := now - last < staleAfter

/-- The body of the loop of `apply_round`: one name with the result of its fetch. -/
def applyResult (now staleAfter : ℕ) (s : RoundStats × Cache T)
    (item : String × Except ε T) : RoundStats × Cache T :=
  match item.2 with
  | .ok value =>
    ({ s.1 with fetchedOk := s.1.fetchedOk + 1 }, s.2.insert item.1 ⟨value, now⟩)
  | .error _ =>
    match s.2.lookup item.1 with
    | some entry =>
      if fresh now staleAfter entry.lastSuccess then
        ({ s.1 with usedCache := s.1.usedCache + 1 }, s.2)
      else ({ s.1 with dropped := s.1.dropped + 1 }, s.2.erase item.1)
    | none => ({ s.1 with dropped := s.1.dropped + 1 }, s.2.erase item.1)

/-- `Cache::snapshot`. -/
def snapshot (cached : Cache T) : HashMap String T :=
  HashMap.mapValues CachedEntry.value cached

/-- `Cache::apply_round`: the statistics and the view, and the cache it leaves. -/
def applyRound (now : ℕ) (results : List (String × Except ε T)) (staleAfter : ℕ)
    (cached : Cache T) : (RoundStats × HashMap String T) × Cache T :=
  let s := results.foldl (applyResult now staleAfter) ({}, cached)
  ((s.1, snapshot s.2), s.2)

/-! ## One round -/

/-- The entry of a name after its result: the effect of `apply_round` on one name. -/
def entryAfter (now staleAfter : ℕ) (result : Except ε T) (entry : Option (CachedEntry T)) :
    Option (CachedEntry T) :=
  match result with
  | .ok value => some ⟨value, now⟩
  | .error _ => entry.filter fun e => fresh now staleAfter e.lastSuccess

lemma lookup_applyResult (now staleAfter : ℕ) (s : RoundStats × Cache T)
    (item : String × Except ε T) :
    (applyResult now staleAfter s item).2.lookup item.1
      = entryAfter now staleAfter item.2 (s.2.lookup item.1) := by
  obtain ⟨name, result⟩ := item
  cases result with
  | ok value => simp [applyResult, entryAfter]
  | error e =>
    simp only [applyResult, entryAfter]
    cases hl : s.2.lookup name with
    | none => simp
    | some entry =>
      by_cases hf : fresh now staleAfter entry.lastSuccess = true
      · simp [hf, hl, Option.filter]
      · simp [hf, Option.filter]

lemma lookup_applyResult_of_ne (now staleAfter : ℕ) (s : RoundStats × Cache T)
    (item : String × Except ε T) {k : String} (hk : k ≠ item.1) :
    (applyResult now staleAfter s item).2.lookup k = s.2.lookup k := by
  obtain ⟨name, result⟩ := item
  cases result with
  | ok value => simp [applyResult, AList.lookup_insert_ne hk]
  | error e =>
    simp only [applyResult]
    split
    · split
      · rfl
      · exact AList.lookup_erase_ne hk
    · exact AList.lookup_erase_ne hk

/-- Names that are not among the results keep their entries. -/
lemma lookup_results_of_notMem (now staleAfter : ℕ) {k : String} :
    ∀ (results : List (String × Except ε T)) (s : RoundStats × Cache T),
      k ∉ results.map Prod.fst →
        (results.foldl (applyResult now staleAfter) s).2.lookup k = s.2.lookup k
  | [], _, _ => rfl
  | item :: rest, s, hk => by
    simp only [List.map_cons, List.mem_cons, not_or] at hk
    rw [List.foldl_cons, lookup_results_of_notMem now staleAfter rest _ hk.2,
      lookup_applyResult_of_ne now staleAfter s item hk.1]

/-- **What a round does to a name**: its entry is the effect of its one result. -/
lemma lookup_results_of_mem (now staleAfter : ℕ) {k : String} {result : Except ε T} :
    ∀ (results : List (String × Except ε T)) (s : RoundStats × Cache T),
      (results.map Prod.fst).Nodup → (k, result) ∈ results →
        (results.foldl (applyResult now staleAfter) s).2.lookup k
          = entryAfter now staleAfter result (s.2.lookup k)
  | [], _, _, hk => absurd hk List.not_mem_nil
  | item :: rest, s, hd, hk => by
    rw [List.map_cons, List.nodup_cons] at hd
    rw [List.foldl_cons]
    rcases List.mem_cons.mp hk with rfl | hk
    · rw [lookup_results_of_notMem now staleAfter rest _ hd.1, lookup_applyResult]
    · have hne : k ≠ item.1 := fun h => hd.1 (h ▸ List.mem_map_of_mem hk)
      rw [lookup_results_of_mem now staleAfter rest _ hd.2 hk,
        lookup_applyResult_of_ne now staleAfter s item hne]

/-- Every result is counted once. -/
lemma stats_total (now staleAfter : ℕ) :
    ∀ (results : List (String × Except ε T)) (s : RoundStats × Cache T),
      let after := (results.foldl (applyResult now staleAfter) s).1
      after.fetchedOk + after.usedCache + after.dropped
        = s.1.fetchedOk + s.1.usedCache + s.1.dropped + results.length
  | [], _ => rfl
  | item :: rest, s => by
    have ih := stats_total now staleAfter rest (applyResult now staleAfter s item)
    have hstep : (applyResult now staleAfter s item).1.fetchedOk
        + (applyResult now staleAfter s item).1.usedCache
        + (applyResult now staleAfter s item).1.dropped
          = s.1.fetchedOk + s.1.usedCache + s.1.dropped + 1 := by
      obtain ⟨name, result⟩ := item
      simp only [applyResult]
      split
      · simp only; omega
      · split
        · split
          · simp only; omega
          · simp only; omega
        · simp only; omega
    simp only [List.foldl_cons, List.length_cons]
    simp only at ih
    omega

/-- A result is counted as fetched or cached when it leaves an entry, and only then. -/
lemma stats_applyResult (now staleAfter : ℕ) (s : RoundStats × Cache T)
    (item : String × Except ε T) :
    (applyResult now staleAfter s item).1.fetchedOk
        + (applyResult now staleAfter s item).1.usedCache
      = s.1.fetchedOk + s.1.usedCache
        + (if item.1 ∈ (applyResult now staleAfter s item).2 then 1 else 0) := by
  obtain ⟨name, result⟩ := item
  cases result with
  | ok value => simp [applyResult]; omega
  | error e =>
    simp only [applyResult]
    cases hl : s.2.lookup name with
    | none => simp [AList.mem_erase]
    | some entry =>
      have hmem : name ∈ s.2 := HashMap.mem_iff_lookup.mpr ⟨entry, hl⟩
      by_cases hf : fresh now staleAfter entry.lastSuccess = true
      · simp [hf, hmem]; omega
      · simp [hf, AList.mem_erase]

/-- The results counted as fetched or cached are those whose names the cache then holds. -/
lemma stats_kept (now staleAfter : ℕ) :
    ∀ (results : List (String × Except ε T)) (s : RoundStats × Cache T),
      (results.map Prod.fst).Nodup →
        (results.foldl (applyResult now staleAfter) s).1.fetchedOk
            + (results.foldl (applyResult now staleAfter) s).1.usedCache
          = s.1.fetchedOk + s.1.usedCache
            + (results.map Prod.fst).countP (· ∈ (results.foldl (applyResult now staleAfter) s).2)
  | [], _, _ => by simp
  | item :: rest, s, hd => by
    rw [List.map_cons, List.nodup_cons] at hd
    have ih := stats_kept now staleAfter rest (applyResult now staleAfter s item) hd.2
    -- the later results do not change the entry of this name, whose result counts by itself
    have hsame :
        item.1 ∈ (rest.foldl (applyResult now staleAfter) (applyResult now staleAfter s item)).2 ↔
          item.1 ∈ (applyResult now staleAfter s item).2 := by
      rw [HashMap.mem_iff_lookup, HashMap.mem_iff_lookup,
        lookup_results_of_notMem now staleAfter rest _ hd.1]
    have hstep := stats_applyResult now staleAfter s item
    rw [List.foldl_cons, ih, hstep, List.map_cons, List.countP_cons]
    simp only [decide_eq_true_eq, hsame]
    omega

end Dumbarp.Api
