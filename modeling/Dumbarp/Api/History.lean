/-
The cache equals its history.

The code keeps one entry a name and drops it lazily, when a failure of that name is processed.
Over a sequence of rounds that always cover the same names, the view of a round is nevertheless
a function of the results alone: a name has the value of its latest success, as long as that is
the round itself or lies less than the window back.  Dropping early never matters, because time
does not go back: an entry that is stale once is stale from then on.

Sequences of rounds are listed newest first.
-/
import Dumbarp.Api.Cache
import Mathlib.Data.Finset.Card

namespace Dumbarp.Api

variable {T ε : Type}

/-! ## Sequences of rounds -/

/-- One call of `apply_round`: its time and its results. -/
structure Round (ε T : Type) where
  now : ℕ
  results : List (String × Except ε T)

/-- The round has a value for the name. -/
def Round.Fetched (r : Round ε T) (k : String) (v : T) : Prop := (k, Except.ok v) ∈ r.results

/-- The cache after a sequence of rounds on a new cache (`Cache::default`). -/
def afterRounds (staleAfter : ℕ) : List (Round ε T) → Cache T
  | [] => ∅
  | r :: older => (applyRound r.now r.results staleAfter (afterRounds staleAfter older)).2

/-- The sequences of rounds of a reconciler: each covers the same set of distinct names, and
time does not go back. -/
structure Sequence (names : Finset String) (rounds : List (Round ε T)) : Prop where
  nodup : ∀ r ∈ rounds, (r.results.map Prod.fst).Nodup
  covers : ∀ r ∈ rounds, ∀ k, k ∈ r.results.map Prod.fst ↔ k ∈ names
  times : rounds.Pairwise fun newer older => older.now ≤ newer.now

lemma Sequence.tail {names : Finset String} {r : Round ε T} {older : List (Round ε T)}
    (h : Sequence names (r :: older)) : Sequence names older where
  nodup a ha := h.nodup a (List.mem_cons_of_mem _ ha)
  covers a ha := h.covers a (List.mem_cons_of_mem _ ha)
  times := (List.pairwise_cons.mp h.times).2

lemma Sequence.drop {names : Finset String} {older : List (Round ε T)} :
    ∀ {newer : List (Round ε T)}, Sequence names (newer ++ older) → Sequence names older
  | [], h => h
  | _ :: _, h => Sequence.drop h.tail

lemma Sequence.le_now {names : Finset String} {r : Round ε T} {older : List (Round ε T)}
    (h : Sequence names (r :: older)) {a : Round ε T} (ha : a ∈ older) : a.now ≤ r.now :=
  (List.pairwise_cons.mp h.times).1 a ha

/-- A name of the sequence has one result in each round. -/
lemma Sequence.result_unique {names : Finset String} {rounds : List (Round ε T)}
    (h : Sequence names rounds) {r : Round ε T} (hr : r ∈ rounds) {k : String}
    {x y : Except ε T} (hx : (k, x) ∈ r.results) (hy : (k, y) ∈ r.results) : x = y :=
  congrArg Prod.snd (List.inj_on_of_nodup_map (h.nodup r hr) hx hy rfl)

/-! ## The latest success -/

/-- The latest success of `k` is the one the entry records. -/
def Latest (rounds : List (Round ε T)) (k : String) (e : CachedEntry T) : Prop :=
  ∃ newer s older, rounds = newer ++ s :: older ∧ s.Fetched k e.value ∧ s.now = e.lastSuccess ∧
    ∀ a ∈ newer, ∀ w, ¬ a.Fetched k w

lemma not_latest_nil (k : String) (e : CachedEntry T) :
    ¬ Latest ([] : List (Round ε T)) k e := by
  rintro ⟨newer, s, older, h, -⟩
  simp at h

lemma latest_cons_of_fetched {r : Round ε T} {older : List (Round ε T)} {k : String}
    {e : CachedEntry T} (hv : ∃ v, r.Fetched k v) :
    Latest (r :: older) k e ↔ r.Fetched k e.value ∧ r.now = e.lastSuccess := by
  constructor
  · rintro ⟨newer, s, before, h, hs, ht, hn⟩
    cases newer with
    | nil =>
      obtain ⟨rfl, rfl⟩ := List.cons.inj h
      exact ⟨hs, ht⟩
    | cons a newer =>
      obtain ⟨rfl, -⟩ := List.cons.inj h
      obtain ⟨v, hv⟩ := hv
      exact absurd hv (hn _ List.mem_cons_self v)
  · rintro ⟨hs, ht⟩
    exact ⟨[], r, older, rfl, hs, ht, by simp⟩

lemma latest_cons_of_not_fetched {r : Round ε T} {older : List (Round ε T)} {k : String}
    {e : CachedEntry T} (hv : ∀ v, ¬ r.Fetched k v) :
    Latest (r :: older) k e ↔ Latest older k e := by
  constructor
  · rintro ⟨newer, s, before, h, hs, ht, hn⟩
    cases newer with
    | nil =>
      obtain ⟨rfl, rfl⟩ := List.cons.inj h
      exact absurd hs (hv _)
    | cons a newer =>
      obtain ⟨rfl, rfl⟩ := List.cons.inj h
      exact ⟨newer, s, before, rfl, hs, ht, fun b hb => hn b (List.mem_cons_of_mem _ hb)⟩
  · rintro ⟨newer, s, before, rfl, hs, ht, hn⟩
    refine ⟨r :: newer, s, before, rfl, hs, ht, ?_⟩
    rintro b hb w
    rcases List.mem_cons.mp hb with rfl | hb
    · exact hv w
    · exact hn b hb w

/-! ## What the cache holds -/

lemma fresh_mono {now later staleAfter last : ℕ} (h : now ≤ later)
    (hf : fresh later staleAfter last = true) : fresh now staleAfter last = true := by
  simp only [fresh, decide_eq_true_eq] at hf ⊢
  omega

section Held

variable {names : Finset String} {staleAfter : ℕ}

/-- One more round changes the entry of a name by its one result in it. -/
lemma lookup_afterRounds_cons {r : Round ε T} {older : List (Round ε T)}
    (h : Sequence names (r :: older)) {k : String} {result : Except ε T}
    (hk : (k, result) ∈ r.results) :
    (afterRounds staleAfter (r :: older)).lookup k
      = entryAfter r.now staleAfter result ((afterRounds staleAfter older).lookup k) :=
  lookup_results_of_mem r.now staleAfter r.results _ (h.nodup r List.mem_cons_self) hk

/-- Only the names of the sequence are ever in the cache. -/
lemma lookup_afterRounds_of_notMem {k : String} (hk : k ∉ names) :
    ∀ {rounds : List (Round ε T)}, Sequence names rounds →
      (afterRounds staleAfter rounds).lookup k = none
  | [], _ => rfl
  | r :: older, h => by
    have hr : k ∉ r.results.map Prod.fst := fun hm =>
      hk ((h.covers r List.mem_cons_self k).mp hm)
    simp only [afterRounds, applyRound]
    rw [lookup_results_of_notMem r.now staleAfter r.results _ hr]
    exact lookup_afterRounds_of_notMem hk h.tail

lemma not_latest_of_notMem {k : String} (hk : k ∉ names) {rounds : List (Round ε T)}
    (h : Sequence names rounds) (e : CachedEntry T) : ¬ Latest rounds k e := by
  rintro ⟨newer, s, older, rfl, hs, -, -⟩
  exact hk ((h.covers s (by simp) k).mp (List.mem_map_of_mem hs))

/-- The result of a name of the sequence in its newest round. -/
lemma Sequence.result {r : Round ε T} {older : List (Round ε T)}
    (h : Sequence names (r :: older)) {k : String} (hk : k ∈ names) :
    ∃ result, (k, result) ∈ r.results := by
  obtain ⟨⟨k', result⟩, hm, rfl⟩ :=
    List.mem_map.mp ((h.covers r List.mem_cons_self k).mpr hk)
  exact ⟨result, hm⟩

lemma latest_of_value {r : Round ε T} {older : List (Round ε T)}
    (h : Sequence names (r :: older)) {k : String} {v : T} (hv : r.Fetched k v)
    {e : CachedEntry T} : Latest (r :: older) k e ↔ e = ⟨v, r.now⟩ := by
  rw [latest_cons_of_fetched ⟨v, hv⟩]
  constructor
  · rintro ⟨he, ht⟩
    have := h.result_unique List.mem_cons_self he hv
    cases e
    cases this
    cases ht
    rfl
  · rintro rfl
    exact ⟨hv, rfl⟩

lemma not_fetched_of_error {r : Round ε T} {older : List (Round ε T)}
    (h : Sequence names (r :: older)) {k : String} {err : ε}
    (herr : (k, .error err) ∈ r.results) (v : T) : ¬ r.Fetched k v := fun hv => by
  cases h.result_unique List.mem_cons_self herr hv

/-- What is still fresh at a later time is the latest success, if that is still fresh.  The
induction needs the later time: an entry dropped on the way would be stale by then. -/
lemma fresh_lookup_iff {k : String} {e : CachedEntry T} :
    ∀ {rounds : List (Round ε T)} {now : ℕ}, Sequence names rounds →
      (∀ r ∈ rounds, r.now ≤ now) →
        ((afterRounds staleAfter rounds).lookup k = some e ∧
            fresh now staleAfter e.lastSuccess = true ↔
          Latest rounds k e ∧ fresh now staleAfter e.lastSuccess = true)
  | [], _, _, _ => by simp [afterRounds, not_latest_nil]
  | r :: older, now, h, hnow => by
    by_cases hk : k ∈ names
    · obtain ⟨result, hres⟩ := h.result hk
      rw [lookup_afterRounds_cons h hres]
      cases result with
      | ok v => rw [latest_of_value h hres, entryAfter, Option.some.injEq, eq_comm]
      | error err =>
        -- an entry that is dropped here is stale at the later time as well
        rw [latest_cons_of_not_fetched (not_fetched_of_error h hres), entryAfter,
          Option.filter_eq_some_iff,
          ← fresh_lookup_iff h.tail fun a ha => hnow a (List.mem_cons_of_mem _ ha)]
        have hmono : fresh now staleAfter e.lastSuccess = true →
            fresh r.now staleAfter e.lastSuccess = true :=
          fresh_mono (hnow r List.mem_cons_self)
        tauto
    · rw [lookup_afterRounds_of_notMem hk h]
      simp [not_latest_of_notMem hk h]

/-- **The entry of a name** is its latest success, if that is in the newest round or fresh. -/
theorem lookup_afterRounds_iff {r : Round ε T} {older : List (Round ε T)}
    (h : Sequence names (r :: older)) {k : String} {e : CachedEntry T} :
    (afterRounds staleAfter (r :: older)).lookup k = some e ↔
      Latest (r :: older) k e ∧
        (r.Fetched k e.value ∨ fresh r.now staleAfter e.lastSuccess = true) := by
  by_cases hk : k ∈ names
  · obtain ⟨result, hres⟩ := h.result hk
    rw [lookup_afterRounds_cons h hres]
    cases result with
    | ok v =>
      rw [latest_of_value h hres, entryAfter, Option.some.injEq, eq_comm]
      constructor
      · rintro rfl
        exact ⟨rfl, Or.inl hres⟩
      · rintro ⟨he, -⟩
        exact he
    | error err =>
      have hno := not_fetched_of_error h hres
      rw [latest_cons_of_not_fetched hno, entryAfter, Option.filter_eq_some_iff,
        fresh_lookup_iff h.tail fun a ha => h.le_now ha]
      simp [hno]
  · rw [lookup_afterRounds_of_notMem hk h]
    simp [not_latest_of_notMem hk h]

/-- A name without an entry stays without one until its next success. -/
lemma absent_until_fetched {k : String} {rounds : List (Round ε T)} :
    ∀ {later : List (Round ε T)}, Sequence names (later ++ rounds) →
      (afterRounds staleAfter rounds).lookup k = none → (∀ a ∈ later, ∀ w, ¬ a.Fetched k w) →
        (afterRounds staleAfter (later ++ rounds)).lookup k = none
  | [], _, habsent, _ => habsent
  | r :: later, h, habsent, hno => by
    have ih := absent_until_fetched h.tail habsent fun a ha => hno a (List.mem_cons_of_mem _ ha)
    rw [List.cons_append] at h ⊢
    -- without a success the round can only keep or drop what is there, and nothing is
    by_cases hk : k ∈ names
    · obtain ⟨result, hres⟩ := h.result hk
      rw [lookup_afterRounds_cons h hres, ih]
      cases result with
      | ok v => exact absurd hres (hno r List.mem_cons_self v)
      | error err => rfl
    · exact lookup_afterRounds_of_notMem hk h

/-- A value is held exactly while it is that of the latest success, which is recent. -/
lemma value_held_iff {r : Round ε T} {older : List (Round ε T)}
    (h : Sequence names (r :: older)) {k : String} {v : T} :
    ((afterRounds staleAfter (r :: older)).lookup k).map CachedEntry.value = some v ↔
      ∃ newer s before, r :: older = newer ++ s :: before ∧ s.Fetched k v ∧
        (∀ a ∈ newer, ∀ w, ¬ a.Fetched k w) ∧ (newer = [] ∨ r.now - s.now < staleAfter) := by
  rw [Option.map_eq_some_iff]
  constructor
  · rintro ⟨e, he, rfl⟩
    obtain ⟨⟨newer, s, before, hsplit, hs, ht, hn⟩, hfresh⟩ := (lookup_afterRounds_iff h).mp he
    refine ⟨newer, s, before, hsplit, hs, hn, ?_⟩
    cases newer with
    | nil => exact Or.inl rfl
    | cons a newer =>
      -- the newest round has no success, so the entry is there because it is fresh
      obtain ⟨rfl, -⟩ := List.cons.inj hsplit
      right
      rcases hfresh with hf | hf
      · exact absurd hf (hn _ List.mem_cons_self _)
      · rw [ht]
        exact of_decide_eq_true hf
  · rintro ⟨newer, s, before, hsplit, hs, hn, hfresh⟩
    refine ⟨⟨v, s.now⟩, (lookup_afterRounds_iff h).mpr
      ⟨⟨newer, s, before, hsplit, hs, rfl, hn⟩, ?_⟩, rfl⟩
    rcases hfresh with rfl | hf
    · obtain ⟨rfl, -⟩ := List.cons.inj hsplit
      exact Or.inl hs
    · exact Or.inr (decide_eq_true hf)

/-- The results counted as fetched or cached are the entries of the cache. -/
lemma kept_eq_len {r : Round ε T} {older : List (Round ε T)} (h : Sequence names (r :: older)) :
    (r.results.map Prod.fst).countP (· ∈ afterRounds staleAfter (r :: older))
      = (afterRounds staleAfter (r :: older)).len := by
  rw [HashMap.len_eq_keys, List.countP_eq_length_filter]
  refine List.Perm.length_eq ((List.perm_ext_iff_of_nodup
    ((h.nodup r List.mem_cons_self).filter _) (AList.keys_nodup _)).mpr fun k => ?_)
  rw [List.mem_filter, decide_eq_true_eq, AList.mem_keys, and_iff_right_iff_imp]
  intro hm
  rw [h.covers r List.mem_cons_self]
  by_contra hk
  obtain ⟨e, he⟩ := HashMap.mem_iff_lookup.mp (AList.mem_keys.mpr hm)
  rw [lookup_afterRounds_of_notMem hk h] at he
  cases he

end Held

/-! ## The view of a round -/

/-- **The cache equals its history.**  In a sequence of rounds over the same names, the view of
the newest round holds a name with a value iff that is the value of the latest success of the
name, which lies in this round or less than the window back; a snapshot gives that view; a name
that is absent stays absent until its next success; and the statistics count each result once,
those fetched or cached being the view. -/
theorem view_eq_history {names : Finset String} {staleAfter : ℕ} {r : Round ε T}
    {older : List (Round ε T)} (h : Sequence names (r :: older)) :
    let call := applyRound r.now r.results staleAfter (afterRounds staleAfter older)
    let stats := call.1.1
    let view := call.1.2
    (∀ k v, view.lookup k = some v ↔
      ∃ newer s before, r :: older = newer ++ s :: before ∧ s.Fetched k v ∧
        (∀ a ∈ newer, ∀ w, ¬ a.Fetched k w) ∧ (newer = [] ∨ r.now - s.now < staleAfter)) ∧
    snapshot call.2 = view ∧
    (∀ last later, Sequence names (last :: later ++ r :: older) →
      ∀ k, view.lookup k = none → (∀ a ∈ last :: later, ∀ w, ¬ a.Fetched k w) →
        (applyRound last.now last.results staleAfter
          (afterRounds staleAfter (later ++ r :: older))).1.2.lookup k = none) ∧
    stats.fetchedOk + stats.usedCache + stats.dropped = r.results.length ∧
    stats.fetchedOk + stats.usedCache = view.len := by
  intro call stats view
  have hview : ∀ k, view.lookup k
      = ((afterRounds staleAfter (r :: older)).lookup k).map CachedEntry.value :=
    fun k => HashMap.lookup_mapValues _ _ k
  refine ⟨?_, rfl, ?_, ?_, ?_⟩
  · intro k v
    rw [hview]
    exact value_held_iff h
  · intro last later hseq k habsent hno
    have hentry : (afterRounds staleAfter (r :: older)).lookup k = none :=
      Option.map_eq_none_iff.mp ((hview k).symm.trans habsent)
    have hstays : (afterRounds staleAfter (last :: later ++ r :: older)).lookup k = none :=
      absent_until_fetched hseq hentry hno
    exact (HashMap.lookup_mapValues _ _ k).trans (Option.map_eq_none_iff.mpr hstays)
  · exact (stats_total r.now staleAfter r.results ({}, afterRounds staleAfter older)).trans
      (by simp)
  · refine (stats_kept r.now staleAfter r.results ({}, afterRounds staleAfter older)
      (h.nodup r List.mem_cons_self)).trans ?_
    simp only [Nat.zero_add]
    exact (kept_eq_len h).trans (HashMap.len_mapValues _ _).symm

/-- Two rounds over two names: the second fetches one, the other is 400 seconds old by then. -/
def twoRounds : List (Round String ℕ) :=
  [⟨400, [("b", .error "timed out"), ("a", .ok 3)]⟩, ⟨0, [("a", .ok 1), ("b", .ok 2)]⟩]

lemma twoRounds_sequence : Sequence {"a", "b"} twoRounds where
  nodup := by decide
  covers := by
    simp only [twoRounds, List.mem_cons, List.not_mem_nil, or_false]
    rintro r (rfl | rfl) k
    · simp [or_comm]
    · simp
  times := by decide

theorem view_eq_history_twoRounds :
    (applyRound 400 [("b", .error "timed out"), ("a", .ok 3)] 300
        (afterRounds 300 twoRounds.tail)).1.2.lookup "a" = some 3 ∧
      (applyRound 400 [("b", .error "timed out"), ("a", .ok 3)] 300
        (afterRounds 300 twoRounds.tail)).1.2.len = 1 :=
  ⟨((view_eq_history twoRounds_sequence).1 "a" 3).mpr
      ⟨[], _, _, rfl, by simp [Round.Fetched], by simp, Or.inl rfl⟩,
    (view_eq_history twoRounds_sequence).2.2.2.2.symm.trans (by decide)⟩

end Dumbarp.Api
