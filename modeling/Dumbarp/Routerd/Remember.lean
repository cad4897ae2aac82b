/-
Live and remembered ids (`resolve_ids` in `dumbarp-routerd/src/reconcile.rs`).

A daemon that advertises nothing competes with the id it is remembered under, and on equal terms:
the one pass over the list lets the first candidate win, live or remembered.  So a live id loses
iff a daemon before it advertises nothing and is freshly remembered under that very id.

Over a run of calls on one remembered map, the map is a function of the history: a name has the
id that was accepted last from its own advertisement, with the time of that call, for as long as
that is fresh.

Runs are listed newest call first.
-/
import Dumbarp.Routerd.Ids

namespace Dumbarp.Routerd

/-! ## A live id against a remembered one -/

/-- The daemon advertises nothing and is freshly remembered under `id`. -/
def Reuses (remembered : HashMap String RememberedId) (stale now : ℕ)
    (entry : String × Option UInt8) (id : UInt8) : Prop :=
  entry.2 = none ∧ ∃ prev, remembered.lookup entry.1 = some prev ∧ now - prev.seen < stale ∧
    prev.id = id

section Live

variable {remembered : HashMap String RememberedId} {stale now : ℕ}
  {entries : List (String × Option UInt8)} {entry : String × Option UInt8} {name : String}
  {id adv : UInt8}

lemma candidate_live : candidate remembered stale now (name, some id) = some id := rfl

/-- A candidate is advertised or reused. -/
lemma candidate_eq_some_iff :
    candidate remembered stale now entry = some id ↔
      entry.2 = some id ∨ Reuses remembered stale now entry id := by
  obtain ⟨name, adv⟩ := entry
  cases adv with
  | some adv => simp [candidate, Reuses]
  | none =>
    cases hprev : remembered.lookup name with
    | none => simp [candidate, Reuses, hprev]
    | some prev =>
      by_cases hfresh : now - prev.seen < stale
      · simp [candidate, Reuses, hprev, hfresh]
      · simp [candidate, Reuses, hprev, hfresh]

/-- **A live id wins** iff no daemon before it reuses the same id, if it is the only one that
advertises that id. -/
theorem live_id_wins_iff (hd : (entries.map Prod.fst).Nodup) (hmem : (name, some id) ∈ entries)
    (hu : Usable id) (hsole : ∀ e ∈ entries, e.2 = some id → e.1 = name) :
    (resolveIds entries remembered stale now).1.lookup name = some id ↔
      ∀ before after, entries = before ++ (name, some id) :: after →
        ∀ e ∈ before, ¬ Reuses remembered stale now e id := by
  have hlookup : ∀ before after, entries = before ++ (name, some id) :: after →
      ((resolveIds entries remembered stale now).1.lookup name = some id ↔
        ∀ e ∈ before, ¬ Reuses remembered stale now e id) := by
    rintro before after rfl
    refine (lookup_of_split hd).trans ?_
    simp only [candidate_live, true_and, hu]
    refine forall₂_congr fun e he => ?_
    rw [Ne, candidate_eq_some_iff, not_or, and_iff_right]
    -- another daemon with this id would bear the same name
    intro hadv
    have hname : e.1 = name := hsole e (by simp [he]) hadv
    rw [List.map_append, List.nodup_append] at hd
    exact hd.2.2 e.1 (List.mem_map_of_mem he) name (by simp) hname
  constructor
  · intro h before after hsplit
    exact (hlookup before after hsplit).mp h
  · intro h
    obtain ⟨before, after, hsplit⟩ := List.append_of_mem hmem
    exact (hlookup before after hsplit).mpr (h before after hsplit)

end Live

/-- A daemon that is remembered under the id that the one after it advertises. -/
def rememberedFirst : List (String × Option UInt8) := [("a", none), ("b", some 4)]

/-- **A remembered id beats a live one** that is listed after it. -/
theorem remembered_id_beats_live :
    ¬ ∀ (entries : List (String × Option UInt8)) (remembered : HashMap String RememberedId)
      (stale now : ℕ) (name : String) (id : UInt8), (entries.map Prod.fst).Nodup →
        (name, some id) ∈ entries → Usable id → (∀ e ∈ entries, e.2 = some id → e.1 = name) →
          (resolveIds entries remembered stale now).1.lookup name = some id := by
  intro hall
  have h := hall rememberedFirst (AList.insert "a" ⟨4, 0⟩ ∅) 300 10 "b" 4 (by decide) (by decide)
    ⟨by decide, by decide⟩ (by decide)
  revert h
  decide

theorem live_id_wins_listed_first :
    (resolveIds rememberedFirst.reverse (AList.insert "a" ⟨4, 0⟩ ∅) 300 10).1.lookup "b"
      = some 4 := by
  refine (live_id_wins_iff (by decide) (by decide) ⟨by decide, by decide⟩ (by decide)).mpr ?_
  intro before after hsplit
  cases before with
  | nil => simp
  | cons e before =>
    have hlen := congrArg List.length hsplit
    cases before with
    | nil => simp [rememberedFirst] at hsplit
    | cons e' before => simp [rememberedFirst] at hlen

/-! ## Runs of calls -/

/-- One call of `resolve_ids`: its time, and what the daemons advertise in it. -/
structure Call where
  now : ℕ
  advertised : List (String × Option UInt8)

/-- The remembered map after a run of calls on an empty one. -/
def memory (stale : ℕ) : List Call → HashMap String RememberedId
  | [] => ∅
  | c :: older => (resolveIds c.advertised (memory stale older) stale c.now).2

/-- The ids of a call that follows a run. -/
def given (stale : ℕ) (c : Call) (older : List Call) : HashMap String UInt8 :=
  (resolveIds c.advertised (memory stale older) stale c.now).1

/-- The call gives the daemon the id that it advertises in it. -/
def Accepted (stale : ℕ) (c : Call) (older : List Call) (name : String) (id : UInt8) : Prop :=
  (name, some id) ∈ c.advertised ∧ (given stale c older).lookup name = some id

/-- The most recent call of the run that accepts an id of the daemon accepts `e.id`, at time
`e.seen`. -/
def LastAccepted (stale : ℕ) (run : List Call) (name : String) (e : RememberedId) : Prop :=
  ∃ newer c older, run = newer ++ c :: older ∧ Accepted stale c older name e.id ∧
    c.now = e.seen ∧
      ∀ later d between, newer = later ++ d :: between →
        ∀ id, ¬ Accepted stale d (between ++ c :: older) name id

/-- The runs of the daemon of a router: distinct names in each call, and time does not go
back. -/
structure Chronicle (run : List Call) : Prop where
  nodup : ∀ c ∈ run, (c.advertised.map Prod.fst).Nodup
  times : run.Pairwise fun newer older => older.now ≤ newer.now

lemma Chronicle.tail {c : Call} {older : List Call} (h : Chronicle (c :: older)) :
    Chronicle older where
  nodup d hd := h.nodup d (List.mem_cons_of_mem _ hd)
  times := (List.pairwise_cons.mp h.times).2

lemma Chronicle.drop {older : List Call} :
    ∀ {newer : List Call}, Chronicle (newer ++ older) → Chronicle older
  | [], h => h
  | _ :: _, h => Chronicle.drop h.tail

/-- The newest call of a run, by what came before it: what each daemon gets, and what stays
remembered. -/
structure FollowsHistory (stale : ℕ) (c : Call) (older : List Call) : Prop where
  /-- A daemon that advertises nothing gets the id of its last acceptance, while that is fresh
  and no daemon before it has got the same. -/
  reused : ∀ before name after, c.advertised = before ++ (name, none) :: after → ∀ id,
    (given stale c older).lookup name = some id ↔
      (∃ t, LastAccepted stale older name ⟨id, t⟩ ∧ c.now - t < stale) ∧
        ∀ e ∈ before, (given stale c older).lookup e.1 ≠ some id
  /-- A daemon that advertises an id gets that or none: it gets it if the id is in range and no
  daemon before it has got the same. -/
  advertised : ∀ before name adv after, c.advertised = before ++ (name, some adv) :: after →
    ∀ id, (given stale c older).lookup name = some id ↔
      id = adv ∧ Usable adv ∧ ∀ e ∈ before, (given stale c older).lookup e.1 ≠ some adv
  /-- A daemon that is not listed gets none. -/
  absent : ∀ name, name ∉ c.advertised.map Prod.fst → (given stale c older).lookup name = none
  /-- Only an acceptance changes what is remembered of a daemon, up to what expires. -/
  kept : ∀ name, (∀ id, ¬ Accepted stale c older name id) → ∀ e,
    (memory stale (c :: older)).lookup name = some e ↔
      (memory stale older).lookup name = some e ∧ c.now - e.seen < stale
  /-- What is remembered of a daemon is its last acceptance, while that is fresh. -/
  remembered : ∀ name e, (memory stale (c :: older)).lookup name = some e ↔
    LastAccepted stale (c :: older) name e ∧ c.now - e.seen < stale

section History

variable {stale : ℕ} {c : Call} {older : List Call} {name : String} {id : UInt8}
  {e : RememberedId}

lemma not_lastAccepted_nil : ¬ LastAccepted stale [] name e := by
  rintro ⟨newer, c, older, h, -⟩
  simp at h

/-- An acceptance is the last one from then on. -/
lemma lastAccepted_cons_of_accepted (h : Accepted stale c older name id) :
    LastAccepted stale (c :: older) name e ↔ Accepted stale c older name e.id ∧ c.now = e.seen := by
  constructor
  · rintro ⟨newer, d, rest, hsplit, hacc, ht, hlast⟩
    cases newer with
    | nil =>
      obtain ⟨rfl, rfl⟩ := List.cons.inj hsplit
      exact ⟨hacc, ht⟩
    | cons a newer =>
      obtain ⟨rfl, rfl⟩ := List.cons.inj hsplit
      exact absurd h (hlast [] _ newer rfl id)
  · rintro ⟨hacc, ht⟩
    exact ⟨[], c, older, rfl, hacc, ht, by simp⟩

/-- A call that accepts nothing of the daemon leaves its last acceptance. -/
lemma lastAccepted_cons_of_not_accepted (h : ∀ id, ¬ Accepted stale c older name id) :
    LastAccepted stale (c :: older) name e ↔ LastAccepted stale older name e := by
  constructor
  · rintro ⟨newer, d, rest, hsplit, hacc, ht, hlast⟩
    cases newer with
    | nil =>
      obtain ⟨rfl, rfl⟩ := List.cons.inj hsplit
      exact absurd hacc (h _)
    | cons a newer =>
      obtain ⟨rfl, rfl⟩ := List.cons.inj hsplit
      refine ⟨newer, d, rest, rfl, hacc, ht, ?_⟩
      rintro later x between rfl
      exact hlast (_ :: later) x between rfl
  · rintro ⟨newer, d, rest, rfl, hacc, ht, hlast⟩
    refine ⟨c :: newer, d, rest, rfl, hacc, ht, ?_⟩
    intro later x between hsplit
    cases later with
    | nil =>
      obtain ⟨rfl, rfl⟩ := List.cons.inj hsplit
      exact h
    | cons a later =>
      obtain ⟨rfl, rfl⟩ := List.cons.inj hsplit
      exact hlast later x between rfl

/-- A call accepts one id of a daemon. -/
lemma Accepted.unique {id' : UInt8} (h : Accepted stale c older name id)
    (h' : Accepted stale c older name id') : id' = id :=
  Option.some.inj (h'.2.symm.trans h.2)

/-- The calls that accept are those that stamp. -/
lemma accepted_iff (hd : (c.advertised.map Prod.fst).Nodup) :
    Accepted stale c older name id ↔
      Accepts (candidate (memory stale older) stale c.now) c.advertised name id := by
  constructor
  · rintro ⟨hmem, hgiven⟩
    obtain ⟨adv, hg⟩ := (resolveIds_lookup hd).mp hgiven
    obtain ⟨-, rfl⟩ := Prod.mk.inj (List.inj_on_of_nodup_map hd hg.mem hmem rfl)
    exact hg
  · intro hg
    exact ⟨hg.mem, (resolveIds_lookup hd).mpr ⟨some id, hg⟩⟩

/-- A call that accepts nothing of the daemon keeps its entry, up to expiry. -/
lemma memory_cons_of_not_accepted (hd : (c.advertised.map Prod.fst).Nodup)
    (h : ∀ id, ¬ Accepted stale c older name id) :
    (memory stale (c :: older)).lookup name = some e ↔
      (memory stale older).lookup name = some e ∧ c.now - e.seen < stale := by
  have hno : ∀ id, ¬ Accepts (candidate (memory stale older) stale c.now) c.advertised name id :=
    fun id hacc => h id ((accepted_iff hd).mpr hacc)
  rw [memory, remembered_of_not_accepts hd hno, Option.filter_eq_some_iff, decide_eq_true_eq]

/-- An acceptance is remembered, with its time. -/
lemma memory_cons_of_accepted (hd : (c.advertised.map Prod.fst).Nodup)
    (h : Accepted stale c older name id) :
    (memory stale (c :: older)).lookup name = some e ↔
      e = ⟨id, c.now⟩ ∧ c.now - e.seen < stale := by
  rw [memory, remembered_of_accepts hd ((accepted_iff hd).mp h), Option.filter_eq_some_iff,
    decide_eq_true_eq, Option.some.injEq, eq_comm (a := e)]

/-- **The map is the history**: it holds the last acceptance of each daemon while that is
fresh. -/
lemma lookup_memory : ∀ {c : Call} {older : List Call}, Chronicle (c :: older) →
    ((memory stale (c :: older)).lookup name = some e ↔
      LastAccepted stale (c :: older) name e ∧ c.now - e.seen < stale)
  | c, older, h => by
    have hd := h.nodup c List.mem_cons_self
    by_cases hacc : ∃ id, Accepted stale c older name id
    · obtain ⟨id, hacc⟩ := hacc
      rw [memory_cons_of_accepted hd hacc, lastAccepted_cons_of_accepted hacc]
      refine and_congr_left fun _ => ?_
      constructor
      · rintro rfl
        exact ⟨hacc, rfl⟩
      · rintro ⟨hacc', ht⟩
        obtain ⟨id', seen⟩ := e
        obtain rfl : id' = id := hacc.unique hacc'
        obtain rfl : c.now = seen := ht
        rfl
    · rw [not_exists] at hacc
      rw [memory_cons_of_not_accepted hd hacc, lastAccepted_cons_of_not_accepted hacc]
      cases older with
      | nil =>
        have hnil : (memory stale []).lookup name = none := rfl
        simp [hnil, not_lastAccepted_nil]
      | cons d older =>
        -- what was dropped as stale by an earlier call is stale now, since time does not go back
        have hle : d.now ≤ c.now := (List.pairwise_cons.mp h.times).1 d List.mem_cons_self
        rw [lookup_memory h.tail, and_assoc]
        refine and_congr_right fun _ => and_iff_right_of_imp fun hfresh => ?_
        omega

/-- What a daemon finds of itself in the map is its last acceptance. -/
lemma reuses_iff (h : Chronicle (c :: older)) :
    Reuses (memory stale older) stale c.now (name, none) id ↔
      ∃ t, LastAccepted stale older name ⟨id, t⟩ ∧ c.now - t < stale := by
  cases older with
  | nil =>
    have hnil : (memory stale []).lookup name = none := rfl
    simp [Reuses, hnil, not_lastAccepted_nil]
  | cons d older =>
    have hle : d.now ≤ c.now := (List.pairwise_cons.mp h.times).1 d List.mem_cons_self
    constructor
    · rintro ⟨-, prev, hprev, hfresh, rfl⟩
      exact ⟨prev.seen, ((lookup_memory h.tail).mp hprev).1, hfresh⟩
    · rintro ⟨t, hlast, hfresh⟩
      refine ⟨rfl, ⟨id, t⟩, (lookup_memory h.tail).mpr ⟨hlast, ?_⟩, hfresh, rfl⟩
      show d.now - t < stale
      omega

/-- An id that was accepted once is in range. -/
lemma LastAccepted.usable (h : Chronicle older) (hlast : LastAccepted stale older name e) :
    Usable e.id := by
  obtain ⟨newer, c, rest, rfl, hacc, -, -⟩ := hlast
  exact resolveIds_usable (h.nodup c (by simp)) hacc.2

/-- The earlier daemons have no candidate `id` iff none of them has got it. -/
lemma candidates_before_iff {before after : List (String × Option UInt8)}
    (hd : ((before ++ after).map Prod.fst).Nodup) {remembered : HashMap String RememberedId}
    {now : ℕ} (hu : Usable id) :
    (∀ e ∈ before, candidate remembered stale now e ≠ some id) ↔
      ∀ e ∈ before,
        (resolveIds (before ++ after) remembered stale now).1.lookup e.1 ≠ some id := by
  constructor
  · intro h e he hgot
    obtain ⟨adv, hg⟩ := (resolveIds_lookup hd).mp hgot
    have hmem : e ∈ before ++ after := List.mem_append_left _ he
    have hentry : (e.1, adv) = e := List.inj_on_of_nodup_map hd hg.mem hmem rfl
    rw [hentry] at hg
    exact h e he hg.candidate_eq
  · intro h e he hc
    obtain ⟨first, hfirst, hg⟩ : ∃ first ∈ before,
        Gets (candidate remembered stale now) (before ++ after) first id := exists_gets he hc hu
    exact h first hfirst ((resolveIds_lookup hd).mpr ⟨first.2, hg⟩)

/-- **Every call follows the history** of the calls before it. -/
theorem resolveIds_follows_history {run : List Call} (h : Chronicle run) :
    ∀ later c older, run = later ++ c :: older → FollowsHistory stale c older := by
  rintro later c older rfl
  have hrun : Chronicle (c :: older) := h.drop
  have hd : (c.advertised.map Prod.fst).Nodup := hrun.nodup c List.mem_cons_self
  constructor
  · intro before name after hsplit id
    rw [given, hsplit]
    rw [hsplit] at hd
    refine (lookup_of_split hd).trans ?_
    rw [candidate_eq_some_iff, or_iff_right (by simp), reuses_iff hrun]
    refine and_congr_right fun ⟨t, hlast, _⟩ => ?_
    have hu : Usable id := hlast.usable hrun.tail
    rw [and_iff_right hu, candidates_before_iff hd hu]
  · intro before name adv after hsplit id
    rw [given, hsplit]
    rw [hsplit] at hd
    refine (lookup_of_split hd).trans ?_
    rw [candidate_live, Option.some.injEq, eq_comm]
    constructor
    · rintro ⟨rfl, hu, hbefore⟩
      exact ⟨rfl, hu, (candidates_before_iff hd hu).mp hbefore⟩
    · rintro ⟨rfl, hu, hbefore⟩
      exact ⟨rfl, hu, (candidates_before_iff hd hu).mpr hbefore⟩
  · intro name hname
    refine Option.eq_none_iff_forall_ne_some.mpr fun id hgiven => hname ?_
    obtain ⟨adv, hg⟩ := (resolveIds_lookup hd).mp hgiven
    exact List.mem_map_of_mem hg.mem
  · intro name hno e
    exact memory_cons_of_not_accepted hd hno
  · intro name e
    exact lookup_memory hrun

end History

/-- A daemon that advertises 4 at time 0 and nothing at time 100, where another one takes the id
at time 200. -/
def shortRun : List Call :=
  [⟨200, [("b", some 4), ("a", none)]⟩, ⟨100, [("a", none)]⟩, ⟨0, [("a", some 4)]⟩]

theorem shortRun_follows_history :
    FollowsHistory 300 ⟨200, [("b", some 4), ("a", none)]⟩ shortRun.tail := by
  have h : Chronicle shortRun := ⟨by decide, by decide⟩
  exact resolveIds_follows_history h [] _ _ rfl

end Dumbarp.Routerd
