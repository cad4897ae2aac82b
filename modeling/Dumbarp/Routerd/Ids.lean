/-
The ids of a pass (`resolve_ids` in `dumbarp-routerd/src/reconcile.rs`).

The daemons of a pass are worked through in list order.  Each has a candidate, the id it
advertises or else the id it is remembered under, and gets it when the candidate is in range and
not claimed by a daemon before it.  With distinct names the outcome has a closed form: a daemon
gets an id iff that is its candidate, it is in range, and no earlier daemon has the same
candidate.  The remembered map enters through the candidates alone, since a daemon only ever
changes its own entry.
-/
import Dumbarp.Lib.HashMap
import Dumbarp.Common
import Mathlib.Data.List.Induction
import Mathlib.Tactic.Common

namespace Dumbarp.Routerd

/-! ## The code -/

/-- `RememberedId`. -/
structure RememberedId where
  id : UInt8
  seen : ℕ
deriving DecidableEq, Repr

/-- The maps that `resolve_ids` works on. -/
structure IdState where
  out : HashMap String UInt8
  claimed : HashMap UInt8 String
  remembered : HashMap String RememberedId

/-- The candidate of a daemon: what it advertises, or what it is freshly remembered under. -/
def candidate (remembered : HashMap String RememberedId) (stale now : ℕ)
    (entry : String × Option UInt8) : Option UInt8 :=
  match entry.2 with
  | some id => some id
  | none =>
    match remembered.lookup entry.1 with
    | some prev => if now - prev.seen < stale then some prev.id else none
    | none => none

/-- `validate_id`. -/
def validateId (name : String) (id : Option UInt8) (claimed : HashMap UInt8 String) :
    Option UInt8 × HashMap UInt8 String :=
  match id with
  | none => (none, claimed)
  | some id =>
    if id = 0 ∨ id > dscpIdMax then (none, claimed)
    else if id ∈ claimed then (none, claimed)
    else (some id, claimed.insert id name)

/-- The body of the loop of `resolve_ids`. -/
def resolveEntry (stale now : ℕ) (s : IdState) (entry : String × Option UInt8) : IdState :=
  match validateId entry.1 (candidate s.remembered stale now entry) s.claimed with
  | (none, claimed) => { s with claimed := claimed }
  | (some id, claimed) =>
    { out := s.out.insert entry.1 id
      claimed := claimed
      -- only an id the daemon advertised itself is stamped
      remembered :=
        if entry.2 = some id then s.remembered.insert entry.1 ⟨id, now⟩ else s.remembered }

/-- The loop of `resolve_ids`. -/
def resolveEntries (advertised : List (String × Option UInt8))
    (remembered : HashMap String RememberedId) (stale now : ℕ) : IdState :=
  advertised.foldl (resolveEntry stale now) ⟨∅, ∅, remembered⟩

/-- `resolve_ids`: the ids, and the remembered map it leaves. -/
def resolveIds (advertised : List (String × Option UInt8))
    (remembered : HashMap String RememberedId) (stale now : ℕ) :
    HashMap String UInt8 × HashMap String RememberedId :=
  let s := resolveEntries advertised remembered stale now
  (s.out, s.remembered.retain fun _ prev => now - prev.seen < stale)

/-! ## Who gets which id -/

/-- The id is in range. -/
def Usable (id : UInt8) : Prop := id ≠ 0 ∧ id ≤ dscpIdMax

/-- The daemon's candidate is `id`, which is in range, and no daemon before it has the same. -/
def Gets (cand : String × Option UInt8 → Option UInt8) (entries : List (String × Option UInt8))
    (entry : String × Option UInt8) (id : UInt8) : Prop :=
  ∃ before after, entries = before ++ entry :: after ∧ cand entry = some id ∧ Usable id ∧
    ∀ e ∈ before, cand e ≠ some id

section Gets

variable {cand : String × Option UInt8 → Option UInt8} {entries : List (String × Option UInt8)}
  {entry e : String × Option UInt8} {id : UInt8}

lemma Gets.mem (h : Gets cand entries entry id) : entry ∈ entries := by
  obtain ⟨before, after, rfl, -⟩ := h
  simp

lemma Gets.candidate_eq (h : Gets cand entries entry id) : cand entry = some id := by
  obtain ⟨before, after, -, hc, -⟩ := h
  exact hc

lemma Gets.usable (h : Gets cand entries entry id) : Usable id := by
  obtain ⟨before, after, -, -, hu, -⟩ := h
  exact hu

lemma not_gets_nil : ¬ Gets cand [] entry id := fun h => by
  simpa using h.mem

/-- A further daemon changes nothing for those before it. -/
lemma gets_append_singleton : Gets cand (entries ++ [e]) entry id ↔
    Gets cand entries entry id ∨
      (entry = e ∧ cand e = some id ∧ Usable id ∧ ∀ x ∈ entries, cand x ≠ some id) := by
  constructor
  · rintro ⟨before, after, hsplit, hc, hu, hb⟩
    rcases List.eq_nil_or_concat after with rfl | ⟨after, x, rfl⟩
    · obtain ⟨rfl, he⟩ := List.append_inj' hsplit rfl
      cases he
      exact Or.inr ⟨rfl, hc, hu, hb⟩
    · rw [List.concat_eq_append, ← List.cons_append, ← List.append_assoc] at hsplit
      obtain ⟨rfl, -⟩ := List.append_inj' hsplit rfl
      exact Or.inl ⟨before, after, rfl, hc, hu, hb⟩
  · rintro (⟨before, after, rfl, hc, hu, hb⟩ | ⟨rfl, hc, hu, hb⟩)
    · exact ⟨before, after ++ [e], by simp, hc, hu, hb⟩
    · exact ⟨entries, [], rfl, hc, hu, hb⟩

/-- Two daemons never get the same id. -/
lemma Gets.unique {entry' : String × Option UInt8} (h : Gets cand entries entry id)
    (h' : Gets cand entries entry' id) : entry = entry' := by
  obtain ⟨before, after, rfl, hc, -, hb⟩ := h
  obtain ⟨before', after', hsplit, hc', -, hb'⟩ := h'
  rcases List.append_eq_append_iff.mp hsplit with ⟨mid, rfl, hmid⟩ | ⟨mid, rfl, hmid⟩
  · cases mid with
    | nil => exact (List.cons.inj hmid).1
    | cons x mid =>
      obtain ⟨rfl, -⟩ := List.cons.inj hmid
      exact absurd hc (hb' entry (by simp))
  · cases mid with
    | nil => exact (List.cons.inj hmid).1.symm
    | cons x mid =>
      obtain ⟨rfl, -⟩ := List.cons.inj hmid
      exact absurd hc' (hb entry' (by simp))

/-- The first daemon with a candidate in range gets it. -/
lemma exists_gets {before rest : List (String × Option UInt8)} (he : e ∈ before)
    (hc : cand e = some id) (hu : Usable id) :
    ∃ first ∈ before, Gets cand (before ++ rest) first id := by
  have hsome : (before.find? fun x => cand x = some id).isSome := by
    rw [List.find?_isSome]
    exact ⟨e, he, by simpa using hc⟩
  obtain ⟨first, hfirst⟩ := Option.isSome_iff_exists.mp hsome
  obtain ⟨hcand, front, back, rfl, hfront⟩ := List.find?_eq_some_iff_append.mp hfirst
  refine ⟨first, by simp, front, back ++ rest, by simp, by simpa using hcand, hu, ?_⟩
  intro x hx
  simpa using hfront x hx

end Gets

/-! ## The loop -/

lemma validateId_usable {name : String} {id : UInt8} {claimed : HashMap UInt8 String}
    (hu : Usable id) (hc : id ∉ claimed) :
    validateId name (some id) claimed = (some id, claimed.insert id name) := by
  have hr : ¬ (id = 0 ∨ id > dscpIdMax) := by
    rintro (h | h)
    · exact hu.1 h
    · exact absurd hu.2 (UInt8.not_le.mpr h)
  simp [validateId, hr, hc]

lemma validateId_rejected {name : String} {id : Option UInt8} {claimed : HashMap UInt8 String}
    (h : ∀ i, id = some i → Usable i → i ∈ claimed) :
    validateId name id claimed = (none, claimed) := by
  cases id with
  | none => rfl
  | some i =>
    by_cases hr : i = 0 ∨ i > dscpIdMax
    · simp [validateId, hr]
    · have hu : Usable i := by
        rw [not_or] at hr
        exact ⟨hr.1, UInt8.not_lt.mp hr.2⟩
      simp [validateId, hr, h i rfl hu]

/-- The daemon advertises the id it gets. -/
def Accepts (cand : String × Option UInt8 → Option UInt8)
    (entries : List (String × Option UInt8)) (name : String) (id : UInt8) : Prop :=
  Gets cand entries (name, some id) id

/-- What the loop has computed after a list of daemons. -/
structure Resolved (remembered : HashMap String RememberedId) (stale now : ℕ)
    (entries : List (String × Option UInt8)) (s : IdState) : Prop where
  out : ∀ name id, s.out.lookup name = some id ↔
    ∃ adv, Gets (candidate remembered stale now) entries (name, adv) id
  claimed : ∀ id, id ∈ s.claimed ↔
    Usable id ∧ ∃ e ∈ entries, candidate remembered stale now e = some id
  accepted : ∀ name id, Accepts (candidate remembered stale now) entries name id →
    s.remembered.lookup name = some ⟨id, now⟩
  kept : ∀ name, (∀ id, ¬ Accepts (candidate remembered stale now) entries name id) →
    s.remembered.lookup name = remembered.lookup name

section Loop

variable {remembered : HashMap String RememberedId} {stale now : ℕ}

/-- The remembered map a daemon finds has its own entry as it was at the start. -/
lemma candidate_congr {m m' : HashMap String RememberedId} {entry : String × Option UInt8}
    (h : m.lookup entry.1 = m'.lookup entry.1) :
    candidate m stale now entry = candidate m' stale now entry := by
  simp [candidate, h]

lemma resolved_nil : Resolved remembered stale now [] ⟨∅, ∅, remembered⟩ where
  out name id := by simp [not_gets_nil]
  claimed id := by simp
  accepted name id h := absurd h not_gets_nil
  kept name _ := rfl

/-- A daemon with a name of its own finds its own entry untouched. -/
lemma Resolved.candidate_eq {entries : List (String × Option UInt8)} {e : String × Option UInt8}
    {s : IdState} (hs : Resolved remembered stale now entries s)
    (hnew : ∀ adv id, ¬ Gets (candidate remembered stale now) entries (e.1, adv) id) :
    candidate s.remembered stale now e = candidate remembered stale now e :=
  candidate_congr (hs.kept e.1 fun id => hnew (some id) id)

/-- The id of a daemon that advertises it is remembered, under its name and no other. -/
lemma lookup_remember {m : HashMap String RememberedId} {e : String × Option UInt8} {id : UInt8}
    {name : String} :
    (if e.2 = some id then m.insert e.1 ⟨id, now⟩ else m).lookup name =
      if name = e.1 ∧ e.2 = some id then some ⟨id, now⟩ else m.lookup name := by
  by_cases hadv : e.2 = some id
  · by_cases hname : name = e.1
    · subst hname
      rw [if_pos hadv, if_pos ⟨rfl, hadv⟩, AList.lookup_insert]
    · rw [if_pos hadv, if_neg fun h => hname h.1, AList.lookup_insert_ne hname]
  · rw [if_neg hadv, if_neg fun h => hadv h.2]

/-- What the loop does for a daemon whose candidate is in range and not taken. -/
lemma Resolved.resolveEntry_free {entries : List (String × Option UInt8)}
    {e : String × Option UInt8} {s : IdState} {id : UInt8}
    (hs : Resolved remembered stale now entries s)
    (hnew : ∀ adv id, ¬ Gets (candidate remembered stale now) entries (e.1, adv) id)
    (hc : candidate remembered stale now e = some id) (hu : Usable id)
    (hfirst : ∀ x ∈ entries, candidate remembered stale now x ≠ some id) :
    resolveEntry stale now s e =
      { out := s.out.insert e.1 id
        claimed := s.claimed.insert id e.1
        remembered :=
          if e.2 = some id then s.remembered.insert e.1 ⟨id, now⟩ else s.remembered } := by
  have hunclaimed : id ∉ s.claimed := fun h => by
    obtain ⟨-, x, hx, hxc⟩ := (hs.claimed id).mp h
    exact hfirst x hx hxc
  rw [resolveEntry, hs.candidate_eq hnew, hc, validateId_usable hu hunclaimed]

/-- A further daemon whose candidate is in range and not taken gets it. -/
lemma Resolved.gets {entries : List (String × Option UInt8)} {e : String × Option UInt8}
    {s : IdState} {id : UInt8} (hs : Resolved remembered stale now entries s)
    (hnew : ∀ adv id, ¬ Gets (candidate remembered stale now) entries (e.1, adv) id)
    (hc : candidate remembered stale now e = some id) (hu : Usable id)
    (hfirst : ∀ x ∈ entries, candidate remembered stale now x ≠ some id) :
    Resolved remembered stale now (entries ++ [e]) (resolveEntry stale now s e) := by
  rw [hs.resolveEntry_free hnew hc hu hfirst]
  refine { out := ?out, claimed := ?claimed, accepted := ?accepted, kept := ?kept }
  case out =>
    intro name id'
    simp only [gets_append_singleton, exists_or]
    by_cases hname : name = e.1
    · subst hname
      simp only [AList.lookup_insert, Option.some.injEq, hnew, exists_false, false_or]
      constructor
      · rintro rfl
        exact ⟨e.2, rfl, hc, hu, hfirst⟩
      · rintro ⟨adv, -, hc', -⟩
        exact Option.some.inj (hc.symm.trans hc')
    · rw [AList.lookup_insert_ne hname, hs.out]
      refine (or_iff_left ?_).symm
      rintro ⟨adv, rfl, -⟩
      exact hname rfl
  case claimed =>
    intro id'
    rw [AList.mem_insert, hs.claimed]
    simp only [List.mem_append, List.mem_singleton]
    constructor
    · rintro (rfl | ⟨hu', x, hx, hxc⟩)
      · exact ⟨hu, e, Or.inr rfl, hc⟩
      · exact ⟨hu', x, Or.inl hx, hxc⟩
    · rintro ⟨hu', x, hx | rfl, hxc⟩
      · exact Or.inr ⟨hu', x, hx, hxc⟩
      · exact Or.inl (Option.some.inj (hxc.symm.trans hc))
  case accepted =>
    intro name id' h
    rw [lookup_remember]
    rcases gets_append_singleton.mp h with h | ⟨rfl, hc', -⟩
    · have hname : name ≠ e.1 := by
        rintro rfl
        exact hnew _ _ h
      rw [if_neg fun hboth => hname hboth.1]
      exact hs.accepted name id' h
    · obtain rfl := Option.some.inj (hc.symm.trans hc')
      exact if_pos ⟨rfl, rfl⟩
  case kept =>
    intro name hno
    rw [lookup_remember, if_neg]
    · exact hs.kept name fun i h => hno i (gets_append_singleton.mpr (Or.inl h))
    · rintro ⟨rfl, hadv⟩
      refine hno id (gets_append_singleton.mpr (Or.inr ⟨?_, hc, hu, hfirst⟩))
      rw [← hadv]

/-- A further daemon without a candidate in range that is not taken changes nothing. -/
lemma Resolved.rejects {entries : List (String × Option UInt8)} {e : String × Option UInt8}
    {s : IdState} (hs : Resolved remembered stale now entries s)
    (hnew : ∀ adv id, ¬ Gets (candidate remembered stale now) entries (e.1, adv) id)
    (hno : ∀ id, candidate remembered stale now e = some id → Usable id →
      ∃ x ∈ entries, candidate remembered stale now x = some id) :
    Resolved remembered stale now (entries ++ [e]) (resolveEntry stale now s e) := by
  have hrej : ∀ i, candidate remembered stale now e = some i → Usable i → i ∈ s.claimed :=
    fun i hc hu => (hs.claimed i).mpr ⟨hu, hno i hc hu⟩
  have hstep : resolveEntry stale now s e = s := by
    rw [resolveEntry, hs.candidate_eq hnew, validateId_rejected hrej]
  have hsame : ∀ entry id, Gets (candidate remembered stale now) (entries ++ [e]) entry id ↔
      Gets (candidate remembered stale now) entries entry id := by
    intro entry id
    rw [gets_append_singleton]
    refine or_iff_left ?_
    rintro ⟨-, hc, hu, hfirst⟩
    obtain ⟨x, hx, hxc⟩ := hno id hc hu
    exact hfirst x hx hxc
  rw [hstep]
  refine { out := ?out, claimed := ?claimed, accepted := ?accepted, kept := ?kept }
  case out =>
    intro name id
    simp only [hsame]
    exact hs.out name id
  case claimed =>
    intro id
    rw [hs.claimed]
    simp only [List.mem_append, List.mem_singleton]
    constructor
    · rintro ⟨hu, x, hx, hxc⟩
      exact ⟨hu, x, Or.inl hx, hxc⟩
    · rintro ⟨hu, x, hx | rfl, hxc⟩
      · exact ⟨hu, x, hx, hxc⟩
      · exact ⟨hu, hno id hxc hu⟩
  case accepted =>
    intro name id h
    exact hs.accepted name id ((hsame _ _).mp h)
  case kept =>
    intro name h
    exact hs.kept name fun id hacc => h id ((hsame _ _).mpr hacc)

/-- One more daemon, with a name of its own. -/
lemma Resolved.step {entries : List (String × Option UInt8)} {e : String × Option UInt8}
    {s : IdState} (hs : Resolved remembered stale now entries s)
    (hnew : e.1 ∉ entries.map Prod.fst) :
    Resolved remembered stale now (entries ++ [e]) (resolveEntry stale now s e) := by
  have habsent : ∀ adv id, ¬ Gets (candidate remembered stale now) entries (e.1, adv) id :=
    fun adv id h => hnew (List.mem_map.mpr ⟨_, h.mem, rfl⟩)
  by_cases hget : ∃ id, candidate remembered stale now e = some id ∧ Usable id ∧
      ∀ x ∈ entries, candidate remembered stale now x ≠ some id
  · obtain ⟨id, hc, hu, hfirst⟩ := hget
    exact hs.gets habsent hc hu hfirst
  · -- out of range, claimed by a daemon before it, or no candidate at all
    refine hs.rejects habsent fun id hc hu => ?_
    by_contra hx
    push Not at hx
    exact hget ⟨id, hc, hu, hx⟩

/-- **The loop resolves every list of distinctly named daemons.** -/
theorem resolveEntries_resolved : ∀ {entries : List (String × Option UInt8)},
    (entries.map Prod.fst).Nodup →
      Resolved remembered stale now entries (resolveEntries entries remembered stale now) := by
  intro entries
  induction entries using List.reverseRecOn with
  | nil => exact fun _ => resolved_nil
  | append_singleton entries e ih =>
    intro hd
    rw [List.map_append, List.nodup_append] at hd
    rw [resolveEntries, List.foldl_append]
    exact (ih hd.1).step fun h => hd.2.2 e.1 h e.1 (by simp) rfl

/-- **The ids of a pass.** -/
theorem resolveIds_lookup {entries : List (String × Option UInt8)}
    (hd : (entries.map Prod.fst).Nodup) {name : String} {id : UInt8} :
    (resolveIds entries remembered stale now).1.lookup name = some id ↔
      ∃ adv, Gets (candidate remembered stale now) entries (name, adv) id :=
  (resolveEntries_resolved hd).out name id

/-- A daemon that advertises an id gets this id, if any. -/
lemma lookup_of_advertised {entries : List (String × Option UInt8)}
    (hd : (entries.map Prod.fst).Nodup) {name : String} {adv id : UInt8}
    (hmem : (name, some adv) ∈ entries)
    (h : (resolveIds entries remembered stale now).1.lookup name = some id) : id = adv := by
  obtain ⟨adv', hg⟩ := (resolveIds_lookup hd).mp h
  obtain rfl : adv' = some adv :=
    (Prod.mk.inj (List.inj_on_of_nodup_map hd hg.mem hmem rfl)).2
  exact (Option.some.inj hg.candidate_eq).symm

/-- An element of a list without repetitions stands in one place. -/
lemma place_unique {A : Type} {l before after before' after' : List A} {x : A} (hl : l.Nodup)
    (h : l = before ++ x :: after) (h' : l = before' ++ x :: after') :
    before = before' ∧ after = after' := by
  have hnodup := hl
  rw [h, List.nodup_append] at hnodup
  have hbefore : x ∉ before := fun hx => hnodup.2.2 x hx x List.mem_cons_self rfl
  have hafter : x ∉ after := (List.nodup_cons.mp hnodup.2.1).1
  obtain ⟨hb, -, ha⟩ := (List.append_cons_inj_of_notMem hbefore hafter).mp (h.symm.trans h')
  exact ⟨hb, ha⟩

/-- A daemon gets the id that is its candidate, is in range, and is of no daemon before it. -/
lemma lookup_of_split {entry : String × Option UInt8} {id : UInt8}
    {before after : List (String × Option UInt8)}
    (hd : ((before ++ entry :: after).map Prod.fst).Nodup) :
    (resolveIds (before ++ entry :: after) remembered stale now).1.lookup entry.1 = some id ↔
      candidate remembered stale now entry = some id ∧ Usable id ∧
        ∀ e ∈ before, candidate remembered stale now e ≠ some id := by
  rw [resolveIds_lookup hd]
  constructor
  · rintro ⟨adv, hg⟩
    have hmem : entry ∈ before ++ entry :: after := by simp
    have hentry : (entry.1, adv) = entry := List.inj_on_of_nodup_map hd hg.mem hmem rfl
    rw [hentry] at hg
    obtain ⟨front, back, hsplit, hc, hu, hb⟩ := hg
    obtain ⟨rfl, -⟩ := place_unique (List.Nodup.of_map Prod.fst hd) rfl hsplit
    exact ⟨hc, hu, hb⟩
  · rintro ⟨hc, hu, hb⟩
    exact ⟨entry.2, before, after, rfl, hc, hu, hb⟩

lemma resolveIds_usable {entries : List (String × Option UInt8)}
    (hd : (entries.map Prod.fst).Nodup) {name : String} {id : UInt8}
    (h : (resolveIds entries remembered stale now).1.lookup name = some id) : Usable id := by
  obtain ⟨adv, hg⟩ := (resolveIds_lookup hd).mp h
  exact hg.usable

/-- Two daemons never have the same id. -/
lemma resolveIds_injective {entries : List (String × Option UInt8)}
    (hd : (entries.map Prod.fst).Nodup) {name name' : String} {id : UInt8}
    (h : (resolveIds entries remembered stale now).1.lookup name = some id)
    (h' : (resolveIds entries remembered stale now).1.lookup name' = some id) : name = name' := by
  obtain ⟨adv, hg⟩ := (resolveIds_lookup hd).mp h
  obtain ⟨adv', hg'⟩ := (resolveIds_lookup hd).mp h'
  exact congrArg Prod.fst (hg.unique hg')

/-- A daemon that advertises the id it gets is stamped. -/
lemma remembered_of_accepts {entries : List (String × Option UInt8)}
    (hd : (entries.map Prod.fst).Nodup) {name : String} {id : UInt8}
    (h : Accepts (candidate remembered stale now) entries name id) :
    (resolveIds entries remembered stale now).2.lookup name
      = (some ⟨id, now⟩ : Option RememberedId).filter fun e => now - e.seen < stale := by
  rw [resolveIds, HashMap.lookup_retain, (resolveEntries_resolved hd).accepted name id h]

/-- Any other daemon keeps its entry while that is fresh. -/
lemma remembered_of_not_accepts {entries : List (String × Option UInt8)}
    (hd : (entries.map Prod.fst).Nodup) {name : String}
    (h : ∀ id, ¬ Accepts (candidate remembered stale now) entries name id) :
    (resolveIds entries remembered stale now).2.lookup name
      = (remembered.lookup name).filter fun e => now - e.seen < stale := by
  rw [resolveIds, HashMap.lookup_retain, (resolveEntries_resolved hd).kept name h]

end Loop

end Dumbarp.Routerd
