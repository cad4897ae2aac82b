/-
How long an id lives without its daemon.

The lease cache and the remembered map each keep an answer for one window.  In a pass that
fetches a daemon in vain, the cache replays its last lease, and `resolve_ids` takes the id of
the replay for an advertised one and stamps it anew.  The remembered map then keeps the id for
another window, although the daemon has not been heard.  Without such a pass the window does not
slide: every id in use was advertised by a fetch that succeeded less than a window ago.

Runs are listed newest pass first.
-/
import Dumbarp.Routerd.Reconcile

namespace Dumbarp.Routerd

open Api

variable {ε : Type}

/-! ## Passes -/

/-- What the configuration check grants. -/
structure Config.Checked (cfg : Config) : Prop where
  distinct : (cfg.daemons.map DaemonEntry.name).Nodup
  window : 0 < cfg.staleAfterSecs

/-- One pass over the daemons: the times at which the cache and `resolve_ids` read the clock, the
fetches, and the outcomes of the map operations. -/
structure Pass (ε : Type) where
  cacheNow : ℕ
  idsNow : ℕ
  fetched : DaemonEntry → Except ε Leases
  outcome : MapOutcome

/-- The pass from a state. -/
def Pass.result (cfg : Config) (p : Pass ε) (s : RouterState) : PassResult :=
  reconcileViaDaemons cfg p.fetched p.outcome p.cacheNow p.idsNow s

/-- The state after a run from the start of the program. -/
def afterPasses (cfg : Config) : List (Pass ε) → RouterState
  | [] => ⟨∅, ∅, ∅, ∅⟩
  | p :: older => (p.result cfg (afterPasses cfg older)).state

/-- A fetch of the daemon succeeded in a pass that resolved its ids at time `t`, and advertised
`id`. -/
def Advertised (cfg : Config) (passes : List (Pass ε)) (name : String) (id : UInt8) (t : ℕ) :
    Prop :=
  ∃ q ∈ passes, ∃ d ∈ cfg.daemons, ∃ leases, d.name = name ∧ q.fetched d = .ok leases ∧
    leases.dumbarpdId = some id ∧ q.idsNow = t

/-- Every id of the newest pass was advertised by a fetch that succeeded within the window. -/
def WithinWindow (cfg : Config) (p : Pass ε) (older : List (Pass ε)) : Prop :=
  ∀ name id, (p.result cfg (afterPasses cfg older)).ids.lookup name = some id →
    ∃ t, Advertised cfg (p :: older) name id t ∧ p.idsNow - t < cfg.staleAfterSecs

/-! ## Replays -/

/-- The lease of a daemon in a pass: the fetched one, or the cached one while it is fresh. -/
def heard (cfg : Config) (p : Pass ε) (s : RouterState) (d : DaemonEntry) : Option Leases :=
  (entryAfter p.cacheNow cfg.staleAfterSecs (p.fetched d) (s.cache.lookup d.name)).map
    CachedEntry.value

/-- The candidate of a daemon in a pass. -/
def candidateOf (cfg : Config) (p : Pass ε) (s : RouterState) (d : DaemonEntry) : Option UInt8 :=
  candidate s.knownIds cfg.staleAfterSecs p.idsNow (d.name, (heard cfg p s d).bind Leases.dumbarpdId)

/-- The pass fetches a daemon in vain whose cached lease is fresh and carries an id in range,
which is the candidate of no daemon before it. -/
def Replays (cfg : Config) (p : Pass ε) (s : RouterState) : Prop :=
  ∃ before d after, cfg.daemons = before ++ d :: after ∧
    (∃ err, p.fetched d = .error err) ∧
    ∃ e id, s.cache.lookup d.name = some e ∧ fresh p.cacheNow cfg.staleAfterSecs e.lastSuccess = true ∧
      e.value.dumbarpdId = some id ∧ Usable id ∧ ∀ d' ∈ before, candidateOf cfg p s d' ≠ some id

/-! ## One pass -/

section Step

variable {cfg : Config} {p : Pass ε} {s : RouterState} {passes : List (Pass ε)}

/-- The names of the round of a pass. -/
lemma round_names (cfg : Config) (fetched : DaemonEntry → Except ε Leases) :
    (cfg.daemons.map fun d => (d.name, fetched d)).map Prod.fst
      = cfg.daemons.map DaemonEntry.name := by
  simp [Function.comp_def]

/-- The view of a pass. -/
def Pass.view (cfg : Config) (p : Pass ε) (s : RouterState) : HashMap String Leases :=
  (applyRound p.cacheNow (cfg.daemons.map fun d => (d.name, p.fetched d)) cfg.staleAfterSecs
    s.cache).1.2

lemma lookup_cache (h : cfg.Checked) {d : DaemonEntry} (hd : d ∈ cfg.daemons) :
    (p.result cfg s).state.cache.lookup d.name
      = entryAfter p.cacheNow cfg.staleAfterSecs (p.fetched d) (s.cache.lookup d.name) := by
  refine lookup_results_of_mem p.cacheNow cfg.staleAfterSecs _ _ ?_ ?_
  · rw [round_names]
    exact h.distinct
  · exact List.mem_map.mpr ⟨d, hd, rfl⟩

lemma lookup_view (h : cfg.Checked) {d : DaemonEntry} (hd : d ∈ cfg.daemons) :
    (p.view cfg s).lookup d.name = heard cfg p s d := by
  rw [heard, ← lookup_cache h hd]
  exact HashMap.lookup_mapValues _ _ _

lemma advertised_names (h : cfg.Checked) :
    ((advertisedBy cfg.daemons (p.view cfg s)).map Prod.fst).Nodup := by
  simpa [advertisedBy, Function.comp_def] using h.distinct

/-- The candidate of a daemon in the list that a pass resolves. -/
lemma candidate_advertised (h : cfg.Checked) {d : DaemonEntry} (hd : d ∈ cfg.daemons) :
    candidate s.knownIds cfg.staleAfterSecs p.idsNow
        (d.name, ((p.view cfg s).lookup d.name).bind Leases.dumbarpdId)
      = candidateOf cfg p s d := by
  rw [lookup_view h hd, candidateOf]

/-- A daemon that advertises the id it gets was fetched, unless the pass replays. -/
lemma fetched_of_accepts (h : cfg.Checked) (hno : ¬ Replays cfg p s) {name : String} {id : UInt8}
    (ha : Accepts (candidate s.knownIds cfg.staleAfterSecs p.idsNow)
      (advertisedBy cfg.daemons (p.view cfg s)) name id) :
    Advertised cfg (p :: passes) name id p.idsNow := by
  obtain ⟨before, after, hsplit, -, hu, hb⟩ := ha
  obtain ⟨before, rest, hdaemons, rfl, hrest⟩ := List.map_eq_append_iff.mp hsplit
  obtain ⟨d, after, rfl, hd, -⟩ := List.map_eq_cons_iff.mp hrest
  have hmem : d ∈ cfg.daemons := by simp [hdaemons]
  obtain ⟨rfl, hid⟩ := Prod.mk.inj hd
  rw [lookup_view h hmem] at hid
  cases hf : p.fetched d with
  | ok leases =>
    refine ⟨p, List.mem_cons_self, d, hmem, leases, rfl, hf, ?_, rfl⟩
    simpa [heard, hf, entryAfter] using hid
  | error err =>
    -- the lease comes from the cache, so the pass replays its id
    exfalso
    rw [heard, hf, entryAfter, Option.bind_eq_some_iff] at hid
    obtain ⟨leases, hleases, hid⟩ := hid
    obtain ⟨e, he, rfl⟩ := Option.map_eq_some_iff.mp hleases
    obtain ⟨hcached, hfresh⟩ := Option.filter_eq_some_iff.mp he
    refine hno ⟨before, d, after, hdaemons, ⟨err, hf⟩, e, id, hcached, hfresh, hid, hu, ?_⟩
    intro d' hd'
    have hmem' : d' ∈ cfg.daemons := by simp [hdaemons, hd']
    rw [← candidate_advertised h hmem']
    exact hb _ (List.mem_map.mpr ⟨d', hd', rfl⟩)

/-- What is remembered after a run was advertised by fetches that succeeded, at the times of the
stamps. -/
def Origin (cfg : Config) (passes : List (Pass ε)) (s : RouterState) : Prop :=
  ∀ name e, s.knownIds.lookup name = some e → Advertised cfg passes name e.id e.seen

lemma Advertised.cons {name : String} {id : UInt8} {t : ℕ}
    (h : Advertised cfg passes name id t) : Advertised cfg (p :: passes) name id t := by
  obtain ⟨q, hq, rest⟩ := h
  exact ⟨q, List.mem_cons_of_mem _ hq, rest⟩

/-- **A pass that does not replay** stamps only what was fetched. -/
lemma Origin.step (h : cfg.Checked) (hs : Origin cfg passes s) (hno : ¬ Replays cfg p s) :
    Origin cfg (p :: passes) (p.result cfg s).state := by
  intro name e he
  have he' : (resolveIds (advertisedBy cfg.daemons (p.view cfg s)) s.knownIds
      cfg.staleAfterSecs p.idsNow).2.lookup name = some e := he
  by_cases ha : ∃ id, Accepts (candidate s.knownIds cfg.staleAfterSecs p.idsNow)
      (advertisedBy cfg.daemons (p.view cfg s)) name id
  · obtain ⟨id, ha⟩ := ha
    rw [remembered_of_accepts (advertised_names h) ha] at he'
    obtain ⟨he', -⟩ := Option.filter_eq_some_iff.mp he'
    cases he'
    exact fetched_of_accepts h hno ha
  · rw [not_exists] at ha
    rw [remembered_of_not_accepts (advertised_names h) ha] at he'
    exact (hs name e (Option.filter_eq_some_iff.mp he').1).cons

/-- The ids of a pass that does not replay were advertised within the window. -/
lemma Origin.within (h : cfg.Checked) (hs : Origin cfg passes s) (hno : ¬ Replays cfg p s)
    {name : String} {id : UInt8} (hid : (p.result cfg s).ids.lookup name = some id) :
    ∃ t, Advertised cfg (p :: passes) name id t ∧ p.idsNow - t < cfg.staleAfterSecs := by
  obtain ⟨adv, hg⟩ := (resolveIds_lookup (advertised_names h)).mp hid
  have hc := hg.candidate_eq
  cases adv with
  | some i =>
    -- advertised, and so fetched by this pass
    obtain rfl : i = id := Option.some.inj hc
    exact ⟨p.idsNow, fetched_of_accepts h hno hg, by simpa using h.window⟩
  | none =>
    -- remembered: the stamp is that of a fetch
    rw [candidate] at hc
    simp only at hc
    split at hc
    · rename_i prev hprev
      split at hc
      · rename_i hfresh
        obtain rfl := Option.some.inj hc
        exact ⟨prev.seen, (hs name prev hprev).cons, hfresh⟩
      · cases hc
    · cases hc

end Step

/-! ## Runs -/

lemma afterPasses_origin {cfg : Config} (h : cfg.Checked) : ∀ {passes : List (Pass ε)},
    (∀ later p older, passes = later ++ p :: older → ¬ Replays cfg p (afterPasses cfg older)) →
      Origin cfg passes (afterPasses cfg passes)
  | [], _ => fun _ _ he => nomatch he
  | p :: older, hno => by
    refine (afterPasses_origin h fun later q rest hsplit => ?_).step h (hno [] p older rfl)
    exact hno (p :: later) q rest (by rw [hsplit, List.cons_append])

/-- **The window does not slide without replays**: in a run none of whose passes replays an id,
each pass uses only ids advertised by a fetch that succeeded less than a window before. -/
theorem within_window_without_replays {cfg : Config} (h : cfg.Checked) {run : List (Pass ε)}
    (hno : ∀ later p older, run = later ++ p :: older → ¬ Replays cfg p (afterPasses cfg older)) :
    ∀ later p older, run = later ++ p :: older → WithinWindow cfg p older := by
  rintro later p older rfl name id hid
  refine (afterPasses_origin h fun newer q rest hsplit => ?_).within h (hno later p older rfl) hid
  exact hno (later ++ p :: newer) q rest (by rw [hsplit, List.append_assoc, List.cons_append])

/-- A daemon that is heard once, at time 0, with id 4. -/
def slidingConfig : Config where
  staleAfterSecs := 300
  sourceBasedRouting := false
  daemons := [⟨"a", "http://10.0.0.5:1028", "token", ⟨10, 0, 0, 5⟩, "br0"⟩]
  gateway := none

/-- The only pass that hears the daemon. -/
def heardPass : Pass String := ⟨0, 0, fun _ => .ok ⟨[⟨110, 0, 0, 1⟩], some 4⟩, noFailure⟩

/-- A pass that does not. -/
def deafPass (now : ℕ) : Pass String := ⟨now, now, fun _ => .error "timed out", noFailure⟩

lemma slidingConfig_checked : slidingConfig.Checked := ⟨by decide, by decide⟩

/-- **The window slides over a replay**: with a window of 300 seconds, a failed fetch at 200
replays the id of time 0, and another at 400 uses it still. -/
theorem replay_slides_window :
    ¬ ∀ (cfg : Config) (run : List (Pass String)), cfg.Checked →
      (∀ p ∈ run, p.cacheNow ≤ p.idsNow) →
      run.Pairwise (fun newer older => older.idsNow ≤ newer.cacheNow) →
        ∀ later p older, run = later ++ p :: older → WithinWindow cfg p older := by
  intro hall
  have hid : ((deafPass 400).result slidingConfig
      (afterPasses slidingConfig [deafPass 200, heardPass])).ids.lookup "a" = some 4 := by
    decide
  obtain ⟨t, ⟨q, hq, d, -, leases, -, hf, -, rfl⟩, ht⟩ := hall slidingConfig
    [deafPass 400, deafPass 200, heardPass] slidingConfig_checked (by decide) (by decide) []
    (deafPass 400)
    [deafPass 200, heardPass] rfl "a" 4 hid
  simp only [List.mem_cons, List.not_mem_nil, or_false] at hq
  rcases hq with rfl | rfl | rfl
  · cases hf
  · cases hf
  · revert ht
    decide

/-- A pass that hears the daemon without an id, and reads the clock twice. -/
def idlessPass : Pass String := ⟨100, 101, fun _ => .ok ⟨[⟨110, 0, 0, 1⟩], none⟩, noFailure⟩

/-- A run without replays: each fetch succeeds. -/
lemma idlessPass_not_replayed : ∀ later p older, [idlessPass, heardPass] = later ++ p :: older →
    ¬ Replays slidingConfig p (afterPasses slidingConfig older) := by
  rintro later p older hsplit ⟨before, d, after, -, ⟨err, hf⟩, -⟩
  have hp : p = idlessPass ∨ p = heardPass := by
    have hmem : p ∈ later ++ p :: older := by simp
    rw [← hsplit] at hmem
    simpa using hmem
  rcases hp with rfl | rfl <;> cases hf

/-- The pass reuses the id, within the window. -/
theorem within_window_heard :
    (idlessPass.result slidingConfig (afterPasses slidingConfig [heardPass])).ids.lookup "a"
        = some 4 ∧
      WithinWindow slidingConfig idlessPass [heardPass] :=
  ⟨by decide, within_window_without_replays slidingConfig_checked idlessPass_not_replayed []
    idlessPass [heardPass] rfl⟩

end Dumbarp.Routerd
