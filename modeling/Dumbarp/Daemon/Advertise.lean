/-
What `dumbarpd` advertises and what it answers for.

When every interface has a task of its own, `leases` and the engine agree on an interface
whenever its task is not between the update of the one and that of the other.  When an interface
is listed twice, two tasks can update the engine in one order and `leases` in the other.
-/
import Dumbarp.Daemon.Dhcp

namespace Dumbarp.Daemon

open Interact Interact.Prog Engine Tasks

/-! ## Agreement -/

/-- `leases` has the interface with an address if and only if the engine answers for it there. -/
def AppState.Agrees (s : AppState) (iface : String) : Prop :=
  ∀ ip, (∃ info, s.leases.lookup iface = some info ∧ info.ip = ip) ↔ AnswersFor s.engine iface ip

/-- The daemon advertises what it answers for. -/
def AppState.Truthful (s : AppState) : Prop := ∀ iface, s.Agrees iface

/-- Not between the update of the engine and the matching one of `leases`. -/
def Phase.settled : Phase → Bool
  | .record _ => false
  | .unrecord => false
  | .forget _ => false
  | _ => true

/-- No task is between its update of the engine and the matching one of `leases`. -/
def Settled {cfg : Config} (d : Dumbarpd cfg) : Prop := ∀ i, (d.task i).phase.settled = true

/-- What holds of an interface while its task stands at `phase`. -/
def Coherent (iface : String) (phase : Phase) (s : AppState) : Prop :=
  match phase with
  | .record info => AnswersFor s.engine iface info.ip
  | .unrecord => iface ∉ s.engine
  | .forget _ => iface ∉ s.engine
  | _ => s.Agrees iface

lemma Coherent.agrees {iface : String} {phase : Phase} {s : AppState}
    (h : Coherent iface phase s) (hphase : phase.settled = true) : s.Agrees iface := by
  cases phase with
  | record => cases hphase
  | unrecord => cases hphase
  | forget => cases hphase
  | _ => exact h

section Entries

variable {s : AppState} {iface : String} {info : LeaseInfo}

lemma answersFor_insert {engine : Attachments} {a : Attached} {ip : Ipv4Addr}
    (hkey : a.key = arpKeyFor a.ifindex ip) : AnswersFor (engine.insert iface a) iface ip :=
  ⟨a, AList.lookup_insert engine, hkey⟩

lemma not_answersFor {engine : Attachments} (h : iface ∉ engine) (ip : Ipv4Addr) :
    ¬ AnswersFor engine iface ip := by
  rintro ⟨a, ha, -⟩
  exact h (HashMap.mem_iff_lookup.mpr ⟨a, ha⟩)

/-- An interface that is in neither. -/
lemma agrees_of_absent (hengine : iface ∉ s.engine) (hleases : iface ∉ s.leases) :
    s.Agrees iface := by
  intro ip
  refine iff_of_false ?_ (not_answersFor hengine ip)
  rintro ⟨info, hl, -⟩
  exact hleases (HashMap.mem_iff_lookup.mpr ⟨info, hl⟩)

/-- An interface that is in both, with one address. -/
lemma agrees_of_present (hengine : AnswersFor s.engine iface info.ip)
    (hleases : s.leases.lookup iface = some info) : s.Agrees iface := by
  intro ip
  constructor
  · rintro ⟨info', hl, rfl⟩
    obtain rfl := Option.some.inj (hleases.symm.trans hl)
    exact hengine
  · intro h
    exact ⟨info, hleases, hengine.unique h⟩

end Entries

/-! ## One task -/

section Step

variable {dumbarpdId : Option UInt8} {iface j : String} {t t' : Task} {s s' : AppState}

/-- What a step leaves as it was. -/
structure SameAt (j : String) (s s' : AppState) : Prop where
  engine : s'.engine.lookup j = s.engine.lookup j
  leases : s'.leases.lookup j = s.leases.lookup j

lemma SameAt.refl (j : String) (s : AppState) : SameAt j s s := ⟨rfl, rfl⟩

lemma addResult_lookup {engine : Attachments} {ip : Ipv4Addr}
    {r : Except AnyhowError Unit × Attachments} (h : AddResult engine iface ip r) (hj : j ≠ iface) :
    r.2.lookup j = engine.lookup j := by
  obtain ⟨res, engine'⟩ := r
  cases res with
  | error e => exact congrArg (AList.lookup j) h
  | ok u =>
    obtain ⟨a, rfl, -⟩ := h
    exact AList.lookup_insert_ne hj

/-- A task touches its own interface only. -/
lemma TaskStep.sameAt (h : TaskStep dumbarpdId iface t s t' s') (hj : j ≠ iface) :
    SameAt j s s' := by
  cases h with
  | initFails => exact SameAt.refl j s
  | inits => exact SameAt.refl j s
  | event => exact SameAt.refl j s
  | attaches _ hrun =>
    exact ⟨(addResult_lookup (reattach_runs hrun) hj).trans (AList.lookup_erase_ne hj), rfl⟩
  | attachFails _ hrun =>
    exact ⟨(addResult_lookup (reattach_runs hrun) hj).trans (AList.lookup_erase_ne hj), rfl⟩
  | records => exact ⟨rfl, AList.lookup_insert_ne hj⟩
  | respawns => exact ⟨rfl, rfl⟩
  | unrecords => exact ⟨rfl, AList.lookup_erase_ne hj⟩
  | detaches _ hrun =>
    obtain rfl := removeInterface_runs_erase hrun
    exact ⟨AList.lookup_erase_ne hj, rfl⟩
  | forgets => exact ⟨rfl, AList.lookup_erase_ne hj⟩
  | stops => exact ⟨rfl, rfl⟩

lemma SameAt.answersFor (h : SameAt j s s') (ip : Ipv4Addr) :
    AnswersFor s'.engine j ip ↔ AnswersFor s.engine j ip := by
  rw [AnswersFor, AnswersFor, h.engine]

lemma SameAt.mem_engine (h : SameAt j s s') : j ∈ s'.engine ↔ j ∈ s.engine := by
  rw [HashMap.mem_iff_lookup, HashMap.mem_iff_lookup, h.engine]

lemma SameAt.mem_leases (h : SameAt j s s') : j ∈ s'.leases ↔ j ∈ s.leases := by
  rw [HashMap.mem_iff_lookup, HashMap.mem_iff_lookup, h.leases]

lemma SameAt.agrees (h : SameAt j s s') (hs : s.Agrees j) : s'.Agrees j := by
  intro ip
  rw [h.answersFor, h.leases]
  exact hs ip

/-- What a task holds of its interface, a step elsewhere does not disturb. -/
lemma SameAt.coherent {phase : Phase} (h : SameAt j s s') (hs : Coherent j phase s) :
    Coherent j phase s' := by
  cases phase with
  | record info => exact (h.answersFor info.ip).mpr hs
  | unrecord => exact fun hj => hs (h.mem_engine.mp hj)
  | forget => exact fun hj => hs (h.mem_engine.mp hj)
  -- everywhere else a task holds that the two agree
  | _ => exact h.agrees hs

lemma coherent_afterEvent (event : Option (Except String DhcpLease)) (h : s.Agrees iface) :
    Coherent iface (afterEvent event) s := by
  rcases event with _ | _ | lease
  · exact h
  · exact h
  · rw [afterEvent]
    cases lease.gateways.bind List.head? <;> exact h

/-- The step lemma: a task keeps what it holds of its interface. -/
lemma TaskStep.coherent (h : TaskStep dumbarpdId iface t s t' s')
    (hs : Coherent iface t.phase s) : Coherent iface t'.phase s' := by
  cases h with
  | initFails => exact hs
  | inits => exact hs
  | event _ _ event => exact coherent_afterEvent event hs
  | attaches _ hrun =>
    obtain ⟨a, rfl, hkey⟩ := reattach_runs hrun
    exact answersFor_insert hkey
  | attachFails _ hrun =>
    obtain rfl := reattach_runs hrun
    show iface ∉ s.engine.erase iface
    simp
  | records => exact agrees_of_present hs (AList.lookup_insert _)
  | respawns => exact hs
  | unrecords => exact agrees_of_absent hs (by simp)
  | detaches _ hrun =>
    obtain rfl := removeInterface_runs_erase hrun
    show iface ∉ s.engine.erase iface
    simp
  | forgets _ _ second =>
    have hagree : ({ s with leases := s.leases.erase iface } : AppState).Agrees iface :=
      agrees_of_absent hs (by simp)
    cases second <;> exact hagree
  | stops => exact hs

end Step

/-! ## All tasks -/

section Daemon

variable {cfg : Config} {d : Dumbarpd cfg}

/-- The run lemma, for interfaces that are listed once each. -/
lemma Reachable.coherent (h : Reachable cfg d) (hifaces : cfg.ifaces.Nodup)
    (i : Fin cfg.ifaces.length) : Coherent (cfg.ifaces.get i) (d.task i).phase d.shared := by
  refine Reach.each (J := fun i t s => Coherent (cfg.ifaces.get i) t.phase s) ?_ ?_ h ?_ i
  · intro i t s t' s' hs hstep
    exact hstep.coherent hs
  · intro i j t s t' s' m hji hs hstep
    -- another task has another interface
    have hne : cfg.ifaces.get j ≠ cfg.ifaces.get i := fun he =>
      hji (List.nodup_iff_injective_get.mp hifaces he)
    exact (hstep.sameAt hne).coherent hs
  · intro i
    exact agrees_of_absent (AList.notMem_empty _) (AList.notMem_empty _)

/-- Nobody touches an interface that is not listed. -/
lemma Reachable.unlisted (h : Reachable cfg d) {iface : String} (hi : iface ∉ cfg.ifaces) :
    iface ∉ d.shared.engine ∧ iface ∉ d.shared.leases := by
  refine Reach.shared (K := fun s => iface ∉ s.engine ∧ iface ∉ s.leases) ?_ h ?_
  · rintro i t s t' s' ⟨hengine, hleases⟩ hstep
    have hsame := hstep.sameAt (j := iface) fun he => hi (he ▸ List.get_mem cfg.ifaces i)
    exact ⟨fun hj => hengine (hsame.mem_engine.mp hj), fun hj => hleases (hsame.mem_leases.mp hj)⟩
  · exact ⟨AList.notMem_empty _, AList.notMem_empty _⟩

lemma Reachable.truthful (h : Reachable cfg d) (hifaces : cfg.ifaces.Nodup) (hd : Settled d) :
    d.shared.Truthful := by
  intro iface
  by_cases hi : iface ∈ cfg.ifaces
  · obtain ⟨i, rfl⟩ := List.get_of_mem hi
    exact (h.coherent hifaces i).agrees (hd i)
  · obtain ⟨hengine, hleases⟩ := h.unlisted hi
    exact agrees_of_absent hengine hleases

/-- The advertised addresses are those that the engine answers for. -/
lemma AppState.Truthful.mem_currentIps {s : AppState} (h : s.Truthful) (ip : Ipv4Addr) :
    ip ∈ s.currentIps ↔ ∃ iface, AnswersFor s.engine iface ip := by
  rw [AppState.currentIps, List.mem_map]
  constructor
  · rintro ⟨⟨iface, info⟩, hmem, rfl⟩
    exact ⟨iface, (h iface info.ip).mp ⟨info, mem_entries.mp hmem, rfl⟩⟩
  · rintro ⟨iface, hans⟩
    obtain ⟨info, hl, rfl⟩ := (h iface ip).mpr hans
    exact ⟨(iface, info), mem_entries.mpr hl, rfl⟩

/-- A route is asked for exactly where the engine answers for its source. -/
lemma AppState.Truthful.mem_currentRoutes {s : AppState} (h : s.Truthful) (iface : String)
    (ip : Ipv4Addr) :
    (∃ spec ∈ s.currentRoutes, spec.iface = iface ∧ spec.src = ip) ↔
      AnswersFor s.engine iface ip := by
  rw [← h iface ip, AppState.currentRoutes]
  constructor
  · rintro ⟨spec, hmem, rfl, rfl⟩
    obtain ⟨⟨j, info⟩, hentry, rfl⟩ := List.mem_map.mp hmem
    exact ⟨info, mem_entries.mp hentry, rfl⟩
  · rintro ⟨info, hl, rfl⟩
    exact ⟨_, List.mem_map.mpr ⟨(iface, info), mem_entries.mpr hl, rfl⟩, rfl, rfl⟩

/-! ## Two tasks on one interface -/

/-- From `d` on, the daemon comes to `d'`, where the task `i` stands at `phase` and the others
where they stood. -/
structure Brings (d : Dumbarpd cfg) (i : Fin cfg.ifaces.length) (phase : Phase)
    (d' : Dumbarpd cfg) : Prop where
  reachable : Reachable cfg d'
  task : d'.task i = ⟨phase, none⟩
  others : ∀ k, k ≠ i → d'.task k = d.task k

/-- A step of the task `i`. -/
lemma Reachable.brings (h : Reachable cfg d) {i : Fin cfg.ifaces.length} {phase phase' : Phase}
    {s : AppState} (hi : d.task i = ⟨phase, none⟩)
    (hstep : TaskStep cfg.dscpId (cfg.ifaces.get i) ⟨phase, none⟩ d.shared ⟨phase', none⟩ s) :
    Brings d i phase' (d.set i ⟨phase', none⟩ s) :=
  ⟨Reach.turn h hi rfl hstep, d.set_task i _ s, fun _ hk => d.set_task_of_ne i _ s hk⟩

lemma Brings.trans {d₁ d₂ : Dumbarpd cfg} {i : Fin cfg.ifaces.length} {phase₁ phase₂ : Phase}
    (h₁ : Brings d i phase₁ d₁) (h₂ : Brings d₁ i phase₂ d₂) : Brings d i phase₂ d₂ :=
  ⟨h₂.reachable, h₂.task, fun k hk => (h₂.others k hk).trans (h₁.others k hk)⟩

/-- A task that has not begun can come to attach a lease and be about to record it. -/
lemma Reachable.attached (h : Reachable cfg d) {i : Fin cfg.ifaces.length}
    (hi : d.task i = ⟨.init, none⟩) (info : LeaseInfo) :
    ∃ d', Brings d i (.record info) d' ∧
      AnswersFor d'.shared.engine (cfg.ifaces.get i) info.ip := by
  have hlisten := h.brings hi (TaskStep.inits none d.shared)
  have hattach := hlisten.reachable.brings hlisten.task
    (TaskStep.event none d.shared (some (.ok ⟨info.ip, some [info.gateway]⟩)))
  obtain ⟨es, ⟨res, engine⟩, host, hrun, hres⟩ :=
    reattach_can d.shared.engine (cfg.ifaces.get i) info.ip cfg.dscpId d.shared.host
  obtain rfl : res = .ok () := hres
  have hrecord := hattach.reachable.brings hattach.task (TaskStep.attaches none hrun)
  refine ⟨_, (hlisten.trans hattach).trans hrecord, ?_⟩
  obtain ⟨a, rfl, hkey⟩ := reattach_runs hrun
  exact answersFor_insert hkey

/-- A task that is about to record a lease records it. -/
lemma Reachable.recorded (h : Reachable cfg d) {i : Fin cfg.ifaces.length} {info : LeaseInfo}
    (hi : d.task i = ⟨.record info, none⟩) :
    ∃ d', Brings d i (.respawn info) d' ∧ d'.shared.engine = d.shared.engine ∧
      d'.shared.leases.lookup (cfg.ifaces.get i) = some info :=
  ⟨_, h.brings hi (TaskStep.records none d.shared info), rfl, AList.lookup_insert _⟩

/-- Two tasks of one interface update the engine in one order and `leases` in the other. -/
lemma exists_crossed {i j : Fin cfg.ifaces.length} (hij : i ≠ j)
    (hiface : cfg.ifaces.get i = cfg.ifaces.get j) (first second : LeaseInfo) :
    ∃ d : Dumbarpd cfg, Reachable cfg d ∧ Settled d ∧
      d.shared.leases.lookup (cfg.ifaces.get i) = some first ∧
      AnswersFor d.shared.engine (cfg.ifaces.get i) second.ip := by
  have hinit : Reachable cfg (spawnAll cfg) := Relation.ReflTransGen.refl
  obtain ⟨d₁, h₁, -⟩ := hinit.attached (i := i) rfl first
  obtain ⟨d₂, h₂, hengine⟩ := h₁.reachable.attached (h₁.others j hij.symm) second
  obtain ⟨d₃, h₃, he₃, -⟩ := h₂.reachable.recorded h₂.task
  have hi : d₃.task i = ⟨.record first, none⟩ := by
    rw [h₃.others i hij, h₂.others i hij, h₁.task]
  obtain ⟨d₄, h₄, he₄, hleases⟩ := h₃.reachable.recorded hi
  refine ⟨d₄, h₄.reachable, ?_, hleases, ?_⟩
  · intro k
    by_cases hki : k = i
    · rw [hki, h₄.task]
      rfl
    · rw [h₄.others k hki]
      by_cases hkj : k = j
      · rw [hkj, h₃.task]
        rfl
      · -- the other tasks have not begun
        rw [h₃.others k hkj, h₂.others k hkj, h₁.others k hki]
        rfl
  · rw [he₄, he₃, hiface]
    exact hengine

end Daemon

/-- An entry of `leases` for which the engine answers with another address. -/
lemma not_truthful {s : AppState} {iface : String} {first second : LeaseInfo}
    (hleases : s.leases.lookup iface = some first) (hengine : AnswersFor s.engine iface second.ip)
    (hne : first.ip ≠ second.ip) : ¬ s.Truthful := by
  intro h
  have hfirst : AnswersFor s.engine iface first.ip := (h iface first.ip).mp ⟨first, hleases, rfl⟩
  exact hne (hfirst.unique hengine)

/-- **What `dumbarpd` advertises is what it answers for**, whenever no task is between its two
updates and in every order of steps, if and only if no interface is listed twice. -/
theorem advertises_what_it_answers_iff (cfg : Config) :
    (∀ d : Dumbarpd cfg, Reachable cfg d → Settled d → d.shared.Truthful) ↔ cfg.ifaces.Nodup := by
  constructor
  · intro hall
    by_contra htwice
    rw [List.nodup_iff_injective_get] at htwice
    obtain ⟨i, j, hiface, hij⟩ := Function.not_injective_iff.mp htwice
    obtain ⟨d, hd, hsettled, hleases, hengine⟩ :=
      exists_crossed hij hiface ⟨⟨10, 0, 0, 5⟩, ⟨10, 0, 0, 1⟩⟩ ⟨⟨10, 0, 0, 6⟩, ⟨10, 0, 0, 1⟩⟩
    exact not_truthful hleases hengine (by decide) (hall d hd hsettled)
  · intro hifaces d hd hsettled
    exact hd.truthful hifaces hsettled

/-- A file that lists `eth0` twice. -/
def twiceListed : ConfigFile := { authToken := "t", ifaces := ["eth0", "eth0"] }

/-- It is accepted, and the daemon then advertises an address on `eth0` that the engine does not
answer for: it answers for the one that the other task was given. -/
theorem twice_listed_disagrees :
    Config.load ⟨fun _ => .ok "", fun _ => .ok twiceListed⟩ "/etc/dumbarpd.toml" =
        .ok twiceListed.config ∧
      ∃ d : Dumbarpd twiceListed.config, Reachable twiceListed.config d ∧ Settled d ∧
        d.shared.leases.lookup "eth0" = some ⟨⟨10, 0, 0, 5⟩, ⟨10, 0, 0, 1⟩⟩ ∧
        AnswersFor d.shared.engine "eth0" ⟨10, 0, 0, 6⟩ ∧ ¬ d.shared.Truthful := by
  refine ⟨load_ok_iff.mpr ⟨"", twiceListed, rfl, rfl, rfl, ?_⟩, ?_⟩
  · exact checked_defaults (by decide) (by decide)
  have hij : (⟨0, by decide⟩ : Fin twiceListed.config.ifaces.length) ≠ ⟨1, by decide⟩ := by decide
  obtain ⟨d, hd, hsettled, hleases, hengine⟩ :=
    exists_crossed hij rfl ⟨⟨10, 0, 0, 5⟩, ⟨10, 0, 0, 1⟩⟩ ⟨⟨10, 0, 0, 6⟩, ⟨10, 0, 0, 1⟩⟩
  exact ⟨d, hd, hsettled, hleases, hengine, not_truthful hleases hengine (by decide)⟩

end Dumbarp.Daemon
