/-
Neighbour refreshers and the leases they are for (`run_dhcp_for_iface`).

A task keeps the handle of the refresher it spawned last and aborts it before it spawns the
next.  In every run the refreshers that nobody aborted are exactly those the tasks hold, so no
interface has two.  That the refresher is the one for the lease in `leases` depends on the
failures of `add_interface`: on this path the entry is removed and the handle is kept.
-/
import Dumbarp.Daemon.Advertise

namespace Dumbarp.Daemon

open Interact Interact.Prog Engine Tasks

/-! ## Who holds which refresher -/

section Held

variable {ι : Type} [DecidableEq ι] {iface : ι → String} {handle : ι → Option RefresherId}
  {s : AppState} {i : ι}

/-- The refreshers are those that the handles are for, and no two handles are for one. -/
structure Held (iface : ι → String) (handle : ι → Option RefresherId)
    (refreshers : HashMap RefresherId Refresher) : Prop where
  live : ∀ j id, handle j = some id → ∃ info, refreshers.lookup id = some ⟨iface j, info⟩
  apart : ∀ j k id, handle j = some id → handle k = some id → j = k
  owned : ∀ id r, refreshers.lookup id = some r → ∃ j, handle j = some id ∧ iface j = r.iface

lemma lookup_abort {neigh : Option RefresherId} {id : RefresherId} :
    (s.abort neigh).lookup id = if neigh = some id then none else s.refreshers.lookup id := by
  cases neigh with
  | none => rfl
  | some id' =>
    show (s.refreshers.erase id').lookup id = _
    by_cases h : id' = id
    · rw [h, AList.lookup_erase, if_pos rfl]
    · rw [AList.lookup_erase_ne (Ne.symm h), if_neg fun he => h (Option.some.inj he)]

/-- A task gives its refresher up. -/
lemma Held.abort (h : Held iface handle s.refreshers) (i : ι) :
    Held iface (Function.update handle i none) (s.abort (handle i)) := by
  have hhandle {j : ι} {id : RefresherId} (hj : Function.update handle i none j = some id) :
      j ≠ i ∧ handle j = some id := by
    by_cases hji : j = i
    · rw [hji, Function.update_self] at hj
      cases hj
    · rw [Function.update_of_ne hji] at hj
      exact ⟨hji, hj⟩
  refine ⟨fun j id hj => ?_, fun j k id hj hk => ?_, fun id r hr => ?_⟩
  · obtain ⟨hji, hj⟩ := hhandle hj
    obtain ⟨info, hinfo⟩ := h.live j id hj
    refine ⟨info, ?_⟩
    rw [lookup_abort, if_neg fun hi => hji (h.apart j i id hj hi), hinfo]
  · exact h.apart j k id (hhandle hj).2 (hhandle hk).2
  · rw [lookup_abort] at hr
    split at hr
    · cases hr
    · rename_i hne
      obtain ⟨j, hj, hiface⟩ := h.owned id r hr
      have hji : j ≠ i := fun he => hne (he ▸ hj)
      exact ⟨j, by rw [Function.update_of_ne hji, hj], hiface⟩

/-- A task without a refresher spawns one. -/
lemma Held.spawn {refreshers : HashMap RefresherId Refresher} (h : Held iface handle refreshers)
    (hi : handle i = none) {id : RefresherId} (fresh : id ∉ refreshers) (info : LeaseInfo) :
    Held iface (Function.update handle i (some id)) (refreshers.insert id ⟨iface i, info⟩) := by
  have hnew {j : ι} {id' : RefresherId} (hj : Function.update handle i (some id) j = some id') :
      j = i ∧ id' = id ∨ j ≠ i ∧ id' ≠ id ∧ handle j = some id' := by
    by_cases hji : j = i
    · rw [hji, Function.update_self] at hj
      exact Or.inl ⟨hji, (Option.some.inj hj).symm⟩
    · rw [Function.update_of_ne hji] at hj
      obtain ⟨info, hlive⟩ := h.live j id' hj
      exact Or.inr ⟨hji, HashMap.ne_of_lookup fresh hlive, hj⟩
  refine ⟨fun j id' hj => ?_, fun j k id' hj hk => ?_, fun id' r hr => ?_⟩
  · rcases hnew hj with ⟨rfl, rfl⟩ | ⟨-, hne, hj⟩
    · exact ⟨info, AList.lookup_insert _⟩
    · rw [AList.lookup_insert_ne hne]
      exact h.live j id' hj
  · rcases hnew hj with ⟨rfl, rfl⟩ | ⟨-, hne, hj⟩ <;> rcases hnew hk with ⟨rfl, he⟩ | ⟨-, hne', hk⟩
    · rfl
    · exact absurd rfl hne'
    · exact absurd he hne
    · exact h.apart j k id' hj hk
  · rcases HashMap.lookup_insert_cases hr with ⟨rfl, rfl⟩ | hr
    · exact ⟨i, Function.update_self _ _ _, rfl⟩
    · obtain ⟨j, hj, hiface⟩ := h.owned id' r hr
      have hji : j ≠ i := by
        rintro rfl
        rw [hi] at hj
        cases hj
      exact ⟨j, by rw [Function.update_of_ne hji, hj], hiface⟩

end Held

/-! ## What a step does to the refreshers -/

section Step

variable {dumbarpdId : Option UInt8} {iface : String} {t t' : Task} {s s' : AppState}

/-- A step leaves the refresher of the task alone, or aborts it, or replaces it. -/
lemma TaskStep.refreshers (h : TaskStep dumbarpdId iface t s t' s') :
    (t'.neigh = t.neigh ∧ s'.refreshers = s.refreshers) ∨
      (t'.neigh = none ∧ s'.refreshers = s.abort t.neigh) ∨
      ∃ info id, id ∉ s.refreshers ∧ t'.neigh = some id ∧
        s'.refreshers = (s.abort t.neigh).insert id ⟨iface, info⟩ := by
  cases h with
  | respawns _ info fresh => exact Or.inr (Or.inr ⟨info, _, fresh, rfl, rfl⟩)
  | stops => exact Or.inr (Or.inl ⟨rfl, rfl⟩)
  | _ => exact Or.inl ⟨rfl, rfl⟩

/-- The lease that the refresher of a task was started for. -/
def AppState.startedFor (s : AppState) (neigh : Option RefresherId) : Option LeaseInfo :=
  (neigh.bind s.refreshers.lookup).map Refresher.info

/-- What holds of the lease of an interface while its task is in the state `t`. -/
def Tracks (iface : String) (t : Task) (s : AppState) : Prop :=
  match t.phase with
  | .respawn info => s.leases.lookup iface = some info
  | .stop => True
  | .detach second => second = true → t.neigh = none
  | .forget second => second = true → t.neigh = none
  | _ => s.leases.lookup iface = s.startedFor t.neigh

/-- A failed attach is about to be recorded while the task holds a refresher. -/
def Task.Abandons (t : Task) : Prop := t.phase = .unrecord ∧ t.neigh ≠ none

/-- The task waits for its next event, or sleeps. -/
def Phase.waits : Phase → Bool
  | .init => true
  | .listen => true
  | _ => false

lemma tracks_afterEvent (event : Option (Except String DhcpLease)) (neigh : Option RefresherId)
    (h : s.leases.lookup iface = s.startedFor neigh) :
    Tracks iface ⟨afterEvent event, neigh⟩ s := by
  rcases event with _ | _ | lease
  · trivial
  · exact fun h => absurd h (by decide)
  · rw [afterEvent]
    cases lease.gateways.bind List.head? <;> exact h

/-- The step lemma: the lease and the refresher go together, unless a refresher is abandoned. -/
lemma TaskStep.tracks (h : TaskStep dumbarpdId iface t s t' s') (hs : Tracks iface t s)
    (habandons : ¬ t.Abandons) : Tracks iface t' s' := by
  cases h with
  | initFails => exact hs
  | inits => exact hs
  | event neigh _ event => exact tracks_afterEvent event neigh hs
  | attaches => exact hs
  | attachFails => exact hs
  | records => exact AList.lookup_insert _
  | respawns neigh info fresh =>
    have hlease : s.leases.lookup iface = some info := hs
    show s.leases.lookup iface = _
    rw [hlease]
    simp [AppState.startedFor]
  | unrecords neigh =>
    obtain rfl : neigh = none := not_not.mp fun hne => habandons ⟨rfl, hne⟩
    exact AList.lookup_erase _ _
  | detaches => exact hs
  | forgets neigh s second =>
    cases second with
    | false => trivial
    | true =>
      obtain rfl : neigh = none := hs rfl
      exact AList.lookup_erase _ _
  | stops => exact fun _ => rfl

end Step

/-! ## All tasks -/

section Daemon

variable {cfg : Config} {d : Dumbarpd cfg} {i : Fin cfg.ifaces.length} {t' : Task}
  {s' : AppState}

/-- The handles of the tasks. -/
def handles (d : Dumbarpd cfg) (i : Fin cfg.ifaces.length) : Option RefresherId :=
  (d.task i).neigh

/-- The refreshers that nobody aborted are those that the tasks hold. -/
def AllHeld (d : Dumbarpd cfg) : Prop := Held cfg.ifaces.get (handles d) d.shared.refreshers

lemma handles_set (d : Dumbarpd cfg) (i : Fin cfg.ifaces.length) (t : Task) (s : AppState) :
    handles (d.set i t s) = Function.update (handles d) i t.neigh := by
  funext j
  by_cases hji : j = i
  · subst hji
    simp [handles]
  · simp [handles, System.set_task_of_ne d i t s hji, Function.update_of_ne hji]

lemma allHeld_spawnAll : AllHeld (spawnAll cfg) :=
  ⟨nofun, nofun, nofun⟩

/-- No step leaves a refresher without a holder. -/
lemma AllHeld.turn (h : AllHeld d)
    (hstep : TaskStep cfg.dscpId (cfg.ifaces.get i) (d.task i) d.shared t' s') :
    AllHeld (d.set i t' s') := by
  rw [AllHeld, handles_set, System.set_shared]
  rcases hstep.refreshers with ⟨hneigh, hs⟩ | ⟨hneigh, hs⟩ | ⟨info, id, fresh, hneigh, hs⟩
  · rw [hneigh, hs]
    have hsame : Function.update (handles d) i (d.task i).neigh = handles d :=
      Function.update_eq_self i (handles d)
    rw [hsame]
    exact h
  · rw [hneigh, hs]
    exact h.abort i
  · rw [hneigh, hs]
    have hfresh : id ∉ d.shared.abort (d.task i).neigh := by
      intro hid
      obtain ⟨r, hr⟩ := HashMap.mem_iff_lookup.mp hid
      rw [lookup_abort] at hr
      split at hr
      · cases hr
      · exact fresh (HashMap.mem_iff_lookup.mpr ⟨r, hr⟩)
    have hspawn := (h.abort i).spawn (Function.update_self i none (handles d)) hfresh info
    rwa [Function.update_idem] at hspawn

/-- A step of another interface leaves the refresher of a task and its lease alone. -/
lemma AllHeld.tracks_of_ne (h : AllHeld d) {k : Fin cfg.ifaces.length} (hki : k ≠ i)
    (hiface : cfg.ifaces.get k ≠ cfg.ifaces.get i)
    (hstep : TaskStep cfg.dscpId (cfg.ifaces.get i) (d.task i) d.shared t' s')
    (hs : Tracks (cfg.ifaces.get k) (d.task k) d.shared) :
    Tracks (cfg.ifaces.get k) (d.task k) s' := by
  have hlease := (hstep.sameAt hiface).leases
  have hstarted : s'.startedFor (d.task k).neigh = d.shared.startedFor (d.task k).neigh := by
    cases hk : (d.task k).neigh with
    | none => rfl
    | some id =>
      have hkeep : s'.refreshers.lookup id = d.shared.refreshers.lookup id := by
        have hother : (d.task i).neigh ≠ some id := fun hi => hki (h.apart k i id hk hi)
        rcases hstep.refreshers with ⟨-, hs⟩ | ⟨-, hs⟩ | ⟨info, id', fresh, -, hs⟩
        · rw [hs]
        · rw [hs, lookup_abort, if_neg hother]
        · obtain ⟨info', hlive⟩ := h.live k id hk
          have hne : id ≠ id' := HashMap.ne_of_lookup fresh hlive
          rw [hs, AList.lookup_insert_ne hne, lookup_abort, if_neg hother]
      simp [AppState.startedFor, hkeep]
  unfold Tracks at hs ⊢
  split <;> simp_all

/-! ## The refresher and the lease -/

/-- The refreshers of an interface and its lease: at most one refresher is left un-aborted, the one
that its task holds, and while the task waits there is one if and only if `leases` has an entry,
for which it was then started. -/
structure Follows (iface : String) (t : Task) (s : AppState) : Prop where
  single : ∀ id r, s.refreshers.lookup id = some r → r.iface = iface → t.neigh = some id
  lease : t.phase.waits = true → ∀ info,
    (∃ id, t.neigh = some id ∧ s.refreshers.lookup id = some ⟨iface, info⟩) ↔
      s.leases.lookup iface = some info

/-- What the task holds is what it is to hold. -/
lemma AllHeld.follows (h : AllHeld d) (honly : ∀ j, cfg.ifaces.get j = cfg.ifaces.get i → j = i)
    (hs : Tracks (cfg.ifaces.get i) (d.task i) d.shared) :
    Follows (cfg.ifaces.get i) (d.task i) d.shared := by
  refine ⟨fun id r hr hiface => ?_, fun hwaits info => ?_⟩
  · obtain ⟨j, hj, hji⟩ := h.owned id r hr
    obtain rfl := honly j (hji.trans hiface)
    exact hj
  · have hlease : d.shared.leases.lookup (cfg.ifaces.get i) =
        d.shared.startedFor (d.task i).neigh := by
      unfold Tracks at hs
      generalize (d.task i).phase = phase at hwaits hs
      cases phase with
      | init => exact hs
      | listen => exact hs
      | _ => cases hwaits
    rw [hlease, AppState.startedFor]
    cases hneigh : (d.task i).neigh with
    | none => simp
    | some id =>
      obtain ⟨info', hlive⟩ := h.live i id hneigh
      simp [hlive]

/-- An abandoned refresher is left without its lease. -/
lemma AllHeld.abandoned (h : AllHeld d)
    (hstep : TaskStep cfg.dscpId (cfg.ifaces.get i) (d.task i) d.shared t' s')
    (habandons : (d.task i).Abandons) : ¬ Follows (cfg.ifaces.get i) t' s' := by
  obtain ⟨hphase, hneigh⟩ := habandons
  obtain ⟨id, hid⟩ := Option.ne_none_iff_exists'.mp hneigh
  obtain ⟨info, hlive⟩ := h.live i id hid
  generalize d.task i = t at *
  cases hstep with
  | unrecords neigh =>
    intro hfollows
    have hlease := (hfollows.lease rfl info).mp ⟨id, hid, hlive⟩
    rw [AList.lookup_erase] at hlease
    cases hlease
  | _ => cases hphase

/-- **A refresher goes with its lease exactly if none is abandoned.**  Let an interface be
served by one task.  In every run, whatever the events, the failures and the other tasks, the
refreshers of the interface follow its lease at every moment if and only if the task never has to
record a failed attach while it holds a refresher. -/
theorem refresher_follows_lease_iff
    (honly : ∀ j, cfg.ifaces.get j = cfg.ifaces.get i → j = i)
    {taken : List (Fin cfg.ifaces.length × Dumbarpd cfg)}
    (hrun : Trace (daemonSteps cfg) (spawnAll cfg) taken d) :
    (∀ τ ∈ visited taken d, Follows (cfg.ifaces.get i) (τ.task i) τ.shared) ↔
      ∀ τ, (i, τ) ∈ taken → ¬ (τ.task i).Abandons := by
  constructor
  · intro hall
    induction hrun with
    | start => simp
    | @turn taken τ k t s hrun hstep ih =>
      obtain ⟨hbefore, hlast⟩ := forall_visited_append.mp hall
      intro τ' hmem habandons
      rcases List.mem_append.mp hmem with hmem | hmem
      · exact ih hbefore τ' hmem habandons
      · obtain ⟨rfl, rfl⟩ := Prod.mk.inj (List.mem_singleton.mp hmem)
        have hheld : AllHeld τ' :=
          hrun.visited allHeld_spawnAll (fun _ _ _ _ _ h hs => h.turn hs) τ' (by simp [visited])
        rw [System.set_task, System.set_shared] at hlast
        exact hheld.abandoned hstep habandons hlast
  · intro hnone τ hτ
    have hall := hrun.visited
      (P := fun τ => AllHeld τ ∧ Tracks (cfg.ifaces.get i) (τ.task i) τ.shared)
      ⟨allHeld_spawnAll, rfl⟩ ?_ τ hτ
    · exact hall.1.follows honly hall.2
    · rintro k τ t s hmem ⟨hheld, htracks⟩ hstep
      refine ⟨hheld.turn hstep, ?_⟩
      by_cases hki : k = i
      · subst hki
        rw [System.set_task, System.set_shared]
        exact TaskStep.tracks hstep htracks (hnone τ hmem)
      · rw [System.set_task_of_ne τ k t s (Ne.symm hki), System.set_shared]
        exact hheld.tracks_of_ne (Ne.symm hki) (fun he => hki (honly k he.symm)) hstep htracks

/-- The attach of a lease may fail. -/
lemma reattach_can_fail (engine : Attachments) (iface : String) (ip : Ipv4Addr)
    (dumbarpdId : Option UInt8) (h : Host) :
    Can HostStep (reattach engine iface ip dumbarpdId) h fun r _ => ∃ e, r.1 = .error e := by
  refine Can.bind ?_
  obtain ⟨es, ⟨res, engine'⟩, h', hrun, -⟩ :=
    can_of_total hostStep_total (removeInterface engine iface) h
  have hiface : iface ∉ engine' := by
    rw [removeInterface_runs_erase hrun]
    simp
  refine ⟨es, _, h', hrun, ?_⟩
  show Can HostStep (addInterface engine' iface ip dumbarpdId) h' _
  rw [addInterface, if_neg hiface]
  exact can_call (HostStep.readSys h' _ (.error ["No such file or directory"]))
    (can_ret ⟨_, rfl⟩)

/-- A task that waits can come to attach a lease, to record it and to replace its refresher. -/
lemma exists_renewed {taken : List (Fin cfg.ifaces.length × Dumbarpd cfg)}
    (hrun : Trace (daemonSteps cfg) (spawnAll cfg) taken d) {neigh : Option RefresherId}
    (hi : d.task i = ⟨.listen, neigh⟩) (info : LeaseInfo) :
    ∃ (more : List (Fin cfg.ifaces.length × Dumbarpd cfg)) (d' : Dumbarpd cfg) (id : RefresherId),
      Trace (daemonSteps cfg) (spawnAll cfg) (taken ++ more) d' ∧ (i, d) ∈ more ∧
        (∀ τ, (i, τ) ∈ more → ¬ (τ.task i).Abandons) ∧
        d'.task i = ⟨.listen, some id⟩ ∧ id ∉ d.shared.refreshers ∧
        d'.shared.refreshers = (d.shared.abort neigh).insert id ⟨cfg.ifaces.get i, info⟩ ∧
        d'.shared.leases.lookup (cfg.ifaces.get i) = some info := by
  obtain ⟨id, fresh⟩ := HashMap.exists_notMem d.shared.refreshers
  obtain ⟨es, ⟨res, engine⟩, host, hattach, hres⟩ :=
    reattach_can d.shared.engine (cfg.ifaces.get i) info.ip cfg.dscpId d.shared.host
  obtain rfl : res = .ok () := hres
  have h₁ := hrun.next hi
    (TaskStep.event neigh d.shared (some (.ok ⟨info.ip, some [info.gateway]⟩)))
  have h₂ := h₁.next (System.set_task d i _ _) (TaskStep.attaches neigh hattach)
  have h₃ := h₂.next (System.set_task _ i _ _) (TaskStep.records neigh _ info)
  have h₄ := h₃.next (System.set_task _ i _ _) (TaskStep.respawns neigh info fresh)
  simp only [List.append_assoc, List.cons_append, List.nil_append] at h₄
  refine ⟨_, _, id, h₄, List.mem_cons_self, fun τ hτ => ?_, System.set_task _ i _ _, fresh, rfl,
    AList.lookup_insert _⟩
  rintro ⟨hphase, -⟩
  -- the task is at none of the four moments about to record a failure
  simp only [List.mem_cons, Prod.mk.injEq, true_and, List.not_mem_nil, or_false] at hτ
  rcases hτ with rfl | rfl | rfl | rfl
  · rw [hi] at hphase
    cases hphase
  all_goals
    rw [System.set_task] at hphase
    cases hphase

/-- A task that has not begun can come to wait with a refresher for a lease that is gone. -/
lemma exists_abandoned (i : Fin cfg.ifaces.length) (info : LeaseInfo) :
    ∃ (taken : List (Fin cfg.ifaces.length × Dumbarpd cfg)) (d : Dumbarpd cfg),
      Trace (daemonSteps cfg) (spawnAll cfg) taken d ∧ (d.task i).phase = .listen ∧
        (∃ id, d.shared.refreshers.lookup id = some ⟨cfg.ifaces.get i, info⟩) ∧
        d.shared.leases.lookup (cfg.ifaces.get i) = none := by
  have hstart : Trace (daemonSteps cfg) (spawnAll cfg) [] _ := Trace.start
  have hinit := hstart.next (i := i) rfl (TaskStep.inits none _)
  obtain ⟨more, d₁, id, h₁, -, -, htask, -, hlive, -⟩ :=
    exists_renewed hinit (System.set_task _ i _ _) info
  -- the first lease got its refresher, the second comes and cannot be attached
  have h₂ := h₁.next htask
    (TaskStep.event (some id) _ (some (.ok ⟨info.ip, some [info.gateway]⟩)))
  obtain ⟨es, ⟨res, engine⟩, host, hrun, e, he⟩ :=
    reattach_can_fail d₁.shared.engine (cfg.ifaces.get i) info.ip cfg.dscpId d₁.shared.host
  obtain rfl : res = .error e := he
  have h₃ := h₂.next (System.set_task _ i _ _) (TaskStep.attachFails (some id) hrun)
  have h₄ := h₃.next (System.set_task _ i _ _) (TaskStep.unrecords (some id) _)
  refine ⟨_, _, h₄, by rw [System.set_task], ⟨id, ?_⟩, AList.lookup_erase _ _⟩
  show d₁.shared.refreshers.lookup id = _
  rw [hlive]
  exact AList.lookup_insert _

end Daemon

/-- A file with one interface. -/
def oneIface : ConfigFile := { authToken := "t", ifaces := ["eth0"] }

/-- The task of the interface. -/
def eth0 : Fin oneIface.config.ifaces.length := ⟨0, by decide⟩

/-- **A failed attach leaves the refresher of the lease before it running.** -/
theorem failed_attach_keeps_refresher :
    Config.load ⟨fun _ => .ok "", fun _ => .ok oneIface⟩ "/etc/dumbarpd.toml" =
        .ok oneIface.config ∧
      ∃ (taken : _) (d : Dumbarpd oneIface.config),
        Trace (daemonSteps oneIface.config) (spawnAll oneIface.config) taken d ∧
        (d.task eth0).phase.waits = true ∧
        (∃ id, d.shared.refreshers.lookup id =
          some ⟨"eth0", ⟨⟨10, 0, 0, 5⟩, ⟨10, 0, 0, 1⟩⟩⟩) ∧
        d.shared.leases.lookup "eth0" = none ∧
        ¬ Follows "eth0" (d.task eth0) d.shared := by
  refine ⟨load_ok_iff.mpr ⟨"", oneIface, rfl, rfl, rfl, ?_⟩, ?_⟩
  · exact checked_defaults (by decide) (by decide)
  obtain ⟨taken, d, htaken, hphase, ⟨id, hid⟩, hlease⟩ :=
    exists_abandoned eth0 ⟨⟨10, 0, 0, 5⟩, ⟨10, 0, 0, 1⟩⟩
  have hwaits : (d.task eth0).phase.waits = true := by rw [hphase]; rfl
  refine ⟨taken, d, htaken, hwaits, ⟨id, hid⟩, hlease, fun hfollows => ?_⟩
  have hneigh := hfollows.single id _ hid rfl
  have hsome := (hfollows.lease hwaits _).mp ⟨id, hneigh, hid⟩
  exact Option.some_ne_none _ (hsome.symm.trans hlease)

/-- **A refresher is replaced with its lease**: of two leases in turn the second one's refresher
is left, and at every moment of the run the refresher is the one for the lease. -/
theorem second_lease_replaces_refresher :
    ∃ (taken : _) (d : Dumbarpd oneIface.config) (first second : RefresherId),
      Trace (daemonSteps oneIface.config) (spawnAll oneIface.config) taken d ∧
      (∃ τ ∈ visited taken d, τ.shared.leases.lookup "eth0" = some ⟨⟨10, 0, 0, 5⟩, ⟨10, 0, 0, 1⟩⟩ ∧
        τ.shared.refreshers.lookup first = some ⟨"eth0", ⟨⟨10, 0, 0, 5⟩, ⟨10, 0, 0, 1⟩⟩⟩) ∧
      d.shared.leases.lookup "eth0" = some ⟨⟨10, 0, 0, 6⟩, ⟨10, 0, 0, 1⟩⟩ ∧
      d.shared.refreshers.lookup first = none ∧
      d.shared.refreshers.lookup second = some ⟨"eth0", ⟨⟨10, 0, 0, 6⟩, ⟨10, 0, 0, 1⟩⟩⟩ ∧
      ∀ τ ∈ visited taken d, Follows "eth0" (τ.task eth0) τ.shared := by
  have hstart : Trace (daemonSteps oneIface.config) (spawnAll oneIface.config) [] _ := Trace.start
  have hinit := hstart.next (i := eth0) rfl (TaskStep.inits none _)
  obtain ⟨more₁, d₁, first, h₁, -, hnone₁, htask₁, -, hlive₁, hlease₁⟩ :=
    exists_renewed hinit (System.set_task _ eth0 _ _) ⟨⟨10, 0, 0, 5⟩, ⟨10, 0, 0, 1⟩⟩
  obtain ⟨more₂, d₂, second, h₂, hmem, hnone₂, -, hfresh, hlive₂, hlease₂⟩ :=
    exists_renewed h₁ htask₁ ⟨⟨10, 0, 0, 6⟩, ⟨10, 0, 0, 1⟩⟩
  have hfirst : d₁.shared.refreshers.lookup first =
      some ⟨"eth0", ⟨⟨10, 0, 0, 5⟩, ⟨10, 0, 0, 1⟩⟩⟩ := by
    rw [hlive₁]
    exact AList.lookup_insert _
  have hne : first ≠ second := HashMap.ne_of_lookup hfresh hfirst
  refine ⟨_, d₂, first, second, h₂, ⟨d₁, ?_, hlease₁, hfirst⟩, hlease₂, ?_, ?_, ?_⟩
  · refine List.mem_append_left _ (List.mem_map.mpr ⟨(eth0, d₁), ?_, rfl⟩)
    exact List.mem_append_right _ hmem
  · rw [hlive₂, AList.lookup_insert_ne hne, lookup_abort, if_pos rfl]
  · rw [hlive₂]
    exact AList.lookup_insert _
  · have honly (j : Fin oneIface.config.ifaces.length) (_ : oneIface.config.ifaces.get j =
        oneIface.config.ifaces.get eth0) : j = eth0 := Fin.ext (Nat.lt_one_iff.mp j.isLt)
    refine (refresher_follows_lease_iff honly h₂).mpr fun τ hτ => ?_
    rcases List.mem_append.mp hτ with hτ | hτ
    · rcases List.mem_append.mp hτ with hτ | hτ
      · obtain ⟨-, rfl⟩ := Prod.mk.inj (List.mem_singleton.mp hτ)
        rintro ⟨hphase, -⟩
        cases hphase
      · exact hnone₁ τ hτ
    · exact hnone₂ τ hτ

end Dumbarp.Daemon
