/-
The pools track the leases.

`Watched` adds to the pools the time at which each name was last created or touched, which
nobody in the system keeps.  A pool of the program always shows this time, and its address, as
long as others only delete pools.  A pass that succeeds undisturbed leaves the pools of the
addresses that were reported, and of those it had reason to keep.
-/
import Dumbarp.K8s.Prune

namespace Dumbarp.K8s

open Interact Interact.Prog

variable {ε : Type}

/-! ## The pools and the times of their names -/

/-- The pools of a cluster, and when each name was last created or touched. -/
structure Watched where
  pools : Cluster
  stamps : HashMap String ℤ

/-- The name that a change is about. -/
def Write.name : Write → String
  | .create name _ => name
  | .patch name _ => name
  | .delete name => name

/-- The times once a change was carried out at `now`. -/
def Write.stamp (now : ℤ) (stamps : HashMap String ℤ) : Write → HashMap String ℤ
  | .create name _ => stamps.insert name now
  | .patch name _ => stamps.insert name now
  | .delete _ => stamps

/-- **The API server**, whose changes are watched during a pass at `now`.  The answer to a change
that was carried out may be lost.  A delete is answered by 404 only if the pool is not there. -/
inductive WatchStep (now : ℤ) : Sem Watched KubeOp KubeOp.Res
  | listed {w : Watched} {label value : String} {items : List (String × Pool)}
      (h : items.Perm (selected w.pools label value)) :
      WatchStep now w (.list label value) (.ok items) w
  | listFailed (w : Watched) (label value : String) (e : KubeError) :
      WatchStep now w (.list label value) (.error e) w
  | carriedOut {w : Watched} {write : Write} {pools : Cluster} (r : Except KubeError Unit)
      (h : applyWrite w.pools write = some pools) :
      WatchStep now w (.write write) r ⟨pools, write.stamp now w.stamps⟩
  | refused {w : Watched} {write : Write} (e : KubeError)
      (h : ∀ name, write = .delete name → e = .api 404 → name ∉ w.pools) :
      WatchStep now w (.write write) (.error e) w

/-- Others deleted some pools. -/
structure OnlyDeleted (w w' : Watched) : Prop where
  pools : ∀ {name p}, w'.pools.lookup name = some p → w.pools.lookup name = some p
  stamps : w'.stamps = w.stamps

/-- The moments of the program, with the times of its passes so far: the pools, and what is left
of the pass that is under way.  Others may delete pools at any moment.  At the start no pool is
the program's. -/
inductive Moment (fmt : Rfc3339) (cfg : Config) (ε : Type) :
    List ℤ → Watched → Option (Kube (Except KubeError Unit)) → Prop
  | start {pools : Cluster} (h : ∀ name p, pools.lookup name = some p → ¬ Ours name p) :
      Moment fmt cfg ε [] ⟨pools, ∅⟩ none
  | others {times w w' pass} (h : Moment fmt cfg ε times w pass) (hw : OnlyDeleted w w') :
      Moment fmt cfg ε times w' pass
  | begin {times w now} (h : Moment fmt cfg ε times w none) (hnow : ∀ t ∈ times, t ≤ now)
      (fetched : HostConfig → Except ε (List Ipv4Addr)) :
      Moment fmt cfg ε (now :: times) w (some (reconcileOnce fmt cfg fetched now))
  | call {times now w op next r w'} (h : Moment fmt cfg ε (now :: times) w (some (.call op next)))
      (hstep : WatchStep now w op r w') : Moment fmt cfg ε (now :: times) w' (some (next r))
  | finish {times w res} (h : Moment fmt cfg ε times w (some (.ret res))) :
      Moment fmt cfg ε times w none

/-! ## The pool of an address -/

/-- The pool is labelled as the program's. -/
def Managed (p : Pool) : Prop := p.labels.lookup managedByLabel = some managedByValue

/-- The pool is as the program makes it for the address, and shows the time `t`. -/
structure Shows (fmt : Rfc3339) (address : Ipv4Addr) (t : ℤ) (p : Pool) : Prop extends
    IsPoolOf fmt address t (poolName address) p where
  managed : Managed p
  block : p.blocks = [some (address.toString ++ "/32")]

/-- The address has its pool, under its name, and the pool shows when it was last created or
touched. -/
def HasPool (fmt : Rfc3339) (w : Watched) (ip : Ipv4Addr) (t : ℤ) : Prop :=
  ∃ p, w.pools.lookup (poolName ip) = some p ∧ Shows fmt ip t p ∧
    w.stamps.lookup (poolName ip) = some t

/-- The pools of the program are those of addresses. -/
def Tracked (fmt : Rfc3339) (w : Watched) : Prop :=
  ∀ name p, w.pools.lookup name = some p → Ours name p →
    ∃ ip t, name = poolName ip ∧ HasPool fmt w ip t

section Pools

variable {fmt : Rfc3339} {w w' : Watched} {ip : Ipv4Addr} {t t' now : ℤ}

lemma shows_buildPool (hread : fmt.parse (fmt.format now) = some now) (ip : Ipv4Addr) :
    Shows fmt ip now (buildPool fmt ip now) where
  toIsPoolOf := isPoolOf_buildPool hread ip
  managed := AList.lookup_insert _
  block := rfl

lemma Shows.touched {p : Pool} (h : Shows fmt ip t p)
    (hread : fmt.parse (fmt.format now) = some now) :
    Shows fmt ip now (p.annotate [( lastSeenAnnotation, fmt.format now)]) where
  toIsPoolOf := h.toIsPoolOf.touched hread
  managed := h.managed
  block := h.block

lemma HasPool.unique (h : HasPool fmt w ip t) (h' : HasPool fmt w ip t') : t = t' := by
  obtain ⟨p, -, -, ht⟩ := h
  obtain ⟨p', -, -, ht'⟩ := h'
  exact Option.some.inj (ht.symm.trans ht')

/-- What is under the name of an address, and its time, decide about its pool. -/
lemma HasPool.congr (h : HasPool fmt w ip t)
    (hpools : w'.pools.lookup (poolName ip) = w.pools.lookup (poolName ip))
    (hstamps : w'.stamps.lookup (poolName ip) = w.stamps.lookup (poolName ip)) :
    HasPool fmt w' ip t := by
  obtain ⟨p, hp, hshows, ht⟩ := h
  exact ⟨p, hpools.trans hp, hshows, hstamps.trans ht⟩

/-- What is under the name of an address is its pool. -/
lemma Tracked.hasPool {p : Pool} (h : Tracked fmt w) (hp : w.pools.lookup (poolName ip) = some p) :
    ∃ t, HasPool fmt w ip t := by
  obtain ⟨ip', t, hname, hpool⟩ := h _ p hp (Or.inr ⟨ip, rfl⟩)
  obtain rfl := poolName_injective hname
  exact ⟨t, hpool⟩

lemma Tracked.others (h : Tracked fmt w) (hw : OnlyDeleted w w') : Tracked fmt w' := by
  intro name p hp hours
  obtain ⟨ip, t, rfl, p', hp', hshows, ht⟩ := h name p (hw.pools hp) hours
  obtain rfl := Option.some.inj (hp'.symm.trans (hw.pools hp))
  exact ⟨ip, t, rfl, p', hp, hshows, hw.stamps ▸ ht⟩

end Pools

/-! ## What a call does -/

/-- The calls of a pass at `now`: creates and touches are those of addresses. -/
def Stamps (fmt : Rfc3339) (now : ℤ) : KubeOp → Prop
  | .list _ _ => True
  | .write (.create name pool) => ∃ ip, name = poolName ip ∧ pool = buildPool fmt ip now
  | .write (.patch name annotations) =>
    ∃ ip, name = poolName ip ∧ annotations = [( lastSeenAnnotation, fmt.format now)]
  | .write (.delete _) => True

/-- The call changes nothing under the name. -/
def Spares (name : String) : KubeOp → Prop
  | .list _ _ => True
  | .write write => write.name ≠ name

section Calls

variable {fmt : Rfc3339} {now : ℤ} {w w' : Watched} {op : KubeOp} {r : op.Res} {name : String}
  {ip : Ipv4Addr}

/-- A call leaves other names. -/
lemma WatchStep.spares (h : WatchStep now w op r w') (hop : Spares name op) :
    w'.pools.lookup name = w.pools.lookup name ∧ w'.stamps.lookup name = w.stamps.lookup name := by
  cases h with
  | listed => exact ⟨rfl, rfl⟩
  | listFailed => exact ⟨rfl, rfl⟩
  | refused => exact ⟨rfl, rfl⟩
  | @carriedOut w write pools r h =>
    have hne : name ≠ write.name := fun he => hop he.symm
    cases write with
    | create n pool =>
      obtain ⟨-, rfl⟩ := applyWrite_create_inv h
      exact ⟨AList.lookup_insert_ne hne, AList.lookup_insert_ne hne⟩
    | patch n annotations =>
      obtain ⟨p, -, rfl⟩ := applyWrite_patch_inv h
      exact ⟨AList.lookup_insert_ne hne, AList.lookup_insert_ne hne⟩
    | delete n =>
      obtain rfl := applyWrite_delete_inv h
      exact ⟨AList.lookup_erase_ne hne, rfl⟩

/-- A create that is carried out gives the address its pool. -/
lemma hasPool_of_create {pools : Cluster} (hread : fmt.parse (fmt.format now) = some now)
    (h : applyWrite w.pools (.create (poolName ip) (buildPool fmt ip now)) = some pools) :
    HasPool fmt ⟨pools, w.stamps.insert (poolName ip) now⟩ ip now := by
  obtain ⟨-, rfl⟩ := applyWrite_create_inv h
  exact ⟨_, AList.lookup_insert _, shows_buildPool hread ip, AList.lookup_insert _⟩

/-- A touch that is carried out leaves the pool of the address with the time of the touch. -/
lemma hasPool_of_touch {pools : Cluster} (hread : fmt.parse (fmt.format now) = some now)
    (hw : Tracked fmt w)
    (h : applyWrite w.pools (.patch (poolName ip) [( lastSeenAnnotation, fmt.format now)]) =
      some pools) :
    HasPool fmt ⟨pools, w.stamps.insert (poolName ip) now⟩ ip now := by
  obtain ⟨p, hp, rfl⟩ := applyWrite_patch_inv h
  obtain ⟨t, p', hp', hshows, -⟩ := hw.hasPool hp
  obtain rfl := Option.some.inj (hp'.symm.trans hp)
  exact ⟨_, AList.lookup_insert _, hshows.touched hread, AList.lookup_insert _⟩

/-- The step lemma: a call of a pass keeps the pools of addresses. -/
lemma Tracked.step (h : Tracked fmt w) (hread : fmt.parse (fmt.format now) = some now)
    (hop : Stamps fmt now op) (hstep : WatchStep now w op r w') : Tracked fmt w' := by
  intro name p hp hours
  -- under every other name there is what was there
  have hother (hname : Spares name op) : ∃ ip t, name = poolName ip ∧ HasPool fmt w' ip t := by
    obtain ⟨hpools, hstamps⟩ := hstep.spares hname
    obtain ⟨ip, t, rfl, hpool⟩ := h name p (hpools.symm.trans hp) hours
    exact ⟨ip, t, rfl, hpool.congr hpools hstamps⟩
  cases hstep with
  | listed => exact h name p hp hours
  | listFailed => exact h name p hp hours
  | refused => exact h name p hp hours
  | @carriedOut w write pools r hw =>
    by_cases hname : write.name = name
    · cases write with
      | create n pool =>
        obtain ⟨ip, rfl, rfl⟩ := hop
        exact ⟨ip, now, hname.symm, hasPool_of_create hread hw⟩
      | patch n annotations =>
        obtain ⟨ip, rfl, rfl⟩ := hop
        exact ⟨ip, now, hname.symm, hasPool_of_touch hread h hw⟩
      | delete n =>
        obtain rfl := applyWrite_delete_inv hw
        obtain rfl : n = name := hname
        exact absurd rfl (HashMap.lookup_of_erase hp).1
    · exact hother hname

end Calls

/-! ## What a pass asks for, and what a list gives -/

section Makes

variable {fmt : Rfc3339} {cfg : Config} {fetched : HostConfig → Except ε (List Ipv4Addr)}
  {now : ℤ}

lemma Allowed.stamps {desired : List Ipv4Addr} {allHostsOk : Bool} {threshold : ℤ}
    {current : HashMap Ipv4Addr ExistingPool} {op : KubeOp}
    (h : Allowed fmt desired allHostsOk threshold current now op) : Stamps fmt now op := by
  cases h with
  | @create ip h => exact ⟨ip, rfl, rfl⟩
  | @touch ip h => exact ⟨ip, rfl, rfl⟩
  | delete => trivial

lemma reconcileOnce_makes : Makes (Stamps fmt now) (reconcileOnce fmt cfg fetched now) := by
  refine ⟨trivial, fun r => ?_⟩
  cases r with
  | error e => trivial
  | ok items => exact afterList_makes.mono fun _ => Allowed.stamps

variable {times : List ℤ} {w w' : Watched} {pass : Option (Kube (Except KubeError Unit))}

/-- The run lemma: at every moment the pools of the program are those of addresses. -/
lemma Moment.tracked (h : Moment fmt cfg ε times w pass)
    (hread : ∀ t ∈ times, fmt.parse (fmt.format t) = some t) :
    Tracked fmt w ∧ ∀ p, pass = some p → ∃ now ∈ times.head?, Makes (Stamps fmt now) p := by
  induction h with
  | start hpools => exact ⟨fun name p hp hours => absurd hours (hpools name p hp), nofun⟩
  | others _ hw ih => exact ⟨(ih hread).1.others hw, (ih hread).2⟩
  | @begin times w now _ _ fetched ih =>
    refine ⟨(ih fun t ht => hread t (List.mem_cons_of_mem _ ht)).1, ?_⟩
    rintro p ⟨⟩
    exact ⟨now, rfl, reconcileOnce_makes⟩
  | @call times now w op next r w' _ hstep ih =>
    obtain ⟨htracked, hmakes⟩ := ih hread
    obtain ⟨now', hnow, hop, hnext⟩ := hmakes _ rfl
    obtain rfl := Option.some.inj hnow
    refine ⟨htracked.step (hread now List.mem_cons_self) hop hstep, ?_⟩
    rintro p ⟨⟩
    exact ⟨now, rfl, hnext r⟩
  | finish _ ih => exact ⟨(ih hread).1, nofun⟩

/-- **What a list recovers**: the addresses that have their pools, with names and times. -/
lemma Tracked.listed (h : Tracked fmt w) {items : List (String × Pool)}
    (hitems : items.Perm (selected w.pools managedByLabel managedByValue)) (ip : Ipv4Addr)
    (existing : ExistingPool) :
    (items.foldl (listPool fmt) ∅).lookup ip = some existing ↔
      ∃ t, HasPool fmt w ip t ∧ existing = ⟨poolName ip, some t⟩ := by
  have hfound : ∀ existing, (items.foldl (listPool fmt) ∅).lookup ip = some existing →
      ∃ t, HasPool fmt w ip t ∧ existing = ⟨poolName ip, some t⟩ := by
    rintro ⟨name, lastSeen⟩ hl
    rcases lookup_listPool hl with hnone | ⟨p, hp, hip, hseen⟩
    · cases hnone
    · obtain ⟨hlookup, hlabel⟩ := mem_selected.mp (hitems.mem_iff.mp hp)
      obtain ⟨ip', t, hname, p', hp', hshows, ht⟩ := h _ p hlookup (Or.inl hlabel)
      obtain rfl : name = poolName ip' := hname
      obtain rfl := Option.some.inj (hp'.symm.trans hlookup)
      obtain rfl := Option.some.inj (hshows.ip.symm.trans hip)
      obtain rfl : lastSeen = some t := hseen.trans hshows.lastSeen
      exact ⟨t, ⟨p', hp', hshows, ht⟩, rfl⟩
  constructor
  · exact hfound existing
  · rintro ⟨t, hpool, rfl⟩
    have hmem : ip ∈ items.foldl (listPool fmt) ∅ := by
      obtain ⟨p, hp, hshows, -⟩ := hpool
      have hlisted : (poolName ip, p) ∈ items :=
        hitems.mem_iff.mpr (mem_selected.mpr ⟨hp, hshows.managed⟩)
      exact mem_listPool (Or.inr ⟨_, hlisted, hshows.ip⟩)
    obtain ⟨existing, hl⟩ := HashMap.mem_iff_lookup.mp hmem
    obtain ⟨t', hpool', rfl⟩ := hfound existing hl
    rw [hpool.unique hpool']
    exact hl

end Makes

/-! ## A pass that succeeds undisturbed -/

section Succeeds

variable {fmt : Rfc3339} {cfg : Config} {fetched : HostConfig → Except ε (List Ipv4Addr)}
  {desired : List Ipv4Addr} {allHostsOk : Bool} {threshold now : ℤ}
  {current : HashMap Ipv4Addr ExistingPool} {w w' : Watched} {es : List KubeEvent}
  {ip y : Ipv4Addr} {name : String}

/-- A program that spares a name leaves what is there. -/
lemma runs_spares (name : String) {α : Type} {p : Kube α} {a : α} (hp : Makes (Spares name) p)
    (hrun : Runs (WatchStep now) p w es a w') :
    w'.pools.lookup name = w.pools.lookup name ∧ w'.stamps.lookup name = w.stamps.lookup name := by
  refine hp.preserves (J := fun v => v.pools.lookup name = w.pools.lookup name ∧
    v.stamps.lookup name = w.stamps.lookup name) ?_ hrun ⟨rfl, rfl⟩
  rintro v op r v' hop hstep ⟨hpools, hstamps⟩
  obtain ⟨hpools', hstamps'⟩ := hstep.spares hop
  exact ⟨hpools'.trans hpools, hstamps'.trans hstamps⟩

lemma keepPool_stamps (y : Ipv4Addr) : Makes (Stamps fmt now) (keepPool fmt current now y) :=
  keepPool_makes_of ⟨y, rfl, rfl⟩ ⟨y, rfl, rfl⟩

/-- The first loop touches the pool of an address in the turn of this address only. -/
lemma keepPool_spares (hy : y ≠ ip) :
    Makes (Spares (poolName ip)) (keepPool fmt current now y) := by
  have hne : poolName y ≠ poolName ip := fun he => hy (poolName_injective he)
  exact keepPool_makes_of hne hne

/-- So does the second loop, and not at all if the pool is to stay. -/
lemma prunePool_spares
    (hnames : ∀ existing, current.lookup y = some existing → existing.name = poolName y)
    (h : y = ip → y ∉ desired → ∀ existing, current.lookup y = some existing →
      prunes allHostsOk threshold existing = false) :
    Makes (Spares (poolName ip)) (prunePool desired allHostsOk threshold current y) := by
  refine prunePool_makes_of fun existing hcurrent hy hprune he => ?_
  have hname : poolName y = poolName ip := (hnames existing hcurrent).symm.trans he
  rw [h (poolName_injective hname) hy existing hcurrent] at hprune
  cases hprune

/-- A turn of the first loop that succeeds leaves the address with its pool, touched now. -/
lemma keepPool_ok (hread : fmt.parse (fmt.format now) = some now) (hw : Tracked fmt w)
    (hrun : Runs (WatchStep now) (keepPool fmt current now ip) w es (.ok ()) w') :
    HasPool fmt w' ip now := by
  rcases runs_keepPool_cases hrun with ⟨-, -, hcreate⟩ | ⟨w₁, -, hbefore, htouch⟩
  · cases hcreate with
    | carriedOut _ h => exact hasPool_of_create hread h
  · have hop : Stamps fmt now (.write (.create (poolName ip) (buildPool fmt ip now))) :=
      ⟨ip, rfl, rfl⟩
    have hw₁ : Tracked fmt w₁ := by
      rcases hbefore with rfl | htaken
      · exact hw
      · exact hw.step hread hop htaken
    cases htouch with
    | carriedOut _ h => exact hasPool_of_touch hread hw₁ h

/-- A delete that succeeds, or finds nothing to delete, leaves no pool. -/
lemma deletePool_ok (hrun : Runs (WatchStep now) (deletePool name) w es (.ok ()) w') :
    name ∉ w'.pools := by
  obtain ⟨r, w₁, es', rfl, hstep, hrest⟩ := runs_call_inv hrun
  have hdone : ∀ pools, applyWrite w.pools (.delete name) = some pools → name ∉ pools := by
    intro pools h
    rw [applyWrite_delete_inv h]
    simp
  cases r with
  | ok u =>
    obtain ⟨-, -, rfl⟩ := runs_ret_inv hrest
    cases hstep with
    | carriedOut _ h => exact hdone _ h
  | error e =>
    replace hrest : Runs (WatchStep now)
        (if e = .api 404 then ret (Except.ok ()) else ret (Except.error e)) w₁ es' (.ok ()) w' :=
      hrest
    split at hrest
    · rename_i he
      obtain ⟨-, -, rfl⟩ := runs_ret_inv hrest
      cases hstep with
      | carriedOut _ h => exact hdone _ h
      | refused _ h => exact h name rfl he
    · cases (runs_ret_inv hrest).2.1

/-- After the first loop each desired address has its pool, touched now. -/
lemma keepLoop_ok (hread : fmt.parse (fmt.format now) = some now) (hw : Tracked fmt w)
    (hnodup : desired.Nodup) (hip : ip ∈ desired)
    (hrun : Runs (WatchStep now) (tryEach (keepPool fmt current now) desired) w es (.ok ()) w') :
    HasPool fmt w' ip now := by
  obtain ⟨ys, zs, w₁, w₂, es₁, es₂, es₃, rfl, hys, hbody, hzs⟩ := runs_tryEach_ok hrun hip
  have hw₁ : Tracked fmt w₁ := (makes_tryEach fun y _ => keepPool_stamps y).preserves
    (fun _ _ _ _ hop hstep h => h.step hread hop hstep) hys hw
  have hpool : HasPool fmt w₂ ip now := keepPool_ok hread hw₁ hbody
  -- the later turns are those of other addresses
  have hzip : ip ∉ zs := (List.nodup_cons.mp (List.nodup_append.mp hnodup).2.1).1
  have hspares : Makes (Spares (poolName ip)) (tryEach (keepPool fmt current now) zs) :=
    makes_tryEach fun y hy => keepPool_spares fun he => hzip (he ▸ hy)
  obtain ⟨hpools, hstamps⟩ := runs_spares _ hspares hzs
  exact hpool.congr hpools hstamps

/-- After the second loop a pool that is to go has gone. -/
lemma pruneLoop_ok {xs : List Ipv4Addr} {existing : ExistingPool}
    (hnames : ∀ y existing, current.lookup y = some existing → existing.name = poolName y)
    (hnodup : xs.Nodup) (hip : ip ∈ xs) (hcurrent : current.lookup ip = some existing)
    (hdesired : ip ∉ desired) (hprune : prunes allHostsOk threshold existing = true)
    (hrun : Runs (WatchStep now) (tryEach (prunePool desired allHostsOk threshold current) xs) w es
      (.ok ()) w') : poolName ip ∉ w'.pools := by
  obtain ⟨ys, zs, w₁, w₂, es₁, es₂, es₃, rfl, hys, hbody, hzs⟩ := runs_tryEach_ok hrun hip
  have hgone : poolName ip ∉ w₂.pools := by
    rw [prunePool, hcurrent] at hbody
    simp only [if_neg hdesired, if_pos hprune, hnames ip existing hcurrent] at hbody
    exact deletePool_ok hbody
  have hzip : ip ∉ zs := (List.nodup_cons.mp (List.nodup_append.mp hnodup).2.1).1
  have hspares : Makes (Spares (poolName ip))
      (tryEach (prunePool desired allHostsOk threshold current) zs) :=
    makes_tryEach fun y hy => prunePool_spares (hnames y) fun he => absurd (he ▸ hy) hzip
  rw [HashMap.mem_iff_lookup, (runs_spares _ hspares hzs).1, ← HashMap.mem_iff_lookup]
  exact hgone

lemma nodup_ordered (ips : List Ipv4Addr) : (ordered ips).Nodup :=
  (List.perm_insertionSort _ _).nodup_iff.mpr (List.nodup_dedup ips)

lemma prunes_iff {t : ℤ} :
    prunes allHostsOk threshold ⟨name, some t⟩ = true ↔ allHostsOk = true ∨ t < threshold := by
  rw [prunes]
  split
  · simp [*]
  · simp [*]

/-! What a pass does after it has listed the pools as `items`, for one address. -/

section AfterList

variable {items : List (String × Pool)} {m : Watched} {es₁ es₂ : List KubeEvent} {t : ℤ}

/-- A list gives every pool under the name of its address. -/
lemma Tracked.listed_name (h : Tracked fmt w)
    (hitems : items.Perm (selected w.pools managedByLabel managedByValue)) (y : Ipv4Addr)
    (existing : ExistingPool) (hl : (items.foldl (listPool fmt) ∅).lookup y = some existing) :
    existing.name = poolName y := by
  obtain ⟨t, -, rfl⟩ := (h.listed hitems y existing).mp hl
  rfl

/-- A desired address is touched by the first loop and spared by the second. -/
lemma Tracked.desired_touched (h : Tracked fmt w) (hread : fmt.parse (fmt.format now) = some now)
    (hitems : items.Perm (selected w.pools managedByLabel managedByValue))
    (hnodup : desired.Nodup) (hip : ip ∈ desired)
    (hkeep : Runs (WatchStep now)
      (tryEach (keepPool fmt (items.foldl (listPool fmt) ∅) now) desired) w es₁ (.ok ()) m)
    (hprune : Runs (WatchStep now) (tryEach (prunePool desired allHostsOk threshold
      (items.foldl (listPool fmt) ∅)) (ordered (items.foldl (listPool fmt) ∅).keys)) m es₂ (.ok ())
      w') : HasPool fmt w' ip now := by
  have hm : HasPool fmt m ip now := keepLoop_ok hread h hnodup hip hkeep
  obtain ⟨hpools, hstamps⟩ := runs_spares (poolName ip)
    (makes_tryEach fun y _ => prunePool_spares (h.listed_name hitems y) fun he hy =>
      absurd (he ▸ hip) hy) hprune
  exact hm.congr hpools hstamps

/-- The pool of any other address is left or deleted by the second loop. -/
lemma Tracked.others_pruned (h : Tracked fmt w)
    (hitems : items.Perm (selected w.pools managedByLabel managedByValue)) (hip : ip ∉ desired)
    (hkeep : Runs (WatchStep now)
      (tryEach (keepPool fmt (items.foldl (listPool fmt) ∅) now) desired) w es₁ (.ok ()) m)
    (hprune : Runs (WatchStep now) (tryEach (prunePool desired allHostsOk threshold
      (items.foldl (listPool fmt) ∅)) (ordered (items.foldl (listPool fmt) ∅).keys)) m es₂ (.ok ())
      w') :
    HasPool fmt w' ip t ↔ HasPool fmt w ip t ∧ allHostsOk = false ∧ threshold ≤ t := by
  obtain ⟨hpools₁, hstamps₁⟩ := runs_spares (poolName ip)
    (makes_tryEach fun y hy => keepPool_spares fun he => hip (he ▸ hy)) hkeep
  by_cases hgoes : ∃ t₀, HasPool fmt w ip t₀ ∧ (allHostsOk = true ∨ t₀ < threshold)
  · obtain ⟨t₀, hpool, hwhy⟩ := hgoes
    have hl := (h.listed hitems ip _).mpr ⟨t₀, hpool, rfl⟩
    have hmem : ip ∈ ordered (items.foldl (listPool fmt) ∅).keys :=
      mem_ordered.mpr (AList.mem_keys.mp (HashMap.mem_iff_lookup.mpr ⟨_, hl⟩))
    have hgone : poolName ip ∉ w'.pools := pruneLoop_ok (h.listed_name hitems) (nodup_ordered _)
      hmem hl hip (prunes_iff.mpr hwhy) hprune
    constructor
    · rintro ⟨p, hp, -⟩
      exact absurd (HashMap.mem_iff_lookup.mpr ⟨p, hp⟩) hgone
    · rintro ⟨ht, hfailed, hfresh⟩
      obtain rfl := ht.unique hpool
      rcases hwhy with hall | hold
      · rw [hfailed] at hall
        cases hall
      · exact absurd hold (not_lt.mpr hfresh)
  · -- there is nothing to delete, so both loops spare the name
    obtain ⟨hpools₂, hstamps₂⟩ := runs_spares (poolName ip)
      (makes_tryEach fun y _ => prunePool_spares (h.listed_name hitems y) fun he _ existing hl => by
        subst he
        obtain ⟨t₀, hpool, rfl⟩ := (h.listed hitems y existing).mp hl
        rw [Bool.eq_false_iff]
        exact fun hp => hgoes ⟨t₀, hpool, prunes_iff.mp hp⟩) hprune
    have hpools := hpools₂.trans hpools₁
    have hstamps := hstamps₂.trans hstamps₁
    constructor
    · intro ht
      have hw : HasPool fmt w ip t := ht.congr hpools.symm hstamps.symm
      refine ⟨hw, ?_, ?_⟩
      · rw [Bool.eq_false_iff]
        exact fun hall => hgoes ⟨t, hw, Or.inl hall⟩
      · exact not_lt.mp fun hold => hgoes ⟨t, hw, Or.inr hold⟩
    · rintro ⟨ht, -⟩
      exact ht.congr hpools hstamps

end AfterList

/-- The pool of `ip` after a pass at `now` was touched by it, or had been there and is kept. -/
def Left (fmt : Rfc3339) (cfg : Config) (fetched : HostConfig → Except ε (List Ipv4Addr)) (now : ℤ)
    (w : Watched) (ip : Ipv4Addr) (t : ℤ) : Prop :=
  (Reported cfg fetched ip ∧ t = now) ∨
    (¬ Reported cfg fetched ip ∧ HasPool fmt w ip t ∧ ¬ AllAnswered cfg fetched ∧
      staleThreshold cfg now ≤ t)

/-- **What a pass leaves** that succeeds while nobody else deletes pools. -/
lemma Tracked.pass (h : Tracked fmt w) (hread : fmt.parse (fmt.format now) = some now)
    (hrun : Runs (WatchStep now) (reconcileOnce fmt cfg fetched now) w es (.ok ()) w')
    (ip : Ipv4Addr) (t : ℤ) : HasPool fmt w' ip t ↔ Left fmt cfg fetched now w ip t := by
  rcases runs_reconcileOnce_cases hrun with ⟨e, -, hres, -⟩ | ⟨items, w₁, es', hlist, -, hrest⟩
  · cases hres
  obtain ⟨rfl, hitems⟩ : w₁ = w ∧
      items.Perm (selected w.pools managedByLabel managedByValue) := by
    cases hlist with
    | listed h => exact ⟨rfl, h⟩
  obtain ⟨es₁, r, m, es₂, -, hkeep, hprune⟩ := runs_bind_inv hrest
  cases r with
  | error e => cases (runs_ret_inv hprune).2.1
  | ok u =>
    by_cases hrep : Reported cfg fetched ip
    · have hw' : HasPool fmt w' ip now :=
        h.desired_touched hread hitems (nodup_ordered _) (mem_desired.mpr hrep) hkeep hprune
      constructor
      · intro ht
        exact Or.inl ⟨hrep, ht.unique hw'⟩
      · rintro (⟨-, rfl⟩ | ⟨hnot, -⟩)
        · exact hw'
        · exact absurd hrep hnot
    · have hiff := h.others_pruned (t := t) hitems (fun hd => hrep (mem_desired.mp hd)) hkeep hprune
      rw [hiff, Left, ← allHostsOk_iff, Bool.not_eq_true]
      simp only [hrep, false_and, not_false_eq_true, true_and, false_or]

/-- After a pass the pools of the program are those of addresses. -/
lemma Tracked.afterPass {res : Except KubeError Unit} (h : Tracked fmt w)
    (hread : fmt.parse (fmt.format now) = some now)
    (hrun : Runs (WatchStep now) (reconcileOnce fmt cfg fetched now) w es res w') :
    Tracked fmt w' :=
  reconcileOnce_makes.preserves (fun _ _ _ _ hop hstep h => h.step hread hop hstep) hrun h

end Succeeds

/-! ## The pools and the leases -/

/-- Managed pools of one address have one name. -/
lemma Tracked.name_unique {fmt : Rfc3339} {w : Watched} {ip : Ipv4Addr} {name : String} {p : Pool}
    (h : Tracked fmt w) (hp : w.pools.lookup name = some p) (hmanaged : Managed p)
    (hip : ipOf p = some ip) : name = poolName ip := by
  obtain ⟨ip', t, rfl, p', hp', hshows, -⟩ := h name p hp (Or.inl hmanaged)
  obtain rfl := Option.some.inj (hp'.symm.trans hp)
  obtain rfl := Option.some.inj (hshows.ip.symm.trans hip)
  rfl

/-- **The pool set tracks the leases exactly.**  At every moment each managed pool is that of an
address: under its name, with its block, and with the time of its last create or touch.  No two
are of one address, no two addresses share a name, and a list recovers address, name and time.  A
pass that succeeds while nobody deletes pools leaves the pools of the reported addresses, seen
now, and those that were there of addresses whose hosts may merely be away. -/
theorem pools_track_leases {fmt : Rfc3339} {cfg : Config} {times : List ℤ} {w : Watched}
    {pass : Option (Kube (Except KubeError Unit))} (h : Moment fmt cfg ε times w pass)
    (hread : ∀ t ∈ times, fmt.parse (fmt.format t) = some t) :
    (∀ name p, w.pools.lookup name = some p → Managed p →
      ∃ ip t, name = poolName ip ∧ HasPool fmt w ip t) ∧
    (∀ ip n₁ p₁ n₂ p₂, w.pools.lookup n₁ = some p₁ → Managed p₁ → ipOf p₁ = some ip →
      w.pools.lookup n₂ = some p₂ → Managed p₂ → ipOf p₂ = some ip → n₁ = n₂) ∧
    Function.Injective poolName ∧
    (∀ now es current w', Runs (WatchStep now) (listCurrent fmt) w es (.ok current) w' →
      ∀ ip existing, current.lookup ip = some existing ↔
        ∃ t, HasPool fmt w ip t ∧ existing = ⟨poolName ip, some t⟩) ∧
    ∀ now (fetched : HostConfig → Except ε (List Ipv4Addr)) es w',
      fmt.parse (fmt.format now) = some now →
      Runs (WatchStep now) (reconcileOnce fmt cfg fetched now) w es (.ok ()) w' →
        Tracked fmt w' ∧ ∀ ip t, HasPool fmt w' ip t ↔ Left fmt cfg fetched now w ip t := by
  have htracked : Tracked fmt w := (h.tracked hread).1
  refine ⟨fun name p hp hmanaged => htracked name p hp (Or.inl hmanaged), ?_, poolName_injective,
    ?_, ?_⟩
  · intro ip n₁ p₁ n₂ p₂ hp₁ hm₁ hip₁ hp₂ hm₂ hip₂
    rw [htracked.name_unique hp₁ hm₁ hip₁, htracked.name_unique hp₂ hm₂ hip₂]
  · intro now es current w' hrun ip existing
    obtain ⟨r, w₁, es', -, hstep, hrest⟩ := runs_call_inv hrun
    cases hstep with
    | listed hitems =>
      obtain ⟨-, hres, -⟩ := runs_ret_inv hrest
      obtain rfl := Except.ok.inj hres
      exact htracked.listed hitems ip existing
    | listFailed => cases (runs_ret_inv hrest).2.1
  · intro now fetched es w' hnow hrun
    exact ⟨htracked.afterPass hnow hrun, htracked.pass hnow hrun⟩

/-! ## A host that is away -/

/-- The answer of a server that carries out what it can. -/
def watchAnswer (now : ℤ) (w : Watched) : (op : KubeOp) → op.Res × Watched
  | .list label value => (.ok (selected w.pools label value), w)
  | .write write =>
    match applyWrite w.pools write with
    | some pools => (.ok (), ⟨pools, write.stamp now w.stamps⟩)
    | none => (.error (.api (match write with | .create _ _ => 409 | _ => 404)), w)

lemma watchAnswer_step (now : ℤ) (w : Watched) (op : KubeOp) :
    WatchStep now w op (watchAnswer now w op).1 (watchAnswer now w op).2 := by
  cases op with
  | list label value => exact WatchStep.listed (List.Perm.refl _)
  | write write =>
    simp only [watchAnswer]
    cases h : applyWrite w.pools write with
    | some pools => exact WatchStep.carriedOut _ h
    | none =>
      refine WatchStep.refused _ ?_
      rintro name rfl -
      simp only [applyWrite] at h
      split at h
      · cases h
      · assumption

/-- A whole pass takes the program from one moment to another. -/
lemma Moment.pass {fmt : Rfc3339} {cfg : Config} {times : List ℤ} {w w' : Watched} {now : ℤ}
    {fetched : HostConfig → Except ε (List Ipv4Addr)} {es : List KubeEvent}
    {res : Except KubeError Unit} (h : Moment fmt cfg ε times w none) (hnow : ∀ t ∈ times, t ≤ now)
    (hrun : Runs (WatchStep now) (reconcileOnce fmt cfg fetched now) w es res w') :
    Moment fmt cfg ε (now :: times) w' none := by
  have hbegin := h.begin hnow fetched
  clear h
  generalize reconcileOnce fmt cfg fetched now = p at hrun hbegin
  induction hrun with
  | ret a w => exact hbegin.finish
  | call hstep _ ih => exact ih (hbegin.call hstep)

/-- A pass against that server. -/
def watchPass (fetched : HostConfig → Except String (List Ipv4Addr)) (now : ℤ) (w : Watched) :
    List KubeEvent × Except KubeError Unit × Watched :=
  exec (watchAnswer now) (reconcileOnce epochText twoHosts fetched now) w

lemma watchPass_runs (fetched : HostConfig → Except String (List Ipv4Addr)) (now : ℤ)
    (w : Watched) :
    Runs (WatchStep now) (reconcileOnce epochText twoHosts fetched now) w
      (watchPass fetched now w).1 (watchPass fetched now w).2.1 (watchPass fetched now w).2.2 :=
  exec_runs (watchAnswer_step now) _ _

/-- The pools after a pass that both hosts answered. -/
def bothSeen : Watched := (watchPass bothAnswer 0 ⟨∅, ∅⟩).2.2

/-- The pools after a later pass that the second host did not answer. -/
def oneSeen : Watched := (watchPass oneAnswers 200000000000 bothSeen).2.2

/-- Within the window the pool of the host that is away stays as it is; the other is touched. -/
theorem pool_of_absent_host_kept :
    HasPool epochText oneSeen ⟨110, 0, 0, 1⟩ 200000000000 ∧
      HasPool epochText oneSeen ⟨110, 0, 0, 2⟩ 0 := by
  have h₀ : Moment epochText twoHosts String [] ⟨∅, ∅⟩ none := Moment.start nofun
  have hok₁ : (watchPass bothAnswer 0 ⟨∅, ∅⟩).2.1 = .ok () := by decide +kernel
  have hrun₁ := watchPass_runs bothAnswer 0 ⟨∅, ∅⟩
  have h₁ : Moment epochText twoHosts String [0] bothSeen none := h₀.pass (by simp) hrun₁
  rw [hok₁] at hrun₁
  have hboth := ((pools_track_leases h₀ (by simp)).2.2.2.2 0 bothAnswer _ bothSeen (by decide)
    hrun₁).2
  have hok₂ : (watchPass oneAnswers 200000000000 bothSeen).2.1 = .ok () := by decide +kernel
  have hrun₂ := watchPass_runs oneAnswers 200000000000 bothSeen
  rw [hok₂] at hrun₂
  have hone := ((pools_track_leases h₁ (by simp [epochText])).2.2.2.2 200000000000 oneAnswers _
    oneSeen (by decide) hrun₂).2
  have hfirst : Reported twoHosts oneAnswers ⟨110, 0, 0, 1⟩ :=
    ⟨⟨"a", "http://10.0.0.5:1028", "/run/a"⟩, by decide, _, rfl, by decide⟩
  have hsecond : Reported twoHosts bothAnswer ⟨110, 0, 0, 2⟩ :=
    ⟨⟨"b", "http://10.0.0.6:1028", "/run/b"⟩, by decide, _, rfl, by decide⟩
  refine ⟨(hone _ _).mpr (Or.inl ⟨hfirst, rfl⟩), (hone _ _).mpr (Or.inr ⟨?_, ?_, ?_, by decide⟩)⟩
  · intro hrep
    exact absurd (mem_desired.mpr hrep) (by decide)
  · exact (hboth _ _).mpr (Or.inl ⟨hsecond, rfl⟩)
  · intro hall
    exact absurd (allHostsOk_iff.mpr hall) (by decide)

end Dumbarp.K8s
