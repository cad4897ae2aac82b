/-
When a pool is deleted.

A pool is stamped with the time of the latest pass that touched it, and a pass that cannot reach
every host deletes a pool only when its stamp is older than the window.  The stamp tells when the
address was reported last as long as each pass touches every reported address that has a pool.
But an error of the API ends a pass, and leaves the pools of later addresses with stamps that are
too old.  A later pass then deletes them although they were reported within the window.

Runs are listed newest pass first.
-/
import Dumbarp.K8s.Cluster

namespace Dumbarp.K8s

open Interact Interact.Prog

variable {ε : Type}

/-! ## Runs -/

/-- A pass of a run: its time, what its fetches answered, the cluster it found, and the calls it
made. -/
structure PassRecord (ε : Type) where
  now : ℤ
  fetched : HostConfig → Except ε (List Ipv4Addr)
  before : Cluster
  events : List KubeEvent

/-- The pool is labelled as the program's, or has one of its names. -/
def Ours (name : String) (p : Pool) : Prop :=
  p.labels.lookup managedByLabel = some managedByValue ∨ ∃ ip, name = poolName ip

/-- The runs of the program, on a cluster that has no pool of the program's at the start. -/
inductive PassRun (fmt : Rfc3339) (cfg : Config) : List (PassRecord ε) → Cluster → Prop
  | start {c : Cluster} (h : ∀ name p, c.lookup name = some p → ¬ Ours name p) :
      PassRun fmt cfg [] c
  | pass {older : List (PassRecord ε)} {c c' : Cluster} {now : ℤ}
      {fetched : HostConfig → Except ε (List Ipv4Addr)} {es : List KubeEvent}
      {res : Except KubeError Unit} (h : PassRun fmt cfg older c)
      (hnow : ∀ q ∈ older, q.now ≤ now)
      (hrun : Runs KubeStep (reconcileOnce fmt cfg fetched now) c es res c') :
      PassRun fmt cfg (⟨now, fetched, c, es⟩ :: older) c'

/-- A host answered with the address. -/
def Reported (cfg : Config) (fetched : HostConfig → Except ε (List Ipv4Addr)) (ip : Ipv4Addr) :
    Prop :=
  ∃ host ∈ cfg.hosts, ∃ ips, fetched host = .ok ips ∧ ip ∈ ips

/-- Every host answered. -/
def AllAnswered (cfg : Config) (fetched : HostConfig → Except ε (List Ipv4Addr)) : Prop :=
  ∀ host ∈ cfg.hosts, ∃ ips, fetched host = .ok ips

/-- The pass deletes only pools of addresses that no host reported in it, and then only if every
host answered, or no earlier pass within the window had the address reported. -/
def PrunesRightly (cfg : Config) (rec : PassRecord ε) (older : List (PassRecord ε)) : Prop :=
  ∀ name r, (⟨.write (.delete name), r⟩ : KubeEvent) ∈ rec.events →
    ∃ ip, name = poolName ip ∧ ¬ Reported cfg rec.fetched ip ∧
      (AllAnswered cfg rec.fetched ∨
        ∀ q ∈ older, rec.now - q.now ≤ cfg.staleAfterSecs * 1000000000 →
          ¬ Reported cfg q.fetched ip)

/-- The call fails, and it is the list, or it creates or touches the pool of an address up to
`ip`.  A create that finds its name taken does not count: the pass goes on to touch the pool. -/
def FailsUpTo (ip : Ipv4Addr) : KubeEvent → Prop
  | ⟨.list _ _, .error _⟩ => True
  | ⟨.write (.create name _), .error e⟩ => e ≠ .api 409 ∧ ∃ ip' ≤ ip, name = poolName ip'
  | ⟨.write (.patch name _), .error _⟩ => ∃ ip' ≤ ip, name = poolName ip'
  | _ => False

/-- No call of the pass fails before it has touched each reported address that has a pool. -/
def TouchesAll (cfg : Config) (rec : PassRecord ε) : Prop :=
  ∀ ip, Reported cfg rec.fetched ip → poolName ip ∈ rec.before →
    ∀ e ∈ rec.events, ¬ FailsUpTo ip e

/-! ## What a pass asks for -/

section Desired

variable {cfg : Config} {fetched : HostConfig → Except ε (List Ipv4Addr)} {ip : Ipv4Addr}

lemma mem_ordered {ips : List Ipv4Addr} : ip ∈ ordered ips ↔ ip ∈ ips := by
  rw [ordered, List.mem_insertionSort, List.mem_dedup]

lemma pairwise_ordered (ips : List Ipv4Addr) : (ordered ips).Pairwise (· ≤ ·) :=
  List.pairwise_insertionSort _ _

lemma mem_desired : ip ∈ (collectDesired cfg fetched).1 ↔ Reported cfg fetched ip := by
  simp only [collectDesired, mem_ordered, List.mem_flatMap, List.mem_map]
  constructor
  · rintro ⟨_, ⟨host, hhost, rfl⟩, hip⟩
    cases hf : fetched host with
    | ok ips =>
      rw [hf] at hip
      exact ⟨host, hhost, ips, hf, hip⟩
    | error e =>
      rw [hf] at hip
      cases hip
  · rintro ⟨host, hhost, ips, hf, hip⟩
    refine ⟨fetched host, ⟨host, hhost, rfl⟩, ?_⟩
    rw [hf]
    exact hip

lemma allHostsOk_iff : (collectDesired cfg fetched).2.1 = true ↔ AllAnswered cfg fetched := by
  simp only [collectDesired, decide_eq_true_eq, List.countP_eq_zero, List.forall_mem_map]
  refine forall₂_congr fun host _ => ?_
  cases fetched host with
  | ok ips => simp
  | error e => simp

end Desired

/-! ## The calls of a pass -/

/-- The calls that a pass makes after the list. -/
inductive Allowed (fmt : Rfc3339) (desired : List Ipv4Addr) (allHostsOk : Bool) (threshold : ℤ)
    (current : HashMap Ipv4Addr ExistingPool) (now : ℤ) : KubeOp → Prop
  | create {ip : Ipv4Addr} (h : ip ∈ desired) :
      Allowed fmt desired allHostsOk threshold current now
        (.write (.create (poolName ip) (buildPool fmt ip now)))
  | touch {ip : Ipv4Addr} (h : ip ∈ desired) :
      Allowed fmt desired allHostsOk threshold current now
        (.write (.patch (poolName ip) [( lastSeenAnnotation, fmt.format now)]))
  | delete {ip : Ipv4Addr} {existing : ExistingPool} (hcurrent : current.lookup ip = some existing)
      (h : ip ∉ desired) (hprune : prunes allHostsOk threshold existing = true) :
      Allowed fmt desired allHostsOk threshold current now (.write (.delete existing.name))

section Calls

variable {fmt : Rfc3339} {desired : List Ipv4Addr} {allHostsOk : Bool} {threshold now : ℤ}
  {current : HashMap Ipv4Addr ExistingPool}

/-- What a pass does after the list. -/
def afterList (fmt : Rfc3339) (desired : List Ipv4Addr) (allHostsOk : Bool) (threshold : ℤ)
    (current : HashMap Ipv4Addr ExistingPool) (now : ℤ) : Kube (Except KubeError Unit) :=
  (tryEach (keepPool fmt current now) desired).bind fun
    | .error e => ret (.error e)
    | .ok () => tryEach (prunePool desired allHostsOk threshold current) (ordered current.keys)

/-- A turn of the first loop creates or touches the pool of its address. -/
lemma keepPool_makes_of {P : KubeOp → Prop} {ip : Ipv4Addr}
    (hcreate : P (.write (.create (poolName ip) (buildPool fmt ip now))))
    (htouch : P (.write (.patch (poolName ip) [( lastSeenAnnotation, fmt.format now)]))) :
    Makes P (keepPool fmt current now ip) := by
  rw [keepPool]
  split
  · refine ⟨hcreate, fun r => ?_⟩
    cases r with
    | ok u => trivial
    | error e =>
      show Makes _ (if e = .api 409 then touchPool fmt ip now else ret (Except.error e))
      split
      · exact ⟨htouch, fun _ => trivial⟩
      · trivial
  · exact ⟨htouch, fun _ => trivial⟩

/-- A turn of the second loop deletes at most the pool that was listed for its address. -/
lemma prunePool_makes_of {P : KubeOp → Prop} {ip : Ipv4Addr}
    (hdelete : ∀ existing, current.lookup ip = some existing → ip ∉ desired →
      prunes allHostsOk threshold existing = true → P (.write (.delete existing.name))) :
    Makes P (prunePool desired allHostsOk threshold current ip) := by
  rw [prunePool]
  split
  · trivial
  · split
    · trivial
    · split
      · refine ⟨hdelete _ ‹_› ‹_› ‹_›, fun r => ?_⟩
        cases r with
        | ok u => trivial
        | error e =>
          show Makes _ (if e = .api 404 then ret (Except.ok ()) else ret (Except.error e))
          split <;> trivial
      · trivial

/-- The runs of a turn of the first loop: its last call is a create, or a touch, which may come
after a create that found the name taken. -/
lemma runs_keepPool_cases {σ : Type} {step : Sem σ KubeOp KubeOp.Res} {ip : Ipv4Addr} {s s' : σ}
    {es : List KubeEvent} {res : Except KubeError Unit}
    (hrun : Runs step (keepPool fmt current now ip) s es res s') :
    (es = [⟨.write (.create (poolName ip) (buildPool fmt ip now)), res⟩] ∧
        res ≠ .error (.api 409) ∧
        step s (.write (.create (poolName ip) (buildPool fmt ip now))) res s') ∨
      ∃ s₁, (⟨.write (.patch (poolName ip) [( lastSeenAnnotation, fmt.format now)]), res⟩ :
          KubeEvent) ∈ es ∧
        (s₁ = s ∨
          step s (.write (.create (poolName ip) (buildPool fmt ip now))) (.error (.api 409)) s₁) ∧
        step s₁ (.write (.patch (poolName ip) [( lastSeenAnnotation, fmt.format now)])) res s' := by
  have htouch : ∀ {s₁ : σ} {es : List KubeEvent}, Runs step (touchPool fmt ip now) s₁ es res s' →
      es = [⟨.write (.patch (poolName ip) [( lastSeenAnnotation, fmt.format now)]), res⟩] ∧
        step s₁ (.write (.patch (poolName ip) [( lastSeenAnnotation, fmt.format now)])) res s' := by
    intro s₁ es h
    obtain ⟨r, s₂, es', rfl, hstep, hrest⟩ := runs_call_inv h
    obtain ⟨rfl, rfl, rfl⟩ := runs_ret_inv hrest
    exact ⟨rfl, hstep⟩
  rw [keepPool] at hrun
  split at hrun
  · obtain ⟨r, s₁, es', rfl, hstep, hrest⟩ := runs_call_inv hrun
    cases r with
    | ok u =>
      obtain ⟨rfl, rfl, rfl⟩ := runs_ret_inv hrest
      exact Or.inl ⟨rfl, nofun, hstep⟩
    | error err =>
      replace hrest : Runs step
          (if err = .api 409 then touchPool fmt ip now else ret (Except.error err)) s₁ es' res s' :=
        hrest
      split at hrest
      · -- the name is taken after all, so the pool is touched
        rename_i herr
        subst herr
        obtain ⟨rfl, hpatch⟩ := htouch hrest
        exact Or.inr ⟨s₁, List.mem_cons_of_mem _ List.mem_cons_self, Or.inr hstep, hpatch⟩
      · rename_i hne
        obtain ⟨rfl, rfl, rfl⟩ := runs_ret_inv hrest
        exact Or.inl ⟨rfl, fun he => hne (Except.error.inj he), hstep⟩
  · obtain ⟨rfl, hpatch⟩ := htouch hrun
    exact Or.inr ⟨s, List.mem_cons_self, Or.inl rfl, hpatch⟩

lemma keepPool_makes {ip : Ipv4Addr} (h : ip ∈ desired) :
    Makes (Allowed fmt desired allHostsOk threshold current now)
      (keepPool fmt current now ip) :=
  keepPool_makes_of (Allowed.create h) (Allowed.touch h)

lemma prunePool_makes (ip : Ipv4Addr) :
    Makes (Allowed fmt desired allHostsOk threshold current now)
      (prunePool desired allHostsOk threshold current ip) :=
  prunePool_makes_of fun _ hcurrent h hprune => Allowed.delete hcurrent h hprune

lemma afterList_makes :
    Makes (Allowed fmt desired allHostsOk threshold current now)
      (afterList fmt desired allHostsOk threshold current now) := by
  refine (makes_tryEach fun ip hip => keepPool_makes hip).bind fun r => ?_
  cases r with
  | error e => trivial
  | ok u => exact makes_tryEach fun ip _ => prunePool_makes ip

end Calls

/-- A pass lists the pools, and goes on if that succeeds. -/
lemma runs_reconcileOnce_cases {σ : Type} {step : Sem σ KubeOp KubeOp.Res} {fmt : Rfc3339}
    {cfg : Config} {fetched : HostConfig → Except ε (List Ipv4Addr)} {now : ℤ} {s s' : σ}
    {es : List KubeEvent} {res : Except KubeError Unit}
    (h : Runs step (reconcileOnce fmt cfg fetched now) s es res s') :
    (∃ e, step s (.list managedByLabel managedByValue) (.error e) s' ∧ res = .error e ∧
        es = [⟨.list managedByLabel managedByValue, .error e⟩]) ∨
      ∃ items s₁ es', step s (.list managedByLabel managedByValue) (.ok items) s₁ ∧
        es = ⟨.list managedByLabel managedByValue, .ok items⟩ :: es' ∧
        Runs step (afterList fmt (collectDesired cfg fetched).1
          (collectDesired cfg fetched).2.1 (staleThreshold cfg now)
          (items.foldl (listPool fmt) ∅) now) s₁ es' res s' := by
  obtain ⟨r, s₁, es', rfl, hstep, hrest⟩ := runs_call_inv h
  cases r with
  | error e =>
    obtain ⟨rfl, hres, rfl⟩ := runs_ret_inv hrest
    exact Or.inl ⟨e, hstep, hres, rfl⟩
  | ok items => exact Or.inr ⟨items, s₁, es', hstep, rfl, hrest⟩

/-- Against the API server the list leaves the pools and gives those with the label. -/
lemma runs_reconcileOnce_inv {fmt : Rfc3339} {cfg : Config}
    {fetched : HostConfig → Except ε (List Ipv4Addr)} {now : ℤ} {c c' : Cluster}
    {es : List KubeEvent} {res : Except KubeError Unit}
    (h : Runs KubeStep (reconcileOnce fmt cfg fetched now) c es res c') :
    (∃ e, es = [⟨.list managedByLabel managedByValue, .error e⟩] ∧ c' = c) ∨
      ∃ items es', items.Perm (selected c managedByLabel managedByValue) ∧
        es = ⟨.list managedByLabel managedByValue, .ok items⟩ :: es' ∧
        Runs KubeStep (afterList fmt (collectDesired cfg fetched).1
          (collectDesired cfg fetched).2.1 (staleThreshold cfg now)
          (items.foldl (listPool fmt) ∅) now) c es' res c' := by
  rcases runs_reconcileOnce_cases h with ⟨e, hstep, -, hes⟩ | ⟨items, c₁, es', hstep, hes, hrest⟩
  · exact Or.inl ⟨e, hes, (kubeStep_list_inv hstep).1⟩
  · obtain ⟨rfl, hitems⟩ := kubeStep_list_inv hstep
    exact Or.inr ⟨items, es', hitems items rfl, hes, hrest⟩

/-! ## What a pass leaves -/

/-- The pool is the one of the address, seen last at `t`. -/
structure IsPoolOf (fmt : Rfc3339) (ip : Ipv4Addr) (t : ℤ) (name : String) (p : Pool) : Prop where
  name : name = poolName ip
  ip : ipOf p = some ip
  lastSeen : lastSeenOf fmt p = some t

/-- The pools of the program are stamped no earlier than their addresses were reported. -/
def Stamped (fmt : Rfc3339) (cfg : Config) (older : List (PassRecord ε)) (c : Cluster) : Prop :=
  ∀ name p, c.lookup name = some p → Ours name p →
    ∃ ip t, IsPoolOf fmt ip t name p ∧ ∀ q ∈ older, Reported cfg q.fetched ip → q.now ≤ t

section Pass

variable {fmt : Rfc3339} {cfg : Config} {fetched : HostConfig → Except ε (List Ipv4Addr)}
  {desired : List Ipv4Addr} {allHostsOk : Bool} {threshold now : ℤ}
  {current : HashMap Ipv4Addr ExistingPool} {c c' s s' : Cluster} {op : KubeOp} {r : op.Res}
  {es : List KubeEvent} {res : Except KubeError Unit}

/-- The pools after some calls of a pass: as they were, or stamped by this pass. -/
def OldOrStamped (fmt : Rfc3339) (now : ℤ) (c s : Cluster) : Prop :=
  ∀ name p, s.lookup name = some p → Ours name p →
    ∃ ip t, IsPoolOf fmt ip t name p ∧ (t = now ∨ c.lookup name = some p)

/-- The pool of the address, if there is one, was stamped by this pass. -/
def StampedNow (fmt : Rfc3339) (now : ℤ) (ip : Ipv4Addr) (s : Cluster) : Prop :=
  ∀ p, s.lookup (poolName ip) = some p → lastSeenOf fmt p = some now

lemma isPoolOf_buildPool (hread : fmt.parse (fmt.format now) = some now) (ip : Ipv4Addr) :
    IsPoolOf fmt ip now (poolName ip) (buildPool fmt ip now) :=
  ⟨rfl, ipOf_buildPool fmt ip now, (lastSeenOf_buildPool fmt ip now).trans hread⟩

lemma IsPoolOf.touched (hread : fmt.parse (fmt.format now) = some now) {ip : Ipv4Addr} {t : ℤ}
    {name : String} {p : Pool} (h : IsPoolOf fmt ip t name p) :
    IsPoolOf fmt ip now name (p.annotate [( lastSeenAnnotation, fmt.format now)]) := by
  exact ⟨h.name, (ipOf_touched p _).trans h.ip, (lastSeenOf_touched fmt p _).trans hread⟩

/-- **What a call of a pass leaves under a name**: what was there, or a pool that it creates or
touches. -/
lemma allowed_lookup (hop : Allowed fmt desired allHostsOk threshold current now op)
    (hstep : KubeStep s op r s') {name : String} {p : Pool} (hp : s'.lookup name = some p) :
    s.lookup name = some p ∨ ∃ ip, name = poolName ip ∧ (p = buildPool fmt ip now ∨
      ∃ p₀, s.lookup name = some p₀ ∧ p = p₀.annotate [( lastSeenAnnotation, fmt.format now)]) := by
  cases hop with
  | @create ip hip =>
    rcases kubeStep_write_inv hstep with hw | ⟨rfl, -⟩
    · obtain ⟨-, rfl⟩ := applyWrite_create_inv hw
      rcases HashMap.lookup_insert_cases hp with ⟨hname, rfl⟩ | hp
      · exact Or.inr ⟨ip, hname, Or.inl rfl⟩
      · exact Or.inl hp
    · exact Or.inl hp
  | @touch ip hip =>
    rcases kubeStep_write_inv hstep with hw | ⟨rfl, -⟩
    · obtain ⟨p₀, hp₀, rfl⟩ := applyWrite_patch_inv hw
      rcases HashMap.lookup_insert_cases hp with ⟨rfl, rfl⟩ | hp
      · exact Or.inr ⟨ip, rfl, Or.inr ⟨p₀, hp₀, rfl⟩⟩
      · exact Or.inl hp
    · exact Or.inl hp
  | @delete ip existing hcurrent hip hprune =>
    rcases kubeStep_write_inv hstep with hw | ⟨rfl, -⟩
    · obtain rfl := applyWrite_delete_inv hw
      exact Or.inl (HashMap.lookup_of_erase hp).2
    · exact Or.inl hp

/-- One call keeps the pools as they were or stamped by this pass. -/
lemma OldOrStamped.step (hread : fmt.parse (fmt.format now) = some now)
    (hop : Allowed fmt desired allHostsOk threshold current now op) (hstep : KubeStep s op r s')
    (h : OldOrStamped fmt now c s) : OldOrStamped fmt now c s' := by
  intro name p hp hours
  -- as before, created by this call, or touched by it
  rcases allowed_lookup hop hstep hp with hp | ⟨ip, rfl, rfl | ⟨p₀, hp₀, rfl⟩⟩
  · exact h name p hp hours
  · exact ⟨ip, now, isPoolOf_buildPool hread ip, Or.inl rfl⟩
  · obtain ⟨ip', t, hpool, -⟩ := h _ p₀ hp₀ (Or.inr ⟨ip, rfl⟩)
    exact ⟨ip', now, hpool.touched hread, Or.inl rfl⟩

/-- No call takes back the stamp of this pass. -/
lemma StampedNow.step {ip : Ipv4Addr} (hread : fmt.parse (fmt.format now) = some now)
    (hop : Allowed fmt desired allHostsOk threshold current now op) (hstep : KubeStep s op r s')
    (h : StampedNow fmt now ip s) : StampedNow fmt now ip s' := by
  intro p hp
  rcases allowed_lookup hop hstep hp with hp | ⟨ip', -, rfl | ⟨p₀, -, rfl⟩⟩
  · exact h p hp
  · exact (lastSeenOf_buildPool fmt ip' now).trans hread
  · exact (lastSeenOf_touched fmt p₀ _).trans hread

/-- A create or a touch that succeeds stamps the pool. -/
lemma stampedNow_of_create {ip : Ipv4Addr} (hread : fmt.parse (fmt.format now) = some now)
    (hstep : KubeStep s (.write (.create (poolName ip) (buildPool fmt ip now))) (.ok ()) s') :
    StampedNow fmt now ip s' := by
  rcases kubeStep_write_inv hstep with hw | ⟨-, hne⟩
  · obtain ⟨-, rfl⟩ := applyWrite_create_inv hw
    intro p hp
    rw [AList.lookup_insert] at hp
    obtain rfl := Option.some.inj hp
    exact (lastSeenOf_buildPool fmt ip now).trans hread
  · exact absurd rfl hne

lemma stampedNow_of_touch {ip : Ipv4Addr} (hread : fmt.parse (fmt.format now) = some now)
    (hstep : KubeStep s
      (.write (.patch (poolName ip) [( lastSeenAnnotation, fmt.format now)])) (.ok ()) s') :
    StampedNow fmt now ip s' := by
  rcases kubeStep_write_inv hstep with hw | ⟨-, hne⟩
  · obtain ⟨p₀, -, rfl⟩ := applyWrite_patch_inv hw
    intro p hp
    rw [AList.lookup_insert] at hp
    obtain rfl := Option.some.inj hp
    exact (lastSeenOf_touched fmt p₀ _).trans hread
  · exact absurd rfl hne

/-- The body of the first loop makes a create or a touch that succeeds, or ends with one that
fails. -/
lemma keepPool_events {ip : Ipv4Addr}
    (hrun : Runs KubeStep (keepPool fmt current now ip) s es res s') :
    (res = .ok () ∧
      ((⟨.write (.create (poolName ip) (buildPool fmt ip now)), .ok ()⟩ : KubeEvent) ∈ es ∨
        (⟨.write (.patch (poolName ip) [( lastSeenAnnotation, fmt.format now)]), .ok ()⟩ :
          KubeEvent) ∈ es)) ∨
    ((∃ err, res = .error err) ∧ ∀ ip', ip ≤ ip' → ∃ e ∈ es, FailsUpTo ip' e) := by
  rcases runs_keepPool_cases hrun with ⟨rfl, hne, -⟩ | ⟨s₁, hmem, -, -⟩
  · cases res with
    | ok u => exact Or.inl ⟨rfl, Or.inl List.mem_cons_self⟩
    | error err =>
      refine Or.inr ⟨⟨err, rfl⟩, fun ip' hle => ⟨_, List.mem_cons_self, ?_, ip, hle, rfl⟩⟩
      exact fun he => hne (he ▸ rfl)
  · cases res with
    | ok u => exact Or.inl ⟨rfl, Or.inr hmem⟩
    | error err => exact Or.inr ⟨⟨err, rfl⟩, fun ip' hle => ⟨_, hmem, ip, hle, rfl⟩⟩

/-- **A reported address is stamped**, if no call up to it fails. -/
lemma stampedNow_of_desired {ip : Ipv4Addr} (hread : fmt.parse (fmt.format now) = some now)
    (hsorted : desired.Pairwise (· ≤ ·)) (hip : ip ∈ desired)
    (hrun : Runs KubeStep (afterList fmt desired allHostsOk threshold current now) s es res s')
    (hno : ∀ e ∈ es, ¬ FailsUpTo ip e) : StampedNow fmt now ip s' := by
  have hkeeps : ∀ s op (r : op.Res) s', Allowed fmt desired allHostsOk threshold current now op →
      KubeStep s op r s' → StampedNow fmt now ip s → StampedNow fmt now ip s' :=
    fun _ _ _ _ hop hstep h => h.step hread hop hstep
  obtain ⟨es₁, r, s₁, es₂, hes, hloop, -⟩ := runs_bind_inv hrun
  have hsub : es₁ ⊆ es := hes ▸ List.subset_append_left _ _
  -- the loop comes to the address unless it ends before
  rcases runs_tryEach hsorted hloop hip with ⟨t, es', t', hbody, hes'⟩ |
      ⟨y, hy, t, es', err, t', hbody, hes'⟩
  · rcases keepPool_events hbody with ⟨-, hmem | hmem⟩ | ⟨⟨err, herr⟩, -⟩
    · exact afterList_makes.establishes hkeeps (fun _ _ => stampedNow_of_create hread) hrun
        (hsub (hes' hmem))
    · exact afterList_makes.establishes hkeeps (fun _ _ => stampedNow_of_touch hread) hrun
        (hsub (hes' hmem))
    · cases herr
  · -- the loop ends at an address up to this one, at a call that fails
    exfalso
    have hle : y ≤ ip := by
      rcases hy with rfl | hy
      · exact le_rfl
      · exact hy
    rcases keepPool_events hbody with ⟨hok, -⟩ | ⟨-, hfails⟩
    · cases hok
    · obtain ⟨e, he, hf⟩ := hfails ip hle
      exact hno e (hsub (hes' he)) hf

lemma Stamped.oldOrStamped {older : List (PassRecord ε)} (h : Stamped fmt cfg older c) :
    OldOrStamped fmt now c c := by
  intro name p hp hours
  obtain ⟨ip, t, hpool, -⟩ := h name p hp hours
  exact ⟨ip, t, hpool, Or.inr hp⟩

/-- **A pass that touches every reported pool** leaves the pools stamped no earlier than their
addresses were reported. -/
lemma Stamped.pass {older : List (PassRecord ε)} (hread : fmt.parse (fmt.format now) = some now)
    (h : Stamped fmt cfg older c) (hnow : ∀ q ∈ older, q.now ≤ now)
    (hrun : Runs KubeStep (reconcileOnce fmt cfg fetched now) c es res c')
    (htouch : TouchesAll cfg ⟨now, fetched, c, es⟩) :
    Stamped fmt cfg (⟨now, fetched, c, es⟩ :: older) c' := by
  rcases runs_reconcileOnce_inv hrun with ⟨e, rfl, rfl⟩ | ⟨items, es', -, rfl, hrest⟩
  · -- the list failed, so no reported address has a pool
    intro name p hp hours
    obtain ⟨ip, t, hpool, hq⟩ := h name p hp hours
    refine ⟨ip, t, hpool, ?_⟩
    rintro q hq' hrep
    rcases List.mem_cons.mp hq' with rfl | hq'
    · have hmem : poolName ip ∈ c' := HashMap.mem_iff_lookup.mpr ⟨p, hpool.name ▸ hp⟩
      exact absurd trivial (htouch ip hrep hmem _ List.mem_cons_self)
    · exact hq q hq' hrep
  · have hfinal : OldOrStamped fmt now c c' :=
      afterList_makes.preserves (fun _ _ _ _ hop hstep h => h.step hread hop hstep) hrest
        h.oldOrStamped
    intro name p hp hours
    obtain ⟨ip, t, hpool, hold⟩ := hfinal name p hp hours
    refine ⟨ip, t, hpool, ?_⟩
    rintro q hq' hrep
    rcases List.mem_cons.mp hq' with rfl | hq'
    · -- reported by this pass: it has stamped the pool that was there
      rcases hold with rfl | hold
      · exact le_rfl
      · have hmem : poolName ip ∈ c := HashMap.mem_iff_lookup.mpr ⟨p, hpool.name ▸ hold⟩
        have hstamped := stampedNow_of_desired hread (pairwise_ordered _)
          (mem_desired.mpr hrep) hrest fun e he => htouch ip hrep hmem e (List.mem_cons_of_mem _ he)
        have ht := hstamped p (hpool.name ▸ hp)
        exact (Option.some.inj (ht.symm.trans hpool.lastSeen)).le
    · rcases hold with ht | hold
      · exact (hnow q hq').trans ht.ge
      · obtain ⟨ip', t', hpool', hq⟩ := h name p hold hours
        obtain rfl := Option.some.inj (hpool'.ip.symm.trans hpool.ip)
        obtain rfl := Option.some.inj (hpool'.lastSeen.symm.trans hpool.lastSeen)
        exact hq q hq' hrep

/-- **What a pass deletes**, from pools that are stamped no earlier than their addresses were
reported. -/
lemma Stamped.prunesRightly {older : List (PassRecord ε)} (h : Stamped fmt cfg older c)
    (hrun : Runs KubeStep (reconcileOnce fmt cfg fetched now) c es res c') :
    PrunesRightly cfg ⟨now, fetched, c, es⟩ older := by
  intro name r hmem
  rcases runs_reconcileOnce_inv hrun with ⟨e, rfl, rfl⟩ | ⟨items, es', hitems, rfl, hrest⟩
  · simp at hmem
  · have hmem' : (⟨.write (.delete name), r⟩ : KubeEvent) ∈ es' := by
      rcases List.mem_cons.mp hmem with heq | hmem
      · cases heq
      · exact hmem
    have hop := afterList_makes.events hrest _ hmem'
    cases hop with
    | @delete ip existing hcurrent hip hprune =>
      rcases lookup_listPool hcurrent with hnone | ⟨p, hp, hpip, hseen⟩
      · cases hnone
      · -- the pool that was listed for the address is the one the name belongs to
        obtain ⟨hlookup, hlabel⟩ := mem_selected.mp (hitems.mem_iff.mp hp)
        obtain ⟨ip', t, hpool, hq⟩ := h existing.name p hlookup (Or.inl hlabel)
        obtain rfl := Option.some.inj (hpool.ip.symm.trans hpip)
        refine ⟨ip', hpool.name, fun hrep => hip (mem_desired.mpr hrep), ?_⟩
        rw [prunes] at hprune
        split at hprune
        · rename_i hall
          exact Or.inl (allHostsOk_iff.mp hall)
        · -- the stamp is older than the window, and so is every report of the address
          right
          rw [hseen, hpool.lastSeen] at hprune
          have ht : t < staleThreshold cfg now := of_decide_eq_true hprune
          intro q hq' hwithin hrep
          have := hq q hq' hrep
          simp only [staleThreshold] at ht
          simp only at hwithin
          omega

end Pass

/-! ## Runs that touch what is reported -/

lemma PassRun.stamped {fmt : Rfc3339} {cfg : Config} {run : List (PassRecord ε)} {c : Cluster}
    (h : PassRun fmt cfg run c) (hread : ∀ rec ∈ run, fmt.parse (fmt.format rec.now) = some rec.now)
    (htouch : ∀ rec ∈ run, TouchesAll cfg rec) : Stamped fmt cfg run c := by
  induction h with
  | start hc => exact fun name p hp hours => absurd hours (hc name p hp)
  | pass h hnow hrun ih =>
    have hstamped := ih (fun q hq => hread q (List.mem_cons_of_mem _ hq))
      (fun q hq => htouch q (List.mem_cons_of_mem _ hq))
    exact hstamped.pass (hread _ List.mem_cons_self) hnow hrun (htouch _ List.mem_cons_self)

lemma PassRun.drop {fmt : Rfc3339} {cfg : Config} {older : List (PassRecord ε)} :
    ∀ {later : List (PassRecord ε)} {c : Cluster}, PassRun fmt cfg (later ++ older) c →
      ∃ c', PassRun fmt cfg older c'
  | [], c, h => ⟨c, h⟩
  | rec :: later, _, h => by
    cases h with
    | pass h _ _ => exact PassRun.drop h

/-- **No pool is deleted while its host is merely unreachable**, in a run each pass of which
touches every reported address that has a pool before a call fails. -/
theorem prunes_rightly_when_touching {fmt : Rfc3339} {cfg : Config} {run : List (PassRecord ε)}
    {c : Cluster} (h : PassRun fmt cfg run c)
    (hread : ∀ rec ∈ run, fmt.parse (fmt.format rec.now) = some rec.now)
    (htouch : ∀ rec ∈ run, TouchesAll cfg rec) :
    ∀ later rec older, run = later ++ rec :: older → PrunesRightly cfg rec older := by
  rintro later rec older rfl
  obtain ⟨c', hsuffix⟩ := PassRun.drop h
  cases hsuffix with
  | pass hpass hnow hrun =>
    refine (hpass.stamped (fun q hq => hread q ?_) fun q hq => htouch q ?_).prunesRightly hrun
    · exact List.mem_append_right _ (List.mem_cons_of_mem _ hq)
    · exact List.mem_append_right _ (List.mem_cons_of_mem _ hq)

/-! ## A touch that fails -/

/-- The texts of three times: the start of the epoch, and 200 and 310 seconds after it. -/
def epochText : Rfc3339 where
  format t :=
    if t = 0 then "1970-01-01T00:00:00+00:00"
    else if t = 200000000000 then "1970-01-01T00:03:20+00:00"
    else "1970-01-01T00:05:10+00:00"
  parse s :=
    if s = "1970-01-01T00:00:00+00:00" then some 0
    else if s = "1970-01-01T00:03:20+00:00" then some 200000000000
    else if s = "1970-01-01T00:05:10+00:00" then some 310000000000
    else none

/-- Two hosts, and a window of 300 seconds. -/
def twoHosts : Config where
  staleAfterSecs := 300
  hosts := [⟨"a", "http://10.0.0.5:1028", "/run/a"⟩, ⟨"b", "http://10.0.0.6:1028", "/run/b"⟩]

/-- Each host has one address. -/
def addressOf (host : HostConfig) : Ipv4Addr :=
  if host.name = "a" then ⟨110, 0, 0, 1⟩ else ⟨110, 0, 0, 2⟩

/-- Both hosts answer. -/
def bothAnswer (host : HostConfig) : Except String (List Ipv4Addr) := .ok [addressOf host]

/-- Only the first host answers. -/
def oneAnswers (host : HostConfig) : Except String (List Ipv4Addr) :=
  if host.name = "a" then .ok [addressOf host] else .error "timed out"

/-- The changes of the first pool are refused. -/
def refusesFirst : Write → Bool
  | .patch name _ => name = poolName ⟨110, 0, 0, 1⟩
  | _ => false

/-- A pass against a server that refuses some changes. -/
def runPass (refuse : Write → Bool) (fetched : HostConfig → Except String (List Ipv4Addr))
    (now : ℤ) (c : Cluster) : List KubeEvent × Except KubeError Unit × Cluster :=
  exec (answer refuse) (reconcileOnce epochText twoHosts fetched now) c

lemma PassRun.runPass {older : List (PassRecord String)} {c : Cluster}
    (h : PassRun epochText twoHosts older c) (refuse : Write → Bool)
    (fetched : HostConfig → Except String (List Ipv4Addr)) (now : ℤ)
    (hnow : ∀ q ∈ older, q.now ≤ now) :
    PassRun epochText twoHosts (⟨now, fetched, c, (K8s.runPass refuse fetched now c).1⟩ :: older)
      (K8s.runPass refuse fetched now c).2.2 :=
  h.pass hnow (exec_runs (answer_step refuse) _ _)

/-- The cluster after both pools were created. -/
def created : Cluster := (runPass (fun _ => false) bothAnswer 0 ∅).2.2

/-- The cluster after a pass that could not touch the first pool. -/
def untouched : Cluster := (runPass refusesFirst bothAnswer 200000000000 created).2.2

/-- Whether some call deletes the pool of that name. -/
def deletes (name : String) (es : List KubeEvent) : Bool :=
  es.any fun e =>
    match e with
    | ⟨.write (.delete n), _⟩ => n = name
    | _ => false

lemma exists_delete {name : String} {es : List KubeEvent} (h : deletes name es = true) :
    ∃ r, (⟨.write (.delete name), r⟩ : KubeEvent) ∈ es := by
  obtain ⟨⟨op, r⟩, he, hop⟩ := List.any_eq_true.mp h
  cases op with
  | list label value => cases hop
  | write w =>
    cases w with
    | create n pool => cases hop
    | patch n ann => cases hop
    | delete n =>
      obtain rfl := of_decide_eq_true hop
      exact ⟨r, he⟩

/-- The run that leaves a pool untouched while its address is reported, and deletes it later. -/
lemma untouched_run : PassRun epochText twoHosts
    [⟨310000000000, oneAnswers, untouched,
        (runPass (fun _ => false) oneAnswers 310000000000 untouched).1⟩,
      ⟨200000000000, bothAnswer, created, (runPass refusesFirst bothAnswer 200000000000 created).1⟩,
      ⟨0, bothAnswer, ∅, (runPass (fun _ => false) bothAnswer 0 ∅).1⟩]
    (runPass (fun _ => false) oneAnswers 310000000000 untouched).2.2 := by
  have h₀ : PassRun epochText twoHosts ([] : List (PassRecord String)) ∅ :=
    PassRun.start fun name p hp => (nomatch hp)
  have h₁ := h₀.runPass (fun _ => false) bothAnswer 0 (by simp)
  have h₂ := h₁.runPass refusesFirst bothAnswer 200000000000 (by simp)
  exact h₂.runPass (fun _ => false) oneAnswers 310000000000 (by simp)

/-- **A failed touch gets another pool deleted**: the pool of an address that was reported 110
seconds before goes, with a window of 300 seconds, when its host does not answer. -/
theorem failed_touch_prunes_reported :
    ¬ ∀ (fmt : Rfc3339) (cfg : Config) (run : List (PassRecord String)) (c : Cluster),
      PassRun fmt cfg run c → (∀ rec ∈ run, fmt.parse (fmt.format rec.now) = some rec.now) →
        ∀ later rec older, run = later ++ rec :: older → PrunesRightly cfg rec older := by
  intro hall
  have hdeletes : deletes (poolName ⟨110, 0, 0, 2⟩)
      (runPass (fun _ => false) oneAnswers 310000000000 untouched).1 = true := by
    decide +kernel
  obtain ⟨r, hr⟩ := exists_delete hdeletes
  obtain ⟨ip, hip, -, hcases⟩ := hall _ _ _ _ untouched_run (by simp [epochText]) [] _ _ rfl _ r hr
  obtain rfl := poolName_injective hip
  rcases hcases with hanswered | hwindow
  · obtain ⟨ips, hips⟩ := hanswered ⟨"b", "http://10.0.0.6:1028", "/run/b"⟩ (by decide)
    cases hips
  · refine hwindow _ List.mem_cons_self (by decide) ?_
    exact ⟨⟨"b", "http://10.0.0.6:1028", "/run/b"⟩, by decide, [⟨110, 0, 0, 2⟩], rfl, by decide⟩

/-- Whether every call succeeds. -/
def allSucceed (es : List KubeEvent) : Bool :=
  es.all fun e =>
    match e with
    | ⟨.list _ _, .ok _⟩ => true
    | ⟨.write _, .ok _⟩ => true
    | _ => false

lemma not_failsUpTo {es : List KubeEvent} (h : allSucceed es = true) (ip : Ipv4Addr) :
    ∀ e ∈ es, ¬ FailsUpTo ip e := by
  rintro ⟨op, r⟩ he hf
  have hok := List.all_eq_true.mp h _ he
  cases op with
  | list label value =>
    cases r with
    | ok items => exact hf
    | error err => cases hok
  | write w =>
    cases r with
    | ok u => cases w <;> exact hf
    | error err => cases hok

/-- A run without failed calls, which deletes the pool of a host that has been away for longer
than the window. -/
theorem prunes_rightly_without_failures :
    deletes (poolName ⟨110, 0, 0, 2⟩)
        (runPass (fun _ => false) oneAnswers 310000000000 created).1 = true ∧
      PrunesRightly twoHosts
        ⟨310000000000, oneAnswers, created,
          (runPass (fun _ => false) oneAnswers 310000000000 created).1⟩
        [⟨0, bothAnswer, ∅, (runPass (fun _ => false) bothAnswer 0 ∅).1⟩] := by
  have h₀ : PassRun epochText twoHosts ([] : List (PassRecord String)) ∅ :=
    PassRun.start fun name p hp => (nomatch hp)
  have h₁ := h₀.runPass (fun _ => false) bothAnswer 0 (by simp)
  have h₂ := h₁.runPass (fun _ => false) oneAnswers 310000000000 (by simp)
  refine ⟨by decide +kernel,
    prunes_rightly_when_touching h₂ (by simp [epochText]) ?_ [] _ _ rfl⟩
  intro rec hrec
  simp only [List.mem_cons, List.not_mem_nil, or_false] at hrec
  rcases hrec with rfl | rfl
  · exact fun ip _ _ => not_failsUpTo (by decide +kernel) ip
  · exact fun ip _ _ => not_failsUpTo (by decide +kernel) ip

end Dumbarp.K8s
