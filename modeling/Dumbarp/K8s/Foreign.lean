/-
The pools of others.

`dumbarp-k8s` shares the pools of a cluster with whoever else writes them.  Others may create, edit,
relabel and delete pools at any moment, also between the calls of a pass, so what a pass has listed
may be out of date when it acts.  Still each of its calls changes one pool at most: it creates one
for a reported address under a name that is free, it stamps the one that has the name of a reported
address, or it deletes one that it has listed as its own, unless others have changed or replaced
that one since.
-/
import Dumbarp.K8s.Prune

namespace Dumbarp.K8s

open Interact Interact.Prog

variable {ε : Type}

/-! ## Runs among others -/

/-- What a pass got: its time, what its fetches answered, and the pools it has listed, once it
has; with the names under which others have changed something since. -/
structure Known (ε : Type) where
  now : ℤ
  fetched : HostConfig → Except ε (List Ipv4Addr)
  listed : Option (List (String × Pool)) := none
  disturbed : Set String := ∅

/-- Others have changed the pools. -/
def Known.disturb (known : Known ε) (c c' : Cluster) : Known ε :=
  { known with disturbed := known.disturbed ∪ {name | c'.lookup name ≠ c.lookup name} }

/-- A call of the program that may have changed the pools. -/
structure Change (ε : Type) where
  known : Known ε
  before : Cluster
  after : Cluster

/-- **The moments of the program among others**: its changes so far, the pools, and the pass that is
under way with what is left of it.  A pass may be killed at any moment. -/
inductive Among (fmt : Rfc3339) (cfg : Config) :
    List (Change ε) → Cluster → Option (Known ε × Kube (Except KubeError Unit)) → Prop
  | start (c : Cluster) : Among fmt cfg [] c none
  | others {log c pass} (h : Among fmt cfg log c pass) (c' : Cluster) :
      Among fmt cfg log c' (pass.map fun under => (under.1.disturb c c', under.2))
  | begin {log c} (h : Among fmt cfg log c none) (now : ℤ)
      (fetched : HostConfig → Except ε (List Ipv4Addr)) :
      Among fmt cfg log c (some ({ now, fetched }, reconcileOnce fmt cfg fetched now))
  | list {log c known label value next r c'}
      (h : Among fmt cfg log c (some (known, .call (.list label value) next)))
      (hstep : KubeStep c (.list label value) r c') :
      Among fmt cfg log c'
        (some ({ known with listed := r.toOption, disturbed := ∅ }, next r))
  | write {log c known w next r c'}
      (h : Among fmt cfg log c (some (known, .call (.write w) next)))
      (hstep : KubeStep c (.write w) r c') :
      Among fmt cfg (⟨known, c, c'⟩ :: log) c' (some (known, next r))
  | stop {log c pass} (h : Among fmt cfg log c (some pass)) : Among fmt cfg log c none

/-! ## What a change may be -/

/-- The annotation of a pool under a key. -/
def Pool.noted (p : Pool) (key : String) : Option String :=
  p.annotations.bind fun annotations => annotations.lookup key

/-- The same pool, but for the time at which it was seen last. -/
structure Pool.Restamped (p p' : Pool) : Prop where
  labels : p'.labels = p.labels
  blocks : p'.blocks = p.blocks
  noted : ∀ key, key ≠ lastSeenAnnotation → p'.noted key = p.noted key

/-- **What a change may do.**  All pools stay as they are, or all but one. -/
inductive Lawful (fmt : Rfc3339) (cfg : Config) (ch : Change ε) : Prop
  | untouched (h : ch.after = ch.before)
  | created {ip : Ipv4Addr} (hreported : Reported cfg ch.known.fetched ip)
      (hfree : poolName ip ∉ ch.before)
      (h : ch.after = ch.before.insert (poolName ip) (buildPool fmt ip ch.known.now))
  | stamped {ip : Ipv4Addr} {p : Pool} (hreported : Reported cfg ch.known.fetched ip)
      (hp : ch.before.lookup (poolName ip) = some p)
      (h : ch.after = ch.before.insert (poolName ip)
        (p.annotate [( lastSeenAnnotation, fmt.format ch.known.now)]))
  /-- The pool is the one that was listed with the label, for an address that no host reports; and
  if a host did not answer, the one that was listed was stamped long ago or not at all.  Only what
  others did under the name since may make it another pool. -/
  | deleted {name : String} {ip : Ipv4Addr} {p : Pool} {items : List (String × Pool)}
      (hlisted : ch.known.listed = some items) (hp : (name, p) ∈ items)
      (hmanaged : p.labels.lookup managedByLabel = some managedByValue) (hip : ipOf p = some ip)
      (hreported : ¬ Reported cfg ch.known.fetched ip)
      (hwhy : AllAnswered cfg ch.known.fetched ∨
        ∀ t, lastSeenOf fmt p = some t → t < staleThreshold cfg ch.known.now)
      (hsame : name ∉ ch.known.disturbed → ∃ p', ch.before.lookup name = some p' ∧ p.Restamped p')
      (h : ch.after = ch.before.erase name)

lemma noted_annotate {p : Pool} {key other text : String} (hkey : key ≠ other) :
    (p.annotate [( other, text)]).noted key = p.noted key := by
  simp only [Pool.noted, Pool.annotate, List.foldl_cons, List.foldl_nil, Option.bind_some,
    AList.lookup_insert_ne hkey]
  cases p.annotations <;> rfl

namespace Pool.Restamped

lemma refl (p : Pool) : p.Restamped p := ⟨rfl, rfl, fun _ _ => rfl⟩

lemma annotate {p p' : Pool} (h : p.Restamped p') (text : String) :
    p.Restamped (p'.annotate [( lastSeenAnnotation, text)]) where
  labels := h.labels
  blocks := h.blocks
  noted key hkey := (noted_annotate hkey).trans (h.noted key hkey)

end Pool.Restamped

/-! ## The calls of a pass -/

/-- The calls of the first loop: it creates and touches the pools of reported addresses. -/
inductive Keeps (fmt : Rfc3339) (cfg : Config) (fetched : HostConfig → Except ε (List Ipv4Addr))
    (now : ℤ) : KubeOp → Prop
  | create {ip : Ipv4Addr} (h : Reported cfg fetched ip) :
      Keeps fmt cfg fetched now (.write (.create (poolName ip) (buildPool fmt ip now)))
  | touch {ip : Ipv4Addr} (h : Reported cfg fetched ip) :
      Keeps fmt cfg fetched now
        (.write (.patch (poolName ip) [( lastSeenAnnotation, fmt.format now)]))

/-- The calls of the second: it deletes pools that were listed. -/
inductive Removes (fmt : Rfc3339) (cfg : Config) (fetched : HostConfig → Except ε (List Ipv4Addr))
    (now : ℤ) (items : List (String × Pool)) : KubeOp → Prop
  | delete {name : String} {ip : Ipv4Addr} {p : Pool} (hp : (name, p) ∈ items)
      (hip : ipOf p = some ip) (hreported : ¬ Reported cfg fetched ip)
      (hwhy : AllAnswered cfg fetched ∨
        ∀ t, lastSeenOf fmt p = some t → t < staleThreshold cfg now) :
      Removes fmt cfg fetched now items (.write (.delete name))

section Calls

variable {fmt : Rfc3339} {cfg : Config} {now : ℤ}
  {fetched : HostConfig → Except ε (List Ipv4Addr)} {items : List (String × Pool)}

lemma old_of_prunes {allHostsOk : Bool} {threshold : ℤ} {existing : ExistingPool}
    (h : prunes allHostsOk threshold existing = true) :
    allHostsOk = true ∨ ∀ t, existing.lastSeen = some t → t < threshold := by
  by_cases hall : allHostsOk = true
  · exact Or.inl hall
  · rw [prunes, if_neg hall] at h
    refine Or.inr fun t ht => ?_
    simpa only [ht, decide_eq_true_eq] using h

/-- A pass that has listed the pools first keeps and then removes. -/
lemma afterList_makesThen :
    MakesThen (Keeps fmt cfg fetched now) (Removes fmt cfg fetched now items)
      (afterList fmt (collectDesired cfg fetched).1 (collectDesired cfg fetched).2.1
        (staleThreshold cfg now) (items.foldl (listPool fmt) ∅) now) := by
  refine Makes.then_bind (makes_tryEach fun ip hip => ?_) fun r => ?_
  · have hreported := mem_desired.mp hip
    exact keepPool_makes_of (Keeps.create hreported) (Keeps.touch hreported)
  · cases r with
    | error e => trivial
    | ok u =>
      refine makes_tryEach fun ip _ => prunePool_makes_of fun existing hcurrent hip hprune => ?_
      rcases lookup_listPool hcurrent with hnone | ⟨p, hp, hipOf, hseen⟩
      · cases hnone
      · refine Removes.delete hp hipOf (fun hreported => hip (mem_desired.mpr hreported)) ?_
        rw [← allHostsOk_iff, ← hseen]
        exact old_of_prunes hprune

end Calls

/-! ## The step lemmas -/

/-- Where others have not been, what was listed is as it was, but for its stamp. -/
def Intact (disturbed : Set String) (items : List (String × Pool)) (c : Cluster) : Prop :=
  ∀ name p, (name, p) ∈ items → name ∉ disturbed →
    ∃ p', c.lookup name = some p' ∧ p.Restamped p'

/-- The same once pools may be gone. -/
def IntactOrGone (disturbed : Set String) (items : List (String × Pool)) (c : Cluster) : Prop :=
  ∀ name p, (name, p) ∈ items → name ∉ disturbed →
    ∀ p', c.lookup name = some p' → p.Restamped p'

section Steps

variable {fmt : Rfc3339} {cfg : Config} {known : Known ε} {items : List (String × Pool)}
  {c c' : Cluster} {w : Write} {r : Except KubeError Unit}

lemma Intact.orGone {disturbed : Set String} (h : Intact disturbed items c) :
    IntactOrGone disturbed items c := by
  intro name p hmem hname p' hp'
  obtain ⟨q, hq, hrestamped⟩ := h name p hmem hname
  obtain rfl := Option.some.inj (hq.symm.trans hp')
  exact hrestamped

/-- A name that others have not touched has the pool that it had. -/
lemma lookup_of_undisturbed {name : String} (h : name ∉ (known.disturb c c').disturbed) :
    name ∉ known.disturbed ∧ c'.lookup name = c.lookup name := by
  simpa [Known.disturb, not_or] using h

lemma Intact.disturb (h : Intact known.disturbed items c) :
    Intact (known.disturb c c').disturbed items c' := by
  intro name p hmem hname
  obtain ⟨hname, hsame⟩ := lookup_of_undisturbed hname
  rw [hsame]
  exact h name p hmem hname

lemma IntactOrGone.disturb (h : IntactOrGone known.disturbed items c) :
    IntactOrGone (known.disturb c c').disturbed items c' := by
  intro name p hmem hname
  obtain ⟨hname, hsame⟩ := lookup_of_undisturbed hname
  rw [hsame]
  exact h name p hmem hname

/-- What a call of the first loop does. -/
lemma Keeps.lawful (hop : Keeps fmt cfg known.fetched known.now (.write w))
    (hstep : KubeStep c (.write w) r c') (h : Intact known.disturbed items c) :
    Lawful fmt cfg ⟨known, c, c'⟩ ∧ Intact known.disturbed items c' := by
  rcases kubeStep_write_inv hstep with happly | ⟨rfl, -⟩
  · cases hop with
    | @create ip hreported =>
      obtain ⟨hfree, rfl⟩ := applyWrite_create_inv happly
      refine ⟨Lawful.created hreported hfree rfl, fun name p hmem hname => ?_⟩
      -- a listed name is not free
      obtain ⟨p', hp', hrestamped⟩ := h name p hmem hname
      have hne : name ≠ poolName ip := by
        rintro rfl
        exact hfree (HashMap.mem_iff_lookup.mpr ⟨p', hp'⟩)
      exact ⟨p', (AList.lookup_insert_ne hne).trans hp', hrestamped⟩
    | @touch ip hreported =>
      obtain ⟨q, hq, rfl⟩ := applyWrite_patch_inv happly
      refine ⟨Lawful.stamped hreported hq rfl, fun name p hmem hname => ?_⟩
      obtain ⟨p', hp', hrestamped⟩ := h name p hmem hname
      by_cases heq : name = poolName ip
      · subst heq
        obtain rfl := Option.some.inj (hq.symm.trans hp')
        exact ⟨_, AList.lookup_insert _, hrestamped.annotate _⟩
      · exact ⟨p', (AList.lookup_insert_ne heq).trans hp', hrestamped⟩
  · exact ⟨Lawful.untouched rfl, h⟩

/-- What a call of the second does. -/
lemma Removes.lawful (hop : Removes fmt cfg known.fetched known.now items (.write w))
    (hlisted : known.listed = some items)
    (hmanaged : ∀ item ∈ items, item.2.labels.lookup managedByLabel = some managedByValue)
    (hstep : KubeStep c (.write w) r c') (h : IntactOrGone known.disturbed items c) :
    Lawful fmt cfg ⟨known, c, c'⟩ ∧ IntactOrGone known.disturbed items c' := by
  rcases kubeStep_write_inv hstep with happly | ⟨rfl, -⟩
  · cases hop with
    | @delete name ip p hp hip hreported hwhy =>
      obtain rfl := applyWrite_delete_inv happly
      have hmem := mem_of_applyWrite_delete happly
      constructor
      · refine Lawful.deleted hlisted hp (hmanaged _ hp) hip hreported hwhy (fun hname => ?_) rfl
        obtain ⟨p', hp'⟩ := HashMap.mem_iff_lookup.mp hmem
        exact ⟨p', hp', h name p hp hname p' hp'⟩
      · intro name' p' hmem' hname' q hq
        exact h name' p' hmem' hname' q (HashMap.lookup_of_erase hq).2
  · exact ⟨Lawful.untouched rfl, h⟩

end Steps

/-! ## Runs -/

/-- Where a pass stands: at its start, after a list that failed, or in one of its loops. -/
inductive Underway (fmt : Rfc3339) (cfg : Config) (known : Known ε) (c : Cluster) :
    Kube (Except KubeError Unit) → Prop
  | fresh {p : Kube (Except KubeError Unit)}
      (hp : p = reconcileOnce fmt cfg known.fetched known.now) : Underway fmt cfg known c p
  | unlisted (e : KubeError) : Underway fmt cfg known c (ret (.error e))
  | keeping {items : List (String × Pool)} {p : Kube (Except KubeError Unit)}
      (hlisted : known.listed = some items)
      (hmanaged : ∀ item ∈ items, item.2.labels.lookup managedByLabel = some managedByValue)
      (hmakes : MakesThen (Keeps fmt cfg known.fetched known.now)
        (Removes fmt cfg known.fetched known.now items) p)
      (hintact : Intact known.disturbed items c) : Underway fmt cfg known c p
  | removing {items : List (String × Pool)} {p : Kube (Except KubeError Unit)}
      (hlisted : known.listed = some items)
      (hmanaged : ∀ item ∈ items, item.2.labels.lookup managedByLabel = some managedByValue)
      (hmakes : Makes (Removes fmt cfg known.fetched known.now items) p)
      (hintact : IntactOrGone known.disturbed items c) : Underway fmt cfg known c p

section Run

variable {fmt : Rfc3339} {cfg : Config} {c c' : Cluster} {log : List (Change ε)}
  {known : Known ε} {pass : Option (Known ε × Kube (Except KubeError Unit))}

/-- The step lemma for others. -/
lemma Underway.disturb {p : Kube (Except KubeError Unit)} (h : Underway fmt cfg known c p)
    (c' : Cluster) : Underway fmt cfg (known.disturb c c') c' p := by
  cases h with
  | fresh hp => exact Underway.fresh hp
  | unlisted e => exact Underway.unlisted e
  | keeping hlisted hmanaged hmakes hintact =>
    exact Underway.keeping hlisted hmanaged hmakes hintact.disturb
  | removing hlisted hmanaged hmakes hintact =>
    exact Underway.removing hlisted hmanaged hmakes hintact.disturb

/-- The step lemma for a list. -/
lemma Underway.list {label value : String}
    {next : Except KubeError (List (String × Pool)) → Kube (Except KubeError Unit)}
    {r : Except KubeError (List (String × Pool))}
    (h : Underway fmt cfg known c (.call (.list label value) next))
    (hstep : KubeStep c (.list label value) r c') :
    Underway fmt cfg { known with listed := r.toOption, disturbed := ∅ } c' (next r) := by
  cases h with
  | fresh hp =>
    obtain ⟨hop, hnext⟩ := Prog.call.inj hp
    obtain ⟨rfl, rfl⟩ := KubeOp.list.inj hop
    obtain rfl := eq_of_heq hnext
    cases r with
    | error e => exact Underway.unlisted e
    | ok items =>
      obtain ⟨rfl, hselected⟩ := kubeStep_list_inv hstep
      have hitem (name : String) (p : Pool) (hmem : (name, p) ∈ items) :=
        mem_selected.mp ((hselected items rfl).mem_iff.mp hmem)
      exact Underway.keeping rfl (fun item hmem => (hitem item.1 item.2 hmem).2)
        afterList_makesThen fun name p hmem _ => ⟨p, (hitem name p hmem).1, Pool.Restamped.refl p⟩
  -- a pass lists once
  | keeping _ _ hmakes => rcases hmakes with ⟨hop, -⟩ | ⟨hop, -⟩ <;> cases hop
  | removing _ _ hmakes => cases hmakes.1

/-- The step lemma for a change. -/
lemma Underway.write {w : Write} {next : Except KubeError Unit → Kube (Except KubeError Unit)}
    {r : Except KubeError Unit} (h : Underway fmt cfg known c (.call (.write w) next))
    (hstep : KubeStep c (.write w) r c') :
    Underway fmt cfg known c' (next r) ∧ Lawful fmt cfg ⟨known, c, c'⟩ := by
  cases h with
  | fresh hp => cases (Prog.call.inj hp).1
  | keeping hlisted hmanaged hmakes hintact =>
    rcases hmakes with ⟨hop, hnext⟩ | ⟨hop, hnext⟩
    · obtain ⟨hlawful, hintact⟩ := hop.lawful hstep hintact
      exact ⟨Underway.keeping hlisted hmanaged (hnext r) hintact, hlawful⟩
    · -- the second loop begins
      obtain ⟨hlawful, hintact⟩ := hop.lawful hlisted hmanaged hstep hintact.orGone
      exact ⟨Underway.removing hlisted hmanaged (hnext r) hintact, hlawful⟩
  | removing hlisted hmanaged hmakes hintact =>
    obtain ⟨hlawful, hintact⟩ := hmakes.1.lawful hlisted hmanaged hstep hintact
    exact ⟨Underway.removing hlisted hmanaged (hmakes.2 r) hintact, hlawful⟩

/-- The run lemma. -/
lemma Among.lawful (h : Among fmt cfg log c pass) :
    (∀ ch ∈ log, Lawful fmt cfg ch) ∧
      ∀ known p, pass = some (known, p) → Underway fmt cfg known c p := by
  induction h with
  | start => exact ⟨by simp, nofun⟩
  | others _ c' ih =>
    refine ⟨ih.1, fun known p hpass => ?_⟩
    obtain ⟨⟨known', p'⟩, hunder, heq⟩ := Option.map_eq_some_iff.mp hpass
    obtain ⟨rfl, rfl⟩ := Prod.mk.inj heq
    exact (ih.2 known' p' hunder).disturb c'
  | begin _ now fetched ih =>
    refine ⟨ih.1, ?_⟩
    rintro known p ⟨⟩
    exact Underway.fresh rfl
  | list _ hstep ih =>
    refine ⟨ih.1, ?_⟩
    rintro known p ⟨⟩
    exact (ih.2 _ _ rfl).list hstep
  | write _ hstep ih =>
    obtain ⟨hunderway, hlawful⟩ := (ih.2 _ _ rfl).write hstep
    refine ⟨List.forall_mem_cons.mpr ⟨hlawful, ih.1⟩, ?_⟩
    rintro known p ⟨⟩
    exact hunderway
  | stop _ ih => exact ⟨ih.1, nofun⟩

end Run

/-- **The pools of others are left alone.**  In any run, whatever others do to the pools meanwhile,
whatever calls fail or lose their answers, and whenever the program is killed, each of its changes
creates, stamps or deletes one pool as described by `Lawful`, and leaves all others.  Whatever pool
stays has its labels, its blocks and all its annotations but the time. -/
theorem leaves_pools_of_others {fmt : Rfc3339} {cfg : Config} {log : List (Change ε)} {c : Cluster}
    {pass : Option (Known ε × Kube (Except KubeError Unit))} (h : Among fmt cfg log c pass)
    {ch : Change ε} (hch : ch ∈ log) :
    Lawful fmt cfg ch ∧
      ∀ name p p', ch.before.lookup name = some p → ch.after.lookup name = some p' →
        p.Restamped p' := by
  have hlawful := h.lawful.1 ch hch
  refine ⟨hlawful, fun name p p' hp hp' => ?_⟩
  have hsame (hname : ch.after.lookup name = ch.before.lookup name) : p.Restamped p' := by
    obtain rfl := Option.some.inj (hp'.symm.trans (hname.trans hp))
    exact Pool.Restamped.refl p'
  cases hlawful with
  | untouched hafter => exact hsame (by rw [hafter])
  | @created ip _ hfree hafter =>
    refine hsame ?_
    have hne : name ≠ poolName ip := by
      rintro rfl
      exact hfree (HashMap.mem_iff_lookup.mpr ⟨p, hp⟩)
    rw [hafter, AList.lookup_insert_ne hne]
  | @stamped ip q _ hbefore hafter =>
    by_cases hname : name = poolName ip
    · subst hname
      obtain rfl := Option.some.inj (hbefore.symm.trans hp)
      rw [hafter, AList.lookup_insert, Option.some.injEq] at hp'
      exact hp' ▸ (Pool.Restamped.refl q).annotate _
    · exact hsame (by rw [hafter, AList.lookup_insert_ne hname])
  | @deleted gone _ _ _ _ _ _ _ _ _ _ hafter =>
    rw [hafter] at hp'
    obtain ⟨hne, -⟩ := HashMap.lookup_of_erase hp'
    exact hsame (by rw [hafter, AList.lookup_erase_ne hne])

/-! ## A name that is taken -/

/-- A pool of somebody else. -/
def bluePool : Pool := ⟨AList.insert "team" "blue" ∅, none, [some "192.0.2.0/24"]⟩

/-- It has the name of a pool of the program. -/
def takenName : Cluster := AList.insert (poolName ⟨110, 0, 0, 1⟩) bluePool ∅

/-- The pool, once it was stamped. -/
def stampedBlue : Cluster :=
  takenName.insert (poolName ⟨110, 0, 0, 1⟩)
    (bluePool.annotate [( lastSeenAnnotation, epochText.format 0)])

/-- The first host has the address, and the second does not answer. -/
def onlyFirst : Known String := ⟨0, oneAnswers, some [], ∅⟩

theorem blue_pool_stays_blue :
    ∃ pass, Among epochText twoHosts [⟨onlyFirst, takenName, stampedBlue⟩,
        ⟨onlyFirst, takenName, takenName⟩] stampedBlue pass ∧
      ∀ p', stampedBlue.lookup (poolName ⟨110, 0, 0, 1⟩) = some p' →
        p'.labels = bluePool.labels ∧ p'.blocks = bluePool.blocks := by
  have hnone : selected takenName managedByLabel managedByValue = [] :=
    List.eq_nil_of_length_eq_zero (by decide)
  have hlist : KubeStep takenName (.list managedByLabel managedByValue) (.ok []) takenName :=
    KubeStep.listed (by rw [hnone])
  have hcreate : KubeStep takenName (.write (.create (poolName ⟨110, 0, 0, 1⟩)
      (buildPool epochText ⟨110, 0, 0, 1⟩ 0))) (.error (.api 409)) takenName := KubeStep.refused _
  have htouch : KubeStep takenName (.write (.patch (poolName ⟨110, 0, 0, 1⟩)
      [( lastSeenAnnotation, epochText.format 0)])) (.ok ()) stampedBlue := KubeStep.done rfl
  have hbegun := (Among.start takenName : Among epochText twoHosts _ _ _).begin 0 oneAnswers
  have hlisted := hbegun.list hlist
  have hcreated := hlisted.write hcreate
  have hlog := hcreated.write htouch
  refine ⟨_, hlog, fun p' hp' => ?_⟩
  obtain ⟨-, hkept⟩ := leaves_pools_of_others hlog List.mem_cons_self
  obtain ⟨hlabels, hblocks, -⟩ := hkept _ bluePool p' (AList.lookup_insert _) hp'
  exact ⟨hlabels, hblocks⟩

end Dumbarp.K8s
