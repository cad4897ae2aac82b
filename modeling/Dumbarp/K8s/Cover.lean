/-
What a pass that succeeds covers.

`list_current` finds pools by label and annotation, while `create_pool` and `touch_pool` go by the
name computed from the address, and `delete_pool` by the name that was listed.  On a cluster of
the program's own making the three agree.  On any other a pass covers an address exactly when
nothing is listed for it and its name is free, or when pools are listed for it, its name is taken,
and all the listed pools have the block of the address.
-/
import Dumbarp.K8s.Track

namespace Dumbarp.K8s

open Interact Interact.Prog

variable {ε : Type}

/-! ## An honest server -/

/-- The code of the error by which a change fails. -/
def refusal : Write → ℕ
  | .create _ _ => 409
  | .patch _ _ => 404
  | .delete _ => 404

/-- **The API server when a call fails only for its own reason**: a create of a name that is
taken, a patch or a delete of one that is missing. -/
inductive HonestStep : Sem Cluster KubeOp KubeOp.Res
  | listed {c : Cluster} {label value : String} {items : List (String × Pool)}
      (h : items.Perm (selected c label value)) : HonestStep c (.list label value) (.ok items) c
  | done {c c' : Cluster} {w : Write} (h : applyWrite c w = some c') :
      HonestStep c (.write w) (.ok ()) c'
  | refused {c : Cluster} {w : Write} (h : applyWrite c w = none) :
      HonestStep c (.write w) (.error (.api (refusal w))) c

section Inversion

variable {c c' : Cluster}

lemma honestStep_list_inv {label value : String} {r : Except KubeError (List (String × Pool))}
    (h : HonestStep c (.list label value) r c') :
    c' = c ∧ ∃ items, r = .ok items ∧ items.Perm (selected c label value) := by
  cases h with
  | listed h => exact ⟨rfl, _, rfl, h⟩

lemma honestStep_create_inv {name : String} {pool : Pool} {r : Except KubeError Unit}
    (h : HonestStep c (.write (.create name pool)) r c') :
    (r = .ok () ∧ name ∉ c ∧ c' = c.insert name pool) ∨
      (r = .error (.api 409) ∧ name ∈ c ∧ c' = c) := by
  cases h with
  | done h =>
    obtain ⟨hname, rfl⟩ := applyWrite_create_inv h
    exact Or.inl ⟨rfl, hname, rfl⟩
  | refused h =>
    refine Or.inr ⟨rfl, ?_, rfl⟩
    by_contra hname
    simp [applyWrite, hname] at h

lemma honestStep_patch_inv {name : String} {ann : List (String × String)}
    {r : Except KubeError Unit} (h : HonestStep c (.write (.patch name ann)) r c') :
    (r = .ok () ∧ ∃ p, c.lookup name = some p ∧ c' = c.insert name (p.annotate ann)) ∨
      ((∃ e, r = .error e) ∧ name ∉ c ∧ c' = c) := by
  cases h with
  | done h => exact Or.inl ⟨rfl, applyWrite_patch_inv h⟩
  | refused h =>
    refine Or.inr ⟨⟨_, rfl⟩, fun hname => ?_, rfl⟩
    obtain ⟨p, hp⟩ := HashMap.mem_iff_lookup.mp hname
    simp [applyWrite, hp] at h

lemma honestStep_delete_inv {name : String} {r : Except KubeError Unit}
    (h : HonestStep c (.write (.delete name)) r c') :
    (r = .ok () ∧ c' = c.erase name) ∨ (r = .error (.api 404) ∧ c' = c) := by
  cases h with
  | done h => exact Or.inl ⟨rfl, applyWrite_delete_inv h⟩
  | refused h => exact Or.inr ⟨rfl, rfl⟩

end Inversion

lemma answer_honest (c : Cluster) (op : KubeOp) :
    HonestStep c op (answer (fun _ => false) c op).1 (answer (fun _ => false) c op).2 := by
  cases op with
  | list label value => exact HonestStep.listed (List.Perm.refl _)
  | write w =>
    simp only [answer]
    cases h : applyWrite c w with
    | some c' => exact HonestStep.done h
    | none => cases w <;> exact HonestStep.refused h

/-! ## Covered addresses -/

/-- The block of an address. -/
def cidrOf (ip : Ipv4Addr) : String := ip.toString ++ "/32"

/-- The next pass lists a managed pool for the address that has its block, whatever the order of
the list. -/
def Covered (fmt : Rfc3339) (c : Cluster) (ip : Ipv4Addr) : Prop :=
  ∀ items : List (String × Pool), items.Perm (selected c managedByLabel managedByValue) →
    ∃ existing p, (items.foldl (listPool fmt) ∅).lookup ip = some existing ∧
      c.lookup existing.name = some p ∧ Managed p ∧ p.blocks = [some (cidrOf ip)]

/-- The pool is listed for the address. -/
def ListedFor (c : Cluster) (ip : Ipv4Addr) (name : String) (p : Pool) : Prop :=
  c.lookup name = some p ∧ Managed p ∧ ipOf p = some ip

/-- No pool is listed for the address and its name is free, or its name is taken and all the pools
that are listed for it, of which there are some, have its block. -/
def Sound (c : Cluster) (ip : Ipv4Addr) : Prop :=
  ((∀ name p, ¬ ListedFor c ip name p) ∧ poolName ip ∉ c) ∨
    ((∃ name p, ListedFor c ip name p) ∧ poolName ip ∈ c ∧
      ∀ name p, ListedFor c ip name p → p.blocks = [some (cidrOf ip)])

section Listing

variable {fmt : Rfc3339} {c : Cluster} {items : List (String × Pool)} {ip : Ipv4Addr}

/-- What is listed for an address is one of its pools. -/
lemma listedFor_of_lookup (hitems : items.Perm (selected c managedByLabel managedByValue))
    {existing : ExistingPool} (h : (items.foldl (listPool fmt) ∅).lookup ip = some existing) :
    ∃ p, ListedFor c ip existing.name p := by
  rcases lookup_listPool h with hnone | ⟨p, hp, hip, -⟩
  · cases hnone
  · obtain ⟨hlookup, hlabel⟩ := mem_selected.mp (hitems.mem_iff.mp hp)
    exact ⟨p, hlookup, hlabel, hip⟩

/-- An address that has pools is listed. -/
lemma lookup_eq_none_iff (hitems : items.Perm (selected c managedByLabel managedByValue)) :
    (items.foldl (listPool fmt) ∅).lookup ip = none ↔ ∀ name p, ¬ ListedFor c ip name p := by
  constructor
  · rintro h name p ⟨hp, hlabel, hip⟩
    have hmem : ip ∈ items.foldl (listPool fmt) ∅ :=
      mem_listPool (Or.inr ⟨(name, p), hitems.mem_iff.mpr (mem_selected.mpr ⟨hp, hlabel⟩), hip⟩)
    exact AList.lookup_eq_none.mp h hmem
  · intro h
    cases hlookup : (items.foldl (listPool fmt) ∅).lookup ip with
    | none => rfl
    | some existing =>
      obtain ⟨p, hp⟩ := listedFor_of_lookup hitems hlookup
      exact absurd hp (h _ p)

/-- The list may show any of the pools of an address last, and so give that one. -/
lemma exists_listing {name : String} {p : Pool} (h : ListedFor c ip name p) :
    ∃ items : List (String × Pool), items.Perm (selected c managedByLabel managedByValue) ∧
      ∃ seen, (items.foldl (listPool fmt) ∅).lookup ip = some ⟨name, seen⟩ := by
  classical
  obtain ⟨hp, hlabel, hip⟩ := h
  have hmem : (name, p) ∈ selected c managedByLabel managedByValue := mem_selected.mpr ⟨hp, hlabel⟩
  obtain ⟨before, after, hsplit⟩ := List.append_of_mem hmem
  refine ⟨before ++ after ++ [(name, p)], ?_, lastSeenOf fmt p, ?_⟩
  · rw [hsplit, List.append_assoc]
    exact (List.perm_append_comm.trans (by simp)).append_left before
  · rw [List.foldl_append, List.foldl_cons, List.foldl_nil, listPool_eq, hip]
    exact AList.lookup_insert _

end Listing

/-! ## What the first loop leaves -/

/-- The pools differ in their stamp at most. -/
structure Like (p p' : Pool) : Prop where
  labels : p'.labels = p.labels
  blocks : p'.blocks = p.blocks
  ip : ipOf p' = ipOf p

lemma Like.refl (p : Pool) : Like p p := ⟨rfl, rfl, rfl⟩

/-- A touch changes the stamp only. -/
lemma Like.touched {p p' : Pool} (h : Like p p') (text : String) :
    Like p (p'.annotate [( lastSeenAnnotation, text)]) :=
  ⟨h.labels, h.blocks, (ipOf_touched p' text).trans h.ip⟩

/-- The cluster `s` that a pass has made of `c` once it has seen to the addresses `seen`: the
pools are as they were but for their stamps, with one new pool for each address that had none. -/
structure Kept (fmt : Rfc3339) (now : ℤ) (current : HashMap Ipv4Addr ExistingPool) (c : Cluster)
    (seen : List Ipv4Addr) (s : Cluster) : Prop where
  old : ∀ name p, c.lookup name = some p → ∃ p', s.lookup name = some p' ∧ Like p p'
  new : ∀ name p', s.lookup name = some p' → (∃ p, c.lookup name = some p ∧ Like p p') ∨
    (name ∉ c ∧ ∃ ip ∈ seen, name = poolName ip ∧ current.lookup ip = none ∧
      Like (buildPool fmt ip now) p')
  made : ∀ ip ∈ seen, poolName ip ∈ s

section Loops

variable {fmt : Rfc3339} {now : ℤ} {current : HashMap Ipv4Addr ExistingPool} {c s s' : Cluster}
  {seen : List Ipv4Addr} {ip : Ipv4Addr} {es : List KubeEvent} {res : Except KubeError Unit}

lemma Kept.start : Kept fmt now current c [] c :=
  ⟨fun _ p hp => ⟨p, hp, Like.refl p⟩, fun _ p hp => Or.inl ⟨p, hp, Like.refl p⟩, nofun⟩

lemma Kept.mem_of_mem (h : Kept fmt now current c seen s) {name : String} (hname : name ∈ c) :
    name ∈ s := by
  obtain ⟨p, hp⟩ := HashMap.mem_iff_lookup.mp hname
  obtain ⟨p', hp', -⟩ := h.old name p hp
  exact HashMap.mem_iff_lookup.mpr ⟨p', hp'⟩

/-- The name of one more address is seen to. -/
lemma Kept.made_insert (h : Kept fmt now current c seen s) (p : Pool) :
    ∀ y ∈ seen ++ [ip], poolName y ∈ s.insert (poolName ip) p := by
  intro y hy
  rw [AList.mem_insert]
  rcases List.mem_append.mp hy with hy | hy
  · exact Or.inr (h.made y hy)
  · exact Or.inl (congrArg poolName (List.mem_singleton.mp hy))

/-- A pool is created. -/
lemma Kept.create (h : Kept fmt now current c seen s) (hcurrent : current.lookup ip = none)
    (hname : poolName ip ∉ s) :
    Kept fmt now current c (seen ++ [ip]) (s.insert (poolName ip) (buildPool fmt ip now)) := by
  refine ⟨fun name p hp => ?_, fun name p' hp' => ?_, h.made_insert _⟩
  · obtain ⟨p', hp', hlike⟩ := h.old name p hp
    exact ⟨p', HashMap.lookup_insert_of_notMem hname hp', hlike⟩
  · rcases HashMap.lookup_insert_cases hp' with ⟨rfl, rfl⟩ | hp'
    · exact Or.inr ⟨fun hc => hname (h.mem_of_mem hc), ip, by simp, rfl, hcurrent, Like.refl _⟩
    · rcases h.new name p' hp' with hold | ⟨hc, y, hy, hnew⟩
      · exact Or.inl hold
      · exact Or.inr ⟨hc, y, List.mem_append_left _ hy, hnew⟩

/-- A pool is touched. -/
lemma Kept.touch (h : Kept fmt now current c seen s) {p : Pool}
    (hp : s.lookup (poolName ip) = some p) (text : String) :
    Kept fmt now current c (seen ++ [ip])
      (s.insert (poolName ip) (p.annotate [( lastSeenAnnotation, text)])) := by
  refine ⟨fun name q hq => ?_, fun name q' hq' => ?_, h.made_insert _⟩
  · obtain ⟨q', hq', hlike⟩ := h.old name q hq
    by_cases hne : name = poolName ip
    · subst hne
      obtain rfl := Option.some.inj (hp.symm.trans hq')
      exact ⟨_, AList.lookup_insert _, hlike.touched text⟩
    · exact ⟨q', (AList.lookup_insert_ne hne).trans hq', hlike⟩
  · have hnew {q : Pool} (hq : s.lookup name = some q) (htouched : ∀ r, Like r q → Like r q') :
        (∃ r, c.lookup name = some r ∧ Like r q') ∨ (name ∉ c ∧ ∃ y ∈ seen ++ [ip],
          name = poolName y ∧ current.lookup y = none ∧ Like (buildPool fmt y now) q') := by
      rcases h.new name q hq with ⟨r, hr, hlike⟩ | ⟨hc, y, hy, hname, hcurrent, hlike⟩
      · exact Or.inl ⟨r, hr, htouched r hlike⟩
      · exact Or.inr ⟨hc, y, List.mem_append_left _ hy, hname, hcurrent, htouched _ hlike⟩
    rcases HashMap.lookup_insert_cases hq' with ⟨rfl, rfl⟩ | hq'
    · exact hnew hp fun r hr => hr.touched text
    · exact hnew hq' fun r hr => hr

/-- A touch finds its pool, or fails. -/
lemma touchPool_honest (h : Kept fmt now current c seen s)
    (hrun : Runs HonestStep (touchPool fmt ip now) s es res s') :
    (res = .ok () ∧ Kept fmt now current c (seen ++ [ip]) s') ∨
      (∃ e, res = .error e) ∧ poolName ip ∉ s := by
  obtain ⟨r, s₁, es', rfl, hstep, hrest⟩ := runs_call_inv hrun
  obtain ⟨rfl, rfl, rfl⟩ := runs_ret_inv hrest
  rcases honestStep_patch_inv hstep with ⟨rfl, p, hp, rfl⟩ | ⟨herr, hname, -⟩
  · exact Or.inl ⟨rfl, h.touch hp _⟩
  · exact Or.inr ⟨herr, hname⟩

/-- A turn of the first loop sees to its address, unless it is listed and its name is missing. -/
lemma keepPool_honest (h : Kept fmt now current c seen s)
    (hrun : Runs HonestStep (keepPool fmt current now ip) s es res s') :
    (res = .ok () ∧ Kept fmt now current c (seen ++ [ip]) s') ∨
      (∃ e, res = .error e) ∧ current.lookup ip ≠ none ∧ poolName ip ∉ c := by
  rw [keepPool] at hrun
  cases hcurrent : current.lookup ip with
  | some existing =>
    rw [hcurrent] at hrun
    rcases touchPool_honest h hrun with hok | ⟨herr, hname⟩
    · exact Or.inl hok
    · exact Or.inr ⟨herr, by simp, fun hc => hname (h.mem_of_mem hc)⟩
  | none =>
    rw [hcurrent] at hrun
    obtain ⟨r, s₁, es', rfl, hstep, hrest⟩ := runs_call_inv hrun
    left
    rcases honestStep_create_inv hstep with ⟨rfl, hname, rfl⟩ | ⟨rfl, hname, rfl⟩
    · obtain ⟨-, rfl, rfl⟩ := runs_ret_inv hrest
      exact ⟨rfl, h.create hcurrent hname⟩
    · -- the name is taken by a pool that was not listed for the address: it is touched
      rcases touchPool_honest h (hrest : Runs HonestStep (touchPool fmt ip now) _ _ _ _) with
        hok | ⟨-, hno⟩
      · exact hok
      · exact absurd hname hno

/-- **The first loop** sees to all addresses, unless one is listed and its name is missing. -/
lemma keepLoop_honest {xs : List Ipv4Addr} (h : Kept fmt now current c seen s)
    (hrun : Runs HonestStep (tryEach (keepPool fmt current now) xs) s es res s') :
    (res = .ok () ∧ Kept fmt now current c (seen ++ xs) s') ∨
      (∃ e, res = .error e) ∧ ∃ ip ∈ xs, current.lookup ip ≠ none ∧ poolName ip ∉ c := by
  induction xs generalizing seen s es with
  | nil =>
    obtain ⟨-, rfl, rfl⟩ := runs_ret_inv hrun
    exact Or.inl ⟨rfl, by rwa [List.append_nil]⟩
  | cons ip xs ih =>
    obtain ⟨es₁, r, s₁, es₂, rfl, hbody, hrest⟩ := runs_bind_inv hrun
    rcases keepPool_honest h hbody with ⟨rfl, h₁⟩ | ⟨⟨e, rfl⟩, hcurrent, hname⟩
    · rcases ih h₁ hrest with ⟨hres, hkept⟩ | ⟨herr, y, hy, hfail⟩
      · exact Or.inl ⟨hres, by rwa [List.append_assoc] at hkept⟩
      · exact Or.inr ⟨herr, y, List.mem_cons_of_mem _ hy, hfail⟩
    · obtain ⟨-, rfl, -⟩ := runs_ret_inv hrest
      exact Or.inr ⟨⟨e, rfl⟩, ip, List.mem_cons_self, hcurrent, hname⟩

end Loops

/-! ## What the second loop takes away -/

/-- The name of a pool that was listed for an address that nobody wants. -/
def Unwanted (current : HashMap Ipv4Addr ExistingPool) (desired : List Ipv4Addr) (name : String) :
    Prop :=
  ∃ ip existing, current.lookup ip = some existing ∧ ip ∉ desired ∧ name = existing.name

/-- Nothing is added, and what is wanted stays. -/
structure Pruned (current : HashMap Ipv4Addr ExistingPool) (desired : List Ipv4Addr)
    (s s' : Cluster) : Prop where
  sub : ∀ name p, s'.lookup name = some p → s.lookup name = some p
  wanted : ∀ name, ¬ Unwanted current desired name → s'.lookup name = s.lookup name

section Prune

variable {current : HashMap Ipv4Addr ExistingPool} {desired : List Ipv4Addr} {allHostsOk : Bool}
  {threshold : ℤ} {s s' s'' : Cluster} {es : List KubeEvent} {res : Except KubeError Unit}

lemma Pruned.refl (s : Cluster) : Pruned current desired s s := ⟨fun _ _ h => h, fun _ _ => rfl⟩

lemma Pruned.trans (h : Pruned current desired s s') (h' : Pruned current desired s' s'') :
    Pruned current desired s s'' :=
  ⟨fun name p hp => h.sub name p (h'.sub name p hp),
    fun name hn => (h'.wanted name hn).trans (h.wanted name hn)⟩

lemma Pruned.erase {name : String} (h : Unwanted current desired name) :
    Pruned current desired s (s.erase name) := by
  refine ⟨fun other p hp => ?_, fun other hother => ?_⟩
  · exact (HashMap.lookup_of_erase hp).2
  · exact AList.lookup_erase_ne fun he => hother (he ▸ h)

/-- A turn of the second loop never fails. -/
lemma prunePool_honest {ip : Ipv4Addr}
    (hrun : Runs HonestStep (prunePool desired allHostsOk threshold current ip) s es res s') :
    res = .ok () ∧ Pruned current desired s s' := by
  have hret {es : List KubeEvent} (h : Runs HonestStep (ret (.ok ())) s es res s') :
      res = .ok () ∧ Pruned current desired s s' := by
    obtain ⟨-, rfl, rfl⟩ := runs_ret_inv h
    exact ⟨rfl, Pruned.refl _⟩
  rw [prunePool] at hrun
  split at hrun
  · exact hret hrun
  · rename_i existing hcurrent
    split at hrun
    · exact hret hrun
    · rename_i hip
      split at hrun
      · obtain ⟨r, s₁, es', rfl, hstep, hrest⟩ := runs_call_inv hrun
        -- whether the pool was there or not, the turn ends well
        rcases honestStep_delete_inv hstep with ⟨rfl, rfl⟩ | ⟨rfl, rfl⟩
        · obtain ⟨-, rfl, rfl⟩ := runs_ret_inv hrest
          exact ⟨rfl, Pruned.erase ⟨ip, existing, hcurrent, hip, rfl⟩⟩
        · exact hret hrest
      · exact hret hrun

/-- **The second loop** never fails. -/
lemma pruneLoop_honest {xs : List Ipv4Addr}
    (hrun : Runs HonestStep (tryEach (prunePool desired allHostsOk threshold current) xs) s es res
      s') : res = .ok () ∧ Pruned current desired s s' := by
  induction xs generalizing s es with
  | nil =>
    obtain ⟨-, rfl, rfl⟩ := runs_ret_inv hrun
    exact ⟨rfl, Pruned.refl _⟩
  | cons ip xs ih =>
    obtain ⟨es₁, r, s₁, es₂, rfl, hbody, hrest⟩ := runs_bind_inv hrun
    obtain ⟨rfl, h₁⟩ := prunePool_honest hbody
    obtain ⟨hres, h₂⟩ := ih hrest
    exact ⟨hres, h₁.trans h₂⟩

end Prune

/-! ## A pass -/

section Pass

variable {fmt : Rfc3339} {cfg : Config} {fetched : HostConfig → Except ε (List Ipv4Addr)}
  {now : ℤ} {c s c' : Cluster} {items : List (String × Pool)} {ip : Ipv4Addr}
  {es : List KubeEvent} {res : Except KubeError Unit}

/-- A pass ends well, having seen to all addresses, or it fails at one that is listed and whose
name is missing. -/
lemma reconcileOnce_honest
    (hrun : Runs HonestStep (reconcileOnce fmt cfg fetched now) c es res c') :
    ∃ items : List (String × Pool), items.Perm (selected c managedByLabel managedByValue) ∧
      ((res = .ok () ∧ ∃ s,
          Kept fmt now (items.foldl (listPool fmt) ∅) c (collectDesired cfg fetched).1 s ∧
          Pruned (items.foldl (listPool fmt) ∅) (collectDesired cfg fetched).1 s c') ∨
        (∃ e, res = .error e) ∧ ∃ ip, Reported cfg fetched ip ∧
          (items.foldl (listPool fmt) ∅).lookup ip ≠ none ∧ poolName ip ∉ c) := by
  rcases runs_reconcileOnce_cases hrun with ⟨e, hstep, -⟩ | ⟨items, c₁, es', hstep, -, hrest⟩
  · obtain ⟨-, items, hitems, -⟩ := honestStep_list_inv hstep
    cases hitems
  · obtain ⟨rfl, items, heq, hperm⟩ := honestStep_list_inv hstep
    cases heq
    refine ⟨items, hperm, ?_⟩
    obtain ⟨es₁, r, s, es₂, -, hloop, hafter⟩ := runs_bind_inv hrest
    rcases keepLoop_honest Kept.start hloop with ⟨rfl, hkept⟩ | ⟨⟨e, rfl⟩, ip, hip, hfail⟩
    · obtain ⟨hres, hpruned⟩ := pruneLoop_honest hafter
      exact Or.inl ⟨hres, s, hkept, hpruned⟩
    · obtain ⟨-, rfl, -⟩ := runs_ret_inv hafter
      exact Or.inr ⟨⟨e, rfl⟩, ip, mem_desired.mp hip, hfail⟩

/-- What `reconcileOnce_honest` says of a pass that ends well. -/
structure Passed (fmt : Rfc3339) (cfg : Config) (fetched : HostConfig → Except ε (List Ipv4Addr))
    (now : ℤ) (items : List (String × Pool)) (c s c' : Cluster) : Prop where
  perm : items.Perm (selected c managedByLabel managedByValue)
  kept : Kept fmt now (items.foldl (listPool fmt) ∅) c (collectDesired cfg fetched).1 s
  pruned : Pruned (items.foldl (listPool fmt) ∅) (collectDesired cfg fetched).1 s c'

/-- The pools of a reported address stay. -/
lemma Passed.survives (h : Passed fmt cfg fetched now items c s c')
    (hip : Reported cfg fetched ip) {name : String} {p : Pool} (hp : ListedFor c ip name p) :
    ∃ p', ListedFor c' ip name p' ∧ Like p p' := by
  obtain ⟨hlookup, hlabel, haddress⟩ := hp
  obtain ⟨p', hp', hlike⟩ := h.kept.old name p hlookup
  have hwanted : ¬ Unwanted (items.foldl (listPool fmt) ∅) (collectDesired cfg fetched).1 name := by
    rintro ⟨other, existing, hlisted, hother, rfl⟩
    obtain ⟨q, hq, -, hqip⟩ := listedFor_of_lookup h.perm hlisted
    obtain rfl := Option.some.inj (hq.symm.trans hlookup)
    obtain rfl := Option.some.inj (hqip.symm.trans haddress)
    exact hother (mem_desired.mpr hip)
  refine ⟨p', ⟨(h.pruned.wanted name hwanted).trans hp', ?_, hlike.ip.trans haddress⟩, hlike⟩
  rw [Managed, hlike.labels]
  exact hlabel

/-- Where the pools of an address come from: they were there, or the pass created one because
there was none. -/
lemma Passed.origin (h : Passed fmt cfg fetched now items c s c') {name : String} {p' : Pool}
    (hp : ListedFor c' ip name p') :
    (∃ p, ListedFor c ip name p ∧ Like p p') ∨
      ((∀ other p, ¬ ListedFor c ip other p) ∧ poolName ip ∉ c ∧
        p'.blocks = [some (cidrOf ip)]) := by
  obtain ⟨hlookup, hlabel, haddress⟩ := hp
  rcases h.kept.new name p' (h.pruned.sub name p' hlookup) with
    ⟨p, hp, hlike⟩ | ⟨hname, y, -, rfl, hcurrent, hlike⟩
  · refine Or.inl ⟨p, ⟨hp, ?_, hlike.ip.symm.trans haddress⟩, hlike⟩
    rw [Managed, ← hlike.labels]
    exact hlabel
  · -- the created pool is that of its own address
    have hy := (hlike.ip.symm.trans haddress).symm.trans (ipOf_buildPool fmt y now)
    obtain rfl := Option.some.inj hy
    exact Or.inr ⟨(lookup_eq_none_iff h.perm).mp hcurrent, hname, hlike.blocks⟩

/-- A reported address without pools whose name is free gets a pool. -/
lemma Passed.created (h : Passed fmt cfg fetched now items c s c') (hip : Reported cfg fetched ip)
    (hname : poolName ip ∉ c) : ∃ p', ListedFor c' ip (poolName ip) p' := by
  obtain ⟨p', hp'⟩ := HashMap.mem_iff_lookup.mp (h.kept.made ip (mem_desired.mpr hip))
  rcases h.kept.new _ p' hp' with ⟨p, hp, -⟩ | ⟨-, y, -, hy, -, hlike⟩
  · exact absurd (HashMap.mem_iff_lookup.mpr ⟨p, hp⟩) hname
  · obtain rfl := poolName_injective hy
    have hwanted :
        ¬ Unwanted (items.foldl (listPool fmt) ∅) (collectDesired cfg fetched).1 (poolName ip) := by
      rintro ⟨other, existing, hlisted, -, heq⟩
      obtain ⟨q, hq, -⟩ := listedFor_of_lookup h.perm hlisted
      exact hname (HashMap.mem_iff_lookup.mpr ⟨q, heq ▸ hq⟩)
    refine ⟨p', (h.pruned.wanted _ hwanted).trans hp', ?_,
      hlike.ip.trans (ipOf_buildPool fmt ip now)⟩
    rw [Managed, hlike.labels]
    exact AList.lookup_insert _

/-- An address is covered when it has a pool and all its pools have its block. -/
lemma covered_of_listed {name : String} {p : Pool} (hp : ListedFor c ip name p)
    (hall : ∀ name p, ListedFor c ip name p → p.blocks = [some (cidrOf ip)]) :
    Covered fmt c ip := by
  intro items hitems
  cases hlookup : (items.foldl (listPool fmt) ∅).lookup ip with
  | none => exact absurd hp ((lookup_eq_none_iff hitems).mp hlookup name p)
  | some existing =>
    obtain ⟨q, hq⟩ := listedFor_of_lookup hitems hlookup
    exact ⟨existing, q, rfl, hq.1, hq.2.1, hall _ q hq⟩

/-- Every pool of a covered address has its block, since the list may show it last. -/
lemma Covered.blocks (h : Covered fmt c ip) {name : String} {p : Pool}
    (hp : ListedFor c ip name p) : p.blocks = [some (cidrOf ip)] := by
  obtain ⟨items, hitems, seen, hlast⟩ := @exists_listing fmt _ _ _ _ hp
  obtain ⟨existing, q, hlookup, hq, -, hblocks⟩ := h items hitems
  obtain rfl := Option.some.inj (hlast.symm.trans hlookup)
  obtain rfl := Option.some.inj (hp.1.symm.trans hq)
  exact hblocks

lemma Covered.listed (h : Covered fmt c ip) : ∃ name p, ListedFor c ip name p := by
  obtain ⟨existing, q, hlookup, -⟩ := h _ (List.Perm.refl _)
  obtain ⟨p, hp⟩ := listedFor_of_lookup (List.Perm.refl _) hlookup
  exact ⟨_, p, hp⟩

/-- A reported address that is listed has found its name. -/
lemma Passed.found (h : Passed fmt cfg fetched now items c s c') (hip : Reported cfg fetched ip)
    (hlisted : (items.foldl (listPool fmt) ∅).lookup ip ≠ none) : poolName ip ∈ c := by
  obtain ⟨p', hp'⟩ := HashMap.mem_iff_lookup.mp (h.kept.made ip (mem_desired.mpr hip))
  rcases h.kept.new _ p' hp' with ⟨p, hp, -⟩ | ⟨-, y, -, hy, hcurrent, -⟩
  · exact HashMap.mem_iff_lookup.mpr ⟨p, hp⟩
  · exact absurd (poolName_injective hy ▸ hcurrent) hlisted

/-- After a pass that ended well a reported address is covered exactly if it was sound. -/
lemma Passed.covered_iff (h : Passed fmt cfg fetched now items c s c')
    (hip : Reported cfg fetched ip) : Covered fmt c' ip ↔ Sound c ip := by
  constructor
  · intro hcovered
    by_cases hlisted : (items.foldl (listPool fmt) ∅).lookup ip = none
    · have hno := (lookup_eq_none_iff h.perm).mp hlisted
      obtain ⟨name, p', hp'⟩ := hcovered.listed
      rcases h.origin hp' with ⟨p, hp, -⟩ | ⟨-, hname, -⟩
      · exact absurd hp (hno name p)
      · exact Or.inl ⟨hno, hname⟩
    · obtain ⟨existing, hexisting⟩ := Option.ne_none_iff_exists'.mp hlisted
      obtain ⟨p, hp⟩ := listedFor_of_lookup h.perm hexisting
      refine Or.inr ⟨⟨_, p, hp⟩, h.found hip hlisted, fun name q hq => ?_⟩
      obtain ⟨q', hq', hlike⟩ := h.survives hip hq
      exact hlike.blocks.symm.trans (hcovered.blocks hq')
  · rintro (⟨hno, hname⟩ | ⟨⟨name, p, hp⟩, -, hall⟩)
    · obtain ⟨p', hp'⟩ := h.created hip hname
      refine covered_of_listed hp' fun name q' hq' => ?_
      rcases h.origin hq' with ⟨q, hq, -⟩ | ⟨-, -, hblocks⟩
      · exact absurd hq (hno name q)
      · exact hblocks
    · obtain ⟨p', hp', -⟩ := h.survives hip hp
      refine covered_of_listed hp' fun name q' hq' => ?_
      rcases h.origin hq' with ⟨q, hq, hlike⟩ | ⟨hno, -⟩
      · exact hlike.blocks.trans (hall name q hq)
      · exact absurd hp (hno _ p)

/-- **A pass succeeds and covers all that was reported exactly if every reported address was
sound**: on a server whose calls fail only for their own reasons, whatever the pools it has. -/
theorem success_covers_iff
    (hrun : Runs HonestStep (reconcileOnce fmt cfg fetched now) c es res c') :
    (res = .ok () ∧ ∀ ip, Reported cfg fetched ip → Covered fmt c' ip) ↔
      ∀ ip, Reported cfg fetched ip → Sound c ip := by
  obtain ⟨items, hitems, ⟨rfl, s, hkept, hpruned⟩ | ⟨⟨e, rfl⟩, ip, hip, hlisted, hname⟩⟩ :=
    reconcileOnce_honest hrun
  · have hpassed : Passed fmt cfg fetched now items c s c' := ⟨hitems, hkept, hpruned⟩
    constructor
    · rintro ⟨-, hall⟩ ip hip
      exact (hpassed.covered_iff hip).mp (hall ip hip)
    · intro hall
      exact ⟨rfl, fun ip hip => (hpassed.covered_iff hip).mpr (hall ip hip)⟩
  · -- the pass fails at an address that is listed and whose name is missing
    refine iff_of_false (fun h => nomatch h.1) fun hall => ?_
    rcases hall ip hip with ⟨hno, -⟩ | ⟨-, hmem, -⟩
    · exact hlisted ((lookup_eq_none_iff hitems).mpr hno)
    · exact hname hmem

end Pass

/-! ## Pools that were edited -/

/-- Whether some pool is listed for the address. -/
def lists (c : Cluster) (ip : Ipv4Addr) : Bool :=
  c.entries.any fun e =>
    e.2.labels.lookup managedByLabel = some managedByValue && ipOf e.2 = some ip

lemma not_covered {fmt : Rfc3339} {c : Cluster} {ip : Ipv4Addr} (h : lists c ip = false) :
    ¬ Covered fmt c ip := by
  intro hcovered
  obtain ⟨name, p, hp, hlabel, hip⟩ := hcovered.listed
  have hlists : lists c ip = true := by
    refine List.any_eq_true.mpr ⟨⟨name, p⟩, AList.mem_lookup_iff.mp hp, ?_⟩
    simp only [Bool.and_eq_true, decide_eq_true_eq]
    exact ⟨hlabel, hip⟩
  rw [h] at hlists
  cases hlists

/-- A pass against an honest server. -/
def honestPass (c : Cluster) : List KubeEvent × Except KubeError Unit × Cluster :=
  runPass (fun _ => false) bothAnswer 0 c

lemma honestPass_runs (c : Cluster) :
    Runs HonestStep (reconcileOnce epochText twoHosts bothAnswer 0) c (honestPass c).1
      (honestPass c).2.1 (honestPass c).2.2 :=
  exec_runs answer_honest _ _

/-- The pool of the first address, from which somebody took the label. -/
def unlabelled : Cluster :=
  AList.insert (poolName ⟨110, 0, 0, 1⟩) { buildPool epochText ⟨110, 0, 0, 1⟩ 0 with labels := ∅ } ∅

/-- The pool of the first address under another name. -/
def renamed : Cluster := AList.insert "spare" (buildPool epochText ⟨110, 0, 0, 1⟩ 0) ∅

/-- **Edited pools**: where a pool lost its label the pass succeeds and leaves its address
without a listed pool; where one has another name the pass fails, and the address after it gets
no pool either. -/
theorem edited_pools_are_not_covered :
    (∀ c, Runs HonestStep (reconcileOnce epochText twoHosts bothAnswer 0) c (honestPass c).1
        (honestPass c).2.1 (honestPass c).2.2) ∧
      Reported twoHosts bothAnswer ⟨110, 0, 0, 1⟩ ∧ Reported twoHosts bothAnswer ⟨110, 0, 0, 2⟩ ∧
      (honestPass unlabelled).2.1 = .ok () ∧
      ¬ Covered epochText (honestPass unlabelled).2.2 ⟨110, 0, 0, 1⟩ ∧
      (honestPass renamed).2.1 = .error (.api 404) ∧
      ¬ Covered epochText (honestPass renamed).2.2 ⟨110, 0, 0, 2⟩ := by
  refine ⟨honestPass_runs, ?_, ?_, by decide +kernel, not_covered (by decide +kernel),
    by decide +kernel, not_covered (by decide +kernel)⟩
  · exact ⟨⟨"a", "http://10.0.0.5:1028", "/run/a"⟩, by decide, [⟨110, 0, 0, 1⟩], rfl, by decide⟩
  · exact ⟨⟨"b", "http://10.0.0.6:1028", "/run/b"⟩, by decide, [⟨110, 0, 0, 2⟩], rfl, by decide⟩

/-- The pool of the first address, as the program made it. -/
def ownPool : Cluster :=
  AList.insert (poolName ⟨110, 0, 0, 1⟩) (buildPool epochText ⟨110, 0, 0, 1⟩ 0) ∅

/-- The cluster has no other pool. -/
lemma listedFor_ownPool {ip : Ipv4Addr} {name : String} {p : Pool}
    (h : ListedFor ownPool ip name p) :
    ip = ⟨110, 0, 0, 1⟩ ∧ p.blocks = [some (cidrOf ip)] := by
  obtain ⟨hp, -, hip⟩ := h
  rcases HashMap.lookup_insert_cases hp with ⟨-, rfl⟩ | hp
  · rw [ipOf_buildPool] at hip
    obtain rfl := Option.some.inj hip
    exact ⟨rfl, rfl⟩
  · cases hp

/-- **A pass with a pool of its own**: the first address has its pool, the second gets one, and
both are covered. -/
theorem pass_with_own_pool_covers :
    (honestPass ownPool).2.1 = .ok () ∧
      Covered epochText (honestPass ownPool).2.2 ⟨110, 0, 0, 1⟩ ∧
      Covered epochText (honestPass ownPool).2.2 ⟨110, 0, 0, 2⟩ := by
  have hdesired : (collectDesired twoHosts bothAnswer).1 = [⟨110, 0, 0, 1⟩, ⟨110, 0, 0, 2⟩] := by
    decide
  have hsound : ∀ ip, Reported twoHosts bothAnswer ip → Sound ownPool ip := by
    intro ip hip
    rw [← mem_desired, hdesired] at hip
    rcases List.mem_pair.mp hip with rfl | rfl
    · -- the first address has the pool of its name
      refine Or.inr ⟨⟨_, _, AList.lookup_insert _, AList.lookup_insert _, ipOf_buildPool _ _ _⟩,
        AList.mem_insert _ |>.mpr (Or.inl rfl), fun name p hp => (listedFor_ownPool hp).2⟩
    · -- the second has none, and its name is free
      refine Or.inl ⟨fun name p hp => ?_, fun hname => ?_⟩
      · exact absurd (listedFor_ownPool hp).1 (by decide)
      · rcases (AList.mem_insert _).mp hname with hname | hname
        · exact absurd (poolName_injective hname) (by decide)
        · exact AList.notMem_empty _ hname
  obtain ⟨hres, hcovered⟩ := (success_covers_iff (honestPass_runs ownPool)).mpr hsound
  refine ⟨hres, hcovered _ (mem_desired.mp ?_), hcovered _ (mem_desired.mp ?_)⟩ <;>
    rw [hdesired] <;> decide

end Dumbarp.K8s
