/-
What stands behind a pool.

A pool of the program is that of an address, and shows the time of its last create or touch.  In
every run, whatever passes fail or are killed and whatever pools others delete, a pass at that time
had the address reported by one of its hosts.
-/
import Dumbarp.K8s.Track

namespace Dumbarp.K8s

open Interact Interact.Prog

variable {ε X : Type}

/-- **The moments of the program**, with what its passes met outside it, the newest first: the
pools, and what is left of the pass that is under way.  The pass of `x` is at the time `now x`, with
what its fetches got.  The program keeps nothing, so one that is killed just starts over.  Others
may delete pools at any moment.  At the start no pool is the program's. -/
inductive Announcing (fmt : Rfc3339) (cfg : Config) (now : X → ℤ)
    (fetched : X → HostConfig → Except ε (List Ipv4Addr)) :
    List X → Watched → Option (Kube (Except KubeError Unit)) → Prop
  | start {pools : Cluster} (h : ∀ name p, pools.lookup name = some p → ¬ Ours name p) :
      Announcing fmt cfg now fetched [] ⟨pools, ∅⟩ none
  | others {xs w w' pass} (h : Announcing fmt cfg now fetched xs w pass)
      (hw : OnlyDeleted w w') : Announcing fmt cfg now fetched xs w' pass
  | begin {xs w} (h : Announcing fmt cfg now fetched xs w none) (x : X) :
      Announcing fmt cfg now fetched (x :: xs) w (some (reconcileOnce fmt cfg (fetched x) (now x)))
  | call {xs w x op next r w'}
      (h : Announcing fmt cfg now fetched (x :: xs) w (some (.call op next)))
      (hstep : WatchStep (now x) w op r w') :
      Announcing fmt cfg now fetched (x :: xs) w' (some (next r))
  | finish {xs w res} (h : Announcing fmt cfg now fetched xs w (some (.ret res))) :
      Announcing fmt cfg now fetched xs w none
  | killed {xs w p} (h : Announcing fmt cfg now fetched xs w (some p)) :
      Announcing fmt cfg now fetched xs w none

/-! ## The calls of a pass -/

/-- A pass creates and touches the pools of reported addresses. -/
def Touches (fmt : Rfc3339) (cfg : Config) (fetched : HostConfig → Except ε (List Ipv4Addr))
    (now : ℤ) : KubeOp → Prop
  | .list _ _ => True
  | .write (.create name pool) =>
    ∃ ip, Reported cfg fetched ip ∧ name = poolName ip ∧ pool = buildPool fmt ip now
  | .write (.patch name annotations) =>
    ∃ ip, Reported cfg fetched ip ∧ name = poolName ip ∧
      annotations = [( lastSeenAnnotation, fmt.format now)]
  | .write (.delete _) => True

section Calls

variable {fmt : Rfc3339} {cfg : Config} {fetched : HostConfig → Except ε (List Ipv4Addr)} {now : ℤ}
  {op : KubeOp}

lemma Touches.stamps (h : Touches fmt cfg fetched now op) : Stamps fmt now op := by
  rcases op with _ | (_ | _ | _)
  · trivial
  · obtain ⟨ip, -, hop⟩ := h
    exact ⟨ip, hop⟩
  · obtain ⟨ip, -, hop⟩ := h
    exact ⟨ip, hop⟩
  · trivial

end Calls

/-! ## Every pool was reported -/

/-- The invariant: the pools of the program are those of addresses, and a pass at the time that a
pool shows had its address reported. -/
structure Backed (fmt : Rfc3339) (cfg : Config) (now : X → ℤ)
    (fetched : X → HostConfig → Except ε (List Ipv4Addr)) (xs : List X) (w : Watched) : Prop where
  tracked : Tracked fmt w
  reported : ∀ ip t, HasPool fmt w ip t → ∃ x ∈ xs, now x = t ∧ Reported cfg (fetched x) ip

section Backed

variable {fmt : Rfc3339} {cfg : Config} {now : X → ℤ}
  {fetched : X → HostConfig → Except ε (List Ipv4Addr)} {xs : List X} {w w' : Watched} {x : X}

/-- The step lemma. -/
lemma Backed.step {op : KubeOp} {r : op.Res} (h : Backed fmt cfg now fetched xs w) (hx : x ∈ xs)
    (hread : fmt.parse (fmt.format (now x)) = some (now x))
    (hop : Touches fmt cfg (fetched x) (now x) op) (hstep : WatchStep (now x) w op r w') :
    Backed fmt cfg now fetched xs w' := by
  refine ⟨h.tracked.step hread hop.stamps hstep, fun ip t ht => ?_⟩
  -- a call that is not about the name leaves the pool as it was reported
  have hother (hname : Spares (poolName ip) op) :
      ∃ x ∈ xs, now x = t ∧ Reported cfg (fetched x) ip := by
    obtain ⟨hpools, hstamps⟩ := hstep.spares hname
    exact h.reported ip t (ht.congr hpools.symm hstamps.symm)
  cases hstep with
  | listed => exact h.reported ip t ht
  | listFailed => exact h.reported ip t ht
  | refused => exact h.reported ip t ht
  | @carriedOut w write pools r hw =>
    by_cases hname : write.name = poolName ip
    · cases write with
      | create name pool =>
        obtain ⟨ip', hreported, rfl, rfl⟩ := hop
        obtain rfl := poolName_injective hname
        exact ⟨x, hx, (hasPool_of_create hread hw).unique ht, hreported⟩
      | patch name annotations =>
        obtain ⟨ip', hreported, rfl, rfl⟩ := hop
        obtain rfl := poolName_injective hname
        exact ⟨x, hx, (hasPool_of_touch hread h.tracked hw).unique ht, hreported⟩
      | delete name =>
        obtain ⟨p, hp, -⟩ := ht
        obtain rfl := applyWrite_delete_inv hw
        exact absurd hname.symm (HashMap.lookup_of_erase hp).1
    · exact hother hname

/-- Others that only delete leave every pool that is left as it was. -/
lemma Backed.others (h : Backed fmt cfg now fetched xs w) (hw : OnlyDeleted w w') :
    Backed fmt cfg now fetched xs w' := by
  refine ⟨h.tracked.others hw, ?_⟩
  rintro ip t ⟨p, hp, hshows, ht⟩
  exact h.reported ip t ⟨p, hw.pools hp, hshows, hw.stamps ▸ ht⟩

/-- A whole pass. -/
lemma Announcing.pass {es : List KubeEvent} {res : Except KubeError Unit}
    (h : Announcing fmt cfg now fetched xs w none) (x : X)
    (hrun : Runs (WatchStep (now x)) (reconcileOnce fmt cfg (fetched x) (now x)) w es res w') :
    Announcing fmt cfg now fetched (x :: xs) w' none := by
  have hbegin := h.begin x
  clear h
  generalize reconcileOnce fmt cfg (fetched x) (now x) = p at hrun hbegin
  induction hrun with
  | ret a w => exact hbegin.finish
  | call hstep _ ih => exact ih (hbegin.call hstep)

end Backed

end Dumbarp.K8s
