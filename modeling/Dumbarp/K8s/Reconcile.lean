/-
The address pools of a cluster and the reconciler that keeps them
(`dumbarp-k8s/src/reconcile.rs`).

A pass asks every host for its addresses, lists the pools that carry the label of the program,
creates or touches a pool for each address that was reported, and then deletes the pools that
have gone.  The API server is the environment of the pass, and an error of a call ends the pass.
The text of a time is the business of a library, which enters as a parameter.
-/
import Dumbarp.Lib.HashMap
import Dumbarp.Lib.Interact
import Dumbarp.Net.Ipv4
import Mathlib.Data.List.Sort
import Mathlib.Tactic.Common

namespace Dumbarp.K8s

open Interact Interact.Prog

variable {ε : Type}

/-! ## Pools -/

/-- `MANAGED_BY_LABEL`. -/
def managedByLabel : String := "app.kubernetes.io/managed-by"

/-- `MANAGED_BY_VALUE`. -/
def managedByValue : String := "dumbarp-k8s"

/-- `IP_ANNOTATION`. -/
def ipAnnotation : String := "dumbarp.k8s/ip"

/-- `LAST_SEEN_ANNOTATION`. -/
def lastSeenAnnotation : String := "dumbarp.k8s/last-seen-at"

/-- `CiliumLoadBalancerIPPool`, which the cluster keeps under its name. -/
structure Pool where
  labels : HashMap String String
  annotations : Option (HashMap String String)
  /-- The CIDRs of its blocks. -/
  blocks : List (Option String)

/-- The text of times (`to_rfc3339` and `parse_from_rfc3339`), in nanoseconds. -/
structure Rfc3339 where
  format : ℤ → String
  parse : String → Option ℤ

/-- `pool_name`. -/
def poolName (ip : Ipv4Addr) : String :=
  String.ofList ("dumbarp-".toList ++ ip.text.map fun c => if c = '.' then '-' else c)

/-- `build_pool`. -/
def buildPool (fmt : Rfc3339) (ip : Ipv4Addr) (now : ℤ) : Pool where
  labels := AList.insert managedByLabel managedByValue ∅
  annotations :=
    some (AList.insert lastSeenAnnotation (fmt.format now)
      (AList.insert ipAnnotation ip.toString ∅))
  blocks := [some (ip.toString ++ "/32")]

/-! ## The API server -/

/-- An error of a call: one that the server reports with a code, or any other. -/
inductive KubeError where
  | api (code : ℕ)
  | other
deriving DecidableEq, Repr

/-- A call that changes a pool; a patch merges annotations. -/
inductive Write where
  | create (name : String) (pool : Pool)
  | patch (name : String) (annotations : List (String × String))
  | delete (name : String)

/-- A call: the list of the pools with a label, or a change. -/
inductive KubeOp where
  | list (label value : String)
  | write (w : Write)

/-- The answer to a call. -/
abbrev KubeOp.Res : KubeOp → Type
  | .list _ _ => Except KubeError (List (String × Pool))
  | .write _ => Except KubeError Unit

/-- A program that makes calls. -/
abbrev Kube (α : Type) : Type := Prog KubeOp KubeOp.Res α

/-- A call with its answer. -/
abbrev KubeEvent : Type := Event KubeOp KubeOp.Res

/-- List the pools with a label (`Api::list`). -/
def list (label value : String) : Kube (Except KubeError (List (String × Pool))) :=
  request (KubeOp.list label value)

/-- Change a pool (`Api::create`, `Api::patch` and `Api::delete`). -/
def write (w : Write) : Kube (Except KubeError Unit) := request (KubeOp.write w)

/-! ## The code -/

/-- `HostConfig`. -/
structure HostConfig where
  name : String
  url : String
  authTokenFile : String
deriving DecidableEq, Repr

/-- The part of the configuration that a pass reads. -/
structure Config where
  staleAfterSecs : ℕ
  hosts : List HostConfig

/-- The elements of a `BTreeSet` of addresses, in their order. -/
def ordered (ips : List Ipv4Addr) : List Ipv4Addr := ips.dedup.insertionSort (· ≤ ·)

/-- `collect_desired`: the reported addresses, whether every host answered, and the number of
hosts that did not. -/
def collectDesired (cfg : Config) (fetched : HostConfig → Except ε (List Ipv4Addr)) :
    List Ipv4Addr × Bool × ℕ :=
  let results := cfg.hosts.map fetched
  let desired := results.flatMap fun
    | .ok ips => ips
    | .error _ => []
  let errors := results.countP fun
    | .ok _ => false
    | .error _ => true
  (ordered desired, errors = 0, errors)

/-- `ExistingPool`. -/
structure ExistingPool where
  name : String
  lastSeen : Option ℤ
deriving DecidableEq, Repr

/-- The body of the loop of `list_current`. -/
def listPool (fmt : Rfc3339) (out : HashMap Ipv4Addr ExistingPool) (item : String × Pool) :
    HashMap Ipv4Addr ExistingPool :=
  match item.2.annotations with
  | none => out
  | some annotations =>
    match annotations.lookup ipAnnotation with
    | none => out
    | some rawIp =>
      match Ipv4Addr.parse rawIp with
      | none => out
      | some ip =>
        let lastSeen := (annotations.lookup lastSeenAnnotation).bind fmt.parse
        out.insert ip ⟨item.1, lastSeen⟩

/-- `list_current`. -/
def listCurrent (fmt : Rfc3339) : Kube (Except KubeError (HashMap Ipv4Addr ExistingPool)) := do
  match ← list managedByLabel managedByValue with
  | .ok items => return .ok (items.foldl (listPool fmt) ∅)
  | .error e => return .error e

/-- `touch_pool`. -/
def touchPool (fmt : Rfc3339) (ip : Ipv4Addr) (now : ℤ) : Kube (Except KubeError Unit) :=
  write (.patch (poolName ip) [( lastSeenAnnotation, fmt.format now)])

/-- `create_pool`. -/
def createPool (fmt : Rfc3339) (ip : Ipv4Addr) (now : ℤ) : Kube (Except KubeError Unit) := do
  match ← write (.create (poolName ip) (buildPool fmt ip now)) with
  | .ok () => return .ok ()
  -- the name is taken, though no pool was listed for the address
  | .error e => if e = .api 409 then touchPool fmt ip now else return .error e

/-- `delete_pool`. -/
def deletePool (name : String) : Kube (Except KubeError Unit) := do
  match ← write (.delete name) with
  | .ok () => return .ok ()
  -- the pool is gone already
  | .error e => if e = .api 404 then return .ok () else return .error e

/-- The body of the first loop of `reconcile_once`. -/
def keepPool (fmt : Rfc3339) (current : HashMap Ipv4Addr ExistingPool) (now : ℤ)
    (ip : Ipv4Addr) : Kube (Except KubeError Unit) :=
  match current.lookup ip with
  | none => createPool fmt ip now
  | some _ => touchPool fmt ip now

/-- Whether a pass deletes a pool that was not reported. -/
def prunes (allHostsOk : Bool) (staleThreshold : ℤ) (existing : ExistingPool) : Bool :=
  if allHostsOk then true
  else
    match existing.lastSeen with
    | some seen => seen < staleThreshold
    -- a stamp that is missing or cannot be read counts as old
    | none => true

/-- The body of the second loop of `reconcile_once`. -/
def prunePool (desired : List Ipv4Addr) (allHostsOk : Bool) (staleThreshold : ℤ)
    (current : HashMap Ipv4Addr ExistingPool) (ip : Ipv4Addr) : Kube (Except KubeError Unit) :=
  match current.lookup ip with
  | none => return .ok ()
  | some existing =>
    if ip ∈ desired then return .ok ()
    else if prunes allHostsOk staleThreshold existing then deletePool existing.name
    else return .ok ()

/-- `now - chrono::Duration::seconds(stale_after_secs)`. -/
def staleThreshold (cfg : Config) (now : ℤ) : ℤ := now - cfg.staleAfterSecs * 1000000000

/-- One pass (`reconcile_once`), with what its fetches answer and what the clock shows. -/
def reconcileOnce (fmt : Rfc3339) (cfg : Config)
    (fetched : HostConfig → Except ε (List Ipv4Addr)) (now : ℤ) : Kube (Except KubeError Unit) := do
  let (desired, allHostsOk, _) := collectDesired cfg fetched
  match ← listCurrent fmt with
  | .error e => return .error e
  | .ok current =>
    match ← tryEach (keepPool fmt current now) desired with
    | .error e => return .error e
    | .ok () =>
      tryEach (prunePool desired allHostsOk (staleThreshold cfg now) current)
        (ordered current.keys)

end Dumbarp.K8s
