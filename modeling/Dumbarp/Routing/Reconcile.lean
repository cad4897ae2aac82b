/-
`RouteManager::reconcile`, as the program of its netlink requests.

One pass resolves the interfaces of the desired specs, lists dumbarp's rules and routes, and
then brings table after table to the spec wanted for it: a table that is as wanted is left
alone; any other loses all its rules and its route and, if every delete succeeded, gets the
wanted rule and then the wanted route.  Log messages are left out.
-/
import Dumbarp.Lib.HashMap
import Dumbarp.Routing.Kernel

namespace Dumbarp.Routing

open Interact Interact.Prog

/-- The programs of `RouteManager`. -/
abbrev Rtnetlink (α : Type) : Type := Prog NetlinkOp NetlinkOp.Res α

/-! ## The requests of the netlink handle -/

def getLink (iface : String) : Rtnetlink (Except Errno (Option UInt32)) :=
  call (NetlinkOp.getLink iface) ret

def dumpRules : Rtnetlink (Except Errno (List RuleMessage)) :=
  call NetlinkOp.dumpRules ret

def dumpRoutes : Rtnetlink (Except Errno (List RouteMessage)) :=
  call NetlinkOp.dumpRoutes ret

def change (c : Change) : Rtnetlink (Except Errno Unit) :=
  call (NetlinkOp.change c) ret

/-! ## The specs and what is compared with them -/

/-- What a caller wants for one source address. -/
structure RouteSpec where
  src : Ipv4Addr
  gateway : Ipv4Addr
  iface : String
  fwmark : Option UInt32
deriving DecidableEq, Repr

/-- The wish of a router for one marked source. -/
def markedSpec : RouteSpec where
  src := ⟨110, 13, 196, 173⟩
  gateway := ⟨10, 0, 0, 1⟩
  iface := "wg0"
  fwmark := some 2

/-- A spec whose interface has been looked up. -/
structure ResolvedSpec where
  src : Ipv4Addr
  gateway : Ipv4Addr
  ifindex : UInt32
  fwmark : Option UInt32
deriving DecidableEq, Repr

/-- The table of a source address.  The kernel reserves 0, 253, 254 and 255; these four are
moved away. -/
def tableIdFor (ip : Ipv4Addr) : UInt32 :=
  let raw := ip.toU32
  if raw = 0 ∨ raw = 253 ∨ raw = 254 ∨ raw = 255 then raw + 0x1_0000 else raw

/-- The mask that a rule of a marked spec must show. -/
def expectedFwmask (fwmark : Option UInt32) : Option UInt32 := fwmark.map fun _ => fwmaskExact

/-- Whether a listed rule is the one that `want` asks for (`CurrentRule::matches`). -/
def CurrentRule.isMatch (r : CurrentRule) (want : ResolvedSpec) : Bool :=
  r.src == want.src && r.fwmark == want.fwmark && r.fwmask == expectedFwmask want.fwmark

/-- Whether a listed route is the one that `want` asks for. -/
def CurrentRoute.isMatch (rt : CurrentRoute) (want : ResolvedSpec) : Bool :=
  rt.gateway == want.gateway && rt.oif == want.ifindex && rt.onlink

/-- Whether a table is as wanted: exactly one rule and the route, both matching. -/
def upToDate (want : Option ResolvedSpec) (haveRules : List CurrentRule)
    (haveRoute : Option CurrentRoute) : Bool :=
  match want, haveRules, haveRoute with
  | some w, [r], some rt => r.isMatch w && rt.isMatch w
  | _, _, _ => false

/-- `ENODEV`, for a link that is not there. -/
def enodev : Errno := -19

/-! ## The steps of a pass -/

/-- Look up the index of an interface. -/
def ifindex (iface : String) : Rtnetlink (Except Errno UInt32) := do
  match ← getLink iface with
  | .error e => return .error e
  | .ok none => return .error enodev
  | .ok (some idx) => return .ok idx

/-- The first loop of a pass: resolve the interfaces, each only until it was found once, and
drop the specs that cannot be resolved.  Of two specs for one table the later wins. -/
def resolve : List RouteSpec → HashMap String UInt32 → HashMap UInt32 ResolvedSpec →
    Rtnetlink (HashMap UInt32 ResolvedSpec)
  | [], _, resolved => return resolved
  | spec :: specs, cache, resolved =>
    let store (idx : UInt32) : HashMap UInt32 ResolvedSpec :=
      resolved.insert (tableIdFor spec.src)
        { src := spec.src, gateway := spec.gateway, ifindex := idx, fwmark := spec.fwmark }
    match cache.lookup spec.iface with
    | some idx => resolve specs cache (store idx)
    | none => do
      match ← ifindex spec.iface with
      | .ok idx => resolve specs (cache.insert spec.iface idx) (store idx)
      -- a failure is not kept: the next spec with this interface is looked up again
      | .error _ => resolve specs cache resolved

/-- One turn of the loop of `list_rules`. -/
def takeRule (out : HashMap UInt32 (List CurrentRule)) (msg : RuleMessage) :
    HashMap UInt32 (List CurrentRule) :=
  match parseDumbarpRule msg with
  | none => out
  | some (table, rule) => out.insert table ((out.lookup table).getD [] ++ [rule])

/-- Sort the rules of a dump by table. -/
def collectRules (msgs : List RuleMessage) : HashMap UInt32 (List CurrentRule) :=
  msgs.foldl takeRule ∅

/-- One turn of the loop of `list_routes`: a later route of a table replaces an earlier one. -/
def takeRoute (out : HashMap UInt32 CurrentRoute) (msg : RouteMessage) :
    HashMap UInt32 CurrentRoute :=
  match parseDumbarpRoute msg with
  | none => out
  | some current => out.insert current.table current.intoValue

/-- Keep one route for each table. -/
def collectRoutes (msgs : List RouteMessage) : HashMap UInt32 CurrentRoute :=
  msgs.foldl takeRoute ∅

def listRules : Rtnetlink (Except Errno (HashMap UInt32 (List CurrentRule))) := do
  match ← dumpRules with
  | .error e => return .error e
  | .ok msgs => return .ok (collectRules msgs)

def listRoutes : Rtnetlink (Except Errno (HashMap UInt32 CurrentRoute)) := do
  match ← dumpRoutes with
  | .error e => return .error e
  | .ok msgs => return .ok (collectRoutes msgs)

def addRule (src : Ipv4Addr) (table : UInt32) (fwmark : Option UInt32) :
    Rtnetlink (Except Errno Unit) :=
  change (.addRule (addRuleRequest src table fwmark))

def delRule (src : Ipv4Addr) (table : UInt32) (fwmark : Option UInt32) :
    Rtnetlink (Except Errno Unit) :=
  change (.delRule (delRuleRequest src table fwmark))

def addRoute (table : UInt32) (gateway : Ipv4Addr) (ifindex : UInt32) :
    Rtnetlink (Except Errno Unit) :=
  change (.addRoute (addRouteRequest table gateway ifindex))

def delRoute (table : UInt32) : Rtnetlink (Except Errno Unit) :=
  change (.delRoute (delRouteRequest table))

/-- Delete the listed rules of a table one after the other; the result is `delete_failed`. -/
def delRules (table : UInt32) : List CurrentRule → Bool → Rtnetlink Bool
  | [], failed => return failed
  | rule :: rules, failed => do
    match ← delRule rule.src table rule.fwmark with
    | .error _ => delRules table rules true
    | .ok _ => delRules table rules failed

/-- Delete the route of a table if one was listed. -/
def delListedRoute (table : UInt32) (haveRoute : Option CurrentRoute) (failed : Bool) :
    Rtnetlink Bool :=
  match haveRoute with
  | none => return failed
  | some _ => do
    match ← delRoute table with
    | .error _ => return true
    | .ok _ => return failed

/-- Install the wanted rule and, once it is in place, the wanted route. -/
def install (table : UInt32) (w : ResolvedSpec) : Rtnetlink Unit := do
  match ← addRule w.src table w.fwmark with
  | .error _ => return ()
  | .ok _ =>
    let _ ← addRoute table w.gateway w.ifindex
    return ()

/-- The body of the loop over the tables. -/
def reconcileTable (want : Option ResolvedSpec) (haveRules : List CurrentRule)
    (haveRoute : Option CurrentRoute) (table : UInt32) : Rtnetlink Unit :=
  if upToDate want haveRules haveRoute then return ()
  else do
    let failed ← delRules table haveRules false
    let failed ← delListedRoute table haveRoute failed
    match want with
    | none => return ()
    -- while stale state remains, the adds are left to the next pass
    | some w => if failed then return () else install table w

/-- An order in which a hash table may show its elements. -/
structure IterOrder where
  order : List UInt32 → List UInt32
  perm : ∀ l, (order l).Perm l

/-- The elements show in the order in which they were collected. -/
def IterOrder.collected : IterOrder := ⟨id, List.Perm.refl⟩

/-- The tables of a pass: those of a listed rule, of a listed route or of a resolved spec. -/
def allTables (currentRules : HashMap UInt32 (List CurrentRule))
    (currentRoutes : HashMap UInt32 CurrentRoute) (resolved : HashMap UInt32 ResolvedSpec) :
    List UInt32 :=
  (currentRules.keys ++ currentRoutes.keys ++ resolved.keys).dedup

/-- The second loop of a pass: table after table, in the order of the hash set. -/
def reconcileTables (iter : IterOrder) (currentRules : HashMap UInt32 (List CurrentRule))
    (currentRoutes : HashMap UInt32 CurrentRoute) (resolved : HashMap UInt32 ResolvedSpec) :
    Rtnetlink Unit :=
  forEach
    (fun table => reconcileTable (resolved.lookup table) ((currentRules.lookup table).getD [])
      (currentRoutes.lookup table) table)
    (iter.order (allTables currentRules currentRoutes resolved))

/-- What a pass does once the interfaces are resolved. -/
def reconcileResolved (iter : IterOrder) (resolved : HashMap UInt32 ResolvedSpec) :
    Rtnetlink (Except Errno Unit) := do
  match ← listRules with
  | .error e => return .error e
  | .ok currentRules =>
    match ← listRoutes with
    | .error e => return .error e
    | .ok currentRoutes =>
      reconcileTables iter currentRules currentRoutes resolved
      return .ok ()

/-- One pass of the reconciler (`RouteManager::reconcile`). -/
def reconcile (iter : IterOrder) (desired : List RouteSpec) : Rtnetlink (Except Errno Unit) := do
  let resolved ← resolve desired ∅ ∅
  reconcileResolved iter resolved

end Dumbarp.Routing
