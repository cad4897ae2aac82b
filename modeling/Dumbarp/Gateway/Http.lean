/-
What a gateway tells of its daemons, and its bearer check (`dumbarp-gateway/src/http.rs`).
-/
import Dumbarp.Api.Wire
import Dumbarp.Http
import Dumbarp.Routerd.Reconcile

namespace Dumbarp.Gateway

open Api Bytes Interact Routerd

/-- The entry of `daemons_handler` for one daemon: none, if the view has no leases of it.  A
gateway lists its daemons in its configuration as a router does. -/
def daemonEntryView (view : HashMap String Leases) (d : DaemonEntry) : Option DaemonEntryView := do
  let leases ← view.lookup d.name
  return ⟨d.name, d.nexthop.toString, d.device, leases.dumbarpdId,
    leases.ips.map Ipv4Addr.toString⟩

/-- `daemons_handler`. -/
def daemonsHandler (daemons : List DaemonEntry) (view : HashMap String Leases) : DaemonsResponse :=
  ⟨daemons.filterMap (daemonEntryView view)⟩

/-- `unauthorized`. -/
def unauthorized : Response := ⟨401, "unauthorized"⟩

/-- `constant_time_eq`. -/
def constantTimeEq (a b : List UInt8) : Bool :=
  if a.length ≠ b.length then false
  else
    let diff : UInt8 := (a.zip b).foldl (fun diff (x, y) => diff ||| (x ^^^ y)) 0
    diff == 0

/-- `auth_layer`; of its state it reads the token. -/
def authLayer {Request : Type} (http : Http) (authToken : String) (headers : http.HeaderMap)
    (request : Request) : Handling Request :=
  match http.get headers authorization with
  | none => .ret unauthorized
  | some value =>
    match http.toStr value with
    | none => .ret unauthorized
    | some value =>
      match stripPrefix value "Bearer " with
      | none => .ret unauthorized
      | some token =>
        if !constantTimeEq (asBytes token) (asBytes authToken) then .ret unauthorized
        else Next.run request

/-! ## The bearer check -/

/-- **The comparison** accepts equal byte strings only. -/
theorem constantTimeEq_iff (a b : List UInt8) : constantTimeEq a b = true ↔ a = b :=
  orXor.compare_iff a b

/-- **The layer** guards every request by the configured token. -/
theorem authLayer_guarded {Request : Type} {http : Http} (hhttp : http.Documented)
    (authToken : String) (headers : http.HeaderMap) (request : Request) :
    http.Guarded authToken unauthorized headers request
      (authLayer http authToken headers request) := by
  refine hhttp.guarded constantTimeEq_iff rfl ?_
  rw [Http.bearer_elim]
  rfl

/-! ## The daemons behind a gateway -/

/-- What a gateway knows of one daemon. -/
def routesOf (view : HashMap String Leases) (d : DaemonEntry) : Option DaemonRoutes :=
  (view.lookup d.name).map fun leases =>
    ⟨d.name, d.nexthop, d.device, leases.dumbarpdId, leases.ips⟩

/-- The daemons that a gateway has leases of. -/
def behind (daemons : List DaemonEntry) (view : HashMap String Leases) : List DaemonRoutes :=
  daemons.filterMap (routesOf view)

lemma daemonsHandler_eq (daemons : List DaemonEntry) (view : HashMap String Leases) :
    daemonsHandler daemons view = ⟨(behind daemons view).map DaemonRoutes.view⟩ := by
  rw [daemonsHandler, behind, List.map_filterMap]
  congr 2
  funext d
  cases hd : view.lookup d.name with
  | none => simp [daemonEntryView, routesOf, hd]
  | some leases => simp [daemonEntryView, routesOf, hd, DaemonRoutes.view]

/-- **A gateway's response** arrives as the daemons that the gateway has leases of. -/
theorem fetchDaemons_daemonsHandler {json : Json} {daemons : List DaemonEntry}
    {view : HashMap String Leases}
    (hjson : json.decode (json.encode (daemonsHandler daemons view))
      = some (daemonsHandler daemons view))
    (h : ∀ d ∈ daemons, d.device ≠ "") (url label : String) :
    fetchDaemons json url (json.encode (daemonsHandler daemons view)) label
      = .ok (behind daemons view) := by
  rw [daemonsHandler_eq] at hjson ⊢
  refine fetchDaemons_encode hjson ?_ url label
  intro routes hroutes
  obtain ⟨d, hd, hr⟩ := List.mem_filterMap.mp hroutes
  obtain ⟨leases, -, rfl⟩ := Option.map_eq_some_iff.mp hr
  exact h d hd

end Dumbarp.Gateway
