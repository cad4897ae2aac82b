/-
What `dumbarpd` tells of its leases, and its bearer check (`dumbarp-daemon/src/http.rs`).

Of its state the layer reads the configured token.
-/
import Dumbarp.Api.Wire
import Dumbarp.Daemon.Dhcp
import Dumbarp.Http

namespace Dumbarp.Daemon

open Api Bytes Interact

/-- `leases_handler`. -/
def leasesHandler (dumbarpdId : Option UInt8) (s : AppState) : LeasesResponse :=
  ⟨s.currentIps.map Ipv4Addr.toString, dumbarpdId⟩

/-- `unauthorized`. -/
def unauthorized : Response := ⟨401, "unauthorized"⟩

/-- `constant_time_eq`. -/
def constantTimeEq (a b : List UInt8) : Bool :=
  if a.length ≠ b.length then false
  else
    let diff : UInt8 := (a.zip b).foldl (fun diff (x, y) => diff ||| (x ^^^ y)) 0
    diff == 0

/-- `auth_layer`. -/
def authLayer {Request : Type} (http : Http) (authToken : String) (headers : http.HeaderMap)
    (request : Request) : Handling Request :=
  match http.get headers authorization with
  | none => .ret unauthorized
  | some value =>
    match http.toStr value with
    | none => .ret unauthorized
    | some value =>
      match stripPrefix value "Bearer " with
      | none => .ret unauthorized
      | some token =>
        if !constantTimeEq (asBytes token) (asBytes authToken) then .ret unauthorized
        else Next.run request

/-- **The comparison** accepts equal byte strings only. -/
theorem constantTimeEq_iff (a b : List UInt8) : constantTimeEq a b = true ↔ a = b :=
  orXor.compare_iff a b

/-- Differences do not cancel, and a prefix is not taken for the whole. -/
example : constantTimeEq [1, 2] [2, 1] = false ∧ constantTimeEq [1, 2] [1] = false := by decide

/-- **The layer** guards every request by the configured token. -/
theorem authLayer_guarded {Request : Type} {http : Http} (hhttp : http.Documented)
    (authToken : String) (headers : http.HeaderMap) (request : Request) :
    http.Guarded authToken unauthorized headers request
      (authLayer http authToken headers request) := by
  refine hhttp.guarded constantTimeEq_iff rfl ?_
  rw [Http.bearer_elim]
  rfl

end Dumbarp.Daemon
