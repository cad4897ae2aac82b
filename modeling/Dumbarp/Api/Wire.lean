/-
The answers of a daemon and of a gateway on the wire (`LeasesResponse` and `DaemonsResponse` in
`dumbarp-api/src/lib.rs`).

Addresses travel as text and are parsed on arrival; a response with one bad entry is refused as a
whole.  The JSON around the entries is the business of a library, which enters as a parameter.
-/
import Dumbarp.Api.Cache

namespace Dumbarp.Api

/-! ## The code -/

/-- `LeasesResponse`. -/
structure LeasesResponse where
  ips : List String
  dumbarpdId : Option UInt8
deriving DecidableEq, Repr

/-- `DaemonEntryView`. -/
structure DaemonEntryView where
  name : String
  nexthop : String
  device : String
  dumbarpdId : Option UInt8
  ips : List String
deriving DecidableEq, Repr

/-- `DaemonsResponse`. -/
structure DaemonsResponse where
  daemons : List DaemonEntryView
deriving DecidableEq, Repr

/-- `parse_ips`. -/
def parseIps (raw : List String) (label : String) : Except String (List Ipv4Addr) :=
  raw.mapM fun s =>
    match Ipv4Addr.parse s with
    | some ip => .ok ip
    | none => .error ("parsing IP `" ++ s ++ "` from " ++ label)

/-- `LeasesResponse::parse`. -/
def LeasesResponse.parse (response : LeasesResponse) (label : String) : Except String Leases :=
  (parseIps response.ips label).map fun ips => ⟨ips, response.dumbarpdId⟩

/-- The body of the loop of `DaemonsResponse::parse`. -/
def DaemonEntryView.parse (label : String) (d : DaemonEntryView) : Except String DaemonRoutes :=
  match Ipv4Addr.parse d.nexthop with
  | none =>
    .error ("parsing nexthop `" ++ d.nexthop ++ "` for daemon `" ++ d.name ++ "` from " ++ label)
  | some nexthop =>
    if d.device = "" then
      .error ("daemon `" ++ d.name ++ "` from " ++ label ++ " has an empty device")
    else (parseIps d.ips d.name).map fun ips => ⟨d.name, nexthop, d.device, d.dumbarpdId, ips⟩

/-- `DaemonsResponse::parse`. -/
def DaemonsResponse.parse (response : DaemonsResponse) (label : String) :
    Except String (List DaemonRoutes) :=
  response.daemons.mapM (DaemonEntryView.parse label)

/-- The JSON of a response (`serde_json`). -/
structure Json where
  encode : DaemonsResponse → String
  decode : String → Option DaemonsResponse

/-- `fetch_daemons`, from the body of the answer that `url` gave. -/
def fetchDaemons (json : Json) (url body label : String) : Except String (List DaemonRoutes) :=
  match json.decode body with
  | none => .error ("decoding JSON from " ++ url)
  | some response => response.parse label

/-! ## Round trip -/

/-- The entry that is sent for a daemon. -/
def DaemonRoutes.view (d : DaemonRoutes) : DaemonEntryView :=
  ⟨d.name, d.nexthop.toString, d.device, d.dumbarpdId, d.ips.map Ipv4Addr.toString⟩

/-- What is read back one by one is read back as a list. -/
lemma mapM_read {A B E : Type} {write : A → B} {read : B → Except E A} :
    ∀ {xs : List A}, (∀ x ∈ xs, read (write x) = .ok x) → (xs.map write).mapM read = .ok xs
  | [], _ => rfl
  | x :: xs, h => by
    have ih : (xs.map write).mapM read = .ok xs :=
      mapM_read fun y hy => h y (List.mem_cons_of_mem _ hy)
    rw [List.map_cons, List.mapM_cons, h x List.mem_cons_self, ih]
    rfl

lemma parseIps_toString (ips : List Ipv4Addr) (label : String) :
    parseIps (ips.map Ipv4Addr.toString) label = .ok ips := by
  refine mapM_read fun ip _ => ?_
  rw [Ipv4Addr.parse_toString]

/-- The response that is sent for leases. -/
def Leases.view (leases : Leases) : LeasesResponse :=
  ⟨leases.ips.map Ipv4Addr.toString, leases.dumbarpdId⟩

lemma Leases.parse_view (leases : Leases) (label : String) :
    leases.view.parse label = .ok leases := by
  rw [LeasesResponse.parse, Leases.view, parseIps_toString]
  rfl

/-- A daemon with a device is read back as it was sent. -/
lemma parse_view {d : DaemonRoutes} (h : d.device ≠ "") (label : String) :
    d.view.parse label = .ok d := by
  simp [DaemonEntryView.parse, DaemonRoutes.view, Ipv4Addr.parse_toString, parseIps_toString, h,
    Except.map]

/-- **A response is read back** as the daemons it was made from, if each has a device. -/
theorem fetchDaemons_encode {json : Json} {daemons : List DaemonRoutes}
    (hjson : json.decode (json.encode ⟨daemons.map DaemonRoutes.view⟩)
      = some ⟨daemons.map DaemonRoutes.view⟩)
    (h : ∀ d ∈ daemons, d.device ≠ "") (url label : String) :
    fetchDaemons json url (json.encode ⟨daemons.map DaemonRoutes.view⟩) label = .ok daemons := by
  rw [fetchDaemons, hjson]
  exact mapM_read fun d hd => parse_view (h d hd) label

end Dumbarp.Api
