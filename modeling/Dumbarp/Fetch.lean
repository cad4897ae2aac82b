/-
Who learns what daemons and gateways tell.

Routers and gateways ask a daemon with the token of their configuration, `dumbarp-k8s` with that of
a file, and a router asks a gateway in the same way.  Through the bearer check each learns just what
the service tells at that moment, and nothing without its token.
-/
import Dumbarp.Api.Client
import Dumbarp.Bearer
import Dumbarp.K8s.Client

namespace Dumbarp

open Api Bytes Interact Interact.Prog

section Daemon

variable {http : Http} {join : Join} {endpoint url authToken : String} {s : Daemon.AppState}
  {id : Option UInt8} {body : String} {decode : String → Option LeasesResponse}

/-- What a client with a token learns of a daemon. -/
lemma fetchLeases_runs (hhttp : http.Documented)
    (hdecode : decode body = some (Daemon.leasesHandler id s))
    (hjoin : join endpoint "leases" = some url) {token label : String}
    {es : List (Event Get fun _ => Except String Response)} {res : Except String Leases}
    (hrun : Runs (Network http (Daemon.authLayer http authToken) url body)
      (Client.fetchLeases join decode endpoint token label) () es res ()) (leases : Leases) :
    res = .ok leases ↔ Answered url token es ∧ Opens token authToken ∧
      leases = ⟨s.currentIps, id⟩ := by
  rw [fetchLeases_eq] at hrun
  exact fetch_runs (fun headers g => Daemon.authLayer_guarded hhttp authToken headers g) hdecode
    (Leases.parse_view ⟨s.currentIps, id⟩ label) hjoin hrun leases

/-- What `dumbarp-k8s` learns of it. -/
lemma fetchIps_runs (hhttp : http.Documented)
    (hdecode : decode body = some (Daemon.leasesHandler id s))
    {readToString : String → Except String String} {host : K8s.HostConfig}
    (hjoin : join host.url "leases" = some url)
    {es : List (Event Get fun _ => Except String Response)} {res : Except String (List Ipv4Addr)}
    (hrun : Runs (Network http (Daemon.authLayer http authToken) url body)
      (K8s.fetchIps readToString join decode host) () es res ()) (ips : List Ipv4Addr) :
    res = .ok ips ↔ Answered url authToken es ∧ Visible authToken ∧ ips = s.currentIps ∧
      ∃ raw, readToString host.authTokenFile = .ok raw ∧ Engine.trim raw = authToken.toList ∧
        authToken ≠ "" := by
  rw [K8s.fetchIps] at hrun
  cases htoken : host.readToken readToString with
  | error e =>
    rw [htoken] at hrun
    obtain ⟨-, rfl, -⟩ := runs_ret_inv hrun
    refine iff_of_false (nomatch ·) fun ⟨_, _, _, hfile⟩ => ?_
    rw [K8s.readToken_eq_ok.mpr hfile] at htoken
    cases htoken
  | ok token =>
    rw [htoken] at hrun
    obtain ⟨es₁, r, ⟨⟩, es₂, rfl, hfetch, hrest⟩ := runs_bind_inv hrun
    have hfetched := fetchLeases_runs hhttp hdecode hjoin hfetch
    -- what was trimmed loses nothing on the way
    have hopens :
        Opens token authToken ↔ token = authToken ∧ authToken ≠ "" ∧ Visible authToken := by
      obtain ⟨raw, -, htrim, -⟩ := K8s.readToken_eq_ok.mp htoken
      exact opens_iff_of_trimmed fun b hb => K8s.blank_of_trimmed htrim hb
    have hfile : token = authToken ↔ ∃ raw, readToString host.authTokenFile = .ok raw ∧
        Engine.trim raw = authToken.toList ∧ authToken ≠ "" := by
      rw [← K8s.readToken_eq_ok, htoken, Except.ok.injEq]
    rw [← hfile]
    cases r with
    | error e =>
      obtain ⟨rfl, rfl, -⟩ := runs_ret_inv hrest
      rw [List.append_nil]
      refine iff_of_false (nomatch ·) ?_
      rintro ⟨hanswered, hvisible, -, rfl⟩
      have hne := (K8s.readToken_eq_ok.mp htoken).choose_spec.2.2
      cases (hfetched _).mpr ⟨hanswered, hopens.mpr ⟨rfl, hne, hvisible⟩, rfl⟩
    | ok leases =>
      obtain ⟨rfl, rfl, -⟩ := runs_ret_inv hrest
      obtain ⟨hanswered, hopened, rfl⟩ := (hfetched leases).mp rfl
      obtain ⟨rfl, -, hvisible⟩ := hopens.mp hopened
      rw [List.append_nil, Except.ok.injEq, eq_comm]
      exact ⟨fun h => ⟨hanswered, hvisible, h, rfl⟩, fun h => h.2.2.1⟩

end Daemon

/-- What a router learns of a gateway. -/
lemma fetchDaemons_runs {http : Http} (hhttp : http.Documented) {join : Join}
    {endpoint url authToken : String} {daemons : List Routerd.DaemonEntry}
    {view : HashMap String Leases} {body : String} {decode : String → Option DaemonsResponse}
    (hdecode : decode body = some (Gateway.daemonsHandler daemons view))
    (hdevices : ∀ d ∈ daemons, d.device ≠ "") (hjoin : join endpoint "daemons" = some url)
    {token label : String} {es : List (Event Get fun _ => Except String Response)}
    {res : Except String (List DaemonRoutes)}
    (hrun : Runs (Network http (Gateway.authLayer http authToken) url body)
      (Client.fetchDaemons join decode endpoint token label) () es res ())
    (routes : List DaemonRoutes) :
    res = .ok routes ↔ Answered url token es ∧ Opens token authToken ∧
      routes = Gateway.behind daemons view := by
  have hparse : (Gateway.daemonsHandler daemons view).parse label =
      .ok (Gateway.behind daemons view) :=
    @Gateway.fetchDaemons_daemonsHandler
      ⟨fun _ => body, fun _ => some (Gateway.daemonsHandler daemons view)⟩ daemons view rfl
      hdevices url label
  rw [fetchDaemons_eq] at hrun
  exact fetch_runs (fun headers g => Gateway.authLayer_guarded hhttp authToken headers g) hdecode
    hparse hjoin hrun routes

/-- **Told to those with the token.**  A router or a gateway that asks a daemon, `dumbarp-k8s` that
asks a daemon, and a router that asks a gateway learn what the service tells if and only if their
request was answered and carried a token that opens the service: its own token, not empty and of
visible ASCII, apart from blanks at the end, which HTTP drops on the way.  `dumbarp-k8s` sends what
its file has between the spaces around it, so with it this is the token itself. -/
theorem told_to_token_holders_only {http : Http} (hhttp : http.Documented) {join : Join}
    {endpoint url authToken : String} :
    (∀ (s : Daemon.AppState) (id : Option UInt8) (body : String)
      (decode : String → Option LeasesResponse),
      decode body = some (Daemon.leasesHandler id s) → join endpoint "leases" = some url →
        (∀ token label es res,
          Runs (Network http (Daemon.authLayer http authToken) url body)
            (Client.fetchLeases join decode endpoint token label) () es res () → ∀ leases,
          (res = .ok leases ↔ Answered url token es ∧ Opens token authToken ∧
            leases = ⟨s.currentIps, id⟩)) ∧
        ∀ readToString (host : K8s.HostConfig) es res, host.url = endpoint →
          Runs (Network http (Daemon.authLayer http authToken) url body)
            (K8s.fetchIps readToString join decode host) () es res () → ∀ ips,
          (res = .ok ips ↔ Answered url authToken es ∧ Visible authToken ∧ ips = s.currentIps ∧
            ∃ raw, readToString host.authTokenFile = .ok raw ∧
              Engine.trim raw = authToken.toList ∧ authToken ≠ "")) ∧
    ∀ (daemons : List Routerd.DaemonEntry) (view : HashMap String Leases) (body : String)
      (decode : String → Option DaemonsResponse),
      decode body = some (Gateway.daemonsHandler daemons view) →
      (∀ d ∈ daemons, d.device ≠ "") → join endpoint "daemons" = some url →
        ∀ token label es res,
          Runs (Network http (Gateway.authLayer http authToken) url body)
            (Client.fetchDaemons join decode endpoint token label) () es res () → ∀ routes,
          (res = .ok routes ↔ Answered url token es ∧ Opens token authToken ∧
            routes = Gateway.behind daemons view) := by
  refine ⟨fun s id body decode hdecode hjoin => ⟨fun token label es res hrun => ?_, ?_⟩, ?_⟩
  · exact fetchLeases_runs hhttp hdecode hjoin hrun
  · rintro readToString host es res rfl hrun ips
    exact fetchIps_runs hhttp hdecode hjoin hrun ips
  · intro daemons view body decode hdecode hdevices hjoin token label es res hrun
    exact fetchDaemons_runs hhttp hdecode hdevices hjoin hrun

/-- A daemon with one lease. -/
def leasedState : Daemon.AppState :=
  { Daemon.AppState.new with leases := AList.insert "eth0" ⟨⟨110, 0, 0, 1⟩, ⟨10, 0, 0, 1⟩⟩ ∅ }

/-- Paths are joined with a slash. -/
def slashJoin : Join := fun endpoint path => some (endpoint ++ "/" ++ path)

lemma opens_t : Opens "t" "t" := ⟨by decide +kernel, by decide, by decide +kernel⟩

/-- A request with the token that comes through is answered. -/
lemma network_answers {layer : listHttp.HeaderMap → Get → Handling Get} {refusal : Response}
    (hguard : ∀ headers g, listHttp.Guarded "t" refusal headers g (layer headers g))
    (url body : String) {token : String} (htoken : Opens token "t") :
    Network listHttp layer url body () ⟨url, token⟩ (.ok ⟨200, body⟩) () := by
  have hsends : Sends listHttp
      [("authorization", fieldValue (asBytes "Bearer " ++ asBytes token))] token := rfl
  exact Network.answered rfl hsends ((hguard _ _).runs_iff.mpr
    (Or.inl ⟨hsends.bears_iff.mpr htoken, rfl, rfl⟩))

/-- What a daemon answers then. -/
lemma runs_with_token (response : LeasesResponse) (label : String) {token : String}
    (htoken : Opens token "t") :
    Runs (Network listHttp (Daemon.authLayer listHttp "t") "http://d/leases" "leases")
      (Client.fetchLeases slashJoin (fun _ => some response) "http://d" token label) ()
      [⟨⟨"http://d/leases", token⟩, .ok ⟨200, "leases"⟩⟩] (response.parse label) () :=
  Runs.call (network_answers (Daemon.authLayer_guarded listHttp_documented "t") _ _ htoken)
    (Runs.ret _ _)

/-- What a gateway answers. -/
lemma gateway_runs_with_token (response : DaemonsResponse) (label : String) :
    Runs (Network listHttp (Gateway.authLayer listHttp "t") "http://g/daemons" "daemons")
      (Client.fetchDaemons slashJoin (fun _ => some response) "http://g" "t" label) ()
      [⟨⟨"http://g/daemons", "t"⟩, .ok ⟨200, "daemons"⟩⟩] (response.parse label) () :=
  Runs.call (network_answers (Gateway.authLayer_guarded listHttp_documented "t") _ _ opens_t)
    (Runs.ret _ _)

/-- A client that has the token with a space behind it learns the lease, too. -/
theorem told_to_holder_of_t :
    ∃ es res, Runs (Network listHttp (Daemon.authLayer listHttp "t") "http://d/leases" "leases")
        (Client.fetchLeases slashJoin (fun _ => some (Daemon.leasesHandler (some 4) leasedState))
          "http://d" "t " "d") () es res () ∧
      res = .ok ⟨[⟨110, 0, 0, 1⟩], some 4⟩ := by
  have hopens : Opens "t " "t" := ⟨by decide +kernel, by decide, by decide +kernel⟩
  have hrun := runs_with_token (Daemon.leasesHandler (some 4) leasedState) "d" hopens
  obtain ⟨hdaemon, -⟩ := @told_to_token_holders_only listHttp listHttp_documented slashJoin
    "http://d" "http://d/leases" "t"
  obtain ⟨hleases, -⟩ := hdaemon leasedState (some 4) "leases"
    (fun _ => some (Daemon.leasesHandler (some 4) leasedState)) rfl (by decide)
  exact ⟨_, _, hrun, (hleases _ _ _ _ hrun _).mpr ⟨⟨_, rfl⟩, hopens, by decide⟩⟩

end Dumbarp
