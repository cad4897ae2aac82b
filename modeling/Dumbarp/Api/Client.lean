/-
Asking over HTTP (`dumbarp-api/src/client.rs`), and being answered by a guarded service.

A client sends one request, with its token, and reads the answer if that is no failure.  Joining
URLs, sending, and the JSON of an answer are the business of libraries: joining and decoding are
parameters, and to send is a request whose answer may be an error.  Of an error the outermost
message is kept.
-/
import Dumbarp.Api.Wire
import Dumbarp.Http
import Mathlib.Data.List.DropRight

namespace Dumbarp.Api

open Interact Interact.Prog Bytes

/-! ## The code -/

/-- A GET request that carries a token (`bearer_auth`). -/
structure Get where
  url : String
  token : String
deriving DecidableEq, Repr

/-- What asks over HTTP: to send a request fails, or there is a response. -/
abbrev Fetch (α : Type) : Type := Prog Get (fun _ => Except String Response) α

/-- `Url::join`, as far as it is used. -/
abbrev Join : Type := String → String → Option String

/-- What `error_for_status` takes for an error: the statuses of clients and of servers at fault. -/
def nonSuccess (response : Response) : Bool := 400 ≤ response.status && response.status < 600

/-- `get_json`. -/
def getJson {T : Type} (join : Join) (decode : String → Option T) (endpoint path token : String) :
    Fetch (Except String T) :=
  match join endpoint path with
  | none => return .error ("building /" ++ path ++ " URL from " ++ endpoint)
  | some url => do
    match ← request (⟨url, token⟩ : Get) with
    | .error _ => return .error ("GET " ++ url)
    | .ok resp =>
      if nonSuccess resp then return .error ("GET " ++ url ++ " returned non-success")
      else
        match decode resp.body with
        | none => return .error ("decoding JSON from " ++ url)
        | some body => return .ok body

namespace Client

/-- `fetch_leases`. -/
def fetchLeases (join : Join) (decode : String → Option LeasesResponse)
    (endpoint token label : String) : Fetch (Except String Leases) := do
  match ← getJson join decode endpoint "leases" token with
  | .error e => return .error e
  | .ok body => return body.parse label

/-- `fetch_daemons`. -/
def fetchDaemons (join : Join) (decode : String → Option DaemonsResponse)
    (endpoint token label : String) : Fetch (Except String (List DaemonRoutes)) := do
  match ← getJson join decode endpoint "daemons" token with
  | .error e => return .error e
  | .ok body => return body.parse label

end Client

/-- What a client makes of what it got. -/
def parsed {T U : Type} (parse : T → Except String U) : Except String T → Fetch (Except String U)
  | .error e => ret (.error e)
  | .ok body => ret (parse body)

lemma fetchLeases_eq (join : Join) (decode : String → Option LeasesResponse)
    (endpoint token label : String) :
    Client.fetchLeases join decode endpoint token label =
      (getJson join decode endpoint "leases" token).bind (parsed (LeasesResponse.parse · label)) :=
  congrArg _ (funext fun r => by cases r <;> rfl)

lemma fetchDaemons_eq (join : Join) (decode : String → Option DaemonsResponse)
    (endpoint token label : String) :
    Client.fetchDaemons join decode endpoint token label =
      (getJson join decode endpoint "daemons" token).bind
        (parsed (DaemonsResponse.parse · label)) :=
  congrArg _ (funext fun r => by cases r <;> rfl)

/-! ## A service that guards what it tells -/

/-- A blank of HTTP: a space or a tab. -/
def blank (b : UInt8) : Bool := b == 32 || b == 9

/-- The value of a header as it arrives: HTTP does not take the blanks around it for a part. -/
def fieldValue (value : List UInt8) : List UInt8 := (value.dropWhile blank).rdropWhile blank

/-- Headers as `bearer_auth` sets them and as they arrive: one `Authorization` header, with the
token. -/
def Sends (http : Http) (headers : http.HeaderMap) (token : String) : Prop :=
  (http.getAll headers authorization).map http.bytes =
    [fieldValue (asBytes "Bearer " ++ asBytes token)]

/-- What is behind the check answers with `body`. -/
def Behind (body : String) : Sem Unit Get fun _ => Response :=
  fun _ _ response _ => response = ⟨200, body⟩

/-- **The network and a service**, which hears requests for `url` behind its check.  A request may
be lost on its way, or its answer on the way back. -/
inductive Network (http : Http) (layer : http.HeaderMap → Get → Handling Get) (url body : String) :
    Sem Unit Get fun _ => Except String Response
  | lost (g e) : Network http layer url body () g (.error e) ()
  | answered {g headers es response} (hurl : g.url = url) (hsends : Sends http headers g.token)
      (hrun : Runs (Behind body) (layer headers g) () es response ()) :
      Network http layer url body () g (.ok response) ()

/-- The one request of a client was answered. -/
def Answered (url token : String) (es : List (Event Get fun _ => Except String Response)) : Prop :=
  ∃ response, es = [⟨⟨url, token⟩, .ok response⟩]

/-- A text that a header can carry to a check. -/
def Visible (token : String) : Prop := ∀ b ∈ asBytes token, VisibleAscii b

instance (token : String) : Decidable (Visible token) :=
  inferInstanceAs (Decidable (∀ b ∈ asBytes token, VisibleAscii b))

/-- **A token opens a service**: it is that of the service, apart from blanks at its end, and this
is no empty text and one that a header can carry. -/
structure Opens (token authToken : String) : Prop where
  same : (asBytes token).rdropWhile blank = asBytes authToken
  nonempty : authToken ≠ ""
  visible : Visible authToken

lemma asBytes_eq_nil {s : String} : asBytes s = [] ↔ s = "" := by
  rw [← asBytes_inj]
  rfl

/-- Of what a client sends the blanks at the end of the token get lost, and with a blank token the
one before it too. -/
lemma fieldValue_bearer (token : List UInt8) :
    fieldValue (asBytes "Bearer " ++ token) =
      if token.rdropWhile blank = [] then asBytes "Bearer"
      else asBytes "Bearer " ++ token.rdropWhile blank := by
  have hhead : (asBytes "Bearer " ++ token).dropWhile blank = asBytes "Bearer " ++ token := by
    have hbytes : asBytes "Bearer " = 66 :: [101, 97, 114, 101, 114, 32] := by decide +kernel
    rw [hbytes]
    rfl
  have hword : (asBytes "Bearer ").rdropWhile blank = asBytes "Bearer" := by decide +kernel
  rw [fieldValue, hhead, List.rdropWhile, List.reverse_append, List.dropWhile_append]
  by_cases hblank : token.rdropWhile blank = []
  · have hnil : token.reverse.dropWhile blank = [] := List.reverse_eq_nil_iff.mp hblank
    rw [if_pos hblank, hnil, List.isEmpty_nil, if_pos rfl]
    exact hword
  · have hne : token.reverse.dropWhile blank ≠ [] := fun h => hblank (List.reverse_eq_nil_iff.mpr h)
    rw [if_neg hblank, if_neg (by simpa using hne), List.reverse_append, List.reverse_reverse]
    rfl

/-- What a client sends bears the token of a service if its token opens the service. -/
lemma Sends.bears_iff {http : Http} {headers : http.HeaderMap} {token authToken : String}
    (h : Sends http headers token) : http.Bears headers authToken ↔ Opens token authToken := by
  obtain ⟨value, hvalues, hbytes⟩ := List.map_eq_singleton_iff.mp h
  rw [fieldValue_bearer] at hbytes
  have hspace : ∀ b ∈ asBytes "Bearer ", VisibleAscii b := by decide +kernel
  rw [Http.Bears, hvalues]
  constructor
  · rintro ⟨v, hv, hvisible, hbears⟩
    obtain rfl := Option.some.inj hv
    rw [hbears] at hbytes hvisible
    split at hbytes
    · -- a blank token leaves less than `Bearer `
      have hlength := congrArg List.length hbytes
      have hlong : (asBytes "Bearer ").length = 7 := by decide +kernel
      have hshort : (asBytes "Bearer").length = 6 := by decide +kernel
      rw [List.length_append] at hlength
      omega
    · rename_i hne
      have hsame := (List.append_cancel_left hbytes).symm
      refine ⟨hsame, fun hempty => hne ?_, fun b hb => hvisible b (List.mem_append_right _ hb)⟩
      rw [hsame]
      exact asBytes_eq_nil.mpr hempty
  · rintro ⟨hsame, hne, hvisible⟩
    rw [hsame, if_neg (mt asBytes_eq_nil.mp hne)] at hbytes
    refine ⟨value, rfl, fun b hb => ?_, hbytes⟩
    rw [hbytes] at hb
    rcases List.mem_append.mp hb with hb | hb
    · exact hspace b hb
    · exact hvisible b hb

/-- A token without a blank at its end opens the service whose token it is. -/
lemma opens_iff_of_trimmed {token authToken : String}
    (h : ∀ b, (asBytes token).getLast? = some b → blank b = false) :
    Opens token authToken ↔ token = authToken ∧ authToken ≠ "" ∧ Visible authToken := by
  have hself : (asBytes token).rdropWhile blank = asBytes token := by
    refine List.rdropWhile_eq_self_iff.mpr fun hne => ?_
    simp [h _ (List.getLast?_eq_some_getLast hne)]
  constructor
  · rintro ⟨hsame, hne, hvisible⟩
    exact ⟨asBytes_inj.mp (hself.symm.trans hsame), hne, hvisible⟩
  · rintro ⟨rfl, hne, hvisible⟩
    exact ⟨hself, hne, hvisible⟩

section Guarded

variable {http : Http} {layer : http.HeaderMap → Get → Handling Get} {refusal : Response}
  {url authToken token : String} {T : Type} {decode : String → Option T} {body : String}
  {join : Join} {endpoint path : String}

/-- **What a client gets of a guarded service**: what the service tells, if the request was
answered and carried a token that opens the service, and an error otherwise. -/
lemma getJson_runs
    (hguard : ∀ headers g, http.Guarded authToken refusal headers g (layer headers g))
    {x : T} (hdecode : decode body = some x) (hjoin : join endpoint path = some url)
    {es : List (Event Get fun _ => Except String Response)} {res : Except String T}
    (hrun : Runs (Network http layer url body) (getJson join decode endpoint path token) () es res
      ()) :
    (Answered url token es ∧ Opens token authToken ∧ res = .ok x) ∨
      ¬ (Answered url token es ∧ Opens token authToken) ∧ ∃ e, res = .error e := by
  rw [getJson, hjoin] at hrun
  obtain ⟨r, ⟨⟩, es', rfl, hstep, hrest⟩ := runs_call_inv hrun
  cases hstep with
  | lost =>
    obtain ⟨rfl, rfl, -⟩ := runs_ret_inv hrest
    refine Or.inr ⟨?_, _, rfl⟩
    rintro ⟨⟨response, hes⟩, -⟩
    simp at hes
  | @answered g headers _ response _ hsends hlayer =>
    rcases ((hguard headers _).runs_iff.mp hlayer) with ⟨hbears, -, rfl⟩ | ⟨hbears, -, rfl, -⟩
    · -- the token is the right one, so the answer is what is behind the check
      have hstatus : nonSuccess ⟨200, body⟩ = false := rfl
      simp only [ret_bind, pure_eq, hstatus, hdecode, Bool.false_eq_true, if_false] at hrest
      obtain ⟨rfl, rfl, -⟩ := runs_ret_inv hrest
      exact Or.inl ⟨⟨_, rfl⟩, hsends.bears_iff.mp hbears, rfl⟩
    · have hstatus : nonSuccess response = true := by
        simp [nonSuccess, (hguard headers ⟨url, token⟩).status]
      simp only [ret_bind, pure_eq, hstatus, if_true] at hrest
      obtain ⟨-, rfl, -⟩ := runs_ret_inv hrest
      exact Or.inr ⟨fun ⟨_, h⟩ => hbears (hsends.bears_iff.mpr h), _, rfl⟩

/-- A client that parses what it gets, and what parses, learns it if and only if it was answered and
has a token that opens the service. -/
lemma fetch_runs {U : Type} {parse : T → Except String U}
    (hguard : ∀ headers g, http.Guarded authToken refusal headers g (layer headers g))
    {x : T} {y : U} (hdecode : decode body = some x) (hparse : parse x = .ok y)
    (hjoin : join endpoint path = some url)
    {es : List (Event Get fun _ => Except String Response)} {res : Except String U}
    (hrun : Runs (Network http layer url body)
      ((getJson join decode endpoint path token).bind (parsed parse)) () es res ()) (z : U) :
    res = .ok z ↔ Answered url token es ∧ Opens token authToken ∧ z = y := by
  obtain ⟨es₁, r, ⟨⟩, es₂, rfl, hget, hrest⟩ := runs_bind_inv hrun
  rcases getJson_runs hguard hdecode hjoin hget with ⟨hes, hopens, rfl⟩ | ⟨hno, e, rfl⟩
  · obtain ⟨rfl, rfl, -⟩ := runs_ret_inv hrest
    rw [hparse, List.append_nil, Except.ok.injEq, eq_comm]
    exact ⟨fun h => ⟨hes, hopens, h⟩, fun h => h.2.2⟩
  · obtain ⟨rfl, rfl, -⟩ := runs_ret_inv hrest
    rw [List.append_nil]
    exact iff_of_false (nomatch ·) fun h => hno ⟨h.1, h.2.1⟩

end Guarded

end Dumbarp.Api
