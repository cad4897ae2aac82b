/-
Whom `dumbarpd` and `dumbarp-gateway` admit.

Each service has its own copy of the bearer check.  Either copy guards the token it is given, and
there is one way to do so; hence with one token the two decide every request alike.
-/
import Dumbarp.Daemon.Http
import Dumbarp.Gateway.Http

namespace Dumbarp

open Interact Bytes

/-- **The bearer check admits exactly the configured token.**  The comparisons accept equal byte
strings only, either service guards every request by its token, and with equal tokens both handle
every request in the same way. -/
theorem bearer_check_exact {Request : Type} {http : Http} (hhttp : http.Documented) :
    (∀ a b, Daemon.constantTimeEq a b = true ↔ a = b) ∧
      (∀ a b, Gateway.constantTimeEq a b = true ↔ a = b) ∧
      (∀ token headers (request : Request),
        http.Guarded token Daemon.unauthorized headers request
          (Daemon.authLayer http token headers request)) ∧
      (∀ token headers (request : Request),
        http.Guarded token Gateway.unauthorized headers request
          (Gateway.authLayer http token headers request)) ∧
      ∀ token token', token = token' → ∀ headers (request : Request),
        Daemon.authLayer http token headers request =
          Gateway.authLayer http token' headers request := by
  have hdaemon : ∀ token headers (request : Request), http.Guarded token Daemon.unauthorized
      headers request (Daemon.authLayer http token headers request) :=
    Daemon.authLayer_guarded hhttp
  have hgateway : ∀ token headers (request : Request), http.Guarded token Gateway.unauthorized
      headers request (Gateway.authLayer http token headers request) :=
    Gateway.authLayer_guarded hhttp
  refine ⟨Daemon.constantTimeEq_iff, Gateway.constantTimeEq_iff, hdaemon, hgateway, ?_⟩
  rintro token _ rfl headers request
  -- both copies refuse with the same response
  exact (hdaemon token headers request).unique (hgateway token headers request)

/-! ## Header maps as lists -/

/-- The values of a name. -/
def valuesOf (headers : List (String × List UInt8)) (name : String) : List (List UInt8) :=
  (headers.filter fun entry => entry.1 = name).map Prod.snd

/-- The text of a value that is visible ASCII. -/
def textOf (value : List UInt8) : Option String :=
  if value.all fun b => decide (VisibleAscii b) then some (ofAscii value) else none

/-- Header maps as the lists of their entries, and values as their bytes. -/
def listHttp : Http where
  HeaderMap := List (String × List UInt8)
  HeaderValue := List UInt8
  get headers name := (headers.find? fun entry => entry.1 = name).map Prod.snd
  getAll := valuesOf
  toStr := textOf
  bytes value := value

lemma VisibleAscii.lt {b : UInt8} (h : VisibleAscii b) : b < 128 := by
  rcases h with ⟨-, h⟩ | rfl
  · exact UInt8.lt_trans h (by decide)
  · decide

lemma head?_valuesOf (headers : List (String × List UInt8)) (name : String) :
    (headers.find? fun entry => entry.1 = name).map Prod.snd = (valuesOf headers name).head? := by
  rw [valuesOf, List.head?_map, List.head?_filter]

lemma textOf_eq_some (value : List UInt8) (text : String) :
    textOf value = some text ↔ (∀ b ∈ value, VisibleAscii b) ∧ asBytes text = value := by
  simp only [textOf, List.all_eq_true, decide_eq_true_eq]
  by_cases hvisible : ∀ b ∈ value, VisibleAscii b
  · have hbytes : asBytes (ofAscii value) = value :=
      asBytes_ofAscii fun b hb => (hvisible b hb).lt
    rw [if_pos hvisible, Option.some.injEq, ← asBytes_inj, hbytes, eq_comm]
    exact (and_iff_right hvisible).symm
  · rw [if_neg hvisible]
    exact iff_of_false (nomatch ·) fun h => hvisible h.1

lemma listHttp_documented : listHttp.Documented := ⟨head?_valuesOf, textOf_eq_some⟩

/-- The headers of a request that carries two tokens. -/
def twoTokens : listHttp.HeaderMap :=
  [("host", asBytes "gw"), ("authorization", asBytes "Bearer t"),
    ("authorization", asBytes "Bearer u")]

/-- Of two tokens the first one counts, in either service. -/
theorem first_token_counts :
    Daemon.authLayer listHttp "t" twoTokens () = Next.run () ∧
      Gateway.authLayer listHttp "u" twoTokens () = .ret Gateway.unauthorized ∧
      Daemon.authLayer listHttp "t" twoTokens () = Gateway.authLayer listHttp "t" twoTokens () := by
  obtain ⟨-, -, hdaemon, hgateway, halike⟩ := bearer_check_exact listHttp_documented
  have hfirst : (listHttp.getAll twoTokens authorization).head? = some (asBytes "Bearer t") := rfl
  have htext : textOf (asBytes "Bearer t") = some "Bearer t" := by decide
  refine ⟨(hdaemon "t" twoTokens ()).admitted_iff.mpr ?_,
    (hgateway "u" twoTokens ()).refused ?_, halike "t" "t" rfl twoTokens ()⟩
  · exact ⟨_, hfirst, ((textOf_eq_some _ _).mp htext).1, by decide⟩
  · rintro ⟨value, hvalue, -, hbytes⟩
    obtain rfl := Option.some.inj (hfirst.symm.trans hvalue)
    exact absurd hbytes (by decide)

end Dumbarp
