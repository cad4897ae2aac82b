/-
What the two HTTP services use of the `http` and `axum` crates, and what a bearer check is for.

Header maps and header values are those of a library.  What a map holds under a name and which
bytes a value has is what its documentation tells the two operations of the code by.  A layer
either answers a request itself or has it answered by what is behind it: it is a program that
makes the requests it hands on.
-/
import Dumbarp.Lib.Bytes
import Dumbarp.Lib.Interact

namespace Dumbarp

open Interact Bytes

/-! ## Headers -/

/-- Header maps and header values (`HeaderMap`, `HeaderValue`). -/
structure Http where
  HeaderMap : Type
  HeaderValue : Type
  /-- `HeaderMap::get`. -/
  get : HeaderMap → String → Option HeaderValue
  /-- All values of a name, in their order (`HeaderMap::get_all`). -/
  getAll : HeaderMap → String → List HeaderValue
  /-- `HeaderValue::to_str`. -/
  toStr : HeaderValue → Option String
  /-- `HeaderValue::as_bytes`. -/
  bytes : HeaderValue → List UInt8

/-- A byte of visible ASCII text, as `to_str` takes it: from the space to `~`, or a tab. -/
def VisibleAscii (b : UInt8) : Prop := (32 ≤ b ∧ b < 127) ∨ b = 9

instance : DecidablePred VisibleAscii := fun b =>
  inferInstanceAs (Decidable ((32 ≤ b ∧ b < 127) ∨ b = 9))

/-- The documented behaviour: `get` returns the first of several values, and `to_str` yields the
text of a value that is visible ASCII, and an error for every other. -/
structure Http.Documented (http : Http) : Prop where
  get : ∀ headers name, http.get headers name = (http.getAll headers name).head?
  toStr : ∀ value text, http.toStr value = some text ↔
    (∀ b ∈ http.bytes value, VisibleAscii b) ∧ asBytes text = http.bytes value

/-- `header::AUTHORIZATION`. -/
def authorization : String := "authorization"

/-! ## Layers -/

/-- A response: its status code and its text. -/
structure Response where
  status : ℕ
  body : String
deriving DecidableEq, Repr

/-- How a layer handles a request: the requests that it makes are those that it hands on. -/
abbrev Handling (Request : Type) : Type := Prog Request (fun _ => Response) Response

/-- `Next::run`. -/
def Next.run {Request : Type} (request : Request) : Handling Request := Prog.request request

/-! ## What a bearer check is for -/

/-- The headers bear `token`: the first `Authorization` header is visible ASCII text, and it is
`Bearer ` followed by exactly the token. -/
def Http.Bears (http : Http) (headers : http.HeaderMap) (token : String) : Prop :=
  ∃ value, (http.getAll headers authorization).head? = some value ∧
    (∀ b ∈ http.bytes value, VisibleAscii b) ∧
    http.bytes value = asBytes "Bearer " ++ asBytes token

/-- **A guarded request** is handed on if and only if its headers bear the token, and answered by
a refusal with status 401 in every other case. -/
structure Http.Guarded {Request : Type} (http : Http) (token : String) (refusal : Response)
    (headers : http.HeaderMap) (request : Request) (handling : Handling Request) : Prop where
  admitted_iff : handling = Next.run request ↔ http.Bears headers token
  refused : ¬ http.Bears headers token → handling = .ret refusal
  status : refusal.status = 401

section Guarded

variable {Request : Type} {http : Http} {token : String} {refusal : Response}
  {headers : http.HeaderMap} {request : Request} {handling handling' : Handling Request}

/-- There is one way to guard a request. -/
lemma Http.Guarded.unique (h : http.Guarded token refusal headers request handling)
    (h' : http.Guarded token refusal headers request handling') : handling = handling' := by
  by_cases hbears : http.Bears headers token
  · rw [h.admitted_iff.mpr hbears, h'.admitted_iff.mpr hbears]
  · rw [h.refused hbears, h'.refused hbears]

/-- **A run of a guarded request**: what is behind the layer takes one step and gives the response,
or it is not reached and nobody learns anything of it. -/
theorem Http.Guarded.runs_iff (h : http.Guarded token refusal headers request handling) {σ : Type}
    {step : Sem σ Request fun _ => Response} {s s' : σ}
    {es : List (Event Request fun _ => Response)} {response : Response} :
    Prog.Runs step handling s es response s' ↔
      (http.Bears headers token ∧ es = [⟨request, response⟩] ∧ step s request response s') ∨
        (¬ http.Bears headers token ∧ es = [] ∧ response = refusal ∧ s' = s) := by
  by_cases hbears : http.Bears headers token
  · rw [h.admitted_iff.mpr hbears]
    constructor
    · intro hrun
      obtain ⟨r, s₁, es', rfl, hstep, hrest⟩ := Prog.runs_call_inv hrun
      obtain ⟨rfl, rfl, rfl⟩ := Prog.runs_ret_inv hrest
      exact Or.inl ⟨hbears, rfl, hstep⟩
    · rintro (⟨-, rfl, hstep⟩ | ⟨hnot, -⟩)
      · exact Prog.Runs.call hstep (Prog.Runs.ret response s')
      · exact absurd hbears hnot
  · rw [h.refused hbears]
    constructor
    · intro hrun
      exact Or.inr ⟨hbears, Prog.runs_ret_inv hrun⟩
    · rintro (⟨hyes, -⟩ | ⟨-, rfl, rfl, rfl⟩)
      · exact absurd hyes hbears
      · exact Prog.Runs.ret _ _

/-! ### Checks that read the text behind `Bearer ` -/

/-- The text behind `Bearer ` in the first `Authorization` header. -/
def Http.bearer (http : Http) (headers : http.HeaderMap) : Option String :=
  ((http.get headers authorization).bind http.toStr).bind (stripPrefix · "Bearer ")

lemma Http.Documented.bearer_eq_some (hhttp : http.Documented) :
    http.bearer headers = some token ↔ http.Bears headers token := by
  simp only [Http.bearer, Http.Bears, Option.bind_eq_some_iff, stripPrefix_eq_some, hhttp.get,
    hhttp.toStr]
  constructor
  · rintro ⟨text, ⟨value, hvalue, hvisible, hbytes⟩, rfl⟩
    rw [asBytes_append] at hbytes
    exact ⟨value, hvalue, hvisible, hbytes.symm⟩
  · rintro ⟨value, hvalue, hvisible, hbytes⟩
    rw [← asBytes_append] at hbytes
    exact ⟨_, ⟨value, hvalue, hvisible, hbytes.symm⟩, rfl⟩

/-- A check that takes the header apart step by step, and refuses at each failure, looks at the text
behind `Bearer `. -/
lemma Http.bearer_elim {α : Type} (refuse : α) (goOn : String → α) :
    (http.bearer headers).elim refuse goOn =
      match http.get headers authorization with
      | none => refuse
      | some value =>
        match http.toStr value with
        | none => refuse
        | some value =>
          match stripPrefix value "Bearer " with
          | none => refuse
          | some token => goOn token := by
  rw [Http.bearer]
  cases http.get headers authorization with
  | none => rfl
  | some value =>
    simp only [Option.bind_some]
    cases http.toStr value with
    | none => rfl
    | some text =>
      simp only [Option.bind_some]
      cases stripPrefix text "Bearer " <;> rfl

/-- **A check guards its token** if it hands on what carries a text that it accepts, and accepts
the bytes of the token only. -/
theorem Http.Documented.guarded (hhttp : http.Documented)
    {accepts : List UInt8 → List UInt8 → Bool}
    (haccepts : ∀ a b, accepts a b = true ↔ a = b) (hstatus : refusal.status = 401)
    (hhandling : handling = (http.bearer headers).elim (.ret refusal) fun text =>
      if !accepts (asBytes text) (asBytes token) then .ret refusal else Next.run request) :
    http.Guarded token refusal headers request handling := by
  have hadmitted : http.Bears headers token → handling = Next.run request := by
    intro hbears
    rw [hhandling, hhttp.bearer_eq_some.mpr hbears, Option.elim_some, (haccepts _ _).mpr rfl]
    rfl
  have hrefused : ¬ http.Bears headers token → handling = .ret refusal := by
    intro hbears
    rw [← hhttp.bearer_eq_some] at hbears
    rw [hhandling]
    cases hbearer : http.bearer headers with
    | none => rfl
    | some text =>
      have hne : asBytes text ≠ asBytes token := by
        rw [Ne, asBytes_inj]
        rintro rfl
        exact hbears hbearer
      rw [Option.elim_some, Bool.eq_false_iff.mpr (mt (haccepts _ _).mp hne)]
      rfl
  refine ⟨⟨fun h => ?_, hadmitted⟩, hrefused, hstatus⟩
  by_contra hbears
  rw [hrefused hbears] at h
  cases h

end Guarded

end Dumbarp
