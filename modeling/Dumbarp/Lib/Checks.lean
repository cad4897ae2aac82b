/-
Reading a configuration and checking it.

A text is read, parsed, completed by defaults and passed through a chain of checks; the first
check that fails gives the error.  So what is accepted is what passes every check.
-/
import Mathlib.Tactic.Lemma

namespace Checks

variable {α β F C : Type}

/-! ## Checks -/

/-- Fail with a message in a bad case. -/
def rejectIf (bad : Prop) [Decidable bad] (message : String) : Except String Unit :=
  if bad then .error message else .ok ()

@[simp] lemma rejectIf_eq_ok {bad : Prop} [Decidable bad] {message : String} :
    rejectIf bad message = .ok () ↔ ¬ bad := by
  by_cases h : bad <;> simp [rejectIf, h]

/-- A chain of two checks. -/
@[simp] lemma bind_eq_ok {x : Except String Unit} {next : Unit → Except String β} {b : β} :
    (x >>= next) = .ok b ↔ x = .ok () ∧ next () = .ok b := by
  cases x <;> simp [bind, Except.bind]

/-- Check the entries of a list in turn, each by itself and for a name that was seen before. -/
def checkEach (check : α → Except String Unit) (name : α → String)
    (duplicate : String → String) : List String → List α → Except String Unit
  | _, [] => .ok ()
  | seen, d :: rest => do
    check d
    rejectIf (name d ∈ seen) (duplicate (name d))
    checkEach check name duplicate (name d :: seen) rest

/-- **A list is accepted** if and only if each entry is and no name is there twice. -/
theorem checkEach_eq_ok {check : α → Except String Unit} {name : α → String}
    {duplicate : String → String} {seen : List String} {ds : List α} :
    checkEach check name duplicate seen ds = .ok () ↔
      (∀ d ∈ ds, check d = .ok ()) ∧ (∀ d ∈ ds, name d ∉ seen) ∧ (ds.map name).Nodup := by
  induction ds generalizing seen with
  | nil => simp [checkEach]
  | cons d rest ih =>
    rw [checkEach, bind_eq_ok, bind_eq_ok, rejectIf_eq_ok, ih, List.forall_mem_cons,
      List.forall_mem_cons, List.map_cons, List.nodup_cons]
    constructor
    · rintro ⟨hd, hseen, hrest, hnew, hnodup⟩
      refine ⟨⟨hd, hrest⟩, ⟨hseen, fun e he => ?_⟩, fun hmem => ?_, hnodup⟩
      · exact List.not_mem_of_not_mem_cons (hnew e he)
      · obtain ⟨e, he, heq⟩ := List.mem_map.mp hmem
        exact hnew e he (heq ▸ List.mem_cons_self)
    · rintro ⟨⟨hd, hrest⟩, ⟨hseen, hold⟩, hne, hnodup⟩
      refine ⟨hd, hseen, hrest, fun e he hmem => ?_, hnodup⟩
      rcases List.mem_cons.mp hmem with heq | hmem
      · exact hne (List.mem_map.mpr ⟨e, he, heq⟩)
      · exact hold e he hmem

/-! ## Loading -/

/-- The content of files, and the value in a text. -/
structure Loader (F : Type) where
  readToString : String → Except String String
  fromStr : String → Except String F

/-- Read a file, parse it, complete it and check it. -/
def Loader.load (loader : Loader F) (complete : F → C) (validate : C → Except String Unit)
    (path : String) : Except (List String) C :=
  match loader.readToString path with
  | .error e => .error [s!"reading config file {path}", e]
  | .ok raw =>
    match loader.fromStr raw with
    | .error e => .error [s!"parsing TOML in {path}", e]
    | .ok file =>
      match validate (complete file) with
      | .error e => .error [e]
      | .ok () => .ok (complete file)

/-- **A file is accepted** if and only if what it stands for passes the checks. -/
theorem Loader.load_eq_ok {loader : Loader F} {complete : F → C}
    {validate : C → Except String Unit} {path : String} {cfg : C} :
    loader.load complete validate path = .ok cfg ↔
      ∃ raw file, loader.readToString path = .ok raw ∧ loader.fromStr raw = .ok file ∧
        complete file = cfg ∧ validate cfg = .ok () := by
  rw [Loader.load]
  cases hread : loader.readToString path with
  | error e => simp
  | ok raw =>
    cases hparse : loader.fromStr raw with
    | error e => simp [hparse]
    | ok file =>
      simp only [Except.ok.injEq, exists_and_left, exists_eq_left', hparse]
      cases hcheck : validate (complete file) with
      | error e =>
        refine iff_of_false (fun h => (nomatch h)) ?_
        rintro ⟨rfl, h⟩
        rw [hcheck] at h
        cases h
      | ok u =>
        constructor
        · rintro ⟨⟩
          exact ⟨rfl, hcheck⟩
        · rintro ⟨rfl, -⟩
          rfl

end Checks
