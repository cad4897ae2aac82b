/-
Parser combinators over lists of characters.

A parser takes a prefix off its input and returns a value, or fails; what an alternative or a
repetition has tried in vain is left in the input.  Each combinator comes with the exact
condition under which it succeeds, and a text is *read* if the parser takes it off whatever
follows.
-/
import Mathlib.Tactic.Lemma
import Mathlib.Data.List.Basic
import Mathlib.Data.List.TakeWhile

namespace Parse

variable {α β : Type}

/-- A parser, with the rest of the input as its state. -/
abbrev Parser := StateT (List Char) Option

/-! ## Combinators -/

/-- A fixed text. -/
def tag (s : String) : Parser Unit := fun input =>
  (input.dropPrefix? s.toList).map fun rest => ((), rest)

/-- A fixed character. -/
def char (c : Char) : Parser Unit
  | [] => none
  | d :: rest => if d = c then some ((), rest) else none

/-- The longest run of characters of a class, which may be empty. -/
def takeWhile0 (p : Char → Bool) : Parser (List Char) := fun input =>
  some (input.takeWhile p, input.dropWhile p)

/-- The longest run of characters of a class. -/
def takeWhile1 (p : Char → Bool) : Parser (List Char) := fun input =>
  if input.takeWhile p = [] then none else some (input.takeWhile p, input.dropWhile p)

/-- Go on with a value, if there is one. -/
def ofOption (o : Option α) : Parser α := fun input => o.map fun a => (a, input)

/-- Repeat a parser until it fails; a round that takes nothing is an error. -/
def many0 (p : Parser α) : Parser (List α) := fun input =>
  match p.run input with
  | none => some ([], input)
  | some (a, rest) =>
    if rest.length < input.length then
      (many0 p rest).map fun r => (a :: r.1, r.2)
    else none
termination_by input => input.length

/-- Blanks. -/
def isBlank (c : Char) : Bool := c = ' ' || c = '\t'

/-- Blanks and line ends. -/
def isSpace (c : Char) : Bool := c = ' ' || c = '\t' || c = '\r' || c = '\n'

/-- One decimal digit at least. -/
def digit1 : Parser (List Char) := takeWhile1 Char.isDigit

/-- One blank at least. -/
def space1 : Parser (List Char) := takeWhile1 isBlank

/-- Blanks and line ends, if any. -/
def multispace0 : Parser (List Char) := takeWhile0 isSpace

/-! ## When they succeed -/

section Decide

variable {p : Char → Prop} [DecidablePred p]

-- the characters of a text are few; the instance over the type goes through all there are
scoped instance (priority := high) decidableForallMem (cs : List Char) :
    Decidable (∀ c ∈ cs, p c) :=
  List.decidableBAll p cs

scoped instance (priority := high) decidableForallMemOption (o : Option Char) :
    Decidable (∀ c ∈ o, p c) :=
  Option.decidableForallMem o

end Decide

/-- No character of the class comes next. -/
def Stops (p : Char → Bool) (rest : List Char) : Prop := ∀ c ∈ rest.head?, p c = false

section Stops

variable {p : Char → Bool} {t rest input : List Char} {c : Char}

@[simp] lemma stops_nil : Stops p [] := by simp [Stops]

@[simp] lemma stops_cons : Stops p (c :: rest) ↔ p c = false := by simp [Stops]

/-- A text that begins with another character stops the run, whatever follows the text. -/
lemma Stops.append (h : Stops p t) (ht : t ≠ []) : Stops p (t ++ rest) := by
  cases t with
  | nil => exact absurd rfl ht
  | cons c t => simpa using h

lemma takeWhile_dropWhile_iff :
    input.takeWhile p = t ∧ input.dropWhile p = rest ↔
      input = t ++ rest ∧ (∀ c ∈ t, p c = true) ∧ Stops p rest := by
  constructor
  · rintro ⟨rfl, rfl⟩
    refine ⟨List.takeWhile_append_dropWhile.symm, fun c => List.mem_takeWhile_imp, ?_⟩
    intro c hc
    have hnot := List.head?_dropWhile_not p input
    rwa [Option.mem_def.mp hc] at hnot
  · rintro ⟨rfl, ht, hstop⟩
    have hrest : rest.takeWhile p = [] ∧ rest.dropWhile p = rest := by
      cases rest with
      | nil => simp
      | cons c cs => simp [stops_cons.mp hstop]
    rw [List.takeWhile_append_of_pos ht, List.dropWhile_append_of_pos ht, hrest.1, hrest.2]
    simp

/-- A run of one character of a class at least. -/
abbrev Run (p : Char → Bool) : Type := { cs : List Char // cs ≠ [] ∧ ∀ c ∈ cs, p c = true }

/-- A run can be told from what follows it. -/
lemma Run.append_inj {r r' : Run p} {s s' : List Char} (hs : Stops p s) (hs' : Stops p s')
    (h : r.val ++ s = r'.val ++ s') : r = r' ∧ s = s' := by
  obtain ⟨htake, hdrop⟩ := takeWhile_dropWhile_iff.mpr ⟨rfl, r.property.2, hs⟩
  obtain ⟨htake', hdrop'⟩ := takeWhile_dropWhile_iff.mpr ⟨rfl, r'.property.2, hs'⟩
  rw [h] at htake hdrop
  exact ⟨Subtype.ext (htake.symm.trans htake'), hdrop.symm.trans hdrop'⟩

/-- A run of another class stops the run. -/
lemma Run.stops {q : Char → Bool} (hq : ∀ c, q c = true → p c = false) (r : Run q) :
    Stops p (r.val ++ rest) := by
  obtain ⟨cs, hne, hall⟩ := r
  cases cs with
  | nil => exact absurd rfl hne
  | cons c cs => simpa using hq c (hall c (by simp))

lemma isBlank_of_isDigit {c : Char} (h : c.isDigit = true) : isBlank c = false := by
  by_contra hne
  simp only [isBlank, Bool.not_eq_false, Bool.or_eq_true, decide_eq_true_eq] at hne
  rcases hne with rfl | rfl <;> exact absurd h (by decide)

lemma isDigit_of_isBlank {c : Char} (h : isBlank c = true) : c.isDigit = false := by
  by_contra hne
  rw [isBlank_of_isDigit (by simpa using hne)] at h
  cases h

end Stops

section Success

variable {p q : Parser α} {f : α → Parser β} {g : α → β} {input rest t : List Char} {a : α}
  {b : β} {k : Char → Bool}

lemma run_pure_eq_some {a' : α} :
    (pure a : Parser α).run input = some (a', rest) ↔ a = a' ∧ input = rest := by
  simp

lemma run_bind_eq_some :
    (p >>= f).run input = some (b, rest) ↔
      ∃ a mid, p.run input = some (a, mid) ∧ (f a).run mid = some (b, rest) := by
  simp [StateT.run_bind, Option.bind_eq_some_iff]

@[simp] lemma run_ofOption_eq_some {o : Option α} :
    (ofOption o).run input = some (a, rest) ↔ o = some a ∧ input = rest := by
  show o.map (fun a => (a, input)) = some (a, rest) ↔ _
  cases o <;> simp

lemma run_tag_eq_some {s : String} {u : Unit} :
    (tag s).run input = some (u, rest) ↔ input = s.toList ++ rest := by
  show (input.dropPrefix? s.toList).map (fun rest => ((), rest)) = some (u, rest) ↔ _
  simp [List.dropPrefix?_eq_some_iff]

lemma run_char_eq_some {c : Char} {u : Unit} :
    (char c).run input = some (u, rest) ↔ input = c :: rest := by
  cases input with
  | nil => exact iff_of_false (fun h => (nomatch h)) (fun h => (nomatch h))
  | cons d input =>
    show (if d = c then some ((), input) else none) = _ ↔ _
    by_cases h : d = c <;> simp [h]

lemma run_takeWhile0_eq_some :
    (takeWhile0 k).run input = some (t, rest) ↔
      input = t ++ rest ∧ (∀ c ∈ t, k c = true) ∧ Stops k rest := by
  rw [← takeWhile_dropWhile_iff]
  simp [takeWhile0, StateT.run]

lemma run_takeWhile1_eq_some :
    (takeWhile1 k).run input = some (t, rest) ↔
      t ≠ [] ∧ input = t ++ rest ∧ (∀ c ∈ t, k c = true) ∧ Stops k rest := by
  rw [← takeWhile_dropWhile_iff]
  show (if input.takeWhile k = [] then none else _) = _ ↔ _
  split
  · rename_i hnil
    refine iff_of_false (fun h => (nomatch h)) ?_
    rintro ⟨ht, rfl, -⟩
    exact ht hnil
  · rename_i hne
    rw [Option.some.injEq, Prod.mk.injEq]
    refine ⟨fun h => ⟨h.1 ▸ hne, h⟩, fun h => h.2⟩

/-- Go on behind what a parser has taken. -/
lemma run_bind_of_some (h : p.run input = some (a, rest)) :
    (p >>= f).run input = (f a).run rest := by
  rw [StateT.run_bind, h]
  rfl

lemma run_bind_of_none (h : p.run input = none) : (p >>= f).run input = none := by
  rw [StateT.run_bind, h]
  rfl

lemma run_map_of_some (h : p.run input = some (a, rest)) :
    (g <$> p).run input = some (g a, rest) := by
  rw [StateT.run_map, h]
  rfl

lemma run_map_of_none (h : p.run input = none) : (g <$> p).run input = none := by
  rw [StateT.run_map, h]
  rfl

/-- The first alternative that succeeds is taken. -/
lemma run_orElse_of_some (h : p.run input = some (a, rest)) :
    (p <|> q).run input = some (a, rest) := by
  rw [StateT.run_orElse, h]
  rfl

lemma run_orElse_of_none (h : p.run input = none) : (p <|> q).run input = q.run input := by
  rw [StateT.run_orElse, h]
  rfl

lemma run_tag {s : String} : (tag s).run (s.toList ++ rest) = some ((), rest) :=
  run_tag_eq_some.mpr rfl

lemma run_tag_eq_none {s : String} (h : ¬ s.toList <+: input) :
    (tag s).run input = none := by
  by_contra hne
  obtain ⟨⟨u, rest⟩, hrun⟩ := Option.ne_none_iff_exists'.mp hne
  exact h ⟨rest, (run_tag_eq_some.mp hrun).symm⟩

lemma run_char {c : Char} : (char c).run (c :: rest) = some ((), rest) :=
  run_char_eq_some.mpr rfl

lemma run_char_of_ne {c d : Char} (h : d ≠ c) : (char c).run (d :: rest) = none := by
  show (if d = c then some ((), rest) else none) = none
  rw [if_neg h]

/-- Blanks and line ends are skipped. -/
lemma run_multispace0 (ht : ∀ c ∈ t, isSpace c = true) (h : Stops isSpace rest) :
    multispace0.run (t ++ rest) = some (t, rest) :=
  run_takeWhile0_eq_some.mpr ⟨rfl, ht, h⟩

/-- A repetition stops where its parser fails. -/
lemma run_many0_of_none (h : p.run input = none) : (many0 p).run input = some ([], input) := by
  show many0 p input = _
  rw [many0, h]

/-- A repetition goes on behind a round that took something. -/
lemma run_many0_of_some {as : List α} {rest' : List Char} (h : p.run input = some (a, rest))
    (hlt : rest.length < input.length) (hrest : (many0 p).run rest = some (as, rest')) :
    (many0 p).run input = some (a :: as, rest') := by
  have hrest : many0 p rest = some (as, rest') := hrest
  show many0 p input = _
  rw [many0, h]
  simp only [hlt, if_true, hrest, Option.map_some]

/-- A run is taken whole. -/
lemma run_takeWhile1_run (r : Run k) (h : Stops k rest) :
    (takeWhile1 k).run (r.val ++ rest) = some (r.val, rest) :=
  run_takeWhile1_eq_some.mpr ⟨r.property.1, rfl, r.property.2, h⟩

end Success

/-! ## Keywords -/

/-- The parser fails unless the input begins with the word. -/
def Begins (word : String) (p : Parser α) : Prop :=
  ∀ input, ¬ word.toList <+: input → p.run input = none

lemma begins_tag {word : String} {f : Unit → Parser β} : Begins word (tag word >>= f) :=
  fun _ h => run_bind_of_none (run_tag_eq_none h)

lemma Begins.map {word : String} {p : Parser α} {g : α → β} (h : Begins word p) :
    Begins word (g <$> p) :=
  fun input hinput => run_map_of_none (h input hinput)

/-- The first of the alternatives that succeeds, each with the word that it begins with. -/
def choice (alts : List (String × Parser α)) : Parser α :=
  alts.foldr (fun alt others => alt.2 <|> others) failure

section Choice

variable {alts : List (String × Parser α)} {input : List Char}

lemma choice_cons {alt : String × Parser α} : choice (alt :: alts) = (alt.2 <|> choice alts) := rfl

lemma choice_singleton {alt : String × Parser α} : choice [alt] = alt.2 := by
  refine StateT.ext fun input => ?_
  rw [choice_cons, StateT.run_orElse]
  show (alt.2.run input <|> none) = alt.2.run input
  cases alt.2.run input <;> rfl

lemma run_choice_of_none (h : ∀ alt ∈ alts, alt.2.run input = none) :
    (choice alts).run input = none := by
  induction alts with
  | nil => rfl
  | cons alt alts ih =>
    obtain ⟨hhead, htail⟩ := List.forall_mem_cons.mp h
    rw [choice_cons, run_orElse_of_none hhead]
    exact ih htail

/-- A text that begins with none of the words is rejected. -/
lemma run_choice_eq_none (hbegins : ∀ alt ∈ alts, Begins alt.1 alt.2)
    (h : ∀ alt ∈ alts, ¬ alt.1.toList <+: input) : (choice alts).run input = none :=
  run_choice_of_none fun alt halt => hbegins alt halt input (h alt halt)

/-- **A text that begins with one of the words only** is left to the alternative of this word. -/
theorem run_choice {p : Parser α} (hbegins : ∀ alt ∈ alts, Begins alt.1 alt.2)
    (hmem : p ∈ alts.map Prod.snd) (honly : ∀ alt ∈ alts, alt.1.toList <+: input → alt.2 = p) :
    (choice alts).run input = p.run input := by
  have hother : ∀ alt ∈ alts, alt.2 ≠ p → alt.2.run input = none :=
    fun alt halt hne => hbegins alt halt input fun hprefix => hne (honly alt halt hprefix)
  cases hp : p.run input with
  | none =>
    refine run_choice_of_none fun alt halt => ?_
    by_cases heq : alt.2 = p
    · rw [heq, hp]
    · exact hother alt halt heq
  | some x =>
    obtain ⟨a, rest⟩ := x
    clear honly hbegins
    induction alts with
    | nil => cases hmem
    | cons alt alts ih =>
      obtain ⟨hhead, htail⟩ := List.forall_mem_cons.mp hother
      rw [choice_cons]
      by_cases heq : alt.2 = p
      · exact run_orElse_of_some (heq ▸ hp)
      · rw [run_orElse_of_none (hhead heq)]
        refine ih ?_ htail
        rcases List.mem_cons.mp hmem with h | h
        · exact absurd h.symm heq
        · exact h

end Choice

/-! ## Reading a text -/

/-- The parser takes exactly the text off the input, whatever follows. -/
def Reads (p : Parser α) (t : List Char) (a : α) : Prop :=
  ∀ rest, p.run (t ++ rest) = some (a, rest)

/-- The parser fails on the text, whatever follows. -/
def Rejects (p : Parser α) (t : List Char) : Prop := ∀ rest, p.run (t ++ rest) = none

/-- **A repetition reads** one text after the other, up to a place where its parser fails. -/
theorem run_many0_flatten {p : Parser α} {items : List (List Char × α)}
    (hread : ∀ item ∈ items, Reads p item.1 item.2) (hne : ∀ item ∈ items, item.1 ≠ [])
    {rest : List Char} (hrest : p.run rest = none) :
    (many0 p).run ((items.map Prod.fst).flatten ++ rest) = some (items.map Prod.snd, rest) := by
  induction items with
  | nil => exact run_many0_of_none hrest
  | cons item items ih =>
    rw [List.map_cons, List.flatten_cons, List.append_assoc, List.map_cons]
    refine run_many0_of_some (hread item (by simp) _) ?_
      (ih (fun i hi => hread i (by simp [hi])) (fun i hi => hne i (by simp [hi])))
    have := List.length_pos_iff.mpr (hne item (by simp))
    simp only [List.length_append]
    omega

end Parse
