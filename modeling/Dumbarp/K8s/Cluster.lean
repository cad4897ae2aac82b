/-
The API server as the environment of a pass.

The pools of the cluster are kept under their names.  A call either takes effect or fails with
any error at all; a call that failed may have been carried out all the same, as when its answer
is lost on the way back.  Nobody but the reconciler writes the pools.
-/
import Dumbarp.K8s.Reconcile

namespace Dumbarp.K8s

open Interact Interact.Prog

/-- The pools of a cluster. -/
abbrev Cluster : Type := HashMap String Pool

/-- Merge annotations into a pool. -/
def Pool.annotate (p : Pool) (annotations : List (String × String)) : Pool :=
  { p with
    annotations := some
      (annotations.foldl (fun m a => AList.insert a.1 a.2 m) (p.annotations.getD ∅)) }

/-- The pools with a label. -/
def selected (c : Cluster) (label value : String) : List (String × Pool) :=
  (c.entries.map fun e => (e.1, e.2)).filter fun e => e.2.labels.lookup label = some value

/-- A change carried out: it fails on a name that is taken, or on one that is missing. -/
def applyWrite (c : Cluster) : Write → Option Cluster
  | .create name pool => if name ∈ c then none else some (c.insert name pool)
  | .patch name annotations => (c.lookup name).map fun p => c.insert name (p.annotate annotations)
  | .delete name => if name ∈ c then some (c.erase name) else none

/-- **The API server.** -/
inductive KubeStep : Sem Cluster KubeOp KubeOp.Res
  | listed {c : Cluster} {label value : String} {items : List (String × Pool)}
      (h : items.Perm (selected c label value)) : KubeStep c (.list label value) (.ok items) c
  | listFailed {c : Cluster} {label value : String} (e : KubeError) :
      KubeStep c (.list label value) (.error e) c
  | done {c c' : Cluster} {w : Write} (h : applyWrite c w = some c') :
      KubeStep c (.write w) (.ok ()) c'
  | refused {c : Cluster} {w : Write} (e : KubeError) : KubeStep c (.write w) (.error e) c
  | lost {c c' : Cluster} {w : Write} (e : KubeError) (h : applyWrite c w = some c') :
      KubeStep c (.write w) (.error e) c'

section Inversion

variable {c c' : Cluster}

lemma kubeStep_list_inv {label value : String} {r : Except KubeError (List (String × Pool))}
    (h : KubeStep c (.list label value) r c') :
    c' = c ∧ ∀ items, r = .ok items → items.Perm (selected c label value) := by
  cases h with
  | listed h =>
    refine ⟨rfl, ?_⟩
    rintro items ⟨⟩
    exact h
  | listFailed e => exact ⟨rfl, fun items hr => (nomatch hr)⟩

/-- A change leaves the cluster alone or is carried out, and it is carried out if it succeeds. -/
lemma kubeStep_write_inv {w : Write} {r : Except KubeError Unit}
    (h : KubeStep c (.write w) r c') :
    applyWrite c w = some c' ∨ (c' = c ∧ r ≠ .ok ()) := by
  cases h with
  | done h => exact Or.inl h
  | refused e => exact Or.inr ⟨rfl, fun hr => (nomatch hr)⟩
  | lost e h => exact Or.inl h

end Inversion

lemma applyWrite_create_inv {c c' : Cluster} {name : String} {pool : Pool}
    (h : applyWrite c (.create name pool) = some c') : name ∉ c ∧ c' = c.insert name pool := by
  simp only [applyWrite] at h
  split at h
  · cases h
  · exact ⟨‹_›, (Option.some.inj h).symm⟩

lemma applyWrite_patch_inv {c c' : Cluster} {name : String} {ann : List (String × String)}
    (h : applyWrite c (.patch name ann) = some c') :
    ∃ p, c.lookup name = some p ∧ c' = c.insert name (p.annotate ann) := by
  obtain ⟨p, hp, rfl⟩ := Option.map_eq_some_iff.mp h
  exact ⟨p, hp, rfl⟩

lemma applyWrite_delete_inv {c c' : Cluster} {name : String}
    (h : applyWrite c (.delete name) = some c') : c' = c.erase name := by
  simp only [applyWrite] at h
  split at h
  · exact (Option.some.inj h).symm
  · cases h

lemma mem_of_applyWrite_delete {c c' : Cluster} {name : String}
    (h : applyWrite c (.delete name) = some c') : name ∈ c := by
  simp only [applyWrite] at h
  split at h
  · assumption
  · cases h

lemma mem_selected {c : Cluster} {label value name : String} {p : Pool} :
    (name, p) ∈ selected c label value ↔
      c.lookup name = some p ∧ p.labels.lookup label = some value := by
  rw [selected, List.mem_filter, decide_eq_true_eq]
  refine and_congr_left fun _ => ?_
  constructor
  · intro h
    obtain ⟨⟨k, v⟩, he, heq⟩ := List.mem_map.mp h
    cases heq
    exact AList.mem_lookup_iff.mpr he
  · intro h
    exact List.mem_map.mpr ⟨⟨name, p⟩, AList.mem_lookup_iff.mp h, rfl⟩

/-! ## A server that is a function -/

/-- The answer of a server that refuses the changes in `refuse`, and carries out the others. -/
def answer (refuse : Write → Bool) (c : Cluster) : (op : KubeOp) → op.Res × Cluster
  | .list label value => (.ok (selected c label value), c)
  | .write w =>
    if refuse w then (.error (.api 500), c)
    else
      match applyWrite c w with
      | some c' => (.ok (), c')
      | none => (.error (.api (match w with | .create _ _ => 409 | _ => 404)), c)

lemma answer_step (refuse : Write → Bool) (c : Cluster) (op : KubeOp) :
    KubeStep c op (answer refuse c op).1 (answer refuse c op).2 := by
  cases op with
  | list label value => exact KubeStep.listed (List.Perm.refl _)
  | write w =>
    simp only [answer]
    split
    · exact KubeStep.refused _
    · cases h : applyWrite c w with
      | some c' => exact KubeStep.done h
      | none => exact KubeStep.refused _

/-! ## The name of a pool -/

/-- The replacement of dots by dashes loses nothing in a text without dashes. -/
lemma map_dash_injective : ∀ {l l' : List Char}, '-' ∉ l → '-' ∉ l' →
    l.map (fun c => if c = '.' then '-' else c) = l'.map (fun c => if c = '.' then '-' else c) →
      l = l'
  | [], [], _, _, _ => rfl
  | c :: l, c' :: l', hl, hl', h => by
    rw [List.mem_cons, not_or] at hl hl'
    obtain ⟨hc, hrest⟩ := List.cons.inj h
    have hcc : c = c' := by
      by_cases hd : c = '.'
      · by_cases hd' : c' = '.'
        · rw [hd, hd']
        · simp only [hd, hd', if_true, if_false] at hc
          exact absurd hc hl'.1
      · by_cases hd' : c' = '.'
        · simp only [hd, hd', if_true, if_false] at hc
          exact absurd hc.symm hl.1
        · simpa only [hd, hd', if_false] using hc
    rw [hcc, map_dash_injective hl.2 hl'.2 hrest]

lemma dash_notMem_text (ip : Ipv4Addr) : '-' ∉ ip.text := fun h => by
  rcases ip.text_chars '-' h with h | h
  · cases h
  · revert h
    decide

/-- Two addresses never share the name of a pool. -/
theorem poolName_injective : Function.Injective poolName := by
  intro ip ip' h
  have hchars := String.ofList_injective h
  exact Ipv4Addr.text_injective (map_dash_injective (dash_notMem_text ip) (dash_notMem_text ip')
    (List.append_cancel_left hchars))

/-! ## What a list gives -/

/-- The address that a pool is annotated with. -/
def ipOf (p : Pool) : Option Ipv4Addr :=
  p.annotations.bind fun a => (a.lookup ipAnnotation).bind Ipv4Addr.parse

/-- The time that a pool was seen last, by its annotation. -/
def lastSeenOf (fmt : Rfc3339) (p : Pool) : Option ℤ :=
  p.annotations.bind fun a => (a.lookup lastSeenAnnotation).bind fmt.parse

lemma listPool_eq (fmt : Rfc3339) (out : HashMap Ipv4Addr ExistingPool) (item : String × Pool) :
    listPool fmt out item =
      match ipOf item.2 with
      | none => out
      | some ip => out.insert ip ⟨item.1, lastSeenOf fmt item.2⟩ := by
  simp only [listPool, ipOf, lastSeenOf]
  cases item.2.annotations with
  | none => rfl
  | some a =>
    simp only [Option.bind_some]
    cases a.lookup ipAnnotation with
    | none => rfl
    | some raw => cases Ipv4Addr.parse raw <;> rfl

/-- What is listed under an address is a pool annotated with it. -/
lemma lookup_listPool {fmt : Rfc3339} {ip : Ipv4Addr} {existing : ExistingPool} :
    ∀ {items : List (String × Pool)} {out : HashMap Ipv4Addr ExistingPool},
      (items.foldl (listPool fmt) out).lookup ip = some existing →
        out.lookup ip = some existing ∨
          ∃ p, (existing.name, p) ∈ items ∧ ipOf p = some ip ∧
            existing.lastSeen = lastSeenOf fmt p
  | [], _, h => Or.inl h
  | item :: items, out, h => by
    rw [List.foldl_cons] at h
    rcases lookup_listPool h with h | ⟨p, hp, hip, hseen⟩
    · rw [listPool_eq] at h
      cases hitem : ipOf item.2 with
      | none =>
        rw [hitem] at h
        exact Or.inl h
      | some ip' =>
        rw [hitem] at h
        rcases HashMap.lookup_insert_cases h with ⟨rfl, rfl⟩ | h
        · exact Or.inr ⟨item.2, List.mem_cons_self, hitem, rfl⟩
        · exact Or.inl h
    · exact Or.inr ⟨p, List.mem_cons_of_mem _ hp, hip, hseen⟩

/-- The address of a listed pool is listed, whatever else is. -/
lemma mem_listPool {fmt : Rfc3339} {ip : Ipv4Addr} :
    ∀ {items : List (String × Pool)} {out : HashMap Ipv4Addr ExistingPool},
      (ip ∈ out ∨ ∃ item ∈ items, ipOf item.2 = some ip) → ip ∈ items.foldl (listPool fmt) out
  | [], _, h => by
    rcases h with h | ⟨item, hitem, -⟩
    · exact h
    · cases hitem
  | item :: items, out, h => by
    rw [List.foldl_cons]
    apply mem_listPool
    rw [listPool_eq]
    rcases h with h | ⟨item', hitem', hip⟩
    · left
      cases ipOf item.2 with
      | none => exact h
      | some ip' => exact (AList.mem_insert out).mpr (Or.inr h)
    · rcases List.mem_cons.mp hitem' with rfl | hitem'
      · rw [hip]
        exact Or.inl ((AList.mem_insert out).mpr (Or.inl rfl))
      · exact Or.inr ⟨item', hitem', hip⟩

lemma ipOf_buildPool (fmt : Rfc3339) (ip : Ipv4Addr) (now : ℤ) :
    ipOf (buildPool fmt ip now) = some ip := by
  have hne : ipAnnotation ≠ lastSeenAnnotation := by decide
  simp only [ipOf, buildPool, Option.bind_some, AList.lookup_insert_ne hne, AList.lookup_insert,
    Ipv4Addr.parse_toString]

lemma lastSeenOf_buildPool (fmt : Rfc3339) (ip : Ipv4Addr) (now : ℤ) :
    lastSeenOf fmt (buildPool fmt ip now) = fmt.parse (fmt.format now) := by
  simp [lastSeenOf, buildPool]

/-- A touch leaves the address. -/
lemma ipOf_touched (p : Pool) (text : String) :
    ipOf (p.annotate [( lastSeenAnnotation, text)]) = ipOf p := by
  have hne : ipAnnotation ≠ lastSeenAnnotation := by decide
  rw [ipOf, ipOf]
  cases ha : p.annotations with
  | none =>
    simp only [Pool.annotate, ha, List.foldl_cons, List.foldl_nil, Option.bind_some,
      AList.lookup_insert_ne hne]
    rfl
  | some a =>
    simp only [Pool.annotate, ha, List.foldl_cons, List.foldl_nil, Option.bind_some,
      Option.getD_some, AList.lookup_insert_ne hne]

lemma lastSeenOf_touched (fmt : Rfc3339) (p : Pool) (text : String) :
    lastSeenOf fmt (p.annotate [( lastSeenAnnotation, text)]) = fmt.parse text := by
  simp [lastSeenOf, Pool.annotate]

end Dumbarp.K8s
