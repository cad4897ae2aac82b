/-
Finite maps with the operations of Rust's `HashMap`.

A `HashMap` is one of Mathlib's association lists without repeated keys.  Its order stands
for one of the iteration orders the hash table may show.  Beside `lookup`, `insert` and
`erase`, which Mathlib has, there are `retain`, the values, and the map with each value replaced.
-/
import Mathlib.Data.Fintype.EquivFin
import Mathlib.Data.List.AList
import Mathlib.Tactic.Lemma

/-- A finite map from `K` to `V`. -/
abbrev HashMap (K V : Type) : Type := AList fun _ : K => V

namespace HashMap

variable {K V : Type}

/-- Keep the entries that satisfy `p` (`HashMap::retain`). -/
def retain (p : K → V → Bool) (m : HashMap K V) : HashMap K V where
  entries := m.entries.filter fun e => p e.1 e.2
  nodupKeys := m.nodupKeys.sublist List.filter_sublist

/-- The values, in the order of iteration. -/
def values (m : HashMap K V) : List V := m.entries.map Sigma.snd

/-- The number of entries (`HashMap::len`). -/
def len (m : HashMap K V) : ℕ := m.entries.length

/-- The same keys, each with `f` of its value. -/
def mapValues {W : Type} (f : V → W) (m : HashMap K V) : HashMap K W where
  entries := m.entries.map fun e => ⟨e.1, f e.2⟩
  nodupKeys := by
    have h := m.nodupKeys
    rw [List.NodupKeys, List.keys] at h ⊢
    simpa [List.map_map, Function.comp_def] using h

lemma len_eq_keys (m : HashMap K V) : m.len = m.keys.length := by
  simp [len, AList.keys, List.keys]

@[simp] lemma len_mapValues {W : Type} (f : V → W) (m : HashMap K V) :
    (m.mapValues f).len = m.len := by
  simp [len, mapValues]

variable [DecidableEq K]

lemma lookup_retain (p : K → V → Bool) (m : HashMap K V) (k : K) :
    (m.retain p).lookup k = (m.lookup k).filter (p k) := by
  ext v
  simp only [Option.filter_eq_some_iff]
  rw [← Option.mem_def, ← Option.mem_def, AList.mem_lookup_iff, AList.mem_lookup_iff]
  simp [retain]

lemma mem_values_iff {m : HashMap K V} {v : V} : v ∈ m.values ↔ ∃ k, m.lookup k = some v := by
  simp only [values, List.mem_map]
  constructor
  · rintro ⟨⟨k, v⟩, h, rfl⟩
    exact ⟨k, AList.mem_lookup_iff.mpr h⟩
  · rintro ⟨k, h⟩
    exact ⟨⟨k, v⟩, AList.mem_lookup_iff.mp h, rfl⟩

@[simp] lemma lookup_mapValues {W : Type} (f : V → W) (m : HashMap K V) (k : K) :
    (m.mapValues f).lookup k = (m.lookup k).map f := by
  ext w
  rw [← Option.mem_def, AList.mem_lookup_iff]
  simp only [mapValues, List.mem_map, Option.map_eq_some_iff]
  constructor
  · rintro ⟨⟨k, v⟩, h, he⟩
    cases he
    exact ⟨v, AList.mem_lookup_iff.mpr h, rfl⟩
  · rintro ⟨v, h, rfl⟩
    exact ⟨⟨k, v⟩, AList.mem_lookup_iff.mp h, rfl⟩

lemma mem_iff_lookup {m : HashMap K V} {k : K} : k ∈ m ↔ ∃ v, m.lookup k = some v := by
  rw [← AList.lookup_isSome, Option.isSome_iff_exists]

/-- A key that is not there differs from those that are. -/
lemma ne_of_lookup {m : HashMap K V} {j k : K} {w : V} (hk : k ∉ m) (hj : m.lookup j = some w) :
    j ≠ k := by
  rintro rfl
  exact hk (mem_iff_lookup.mpr ⟨w, hj⟩)

/-- What is under a key once an entry was added. -/
lemma lookup_insert_cases {m : HashMap K V} {j k : K} {v w : V}
    (h : (m.insert k v).lookup j = some w) : (j = k ∧ w = v) ∨ m.lookup j = some w := by
  by_cases hjk : j = k
  · rw [hjk, AList.lookup_insert, Option.some.injEq] at h
    exact Or.inl ⟨hjk, h.symm⟩
  · rw [AList.lookup_insert_ne hjk] at h
    exact Or.inr h

/-- An entry under a new key leaves the others there. -/
lemma lookup_insert_of_notMem {m : HashMap K V} {j k : K} {v w : V} (hk : k ∉ m)
    (hj : m.lookup j = some w) : (m.insert k v).lookup j = some w :=
  (AList.lookup_insert_ne (ne_of_lookup hk hj)).trans hj

/-- What is under a key once an entry was removed. -/
lemma lookup_of_erase {m : HashMap K V} {j k : K} {w : V} (h : (m.erase k).lookup j = some w) :
    j ≠ k ∧ m.lookup j = some w := by
  by_cases hjk : j = k
  · rw [hjk, AList.lookup_erase] at h
    cases h
  · rw [AList.lookup_erase_ne hjk] at h
    exact ⟨hjk, h⟩

/-- What holds of all entries and of a further one holds of all entries with it. -/
lemma forall_lookup_insert {m : HashMap K V} {k : K} {v : V} {P : K → V → Prop}
    (h : ∀ j w, m.lookup j = some w → P j w) (hnew : P k v) :
    ∀ j w, (m.insert k v).lookup j = some w → P j w := by
  intro j w hj
  rcases lookup_insert_cases hj with ⟨rfl, rfl⟩ | hj
  · exact hnew
  · exact h j w hj

/-- There is always a key that is not in use. -/
lemma exists_notMem [Infinite K] (m : HashMap K V) : ∃ k, k ∉ m := by
  obtain ⟨k, hk⟩ := Infinite.exists_notMem_finset m.keys.toFinset
  exact ⟨k, fun h => hk (List.mem_toFinset.mpr (AList.mem_keys.mp h))⟩

/-- The entries once a key was added that was not there. -/
lemma exists_lookup_insert {m : HashMap K V} {k : K} (hk : k ∉ m) {v : V} {P : K → V → Prop} :
    (∃ j w, (m.insert k v).lookup j = some w ∧ P j w) ↔
      P k v ∨ ∃ j w, m.lookup j = some w ∧ P j w := by
  constructor
  · rintro ⟨j, w, hj, hP⟩
    rcases lookup_insert_cases hj with ⟨rfl, rfl⟩ | hj
    · exact Or.inl hP
    · exact Or.inr ⟨j, w, hj, hP⟩
  · rintro (hP | ⟨j, w, hj, hP⟩)
    · exact ⟨k, v, AList.lookup_insert m, hP⟩
    · exact ⟨j, w, lookup_insert_of_notMem hk hj, hP⟩

/-- The entries once a key was removed. -/
lemma exists_lookup_erase {m : HashMap K V} {k : K} {P : K → V → Prop} :
    (∃ j w, (m.erase k).lookup j = some w ∧ P j w) ↔
      ∃ j w, m.lookup j = some w ∧ j ≠ k ∧ P j w := by
  constructor
  · rintro ⟨j, w, hj, hP⟩
    obtain ⟨hjk, hj⟩ := lookup_of_erase hj
    exact ⟨j, w, hj, hjk, hP⟩
  · rintro ⟨j, w, hj, hjk, hP⟩
    exact ⟨j, w, (AList.lookup_erase_ne hjk).trans hj, hP⟩

/-- To remove a key that was just added undoes both. -/
lemma erase_insert_of_notMem {m : HashMap K V} {k : K} (hk : k ∉ m) (v : V) :
    (m.insert k v).erase k = m := by
  apply AList.ext
  show List.kerase k (m.insert k v).entries = m.entries
  rw [AList.entries_insert_of_notMem hk]
  exact List.kerase_cons_eq rfl

lemma erase_of_notMem {m : HashMap K V} {k : K} (hk : k ∉ m) : m.erase k = m := by
  apply AList.ext
  exact List.kerase_of_notMem_keys hk

end HashMap
