/-
Comparison of byte strings by an accumulator, and texts as the bytes that encode them.

A comparison that shall not show where two strings differ does not stop at the first difference.
It goes over all pairs of bytes and collects their differences in an accumulator, which is clean
at the end if there was none.  All that this needs of the accumulator is that it absorbs: it is
clean after a pair if and only if it was clean before and the pair agrees.
-/
import Mathlib.Data.List.Forall2
import Mathlib.Tactic.Lemma

namespace Bytes

/-! ## Accumulators of differences -/

/-- An accumulator that absorbs the differences of pairs. -/
structure Accumulator (A D : Type) where
  clean : D
  absorb : D → A × A → D
  absorb_eq_clean : ∀ d p, absorb d p = clean ↔ d = clean ∧ p.1 = p.2

namespace Accumulator

variable {A D : Type} (acc : Accumulator A D)

/-- No later pair clears an earlier difference. -/
lemma foldl_eq_clean {pairs : List (A × A)} {d : D} :
    pairs.foldl acc.absorb d = acc.clean ↔ d = acc.clean ∧ ∀ p ∈ pairs, p.1 = p.2 := by
  induction pairs generalizing d with
  | nil => simp
  | cons p pairs ih =>
    rw [List.foldl_cons, ih, acc.absorb_eq_clean, List.forall_mem_cons, and_assoc]

/-- **Lists of one length** leave the accumulator clean if and only if they are equal. -/
theorem foldl_zip_eq_clean {a b : List A} (h : a.length = b.length) :
    (a.zip b).foldl acc.absorb acc.clean = acc.clean ↔ a = b := by
  -- `zip` cuts the longer list, so the pairs alone do not show that the lists are equal
  have hpairs : (∀ p ∈ a.zip b, p.1 = p.2) ↔ a = b := by
    rw [← List.forall₂_eq_eq_eq, List.forall₂_iff_zip]
    exact ⟨fun hzip => ⟨h, fun hmem => hzip _ hmem⟩, fun hzip p hmem => hzip.2 hmem⟩
  rw [foldl_eq_clean, hpairs]
  exact and_iff_right rfl

/-- Compare two lists: first their lengths, then all pairs. -/
def compare [BEq D] (a b : List A) : Bool :=
  if a.length ≠ b.length then false else (a.zip b).foldl acc.absorb acc.clean == acc.clean

/-- **The comparison** accepts equal lists only. -/
theorem compare_iff [BEq D] [LawfulBEq D] (a b : List A) : acc.compare a b = true ↔ a = b := by
  rw [compare]
  split
  · rename_i hlength
    exact iff_of_false Bool.false_ne_true fun h => hlength (congrArg List.length h)
  · rename_i hlength
    rw [beq_iff_eq, acc.foldl_zip_eq_clean (not_not.mp hlength)]

end Accumulator

/-- The accumulator that collects the bits in which bytes differ. -/
def orXor : Accumulator UInt8 UInt8 where
  clean := 0
  absorb diff p := diff ||| (p.1 ^^^ p.2)
  absorb_eq_clean _ _ := by rw [UInt8.or_eq_zero_iff, UInt8.xor_eq_zero_iff]

/-! ## Texts -/

/-- The UTF-8 encoding of a text (`str::as_bytes`). -/
def asBytes (s : String) : List UInt8 := s.toByteArray.data.toList

/-- The rest of a text behind a prefix (`str::strip_prefix`). -/
def stripPrefix (s p : String) : Option String :=
  (s.toList.dropPrefix? p.toList).map String.ofList

/-- The text of ASCII bytes. -/
def ofAscii (bytes : List UInt8) : String :=
  String.ofList (bytes.map fun b => Char.ofNat b.toNat)

section Text

variable {s t p : String}

@[simp] lemma asBytes_append : asBytes (s ++ t) = asBytes s ++ asBytes t := by
  rw [asBytes, String.toByteArray_append, ByteArray.data_append, Array.toList_append]
  rfl

lemma asBytes_inj : asBytes s = asBytes t ↔ s = t := by
  rw [asBytes, asBytes, Array.toList_inj, ← ByteArray.ext_iff, String.toByteArray_inj]

lemma stripPrefix_eq_some : stripPrefix s p = some t ↔ s = p ++ t := by
  rw [stripPrefix, Option.map_eq_some_iff]
  constructor
  · rintro ⟨rest, hrest, rfl⟩
    obtain ⟨p', hs, hp⟩ := List.dropPrefix?_eq_some_iff.mp hrest
    rw [← String.toList_inj, String.toList_append, String.toList_ofList, hs, eq_of_beq hp]
  · rintro rfl
    refine ⟨t.toList, ?_, String.ofList_toList⟩
    rw [String.toList_append]
    exact List.dropPrefix?_append_of_beq _ (beq_self_eq_true _)

lemma asBytes_ofList (cs : List Char) :
    asBytes (String.ofList cs) = cs.flatMap String.utf8EncodeChar := by
  rw [asBytes, String.toByteArray_ofList, List.utf8Encode, List.data_toByteArray]

lemma utf8EncodeChar_ofNat {b : UInt8} (h : b < 128) :
    String.utf8EncodeChar (Char.ofNat b.toNat) = [b] := by
  have hlt : b.toNat < 128 := UInt8.lt_iff_toNat_lt.mp h
  have hval : (Char.ofNat b.toNat).val.toNat = b.toNat := by
    rw [Char.ofNat, dif_pos (Or.inl (by omega))]
    rfl
  rw [String.utf8EncodeChar]
  simp only [hval]
  rw [if_pos (by omega), UInt8.ofNat_toNat]

/-- The last byte of a character is that character, or no ASCII byte. -/
lemma getLast_utf8EncodeChar {c : Char} {b : UInt8}
    (h : (String.utf8EncodeChar c).getLast? = some b) : b.toNat = c.toNat ∨ 128 ≤ b.toNat := by
  have hcontinued (n : ℕ) : 128 ≤ (UInt8.ofNat (n % 64 + 128)).toNat := by
    rw [UInt8.toNat_ofNat', Nat.mod_eq_of_lt (by omega)]
    omega
  rw [String.utf8EncodeChar] at h
  split at h
  · rename_i hascii
    obtain rfl : UInt8.ofNat c.val.toNat = b := Option.some.inj h
    left
    rw [UInt8.toNat_ofNat', Nat.mod_eq_of_lt (by omega)]
    rfl
  · -- every longer form ends in a continuation byte
    have hb : UInt8.ofNat (c.val.toNat % 64 + 128) = b := by
      split at h
      · exact Option.some.inj h
      · split at h <;> exact Option.some.inj h
    exact Or.inr (hb ▸ hcontinued c.val.toNat)

/-- The last byte of a text is of its last character. -/
lemma getLast_asBytes {cs : List Char} {c : Char} {b : UInt8}
    (h : (asBytes (String.ofList (cs ++ [c]))).getLast? = some b) :
    b.toNat = c.toNat ∨ 128 ≤ b.toNat := by
  rw [asBytes_ofList, List.flatMap_append, List.flatMap_singleton, List.getLast?_append] at h
  cases hc : (String.utf8EncodeChar c).getLast? with
  | none => exact absurd (List.getLast?_eq_none_iff.mp hc) String.utf8EncodeChar_ne_nil
  | some b' =>
    rw [hc, Option.some_or, Option.some.injEq] at h
    exact getLast_utf8EncodeChar (h ▸ hc)

/-- An ASCII text is encoded by its own bytes. -/
lemma asBytes_ofAscii {bytes : List UInt8} (h : ∀ b ∈ bytes, b < 128) :
    asBytes (ofAscii bytes) = bytes := by
  rw [ofAscii, asBytes_ofList, List.flatMap_map]
  calc bytes.flatMap (fun b => String.utf8EncodeChar (Char.ofNat b.toNat))
      = bytes.flatMap (fun b => [b]) := List.flatMap_congr fun b hb => utf8EncodeChar_ofNat (h b hb)
    _ = bytes := List.flatMap_singleton' bytes

end Text

end Bytes
