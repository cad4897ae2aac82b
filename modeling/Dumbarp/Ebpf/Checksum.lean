/-
The header checksum under a rewrite of the TOS byte (`csum_replace2` in
`dumbarp-common/src/lib.rs`, at the end of `try_stamp` and `try_terminate`).

The update is incremental, so it sees the old checksum and the first word of the header and
nothing else.  It is exact all the same: a header is valid after the rewrite iff it was valid
before, and a checksum that was computed in full is one that would be computed in full again.
The latter rests on the first word not being zero, which a header of five words or more grants.
-/
import Dumbarp.Ebpf.Stamp
import Dumbarp.Lib.OnesComplement

namespace Dumbarp

open OnesComplement

/-! ## The arithmetic of `csum_replace2` -/

/-- One of its two folds. -/
def fold32 (sum : UInt32) : UInt32 := (sum &&& (0xffff : UInt32)) + (sum >>> 16)

/-- The sum that it folds. -/
def csumSum (check old new : UInt16) : UInt32 :=
  (~~~check).toUInt32 + (~~~old).toUInt32 + new.toUInt32

lemma csumReplace2_eq (check old new : UInt16) :
    csumReplace2 check old new = ~~~(fold32 (fold32 (csumSum check old new))).toUInt16 := rfl

lemma toNat_not16 (w : UInt16) : (~~~w).toNat = 0xffff - w.toNat := UInt16.toNat_not w

/-- The sum does not overflow. -/
lemma toNat_csumSum (check old new : UInt16) :
    (csumSum check old new).toNat
      = (0xffff - check.toNat) + (0xffff - old.toNat) + new.toNat := by
  have hnew := new.toNat_lt
  rw [csumSum, UInt32.toNat_add, UInt32.toNat_add, UInt16.toNat_toUInt32, UInt16.toNat_toUInt32,
    UInt16.toNat_toUInt32, toNat_not16, toNat_not16]
  omega

/-- A fold adds the carries back. -/
lemma toNat_fold32 (sum : UInt32) : (fold32 sum).toNat = addBack 0xffff sum.toNat := by
  have hlt := sum.toNat_lt
  have hlow : (sum &&& (0xffff : UInt32)).toNat = sum.toNat % 0x10000 := by
    rw [UInt32.toNat_and]
    exact Nat.and_two_pow_sub_one_eq_mod _ 16
  have hhigh : (sum >>> 16).toNat = sum.toNat / 0x10000 := by
    rw [UInt32.toNat_shiftRight]
    exact Nat.shiftRight_eq_div_pow _ 16
  rw [fold32, UInt32.toNat_add, hlow, hhigh, addBack]
  omega

/-- Two folds leave no carry. -/
lemma toNat_fold32_fold32_le (check old new : UInt16) :
    (fold32 (fold32 (csumSum check old new))).toNat ≤ 0xffff := by
  have hnew := new.toNat_lt
  rw [toNat_fold32, toNat_fold32]
  refine addBack_addBack_le (by decide) ?_
  rw [toNat_csumSum]
  omega

/-- So they fold the sum for good. -/
lemma fold_csumSum (check old new : UInt16) :
    fold 0xffff (csumSum check old new).toNat
      = (fold32 (fold32 (csumSum check old new))).toNat := by
  have hle := toNat_fold32_fold32_le check old new
  rw [toNat_fold32, toNat_fold32] at hle ⊢
  rw [← fold_addBack (by decide), ← fold_addBack (by decide), fold_of_le hle]

/-- **The function is the incremental update** of one's-complement checksums. -/
theorem toNat_csumReplace2 (check old new : UInt16) :
    (csumReplace2 check old new).toNat = replace 0xffff check.toNat old.toNat new.toNat := by
  have hle := toNat_fold32_fold32_le check old new
  rw [csumReplace2_eq, toNat_not16, UInt32.toNat_toUInt16, replace, ← toNat_csumSum, fold_csumSum]
  omega

namespace Ebpf

/-! ## Headers and their words -/

/-- The length of the header at an offset, options included. -/
def headerLen (frame : Frame) (offset : ℕ) : ℕ := (ipv4HdrAt frame offset).ihl.toNat

/-- The header at an offset has an IHL of five or more, and is in range with its options. -/
structure HasHeader (frame : Frame) (offset : ℕ) : Prop where
  minimal : ipv4HdrLen ≤ headerLen frame offset
  inRange : offset + headerLen frame offset ≤ frame.length

/-- The words of the header at an offset. -/
def headerWords (frame : Frame) (offset : ℕ) : List UInt16 :=
  (List.range (headerLen frame offset / 2)).map fun i => wordAt frame (offset + 2 * i)

/-- The sum of words, as a number. -/
def wordSum (words : List UInt16) : ℕ := (words.map UInt16.toNat).sum

/-- `full_checksum`.  The sum of a header is far below the range of the accumulator. -/
def fullChecksum (words : List UInt16) : UInt16 := ~~~(UInt16.ofNat (fold 0xffff (wordSum words)))

/-- The checksum field. -/
def checkAt (frame : Frame) (offset : ℕ) : UInt16 := wordAt frame (offset + ipv4CheckOffset)

/-- The checksum of the header, computed in full over a zero field. -/
def recomputed (frame : Frame) (offset : ℕ) : UInt16 :=
  fullChecksum (headerWords (writeCheck frame (offset + ipv4CheckOffset) 0) offset)

/-- The one's-complement sum over the whole header is all ones. -/
def ChecksumValid (frame : Frame) (offset : ℕ) : Prop :=
  fold 0xffff (wordSum (headerWords frame offset)) = 0xffff

/-- What a rewrite of the header at an offset must keep. -/
structure KeepsChecksum (frame frame' : Frame) (offset : ℕ) : Prop where
  /-- Only the TOS byte and the checksum field change. -/
  length : frame'.length = frame.length
  bytes : ∀ i, i ≠ offset + ipv4TosOffset → i ≠ offset + ipv4CheckOffset →
    i ≠ offset + ipv4CheckOffset + 1 → frame'[i]? = frame[i]?
  /-- Of the TOS byte only the DSCP changes. -/
  ecn : tosAt frame' offset &&& 0x03 = tosAt frame offset &&& 0x03
  valid : ChecksumValid frame' offset ↔ ChecksumValid frame offset
  exact : checkAt frame offset = recomputed frame offset →
    checkAt frame' offset = recomputed frame' offset

/-! ## Words -/

lemma toNat_firstWord (ip : Ipv4Hdr) (tos : UInt8) :
    (firstWord ip tos).toNat = 2 ^ 8 * ip.vihl.toNat + tos.toNat :=
  toNat_fromBeBytes ip.vihl tos

section Words

variable {frame : Frame} {offset : ℕ}

lemma length_headerWords (frame : Frame) (offset : ℕ) :
    (headerWords frame offset).length = headerLen frame offset / 2 := by
  simp [headerWords]

/-- The length of the header is in its first byte. -/
lemma headerLen_congr {frame' : Frame} (h : byteAt frame' offset = byteAt frame offset) :
    headerLen frame' offset = headerLen frame offset := by
  have hv : (ipv4HdrAt frame' offset).vihl = (ipv4HdrAt frame offset).vihl := h
  rw [headerLen, headerLen, Ipv4Hdr.ihl, Ipv4Hdr.ihl, hv]

/-- The first byte of a header is not zero. -/
lemma HasHeader.vihl_pos (h : HasHeader frame offset) :
    0 < (ipv4HdrAt frame offset).vihl.toNat := by
  by_contra hzero
  have hz : (ipv4HdrAt frame offset).vihl = 0 := UInt8.toNat_inj.mp (Nat.eq_zero_of_not_pos hzero)
  have hmin := h.minimal
  rw [headerLen, Ipv4Hdr.ihl, hz] at hmin
  revert hmin
  decide

/-- Two frames whose words differ in one place. -/
lemma headerWords_eq_set {frame' : Frame} {k : ℕ} {w : UInt16}
    (hlen : headerLen frame' offset = headerLen frame offset)
    (hk : wordAt frame' (offset + 2 * k) = w)
    (hother : ∀ i, i ≠ k → wordAt frame' (offset + 2 * i) = wordAt frame (offset + 2 * i)) :
    headerWords frame' offset = (headerWords frame offset).set k w := by
  refine List.ext_getElem ?_ fun i hi hi' => ?_
  · rw [List.length_set, length_headerWords, length_headerWords, hlen]
  · rw [List.getElem_set]
    split
    · rename_i hik
      subst hik
      simpa [headerWords] using hk
    · rename_i hik
      simpa [headerWords] using hother i (Ne.symm hik)

/-- A new TOS byte changes the first word. -/
lemma headerWords_setTos (h : HasHeader frame offset) (tos : UInt8) :
    headerWords (frame.set (offset + ipv4TosOffset) tos) offset
      = (headerWords frame offset).set 0 (firstWord (ipv4HdrAt frame offset) tos) := by
  have hmin := h.minimal
  have hrange := h.inRange
  simp only [ipv4HdrLen] at hmin
  have hv : byteAt (frame.set (offset + ipv4TosOffset) tos) offset = byteAt frame offset :=
    byteAt_set_of_ne tos (by simp [ipv4TosOffset])
  refine headerWords_eq_set (headerLen_congr hv) ?_ fun i hi => ?_
  · have htos : byteAt (frame.set (offset + ipv4TosOffset) tos) (offset + 1) = tos :=
      byteAt_set tos (by simp only [ipv4TosOffset]; omega)
    rw [Nat.mul_zero, Nat.add_zero, wordAt, hv, htos]
    rfl
  · rw [wordAt, wordAt, byteAt_set_of_ne, byteAt_set_of_ne]
    · simp only [ipv4TosOffset]
      omega
    · simp only [ipv4TosOffset]
      omega

lemma checkAt_writeCheck (h : offset + 12 ≤ frame.length) (check : UInt16) :
    checkAt (writeCheck frame (offset + ipv4CheckOffset) check) offset = check := by
  have hfirst : byteAt (writeCheck frame (offset + ipv4CheckOffset) check)
      (offset + ipv4CheckOffset) = (toBeBytes check).1 := by
    rw [writeCheck, byteAt_set_of_ne _ (by omega), byteAt_set]
    simp only [ipv4CheckOffset]
    omega
  have hsecond : byteAt (writeCheck frame (offset + ipv4CheckOffset) check)
      (offset + ipv4CheckOffset + 1) = (toBeBytes check).2 := by
    refine byteAt_set _ ?_
    rw [List.length_set]
    simp only [ipv4CheckOffset]
    omega
  rw [checkAt, wordAt, hfirst, hsecond]
  exact fromBeBytes_toBeBytes check

/-- A new checksum changes the sixth word. -/
lemma headerWords_writeCheck (h : HasHeader frame offset) (check : UInt16) :
    headerWords (writeCheck frame (offset + ipv4CheckOffset) check) offset
      = (headerWords frame offset).set 5 check := by
  have hmin := h.minimal
  have hrange := h.inRange
  simp only [ipv4HdrLen] at hmin
  have hv : byteAt (writeCheck frame (offset + ipv4CheckOffset) check) offset
      = byteAt frame offset := by
    refine byteAt_writeCheck check ?_ ?_
    · simp [ipv4CheckOffset]
    · simp [ipv4CheckOffset, Nat.add_assoc]
  refine headerWords_eq_set (headerLen_congr hv) (checkAt_writeCheck (by omega) check)
    fun i hi => ?_
  rw [wordAt, wordAt, byteAt_writeCheck, byteAt_writeCheck]
  all_goals
    simp only [ipv4CheckOffset]
    omega

/-- The first word, and the sixth. -/
lemma headerWords_eq_self (frame : Frame) (offset : ℕ) :
    headerWords frame offset = ((headerWords frame offset).set 0
      (firstWord (ipv4HdrAt frame offset) (tosAt frame offset))).set 5 (checkAt frame offset) := by
  have hfirst : headerWords frame offset = (headerWords frame offset).set 0
      (firstWord (ipv4HdrAt frame offset) (tosAt frame offset)) :=
    headerWords_eq_set rfl rfl fun _ _ => rfl
  have hsixth : headerWords frame offset
      = (headerWords frame offset).set 5 (checkAt frame offset) :=
    headerWords_eq_set rfl rfl fun _ _ => rfl
  rw [← hfirst, ← hsixth]

/-- The sum of the other words. -/
lemma exists_rest : ∀ {ws : List UInt16}, 5 < ws.length →
    ∃ rest, ∀ first check : UInt16,
      wordSum ((ws.set 0 first).set 5 check) = first.toNat + check.toNat + rest
  | a :: b :: c :: d :: e :: f :: ws, _ => by
    refine ⟨b.toNat + c.toNat + d.toNat + e.toNat + wordSum ws, fun first check => ?_⟩
    simp only [wordSum, List.set_cons_zero, List.set_cons_succ, List.map_cons, List.sum_cons]
    omega

end Words

/-! ## Rewriting -/

/-- What both programs do to the header at an offset. -/
def rewriteTos (frame : Frame) (offset : ℕ) (newTos : UInt8) : Frame :=
  let ip := ipv4HdrAt frame offset
  writeCheck (frame.set (offset + ipv4TosOffset) newTos) (offset + ipv4CheckOffset)
    (csumReplace2 (checkAt frame offset) (firstWord ip (tosAt frame offset)) (firstWord ip newTos))

lemma stampTos_eq (frame : Frame) (newTos : UInt8) :
    stampTos frame (ipv4HdrAt frame ethHdrLen) newTos = rewriteTos frame ethHdrLen newTos := rfl

lemma terminateTos_eq (frame : Frame) (l2 : ℕ) (newTos : UInt8) :
    terminateTos frame (ipv4HdrAt frame l2) l2 newTos = rewriteTos frame l2 newTos := by
  have hfirst : byteAt (frame.set (l2 + ipv4TosOffset) newTos) (l2 + ipv4CheckOffset)
      = byteAt frame (l2 + ipv4CheckOffset) :=
    byteAt_set_of_ne newTos (by simp [ipv4TosOffset, ipv4CheckOffset])
  have hsecond : byteAt (frame.set (l2 + ipv4TosOffset) newTos) (l2 + ipv4CheckOffset + 1)
      = byteAt frame (l2 + ipv4CheckOffset + 1) :=
    byteAt_set_of_ne newTos (by simp [ipv4TosOffset, ipv4CheckOffset, Nat.add_assoc])
  rw [terminateTos, l3CsumReplace, hfirst, hsecond]
  rfl

section Rewrite

variable {frame : Frame} {offset : ℕ}

lemma HasHeader.setTos (h : HasHeader frame offset) (tos : UInt8) :
    HasHeader (frame.set (offset + ipv4TosOffset) tos) offset := by
  have hlen : headerLen (frame.set (offset + ipv4TosOffset) tos) offset
      = headerLen frame offset :=
    headerLen_congr (byteAt_set_of_ne tos (by simp [ipv4TosOffset]))
  refine ⟨?_, ?_⟩
  · rw [hlen]
    exact h.minimal
  · rw [hlen, List.length_set]
    exact h.inRange

lemma HasHeader.writeCheck (h : HasHeader frame offset) (check : UInt16) :
    HasHeader (writeCheck frame (offset + ipv4CheckOffset) check) offset := by
  have hlen : headerLen (Ebpf.writeCheck frame (offset + ipv4CheckOffset) check) offset
      = headerLen frame offset := by
    refine headerLen_congr (byteAt_writeCheck check ?_ ?_)
    · simp [ipv4CheckOffset]
    · simp [ipv4CheckOffset, Nat.add_assoc]
  refine ⟨?_, ?_⟩
  · rw [hlen]
    exact h.minimal
  · rw [hlen, Ebpf.writeCheck, List.length_set, List.length_set]
    exact h.inRange

/-- The words of a header with another TOS byte and checksum. -/
lemma headerWords_rewrite (h : HasHeader frame offset) (tos : UInt8) (check : UInt16) :
    headerWords (writeCheck (frame.set (offset + ipv4TosOffset) tos) (offset + ipv4CheckOffset)
        check) offset
      = ((headerWords frame offset).set 0
        (firstWord (ipv4HdrAt frame offset) tos)).set 5 check := by
  rw [headerWords_writeCheck (h.setTos tos), headerWords_setTos h]

/-- The header is valid iff its first word, its checksum and the rest of it sum up to zero. -/
lemma checksumValid_iff {words : List UInt16} {first check : UInt16} {rest : ℕ}
    (hsum : wordSum words = first.toNat + check.toNat + rest) (hpos : 0 < first.toNat) :
    fold 0xffff (wordSum words) = 0xffff ↔ first.toNat + check.toNat + rest ≡ 0 [MOD 0xffff] := by
  rw [hsum]
  exact fold_eq_top_iff (by decide) (by omega)

lemma toNat_fullChecksum (words : List UInt16) :
    (fullChecksum words).toNat = 0xffff - fold 0xffff (wordSum words) := by
  obtain ⟨hle, -, -⟩ := fold_spec (by decide : 0 < 0xffff) (wordSum words)
  rw [fullChecksum, toNat_not16, UInt16.toNat_ofNat']
  omega

/-- The first word of a header is not zero. -/
lemma HasHeader.firstWord_pos (h : HasHeader frame offset) (tos : UInt8) :
    0 < (firstWord (ipv4HdrAt frame offset) tos).toNat := by
  have hv := h.vihl_pos
  rw [toNat_firstWord]
  omega

/-- The sum of the other words of a header. -/
lemma HasHeader.exists_rest (h : HasHeader frame offset) :
    ∃ rest, ∀ first check : UInt16,
      wordSum (((headerWords frame offset).set 0 first).set 5 check)
        = first.toNat + check.toNat + rest := by
  have hmin := h.minimal
  simp only [ipv4HdrLen] at hmin
  refine Ebpf.exists_rest ?_
  rw [length_headerWords]
  omega

lemma rewriteTos_valid_iff (h : HasHeader frame offset) (newTos : UInt8) :
    ChecksumValid (rewriteTos frame offset newTos) offset ↔ ChecksumValid frame offset := by
  obtain ⟨rest, hrest⟩ := h.exists_rest
  have hold : wordSum (headerWords frame offset)
      = (firstWord (ipv4HdrAt frame offset) (tosAt frame offset)).toNat
        + (checkAt frame offset).toNat + rest := by
    rw [headerWords_eq_self, hrest]
  have hnew : wordSum (headerWords (rewriteTos frame offset newTos) offset)
      = (firstWord (ipv4HdrAt frame offset) newTos).toNat
        + (csumReplace2 (checkAt frame offset)
          (firstWord (ipv4HdrAt frame offset) (tosAt frame offset))
          (firstWord (ipv4HdrAt frame offset) newTos)).toNat + rest := by
    rw [rewriteTos, headerWords_rewrite h, hrest]
  rw [ChecksumValid, ChecksumValid, checksumValid_iff hold (h.firstWord_pos _),
    checksumValid_iff hnew (h.firstWord_pos _)]
  -- the new checksum makes up for the new first word
  have hcheck := (checkAt frame offset).toNat_lt
  have hfirst := (firstWord (ipv4HdrAt frame offset) (tosAt frame offset)).toNat_lt
  have hmod := (replace_add_modEq (by decide) (firstWord (ipv4HdrAt frame offset) newTos).toNat
    (Nat.le_of_lt_succ hcheck) (Nat.le_of_lt_succ hfirst)).add_right rest
  rw [← toNat_csumReplace2, Nat.add_comm (csumReplace2 _ _ _).toNat,
    Nat.add_comm (checkAt frame offset).toNat] at hmod
  exact ⟨fun hv => hmod.symm.trans hv, fun hv => hmod.trans hv⟩

lemma rewriteTos_exact (h : HasHeader frame offset) (newTos : UInt8)
    (hexact : checkAt frame offset = recomputed frame offset) :
    checkAt (rewriteTos frame offset newTos) offset
      = recomputed (rewriteTos frame offset newTos) offset := by
  obtain ⟨rest, hrest⟩ := h.exists_rest
  have hmin := h.minimal
  have hrange := h.inRange
  simp only [ipv4HdrLen] at hmin
  have hold : (checkAt frame offset).toNat = 0xffff - fold 0xffff
      ((firstWord (ipv4HdrAt frame offset) (tosAt frame offset)).toNat + rest) := by
    rw [hexact, recomputed, headerWords_writeCheck h, headerWords_eq_self, List.set_set,
      toNat_fullChecksum, hrest]
    rfl
  have hwritten : checkAt (rewriteTos frame offset newTos) offset
      = csumReplace2 (checkAt frame offset)
        (firstWord (ipv4HdrAt frame offset) (tosAt frame offset))
        (firstWord (ipv4HdrAt frame offset) newTos) := by
    refine checkAt_writeCheck ?_ _
    rw [List.length_set]
    omega
  have hfirst := (firstWord (ipv4HdrAt frame offset) (tosAt frame offset)).toNat_lt
  rw [hwritten, recomputed, rewriteTos, headerWords_writeCheck ((h.setTos newTos).writeCheck _),
    headerWords_rewrite h, List.set_set, ← UInt16.toNat_inj, toNat_fullChecksum, hrest,
    toNat_csumReplace2, hold]
  exact replace_eq (by decide) rest (Nat.le_of_lt_succ hfirst) (h.firstWord_pos newTos)

/-- **A rewrite keeps the checksum.** -/
theorem rewriteTos_keeps (h : HasHeader frame offset) (dscp : UInt8) :
    KeepsChecksum frame (rewriteTos frame offset (tosWithDscp (tosAt frame offset) dscp))
      offset where
  length := by simp [rewriteTos, writeCheck]
  bytes i htos hc hc' := by
    rw [rewriteTos, writeCheck, List.getElem?_set_ne (Ne.symm hc'),
      List.getElem?_set_ne (Ne.symm hc), List.getElem?_set_ne (Ne.symm htos)]
  ecn := by
    have hmin := h.minimal
    have hrange := h.inRange
    simp only [ipv4HdrLen] at hmin
    rw [rewriteTos, tosAt, byteAt_writeCheck, byteAt_set, tosWithDscp_ecn]
    all_goals
      simp only [ipv4TosOffset, ipv4CheckOffset]
      omega
  valid := rewriteTos_valid_iff h _
  exact := rewriteTos_exact h _

end Rewrite

/-! ## The two programs -/

section Programs

variable {maps : Maps} {ifindex : UInt32} {frame : Frame}

/-- A frame that is not rewritten. -/
lemma keepsChecksum_refl (frame : Frame) (offset : ℕ) : KeepsChecksum frame frame offset :=
  ⟨rfl, fun _ _ _ _ => rfl, rfl, Iff.rfl, id⟩

lemma loadIpv4Hdr_eq_some {offset : ℕ} {ip : Ipv4Hdr} (h : loadIpv4Hdr frame offset = some ip) :
    ip = ipv4HdrAt frame offset := by
  rw [loadIpv4Hdr] at h
  split at h
  · exact (Option.some.inj h).symm
  · cases h

/-- What `try_stamp` does to a frame. -/
lemma tryStamp_frame (maps : Maps) (ifindex : UInt32) (frame : Frame) (orig : OrigDscp) :
    (tryStamp maps ifindex frame orig).1 = frame ∨
      ∃ id, (tryStamp maps ifindex frame orig).1
        = rewriteTos frame ethHdrLen (tosWithDscp (tosAt frame ethHdrLen) id) := by
  rw [tryStamp]
  split
  · exact Or.inl rfl
  · rename_i id _
    split
    · split
      · exact Or.inl rfl
      · rename_i ip hload
        obtain rfl := loadIpv4Hdr_eq_some hload
        split
        · exact Or.inl rfl
        · dsimp only
          split
          · exact Or.inl rfl
          · exact Or.inr ⟨id, stampTos_eq frame _⟩
    · exact Or.inl rfl

/-- What `try_terminate` does to a packet. -/
lemma tryTerminate_frame {l2 : ℕ} (hl2 : l2Len maps ifindex = some l2) (protocol : UInt32)
    (frame : Frame) (orig : OrigDscp) :
    tryTerminate maps ifindex protocol frame orig = frame ∨
      ∃ dscp, tryTerminate maps ifindex protocol frame orig
        = rewriteTos frame l2 (tosWithDscp (tosAt frame l2) dscp) := by
  rw [tryTerminate]
  split
  · exact Or.inl rfl
  · split
    · exact Or.inl rfl
    · split
      · exact Or.inl rfl
      · rw [hl2]
        dsimp only
        split
        · exact Or.inl rfl
        · rename_i ip hload
          obtain rfl := loadIpv4Hdr_eq_some hload
          split
          · exact Or.inl rfl
          · split
            · exact Or.inl rfl
            · exact Or.inr ⟨_, terminateTos_eq frame l2 _⟩

/-- **TOS rewriting keeps the header checksum right**, on ingress and on egress, for every header,
valid or not; and the two folds of `csum_replace2` are enough. -/
theorem tos_rewriting_keeps_checksum :
    (∀ (maps : Maps) (ifindex : UInt32) (frame : Frame) (orig : OrigDscp),
      HasHeader frame ethHdrLen →
        KeepsChecksum frame (tryStamp maps ifindex frame orig).1 ethHdrLen) ∧
    (∀ (maps : Maps) (ifindex protocol : UInt32) (skb : Frame) (orig : OrigDscp) (l2 : ℕ),
      l2Len maps ifindex = some l2 → HasHeader skb l2 →
        KeepsChecksum skb (tryTerminate maps ifindex protocol skb orig) l2) ∧
    ∀ check old new : UInt16,
      (csumSum check old new).toNat
          = (0xffff - check.toNat) + (0xffff - old.toNat) + new.toNat ∧
        (fold32 (fold32 (csumSum check old new))).toNat
          = fold 0xffff (csumSum check old new).toNat ∧
        (fold32 (fold32 (csumSum check old new))).toNat ≤ 0xffff := by
  refine ⟨?_, ?_, ?_⟩
  · intro maps ifindex frame orig h
    rcases tryStamp_frame maps ifindex frame orig with heq | ⟨id, heq⟩
    · rw [heq]
      exact keepsChecksum_refl frame ethHdrLen
    · rw [heq]
      exact rewriteTos_keeps h id
  · intro maps ifindex protocol skb orig l2 hl2 h
    rcases tryTerminate_frame hl2 protocol skb orig with heq | ⟨dscp, heq⟩
    · rw [heq]
      exact keepsChecksum_refl skb l2
    · rw [heq]
      exact rewriteTos_keeps h dscp
  · intro check old new
    exact ⟨toNat_csumSum check old new, (fold_csumSum check old new).symm,
      toNat_fold32_fold32_le check old new⟩

end Programs

/-- A datagram is stamped with the id 7, and its answer gets its DSCP back. -/
theorem tos_rewriting_keeps_checksum_exchange :
    KeepsChecksum (request 40) (tryStamp taggedMaps 3 (request 40) ∅).1 ethHdrLen ∧
      KeepsChecksum (reply 28) (tryTerminate taggedMaps 3 etherTypeIpv4 (reply 28) ∅) ethHdrLen :=
  ⟨tos_rewriting_keeps_checksum.1 taggedMaps 3 (request 40) ∅ ⟨by decide, by decide⟩,
    tos_rewriting_keeps_checksum.2.1 taggedMaps 3 etherTypeIpv4 (reply 28) ∅ ethHdrLen (by decide)
      ⟨by decide, by decide⟩⟩

end Ebpf

end Dumbarp
