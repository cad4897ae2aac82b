/-
The ARP responder (`try_dumbarp` and `try_arp` in `dumbarp-ebpf/src/main.rs`).

A request for an address in the table is answered in place: the frame is turned round and sent
out again.  The comment in the source promises that only requests for IPv4 over Ethernet are
answered, but the types are never looked at: what decides is the operation and the table.
-/
import Dumbarp.Ebpf.Stamp

namespace Dumbarp.Ebpf

/-! ## The code -/

/-- `xdp_action`, as far as it is used. -/
inductive XdpAction where
  | pass
  | tx
deriving DecidableEq, Repr

/-- `ArpHdr`. -/
structure ArpHdr where
  htype : UInt16
  ptype : UInt16
  hlen : UInt8
  plen : UInt8
  oper : UInt16
  sha : Mac
  spa : Ipv4Addr
  tha : Mac
  tpa : Ipv4Addr
deriving DecidableEq, Repr

/-- The size of `ArpHdr`. -/
def arpHdrLen : ℕ := 28

/-- `ARPOP_REQUEST`. -/
def arpopRequest : UInt16 := 1

/-- `ARPOP_REPLY`. -/
def arpopReply : UInt16 := 2

/-- The MAC address at an offset that is in range. -/
def macAt (frame : Frame) (offset : ℕ) : Mac :=
  ⟨byteAt frame offset, byteAt frame (offset + 1), byteAt frame (offset + 2),
    byteAt frame (offset + 3), byteAt frame (offset + 4), byteAt frame (offset + 5)⟩

/-- The header at an offset that is in range; it is packed. -/
def arpHdrAt (frame : Frame) (offset : ℕ) : ArpHdr where
  htype := wordAt frame offset
  ptype := wordAt frame (offset + 2)
  hlen := byteAt frame (offset + 4)
  plen := byteAt frame (offset + 5)
  oper := wordAt frame (offset + 6)
  sha := macAt frame (offset + 8)
  spa := addrAt frame (offset + 14)
  tha := macAt frame (offset + 18)
  tpa := addrAt frame (offset + 24)

/-- The type of an Ethernet frame. -/
def etherType (frame : Frame) : UInt16 := wordAt frame 12

/-- Write bytes at an offset. -/
def writeBytes (frame : Frame) (offset : ℕ) : List UInt8 → Frame
  | [] => frame
  | b :: bytes => writeBytes (frame.set offset b) (offset + 1) bytes

/-- The end of `try_arp`: the request is turned into its reply, field by field. -/
def arpReply (request : Frame) (ourMac : Mac) : Frame :=
  let tpa := addrAt request (ethHdrLen + 24)
  let frame := writeBytes request (ethHdrLen + 6)
    [(toBeBytes arpopReply).1, (toBeBytes arpopReply).2]
  let oldSha := macAt frame (ethHdrLen + 8)
  let oldSpa := addrAt frame (ethHdrLen + 14)
  let frame := writeBytes frame (ethHdrLen + 18) oldSha.bytes
  let frame := writeBytes frame (ethHdrLen + 24) oldSpa.bytes
  let frame := writeBytes frame (ethHdrLen + 8) ourMac.bytes
  let frame := writeBytes frame (ethHdrLen + 14) tpa.bytes
  let ethSrc := macAt frame 6
  let frame := writeBytes frame 0 ethSrc.bytes
  writeBytes frame 6 ourMac.bytes

/-- `try_arp`: the action and the frame, or none when the header is not in range. -/
def tryArp (maps : Maps) (ifindex : UInt32) (frame : Frame) : Option (XdpAction × Frame) :=
  if ethHdrLen + arpHdrLen ≤ frame.length then
    let arp := arpHdrAt frame ethHdrLen
    if arp.oper ≠ arpopRequest then some (.pass, frame)
    else
      match maps.arpTable.lookup ⟨ifindex, fromNeBytes arp.tpa⟩ with
      | none => some (.pass, frame)
      | some ourMac => some (.tx, arpReply frame ourMac)
  else none

/-- `try_dumbarp`. -/
def tryDumbarp (maps : Maps) (ifindex : UInt32) (frame : Frame) (orig : OrigDscp) :
    Option (XdpAction × Frame × OrigDscp) :=
  if ethHdrLen ≤ frame.length then
    if etherType frame = 0x0806 then
      (tryArp maps ifindex frame).map fun (action, frame) => (action, frame, orig)
    else if etherType frame = 0x0800 then
      let (frame, orig) := tryStamp maps ifindex frame orig
      some (.pass, frame, orig)
    else some (.pass, frame, orig)
  else none

/-- The program `dumbarp`: an error lets the frame pass as it is. -/
def dumbarp (maps : Maps) (ifindex : UInt32) (frame : Frame) (orig : OrigDscp) :
    XdpAction × Frame × OrigDscp :=
  (tryDumbarp maps ifindex frame orig).getD (.pass, frame, orig)

/-! ## Writing -/

@[simp] lemma length_macBytes (mac : Mac) : mac.bytes.length = 6 := rfl

@[simp] lemma length_addrBytes (ip : Ipv4Addr) : ip.bytes.length = 4 := rfl

@[simp] lemma length_writeBytes (bytes : List UInt8) :
    ∀ (frame : Frame) (offset : ℕ), (writeBytes frame offset bytes).length = frame.length := by
  induction bytes with
  | nil => exact fun _ _ => rfl
  | cons b bytes ih =>
    intro frame offset
    rw [writeBytes, ih, List.length_set]

/-- A write leaves the bytes before it and behind it. -/
lemma getElem?_writeBytes_of_out : ∀ {bytes : List UInt8} {frame : Frame} {offset i : ℕ},
    i < offset ∨ offset + bytes.length ≤ i → (writeBytes frame offset bytes)[i]? = frame[i]?
  | [], _, _, _, _ => rfl
  | b :: bytes, frame, offset, i, h => by
    simp only [List.length_cons] at h
    have hrest : i < offset + 1 ∨ offset + 1 + bytes.length ≤ i := by omega
    have hne : offset ≠ i := by omega
    rw [writeBytes, getElem?_writeBytes_of_out hrest, List.getElem?_set_ne hne]

/-- A write in range puts its bytes where they belong. -/
lemma getElem?_writeBytes : ∀ {bytes : List UInt8} {frame : Frame} {offset k : ℕ},
    offset + bytes.length ≤ frame.length → k < bytes.length →
      (writeBytes frame offset bytes)[offset + k]? = bytes[k]?
  | b :: bytes, frame, offset, 0, h, _ => by
    simp only [List.length_cons] at h
    rw [writeBytes, getElem?_writeBytes_of_out (by omega), Nat.add_zero,
      List.getElem?_set_self (by omega), List.getElem?_cons_zero]
  | b :: bytes, frame, offset, k + 1, h, hk => by
    simp only [List.length_cons] at h hk
    have hk' : offset + (k + 1) = offset + 1 + k := by omega
    have hlen : (frame.set offset b).length = frame.length := List.length_set
    rw [writeBytes, hk', getElem?_writeBytes (by omega) (by omega), List.getElem?_cons_succ]

section Fields

variable {frame : Frame} {offset i : ℕ} {bytes : List UInt8}

lemma byteAt_writeBytes_of_out (h : i < offset ∨ offset + bytes.length ≤ i) :
    byteAt (writeBytes frame offset bytes) i = byteAt frame i := by
  rw [byteAt, byteAt, List.getD_eq_getElem?_getD, List.getD_eq_getElem?_getD,
    getElem?_writeBytes_of_out h]

lemma byteAt_writeBytes {k : ℕ} (h : offset + bytes.length ≤ frame.length)
    (hk : k < bytes.length) :
    byteAt (writeBytes frame offset bytes) (offset + k) = bytes.getD k 0 := by
  rw [byteAt, List.getD_eq_getElem?_getD, getElem?_writeBytes h hk, List.getD_eq_getElem?_getD]

lemma wordAt_writeBytes_of_out (h : i + 2 ≤ offset ∨ offset + bytes.length ≤ i) :
    wordAt (writeBytes frame offset bytes) i = wordAt frame i := by
  simp only [wordAt]
  rw [byteAt_writeBytes_of_out (by omega), byteAt_writeBytes_of_out (by omega)]

lemma addrAt_writeBytes_of_out (h : i + 4 ≤ offset ∨ offset + bytes.length ≤ i) :
    addrAt (writeBytes frame offset bytes) i = addrAt frame i := by
  simp only [addrAt]
  rw [byteAt_writeBytes_of_out (by omega), byteAt_writeBytes_of_out (by omega),
    byteAt_writeBytes_of_out (by omega), byteAt_writeBytes_of_out (by omega)]

lemma macAt_writeBytes_of_out (h : i + 6 ≤ offset ∨ offset + bytes.length ≤ i) :
    macAt (writeBytes frame offset bytes) i = macAt frame i := by
  simp only [macAt]
  rw [byteAt_writeBytes_of_out (by omega), byteAt_writeBytes_of_out (by omega),
    byteAt_writeBytes_of_out (by omega), byteAt_writeBytes_of_out (by omega),
    byteAt_writeBytes_of_out (by omega), byteAt_writeBytes_of_out (by omega)]

lemma wordAt_writeBytes (h : offset + 2 ≤ frame.length) (w : UInt16) :
    wordAt (writeBytes frame offset [(toBeBytes w).1, (toBeBytes w).2]) offset = w := by
  have hbyte : ∀ k < 2, byteAt (writeBytes frame offset [(toBeBytes w).1, (toBeBytes w).2])
      (offset + k) = [(toBeBytes w).1, (toBeBytes w).2].getD k 0 :=
    fun k hk => byteAt_writeBytes h hk
  have hzero := hbyte 0 (by decide)
  rw [Nat.add_zero] at hzero
  rw [wordAt, hzero, hbyte 1 (by decide)]
  exact fromBeBytes_toBeBytes w

lemma addrAt_writeBytes (h : offset + 4 ≤ frame.length) (ip : Ipv4Addr) :
    addrAt (writeBytes frame offset ip.bytes) offset = ip := by
  have hbyte : ∀ k < 4, byteAt (writeBytes frame offset ip.bytes) (offset + k)
      = ip.bytes.getD k 0 :=
    fun k hk => byteAt_writeBytes h hk
  have hzero := hbyte 0 (by decide)
  rw [Nat.add_zero] at hzero
  simp only [addrAt, hzero, hbyte 1 (by decide), hbyte 2 (by decide), hbyte 3 (by decide)]
  rfl

lemma macAt_writeBytes (h : offset + 6 ≤ frame.length) (mac : Mac) :
    macAt (writeBytes frame offset mac.bytes) offset = mac := by
  have hbyte : ∀ k < 6, byteAt (writeBytes frame offset mac.bytes) (offset + k)
      = mac.bytes.getD k 0 :=
    fun k hk => byteAt_writeBytes h hk
  have hzero := hbyte 0 (by decide)
  rw [Nat.add_zero] at hzero
  simp only [macAt, hzero, hbyte 1 (by decide), hbyte 2 (by decide), hbyte 3 (by decide),
    hbyte 4 (by decide), hbyte 5 (by decide)]
  rfl

end Fields

/-! ## Answering -/

/-- An ARP request, for IPv4 over Ethernet, for an address that the interface answers for. -/
structure IsRequest (maps : Maps) (ifindex : UInt32) (frame : Frame) : Prop where
  length : ethHdrLen + arpHdrLen ≤ frame.length
  etherType : etherType frame = 0x0806
  htype : (arpHdrAt frame ethHdrLen).htype = 1
  ptype : (arpHdrAt frame ethHdrLen).ptype = 0x0800
  oper : (arpHdrAt frame ethHdrLen).oper = arpopRequest
  known : (⟨ifindex, fromNeBytes (arpHdrAt frame ethHdrLen).tpa⟩ : ArpKey) ∈ maps.arpTable

/-- The request, turned round by the holder of `ourMac`. -/
structure IsReply (request reply : Frame) (ourMac : Mac) : Prop where
  length : reply.length = request.length
  ethDst : macAt reply 0 = macAt request 6
  ethSrc : macAt reply 6 = ourMac
  etherType : etherType reply = etherType request
  arp : arpHdrAt reply ethHdrLen =
    { arpHdrAt request ethHdrLen with
      oper := arpopReply
      sha := ourMac
      spa := (arpHdrAt request ethHdrLen).tpa
      tha := (arpHdrAt request ethHdrLen).sha
      tpa := (arpHdrAt request ethHdrLen).spa }
  rest : ∀ i, ethHdrLen + arpHdrLen ≤ i → reply[i]? = request[i]?

/-- The frame is sent back iff it is a request for an address of the interface, and then as the
reply; any other ARP frame passes as it is. -/
structure RespondsRightly (maps : Maps) (ifindex : UInt32) (frame : Frame) (orig : OrigDscp) :
    Prop where
  tx_iff : (dumbarp maps ifindex frame orig).1 = .tx ↔ IsRequest maps ifindex frame
  reply : IsRequest maps ifindex frame → ∃ ourMac,
    maps.arpTable.lookup ⟨ifindex, fromNeBytes (arpHdrAt frame ethHdrLen).tpa⟩ = some ourMac ∧
      IsReply frame (dumbarp maps ifindex frame orig).2.1 ourMac
  other : etherType frame = 0x0806 → ¬ IsRequest maps ifindex frame →
    (dumbarp maps ifindex frame orig).1 = .pass ∧ (dumbarp maps ifindex frame orig).2.1 = frame

/-- An ARP request for an address of the interface that is not for IPv4 over Ethernet. -/
structure Mistyped (maps : Maps) (ifindex : UInt32) (frame : Frame) : Prop where
  length : ethHdrLen + arpHdrLen ≤ frame.length
  etherType : etherType frame = 0x0806
  oper : (arpHdrAt frame ethHdrLen).oper = arpopRequest
  known : (⟨ifindex, fromNeBytes (arpHdrAt frame ethHdrLen).tpa⟩ : ArpKey) ∈ maps.arpTable
  types : ¬ ((arpHdrAt frame ethHdrLen).htype = 1 ∧ (arpHdrAt frame ethHdrLen).ptype = 0x0800)

section Respond

variable {maps : Maps} {ifindex : UInt32} {frame : Frame} {orig : OrigDscp} {ourMac : Mac}

/-- **The frame that is sent back is the reply.** -/
theorem arpReply_isReply (h : ethHdrLen + arpHdrLen ≤ frame.length) (ourMac : Mac) :
    IsReply frame (arpReply frame ourMac) ourMac := by
  have hle : ∀ n ≤ 42, n ≤ frame.length := fun n hn => hn.trans h
  -- no field is read after it was written, and none is written twice
  constructor
  · simp [arpReply]
  · simp [arpReply, ethHdrLen, macAt_writeBytes_of_out, macAt_writeBytes, hle]
  · simp [arpReply, macAt_writeBytes, hle]
  · simp [etherType, arpReply, ethHdrLen, wordAt_writeBytes_of_out]
  · simp [arpHdrAt, arpReply, ethHdrLen, byteAt_writeBytes_of_out, wordAt_writeBytes_of_out,
      wordAt_writeBytes, macAt_writeBytes_of_out, macAt_writeBytes, addrAt_writeBytes_of_out,
      addrAt_writeBytes, hle]
  · intro i hi
    simp only [ethHdrLen, arpHdrLen] at hi
    simp only [arpReply, ethHdrLen]
    iterate 7 rw [getElem?_writeBytes_of_out (by simp; omega)]

lemma tryDumbarp_of_request (ht : etherType frame = 0x0806)
    (hlen : ethHdrLen + arpHdrLen ≤ frame.length)
    (hoper : (arpHdrAt frame ethHdrLen).oper = arpopRequest)
    (hmac : maps.arpTable.lookup ⟨ifindex, fromNeBytes (arpHdrAt frame ethHdrLen).tpa⟩
      = some ourMac) :
    tryDumbarp maps ifindex frame orig = some (.tx, arpReply frame ourMac, orig) := by
  have heth : ethHdrLen ≤ frame.length := le_trans (Nat.le_add_right _ _) hlen
  have harp : tryArp maps ifindex frame = some (.tx, arpReply frame ourMac) := by
    simp [tryArp, hlen, hoper, hmac]
  simp [tryDumbarp, heth, ht, harp]

lemma dumbarp_of_request (ht : etherType frame = 0x0806)
    (hlen : ethHdrLen + arpHdrLen ≤ frame.length)
    (hoper : (arpHdrAt frame ethHdrLen).oper = arpopRequest)
    (hmac : maps.arpTable.lookup ⟨ifindex, fromNeBytes (arpHdrAt frame ethHdrLen).tpa⟩
      = some ourMac) :
    (dumbarp maps ifindex frame orig).1 = .tx ∧
      (dumbarp maps ifindex frame orig).2.1 = arpReply frame ourMac := by
  simp [dumbarp, tryDumbarp_of_request ht hlen hoper hmac]

/-- An ARP frame that is too short, or no request, or for an address of somebody else. -/
lemma dumbarp_of_no_request (ht : etherType frame = 0x0806)
    (hno : ¬ (ethHdrLen + arpHdrLen ≤ frame.length ∧
      (arpHdrAt frame ethHdrLen).oper = arpopRequest ∧
        (⟨ifindex, fromNeBytes (arpHdrAt frame ethHdrLen).tpa⟩ : ArpKey) ∈ maps.arpTable)) :
    dumbarp maps ifindex frame orig = (.pass, frame, orig) := by
  have harp : tryArp maps ifindex frame = none ∨
      tryArp maps ifindex frame = some (.pass, frame) := by
    by_cases hlen : ethHdrLen + arpHdrLen ≤ frame.length
    · by_cases hoper : (arpHdrAt frame ethHdrLen).oper = arpopRequest
      · have hnone : maps.arpTable.lookup
            ⟨ifindex, fromNeBytes (arpHdrAt frame ethHdrLen).tpa⟩ = none :=
          AList.lookup_eq_none.mpr fun hk => hno ⟨hlen, hoper, hk⟩
        simp [tryArp, hlen, hoper, hnone]
      · simp [tryArp, hlen, hoper]
    · simp [tryArp, hlen]
  by_cases heth : ethHdrLen ≤ frame.length
  · rcases harp with harp | harp
    · simp [dumbarp, tryDumbarp, heth, ht, harp]
    · simp [dumbarp, tryDumbarp, heth, ht, harp]
  · simp [dumbarp, tryDumbarp, heth]

/-- Only ARP frames are sent back. -/
lemma dumbarp_of_other (ht : etherType frame ≠ 0x0806) :
    (dumbarp maps ifindex frame orig).1 = .pass := by
  rw [dumbarp, tryDumbarp]
  by_cases heth : ethHdrLen ≤ frame.length
  · by_cases hip : etherType frame = 0x0800
    · simp [heth, hip]
    · simp [heth, ht, hip]
  · simp [heth]

/-- **The responder answers rightly** unless the frame is a request for an address of the interface
with another hardware or protocol type. -/
theorem respondsRightly_iff :
    RespondsRightly maps ifindex frame orig ↔ ¬ Mistyped maps ifindex frame := by
  constructor
  · -- a mistyped request is answered all the same
    intro hright hm
    obtain ⟨ourMac, hmac⟩ := HashMap.mem_iff_lookup.mp hm.known
    have hreq := hright.tx_iff.mp (dumbarp_of_request hm.etherType hm.length hm.oper hmac).1
    exact hm.types ⟨hreq.htype, hreq.ptype⟩
  · intro hm
    by_cases hreq : IsRequest maps ifindex frame
    · obtain ⟨ourMac, hmac⟩ := HashMap.mem_iff_lookup.mp hreq.known
      obtain ⟨htx, hout⟩ : (dumbarp maps ifindex frame orig).1 = .tx ∧
          (dumbarp maps ifindex frame orig).2.1 = arpReply frame ourMac :=
        dumbarp_of_request hreq.etherType hreq.length hreq.oper hmac
      refine ⟨iff_of_true htx hreq, fun _ => ⟨ourMac, hmac, ?_⟩, fun _ hno => absurd hreq hno⟩
      rw [hout]
      exact arpReply_isReply hreq.length ourMac
    · have hother : etherType frame = 0x0806 →
          dumbarp maps ifindex frame orig = (.pass, frame, orig) := by
        intro ht
        refine dumbarp_of_no_request ht ?_
        rintro ⟨hlen, hoper, hknown⟩
        refine hm ⟨hlen, ht, hoper, hknown, ?_⟩
        rintro ⟨hhtype, hptype⟩
        exact hreq ⟨hlen, ht, hhtype, hptype, hoper, hknown⟩
      have hpass : (dumbarp maps ifindex frame orig).1 = .pass := by
        by_cases ht : etherType frame = 0x0806
        · rw [hother ht]
        · exact dumbarp_of_other ht
      refine ⟨?_, fun h => absurd h hreq, fun ht _ => ?_⟩
      · rw [hpass]
        exact iff_of_false (by decide) hreq
      · rw [hother ht]
        exact ⟨rfl, rfl⟩

end Respond

/-- An ARP request for 110.0.0.1 with another hardware type than Ethernet's. -/
def mistypedRequest : Frame :=
  List.replicate 6 0xff ++ [2, 0, 0, 0, 0, 9] ++ [0x08, 0x06] ++
    [0, 6, 0x08, 0x00, 6, 4, 0, 1] ++ [2, 0, 0, 0, 0, 9, 10, 0, 0, 9] ++
    [0, 0, 0, 0, 0, 0, 110, 0, 0, 1]

/-- **A mistyped request is answered.** -/
theorem mistyped_request_is_answered :
    ¬ ∀ (maps : Maps) (ifindex : UInt32) (frame : Frame) (orig : OrigDscp),
      RespondsRightly maps ifindex frame orig := by
  intro hall
  have htx : (dumbarp taggedMaps 3 mistypedRequest ∅).1 = .tx := by decide
  have hreq := (hall taggedMaps 3 mistypedRequest ∅).tx_iff.mp htx
  exact absurd hreq.htype (by decide)

end Dumbarp.Ebpf
