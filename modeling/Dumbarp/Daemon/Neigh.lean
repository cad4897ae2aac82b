/-
The ARP frames of the neighbour refresher (`dumbarp-daemon/src/neigh.rs`).

A daemon that has a lease asks for the MAC address of its gateway with a hand-built request and
reads the reply by offsets.  The XDP program of `dumbarp-ebpf` turns such requests round in
place.  The three agree about every byte: `request_is_understood` follows a request through the
program and back.
-/
import Dumbarp.Ebpf.Arp
import Dumbarp.Engine.Interface

namespace Dumbarp.Daemon

open Ebpf Engine

/-! ## The code -/

/-- The broadcast address of Ethernet. -/
def broadcast : Mac := ⟨0xff, 0xff, 0xff, 0xff, 0xff, 0xff⟩

/-- `build_arp_request`. -/
def buildArpRequest (srcMac : Mac) (srcIp dstIp : Ipv4Addr) : Frame :=
  let frame := List.replicate 42 0
  let frame := writeBytes frame 0 broadcast.bytes
  let frame := writeBytes frame 6 srcMac.bytes
  let frame := writeBytes frame 12 [0x08, 0x06]
  let frame := writeBytes frame (14 + 0) [0x00, 0x01]
  let frame := writeBytes frame (14 + 2) [0x08, 0x00]
  let frame := writeBytes frame (14 + 4) [6]
  let frame := writeBytes frame (14 + 5) [4]
  let frame := writeBytes frame (14 + 6) [0x00, 0x01]
  let frame := writeBytes frame (14 + 8) srcMac.bytes
  let frame := writeBytes frame (14 + 14) srcIp.bytes
  let frame := writeBytes frame (14 + 18) (List.replicate 6 0)
  writeBytes frame (14 + 24) dstIp.bytes

/-- `parse_arp_reply`. -/
def parseArpReply (frame : Frame) (expectedSenderIp expectedTargetIp : Ipv4Addr) : Option Mac :=
  if frame.length < 42 then none
  else if wordAt frame 12 ≠ 0x0806 then none
  else if wordAt frame (14 + 6) ≠ 2 then none
  else
    let senderIp := addrAt frame (14 + 14)
    let targetIp := addrAt frame (14 + 24)
    if senderIp ≠ expectedSenderIp ∨ targetIp ≠ expectedTargetIp then none
    else some (macAt frame (14 + 8))

/-! ## What the parser accepts and what the builder writes -/

/-- A frame is read as a reply exactly when it is one and has the two addresses expected. -/
lemma parseArpReply_eq_some_iff {frame : Frame} {senderIp targetIp : Ipv4Addr} {mac : Mac} :
    parseArpReply frame senderIp targetIp = some mac ↔
      ethHdrLen + arpHdrLen ≤ frame.length ∧ etherType frame = 0x0806 ∧
        (arpHdrAt frame ethHdrLen).oper = arpopReply ∧
        (arpHdrAt frame ethHdrLen).spa = senderIp ∧ (arpHdrAt frame ethHdrLen).tpa = targetIp ∧
        (arpHdrAt frame ethHdrLen).sha = mac := by
  by_cases hlen : frame.length < 42
  · have hno : ¬ ethHdrLen + arpHdrLen ≤ frame.length := Nat.not_le.mpr hlen
    simp [parseArpReply, hlen, hno]
  · have hle : ethHdrLen + arpHdrLen ≤ frame.length := Nat.not_lt.mp hlen
    simp only [parseArpReply, hlen, if_false, hle, true_and]
    change (if etherType frame ≠ 0x0806 then none
      else if (arpHdrAt frame ethHdrLen).oper ≠ arpopReply then none
      else if (arpHdrAt frame ethHdrLen).spa ≠ senderIp ∨
        (arpHdrAt frame ethHdrLen).tpa ≠ targetIp then none
      else some (arpHdrAt frame ethHdrLen).sha) = some mac ↔ _
    by_cases htype : etherType frame = 0x0806
    · by_cases hoper : (arpHdrAt frame ethHdrLen).oper = arpopReply
      · simp [htype, hoper, and_assoc]
      · simp [htype, hoper]
    · simp [htype]

/-- The request, byte by byte. -/
lemma buildArpRequest_eq (srcMac : Mac) (srcIp dstIp : Ipv4Addr) :
    buildArpRequest srcMac srcIp dstIp =
      [0xff, 0xff, 0xff, 0xff, 0xff, 0xff] ++ srcMac.bytes ++
        [0x08, 0x06, 0x00, 0x01, 0x08, 0x00, 6, 4, 0x00, 0x01] ++ srcMac.bytes ++ srcIp.bytes ++
        [0, 0, 0, 0, 0, 0] ++ dstIp.bytes := by
  simp [buildArpRequest, writeBytes, Mac.bytes, Ipv4Addr.bytes, broadcast, List.replicate]

/-- **The request that is built**: sent to all, for the MAC address that belongs to `dstIp`. -/
lemma buildArpRequest_fields (srcMac : Mac) (srcIp dstIp : Ipv4Addr) :
    (buildArpRequest srcMac srcIp dstIp).length = ethHdrLen + arpHdrLen ∧
      macAt (buildArpRequest srcMac srcIp dstIp) 0 = broadcast ∧
      macAt (buildArpRequest srcMac srcIp dstIp) 6 = srcMac ∧
      etherType (buildArpRequest srcMac srcIp dstIp) = 0x0806 ∧
      arpHdrAt (buildArpRequest srcMac srcIp dstIp) ethHdrLen =
        { htype := 1, ptype := 0x0800, hlen := 6, plen := 4, oper := arpopRequest, sha := srcMac,
          spa := srcIp, tha := ⟨0, 0, 0, 0, 0, 0⟩, tpa := dstIp } := by
  have hwords : fromBeBytes (0x08, 0x06) = 0x0806 ∧ fromBeBytes (0x00, 0x01) = 1 ∧
      fromBeBytes (0x08, 0x00) = 0x0800 := by decide
  obtain ⟨harp, hone, hip⟩ := hwords
  rw [buildArpRequest_eq]
  refine ⟨?_, ?_, ?_, ?_, ?_⟩
  · simp [ethHdrLen, arpHdrLen]
  · simp [macAt, byteAt, Mac.bytes, Ipv4Addr.bytes, broadcast]
  · simp [macAt, byteAt, Mac.bytes, Ipv4Addr.bytes]
  · simp [etherType, wordAt, byteAt, Mac.bytes, Ipv4Addr.bytes, harp]
  · simp [arpHdrAt, wordAt, macAt, addrAt, byteAt, ethHdrLen, Mac.bytes, Ipv4Addr.bytes, hone, hip,
      arpopRequest]

/-- A request is not taken for a reply. -/
lemma parseArpReply_request (srcMac : Mac) (srcIp dstIp senderIp targetIp : Ipv4Addr) :
    parseArpReply (buildArpRequest srcMac srcIp dstIp) senderIp targetIp = none := by
  obtain ⟨-, -, -, -, harp⟩ := buildArpRequest_fields srcMac srcIp dstIp
  refine Option.eq_none_iff_forall_ne_some.mpr fun mac hmac => ?_
  obtain ⟨-, -, hoper, -⟩ := parseArpReply_eq_some_iff.mp hmac
  have hne : arpopRequest ≠ arpopReply := by decide
  rw [harp] at hoper
  exact hne hoper

/-- **A request is understood by the XDP program, and its answer by the prober.**  On an
interface that answers for `dstIp` with `ourMac`, the request of `srcMac` is sent back as a frame
addressed to `srcMac` from which the prober reads `ourMac`, for the two addresses of the request
and for no others; the request itself is read as a reply for none. -/
theorem request_is_understood {maps : Maps} {ifindex : UInt32} {ourMac : Mac}
    {srcIp dstIp : Ipv4Addr}
    (hmac : maps.arpTable.lookup (arpKeyFor ifindex dstIp) = some ourMac) (srcMac : Mac)
    (orig : OrigDscp) :
    ∃ reply, tryDumbarp maps ifindex (buildArpRequest srcMac srcIp dstIp) orig =
        some (.tx, reply, orig) ∧
      parseArpReply reply dstIp srcIp = some ourMac ∧
      macAt reply 0 = srcMac ∧
      (∀ senderIp targetIp, (senderIp, targetIp) ≠ (dstIp, srcIp) →
        parseArpReply reply senderIp targetIp = none) ∧
      ∀ senderIp targetIp,
        parseArpReply (buildArpRequest srcMac srcIp dstIp) senderIp targetIp = none := by
  obtain ⟨hlen, -, hsrc, htype, harp⟩ := buildArpRequest_fields srcMac srcIp dstIp
  have hreply := arpReply_isReply hlen.ge ourMac
  have hlen' : ethHdrLen + arpHdrLen ≤
      (arpReply (buildArpRequest srcMac srcIp dstIp) ourMac).length := (hreply.length.trans hlen).ge
  have harp' := hreply.arp
  rw [harp] at harp'
  refine ⟨arpReply (buildArpRequest srcMac srcIp dstIp) ourMac, ?_, ?_, ?_, ?_, ?_⟩
  · refine tryDumbarp_of_request htype hlen.ge ?_ ?_
    · rw [harp]
    · rw [harp]
      exact hmac
  · refine parseArpReply_eq_some_iff.mpr ⟨hlen', hreply.etherType.trans htype, ?_⟩
    rw [harp']
    exact ⟨rfl, rfl, rfl, rfl⟩
  · exact hreply.ethDst.trans hsrc
  · intro senderIp targetIp hne
    refine Option.eq_none_iff_forall_ne_some.mpr fun mac hread => ?_
    obtain ⟨-, -, -, hspa, htpa, -⟩ := parseArpReply_eq_some_iff.mp hread
    rw [harp'] at hspa htpa
    exact hne (Prod.ext hspa.symm htpa.symm)
  · exact parseArpReply_request srcMac srcIp dstIp

/-- A neighbour asks for the address of an interface and reads its MAC address. -/
theorem neighbour_is_understood :
    ∃ reply, tryDumbarp taggedMaps 3
        (buildArpRequest ⟨2, 0, 0, 0, 0, 9⟩ ⟨110, 0, 0, 9⟩ ⟨110, 0, 0, 1⟩) ∅ =
          some (.tx, reply, ∅) ∧
      parseArpReply reply ⟨110, 0, 0, 1⟩ ⟨110, 0, 0, 9⟩ = some ⟨2, 0, 0, 0, 0, 1⟩ := by
  have hmac : taggedMaps.arpTable.lookup (arpKeyFor 3 ⟨110, 0, 0, 1⟩) =
      some ⟨2, 0, 0, 0, 0, 1⟩ := by decide
  obtain ⟨reply, htx, hread, -⟩ :=
    @request_is_understood _ _ _ ⟨110, 0, 0, 9⟩ _ hmac ⟨2, 0, 0, 0, 0, 9⟩ ∅
  exact ⟨reply, htx, hread⟩

end Dumbarp.Daemon
