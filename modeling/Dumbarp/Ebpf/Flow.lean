/-
The flow keys of the two directions of a conversation (`xdp_flow_key` and `tc_flow_key` in
`dumbarp-ebpf/src/main.rs`).

Ingress records a DSCP under the reversed key of an arrival, and egress looks it up under the key
of the answer.  Both read the ports behind a header without options and take them for zero
otherwise; neither looks at the fragment offset.  So the keys of the two directions fit together
when both packets show the ports of their datagrams or none does, and a later fragment without
options is keyed by four bytes of its payload.
-/
import Dumbarp.Ebpf.Checksum

namespace Dumbarp.Ebpf

/-! ## Packets of a conversation -/

/-- A TCP or UDP datagram, by its two ends. -/
structure Datagram where
  src : Ipv4Addr
  dst : Ipv4Addr
  sport : UInt16
  dport : UInt16
  proto : UInt8
  ported : proto = ipprotoTcp ∨ proto = ipprotoUdp

namespace Datagram

/-- A datagram of the other direction. -/
def reversed (c : Datagram) : Datagram := ⟨c.dst, c.src, c.dport, c.sport, c.proto, c.ported⟩

/-- The key of a packet that shows the ports. -/
def key (c : Datagram) : FlowKey :=
  ⟨fromNeBytes c.src, fromNeBytes c.dst, c.sport, c.dport, c.proto⟩

/-- The key of a packet that does not show them. -/
def portlessKey (c : Datagram) : FlowKey :=
  ⟨fromNeBytes c.src, fromNeBytes c.dst, 0, 0, c.proto⟩

end Datagram

/-- The place of a fragment in its datagram, in units of eight bytes. -/
def fragmentOffset (frame : Frame) (offset : ℕ) : UInt16 := wordAt frame (offset + 6) &&& 0x1fff

/-- The packet at an offset is a fragment of a datagram, or all of it.  The ports stand behind the
header of the first fragment; what is behind that of a later one is payload. -/
structure Carries (c : Datagram) (frame : Frame) (offset : ℕ) : Prop where
  version : byteAt frame offset >>> 4 = 4
  header : HasHeader frame offset
  src : (ipv4HdrAt frame offset).srcAddr = c.src
  dst : (ipv4HdrAt frame offset).dstAddr = c.dst
  proto : (ipv4HdrAt frame offset).proto = c.proto
  ports : fragmentOffset frame offset = 0 →
    offset + headerLen frame offset + 4 ≤ frame.length ∧
      portsAt frame (offset + headerLen frame offset) = (c.sport, c.dport)

/-- The packet has no options and begins its datagram. -/
def Shows (frame : Frame) (offset : ℕ) : Prop :=
  headerLen frame offset = ipv4HdrLen ∧ fragmentOffset frame offset = 0

/-- The packet has no options and is a later fragment, with four bytes at least behind its
header. -/
def Exposes (frame : Frame) (offset : ℕ) : Prop :=
  headerLen frame offset = ipv4HdrLen ∧ fragmentOffset frame offset ≠ 0 ∧
    offset + ipv4HdrLen + 4 ≤ frame.length

/-- The key of the packet at an offset, read from its own header. -/
def keyAt (frame : Frame) (offset : ℕ) : FlowKey := flowKey frame (ipv4HdrAt frame offset) offset

section Keys

variable {c : Datagram} {frame frame' : Frame} {offset : ℕ}

/-- Behind a header without options the first four bytes are read as ports. -/
lemma Carries.keyAt_of_read (h : Carries c frame offset)
    (hlen : headerLen frame offset = ipv4HdrLen) (hread : offset + ipv4HdrLen + 4 ≤ frame.length) :
    keyAt frame offset =
      { c.portlessKey with
        sport := (portsAt frame (offset + ipv4HdrLen)).1
        dport := (portsAt frame (offset + ipv4HdrLen)).2 } := by
  have hihl : (ipv4HdrAt frame offset).ihl.toNat = ipv4HdrLen := hlen
  simp [keyAt, flowKey, hihl, c.ported, loadPorts, hread, h.src, h.dst, h.proto,
    Datagram.portlessKey]

/-- A packet that shows its ports is keyed by them. -/
lemma Carries.keyAt_of_shows (h : Carries c frame offset) (hshows : Shows frame offset) :
    keyAt frame offset = c.key := by
  obtain ⟨hlen, hfirst⟩ := hshows
  obtain ⟨hread, hports⟩ := h.ports hfirst
  rw [hlen] at hread hports
  rw [h.keyAt_of_read hlen hread, hports]
  rfl

/-- A packet that shows neither ports nor payload is keyed by its addresses. -/
lemma Carries.keyAt_of_not_shows (h : Carries c frame offset) (hshows : ¬ Shows frame offset)
    (hexposes : ¬ Exposes frame offset) : keyAt frame offset = c.portlessKey := by
  by_cases hlen : headerLen frame offset = ipv4HdrLen
  · have hlater : fragmentOffset frame offset ≠ 0 := fun hfirst => hshows ⟨hlen, hfirst⟩
    have hshort : ¬ offset + ipv4HdrLen + 4 ≤ frame.length :=
      fun hread => hexposes ⟨hlen, hlater, hread⟩
    simp [keyAt, flowKey, loadPorts, hshort, h.src, h.dst, h.proto, Datagram.portlessKey]
  · have hihl : (ipv4HdrAt frame offset).ihl.toNat ≠ ipv4HdrLen := hlen
    simp [keyAt, flowKey, hihl, h.src, h.dst, h.proto, Datagram.portlessKey]

end Keys

/-! ## Payload -/

/-- The same packet but for what follows its header. -/
structure SameHeader (offset : ℕ) (frame frame' : Frame) : Prop where
  length : frame'.length = frame.length
  byteAt : ∀ i < offset + headerLen frame offset, byteAt frame' i = byteAt frame i

/-- The key of the packet does not depend on its payload: another packet with the same header that
carries the same datagram has the same key. -/
def PayloadFree (c : Datagram) (frame : Frame) (offset : ℕ) : Prop :=
  ∀ frame', SameHeader offset frame frame' → Carries c frame' offset →
    keyAt frame' offset = keyAt frame offset

section Payload

variable {c : Datagram} {frame frame' : Frame} {offset : ℕ}

/-- What a header of 20 bytes says is the same when its bytes are. -/
lemma header_congr (h : ∀ i < offset + ipv4HdrLen, byteAt frame' i = byteAt frame i) :
    ipv4HdrAt frame' offset = ipv4HdrAt frame offset ∧
      fragmentOffset frame' offset = fragmentOffset frame offset := by
  have hbyte (k : ℕ) (hk : k < 20) : byteAt frame' (offset + k) = byteAt frame (offset + k) :=
    h _ (Nat.add_lt_add_left hk offset)
  have hfirst : byteAt frame' offset = byteAt frame offset := hbyte 0 (by decide)
  simp [ipv4HdrAt, fragmentOffset, wordAt, addrAt, ipv4TosOffset, ipv4CheckOffset, add_assoc, hbyte,
    hfirst]

lemma SameHeader.header (h : SameHeader offset frame frame')
    (hc : ipv4HdrLen ≤ headerLen frame offset) :
    ipv4HdrAt frame' offset = ipv4HdrAt frame offset ∧
      fragmentOffset frame' offset = fragmentOffset frame offset :=
  header_congr fun i hi => h.byteAt i (by omega)

/-- A key that is not read from the payload is the same for every payload. -/
lemma Carries.payloadFree (h : Carries c frame offset) (hexposes : ¬ Exposes frame offset) :
    PayloadFree c frame offset := by
  intro frame' hsame h'
  obtain ⟨hheader, hfragment⟩ := hsame.header h.header.minimal
  have hlen : headerLen frame' offset = headerLen frame offset := by
    rw [headerLen, hheader, headerLen]
  by_cases hshows : Shows frame offset
  · have hshows' : Shows frame' offset := by rwa [Shows, hlen, hfragment]
    rw [h.keyAt_of_shows hshows, h'.keyAt_of_shows hshows']
  · have hshows' : ¬ Shows frame' offset := by rwa [Shows, hlen, hfragment]
    have hexposes' : ¬ Exposes frame' offset := by rwa [Exposes, hlen, hfragment, hsame.length]
    rw [h.keyAt_of_not_shows hshows hexposes, h'.keyAt_of_not_shows hshows' hexposes']

/-- The key of a later fragment without options changes with the first byte of its payload. -/
lemma Carries.not_payloadFree (h : Carries c frame offset) (hexposes : Exposes frame offset) :
    ¬ PayloadFree c frame offset := by
  obtain ⟨hlen, hlater, hread⟩ := hexposes
  intro hfree
  set other : Frame := frame.set (offset + ipv4HdrLen) (byteAt frame (offset + ipv4HdrLen) + 1)
    with hother
  have hbytes : ∀ i < offset + ipv4HdrLen, byteAt other i = byteAt frame i :=
    fun i hi => byteAt_set_of_ne _ (by omega)
  have hlength : other.length = frame.length := List.length_set
  obtain ⟨hheader, hfragment⟩ := header_congr hbytes
  have hlen' : headerLen other offset = headerLen frame offset := by
    rw [headerLen, hheader, headerLen]
  have hsame : SameHeader offset frame other := ⟨hlength, by rwa [hlen]⟩
  have hcarries : Carries c other offset := by
    refine ⟨?_, ?_, ?_, ?_, ?_, fun hfirst => ?_⟩
    · rw [hbytes offset (Nat.lt_add_of_pos_right (by decide))]
      exact h.version
    · exact ⟨hlen' ▸ h.header.minimal, by rw [hlen', hlength]; exact h.header.inRange⟩
    · rw [hheader]
      exact h.src
    · rw [hheader]
      exact h.dst
    · rw [hheader]
      exact h.proto
    · exact absurd (hfragment ▸ hfirst) hlater
  have hkey := congrArg FlowKey.sport (hfree other hsame hcarries)
  rw [hcarries.keyAt_of_read (hlen'.trans hlen) (hlength ▸ hread),
    h.keyAt_of_read hlen hread] at hkey
  -- the high byte of what is taken for the source port
  have hnat := congrArg UInt16.toNat hkey
  simp only [portsAt, toNat_fromBeBytes] at hnat
  have hset : byteAt other (offset + ipv4HdrLen) = byteAt frame (offset + ipv4HdrLen) + 1 :=
    byteAt_set _ (by omega)
  have hnext : byteAt other (offset + ipv4HdrLen + 1) = byteAt frame (offset + ipv4HdrLen + 1) :=
    byteAt_set_of_ne _ (by omega)
  rw [hset, hnext, UInt8.toNat_add] at hnat
  have hone : (1 : UInt8).toNat = 1 := rfl
  have hlt := (byteAt frame (offset + ipv4HdrLen)).toNat_lt
  omega

end Payload

/-! ## The two directions -/

/-- Egress looks an answer up under the key that ingress recorded its arrival under, so that it
finds the DSCP that was recorded, and neither key is read from payload. -/
structure SameFlow (c : Datagram) (arrival answer : Frame) (l2 : ℕ) : Prop where
  agree : tcFlowKey answer (ipv4HdrAt answer l2) l2 =
    (xdpFlowKey arrival (ipv4HdrAt arrival ethHdrLen)).reversed
  found : ∀ (orig : OrigDscp) (dscp : UInt8),
    (orig.insert (xdpFlowKey arrival (ipv4HdrAt arrival ethHdrLen)).reversed dscp).lookup
      (tcFlowKey answer (ipv4HdrAt answer l2) l2) = some dscp
  arrival : PayloadFree c arrival ethHdrLen
  answer : PayloadFree c.reversed answer l2

lemma Datagram.key_eq_portlessKey_iff {c : Datagram} :
    c.key = c.portlessKey ↔ c.sport = 0 ∧ c.dport = 0 := by
  simp [Datagram.key, Datagram.portlessKey]

/-- **The keys of the two directions fit together exactly if** no packet is a later fragment that
exposes its payload, and both packets show their ports or both do not, or the ports are zero. -/
theorem sameFlow_iff {c : Datagram} {arrival answer : Frame} {l2 : ℕ}
    (harrival : Carries c arrival ethHdrLen) (hanswer : Carries c.reversed answer l2) :
    SameFlow c arrival answer l2 ↔
      ¬ Exposes arrival ethHdrLen ∧ ¬ Exposes answer l2 ∧
        ((Shows arrival ethHdrLen ↔ Shows answer l2) ∨ c.sport = 0 ∧ c.dport = 0) := by
  have hagree (hp : ¬ Exposes arrival ethHdrLen) (hq : ¬ Exposes answer l2) :
      keyAt answer l2 = (keyAt arrival ethHdrLen).reversed ↔
        ((Shows arrival ethHdrLen ↔ Shows answer l2) ∨ c.sport = 0 ∧ c.dport = 0) := by
    rw [← Datagram.key_eq_portlessKey_iff]
    by_cases hsp : Shows arrival ethHdrLen <;> by_cases hsq : Shows answer l2
    · rw [harrival.keyAt_of_shows hsp, hanswer.keyAt_of_shows hsq]
      exact iff_of_true rfl (Or.inl (iff_of_true hsp hsq))
    · rw [harrival.keyAt_of_shows hsp, hanswer.keyAt_of_not_shows hsq hq]
      -- the arrival is keyed with the ports, the answer without
      show c.portlessKey.reversed = c.key.reversed ↔ _
      rw [FlowKey.reversed_inj, eq_comm]
      exact (or_iff_right fun h => hsq (h.mp hsp)).symm
    · rw [harrival.keyAt_of_not_shows hsp hp, hanswer.keyAt_of_shows hsq]
      show c.key.reversed = c.portlessKey.reversed ↔ _
      rw [FlowKey.reversed_inj]
      exact (or_iff_right fun h => hsp (h.mpr hsq)).symm
    · rw [harrival.keyAt_of_not_shows hsp hp, hanswer.keyAt_of_not_shows hsq hq]
      exact iff_of_true rfl (Or.inl (iff_of_false hsp hsq))
  constructor
  · intro h
    have hp : ¬ Exposes arrival ethHdrLen := fun he => harrival.not_payloadFree he h.arrival
    have hq : ¬ Exposes answer l2 := fun he => hanswer.not_payloadFree he h.answer
    exact ⟨hp, hq, (hagree hp hq).mp h.agree⟩
  · rintro ⟨hp, hq, hports⟩
    have hkey : tcFlowKey answer (ipv4HdrAt answer l2) l2 =
        (xdpFlowKey arrival (ipv4HdrAt arrival ethHdrLen)).reversed := (hagree hp hq).mpr hports
    refine ⟨hkey, fun orig dscp => ?_, harrival.payloadFree hp, hanswer.payloadFree hq⟩
    rw [hkey]
    exact AList.lookup_insert orig

/-! ## Options on one side, and a later fragment -/

/-- The datagram of `request`. -/
def requestDatagram : Datagram where
  src := ⟨10, 0, 0, 9⟩
  dst := ⟨110, 0, 0, 1⟩
  sport := 4096
  dport := 53
  proto := ipprotoUdp
  ported := Or.inr rfl

/-- The request with four bytes of options. -/
def optionedRequest : Frame :=
  List.replicate 12 0 ++ [0x08, 0x00] ++
    [0x46, 0, 0, 32, 0, 0, 0, 0, 64, 17, 0, 0] ++ [10, 0, 0, 9, 110, 0, 0, 1] ++ [1, 1, 1, 1] ++
    [16, 0, 0, 53] ++ [0, 8, 0, 0]

/-- A later fragment of the request. -/
def laterFragment : Frame :=
  List.replicate 12 0 ++ [0x08, 0x00] ++
    [0x45, 0, 0, 28, 0, 0, 0, 1, 64, 17, 0, 0] ++ [10, 0, 0, 9, 110, 0, 0, 1] ++
    [1, 2, 3, 4, 5, 6, 7, 8]

lemma reply_carries : Carries requestDatagram.reversed (reply 28) ethHdrLen := by
  refine ⟨by decide, ⟨by decide, by decide⟩, by decide, by decide, by decide, fun _ => by decide⟩

/-- **The keys of the two directions differ** where one packet has options and the other has not,
and a later fragment is keyed by its payload. -/
theorem keys_differ :
    Carries requestDatagram optionedRequest ethHdrLen ∧
      Carries requestDatagram laterFragment ethHdrLen ∧
      Carries requestDatagram.reversed (reply 28) ethHdrLen ∧
      ¬ SameFlow requestDatagram optionedRequest (reply 28) ethHdrLen ∧
      ¬ SameFlow requestDatagram laterFragment (reply 28) ethHdrLen ∧
      ¬ PayloadFree requestDatagram laterFragment ethHdrLen := by
  have hlater : Carries requestDatagram laterFragment ethHdrLen := by
    refine ⟨by decide, ⟨by decide, by decide⟩, by decide, by decide, by decide, fun h => ?_⟩
    exact absurd h (by decide)
  have hexposes : Exposes laterFragment ethHdrLen := ⟨by decide, by decide, by decide⟩
  refine ⟨?_, hlater, reply_carries, fun h => ?_, fun h => ?_, hlater.not_payloadFree hexposes⟩
  · refine ⟨by decide, ⟨by decide, by decide⟩, by decide, by decide, by decide, fun _ => by decide⟩
  · exact absurd h.agree (by decide)
  · exact absurd h.agree (by decide)

/-- A request and its answer, both without options and whole, have reversed keys. -/
theorem request_and_reply_agree :
    SameFlow requestDatagram (request 40) (reply 28) ethHdrLen ∧
      tcFlowKey (reply 28) (ipv4HdrAt (reply 28) ethHdrLen) ethHdrLen =
        (xdpFlowKey (request 40) (ipv4HdrAt (request 40) ethHdrLen)).reversed := by
  have hflow : SameFlow requestDatagram (request 40) (reply 28) ethHdrLen := by
    refine (sameFlow_iff ⟨by decide, ⟨by decide, by decide⟩, by decide, by decide, by decide,
      fun _ => by decide⟩ reply_carries).mpr ⟨fun h => ?_, fun h => ?_, Or.inl ?_⟩
    · exact absurd h.2.1 (by decide)
    · exact absurd h.2.1 (by decide)
    · exact iff_of_true ⟨by decide, by decide⟩ ⟨by decide, by decide⟩
  exact ⟨hflow, hflow.agree⟩

end Dumbarp.Ebpf
