/-
Stamping on ingress and restoring on egress (`try_stamp` and `try_terminate` in
`dumbarp-ebpf/src/main.rs`).

The ingress program stamps the id of its interface on the packets for an address it answers for
and records the DSCP they came with, under the flow of the answers.  The egress program puts the
recorded DSCP back on packets that carry the id.  The two share the map `ORIG_DSCP`, which holds,
for each flow, the DSCP of the latest arrival that did *not* carry the id already: such an
arrival is not recorded.  So the pair is transparent exactly as long as no packet leaves in
answer to an arrival that carried the id of its own accord.

Runs are listed newest packet first.
-/
import Dumbarp.Ebpf.Frame
import Dumbarp.Lib.HashMap

namespace Dumbarp.Ebpf

/-! ## The code -/

/-- The maps that userspace fills. -/
structure Maps where
  arpTable : HashMap ArpKey Mac
  dscpId : HashMap UInt32 UInt8
  l2Len : HashMap UInt32 UInt8

/-- `ORIG_DSCP`.  Its inserts succeed, and it evicts nothing. -/
abbrev OrigDscp : Type := HashMap FlowKey UInt8

/-- `try_stamp`: the frame, which is passed on in every case, and the map it leaves. -/
def tryStamp (maps : Maps) (ifindex : UInt32) (frame : Frame) (orig : OrigDscp) :
    Frame × OrigDscp :=
  match maps.dscpId.lookup ifindex with
  | none => (frame, orig)
  | some id =>
    if id ≠ 0 ∧ id ≤ dscpIdMax then
      match loadIpv4Hdr frame ethHdrLen with
      | none => (frame, orig)
      | some ip =>
        if ⟨ifindex, fromNeBytes ip.dstAddr⟩ ∉ maps.arpTable then (frame, orig)
        else
          let newTos := tosWithDscp ip.tos id
          -- a packet that carries the id already is passed on unrecorded
          if newTos = ip.tos then (frame, orig)
          else
            let key := xdpFlowKey frame ip
            (stampTos frame ip newTos, orig.insert key.reversed (ip.tos >>> 2))
    else (frame, orig)

/-- `l2_len`: the stored length, normalised to one of two. -/
def l2Len (maps : Maps) (ifindex : UInt32) : Option ℕ :=
  match maps.l2Len.lookup ifindex with
  | some len => if len = 0 then some 0 else some ethHdrLen
  | none => none

/-- `try_terminate`: the packet as it leaves. -/
def tryTerminate (maps : Maps) (ifindex protocol : UInt32) (skb : Frame) (orig : OrigDscp) :
    Frame :=
  if protocol ≠ etherTypeIpv4 then skb
  else
    match maps.dscpId.lookup ifindex with
    | none => skb
    | some ourId =>
      if ourId = 0 then skb
      else
        match l2Len maps ifindex with
        | none => skb
        | some l2 =>
          match loadIpv4Hdr skb l2 with
          | none => skb
          | some ip =>
            if ip.tos >>> 2 ≠ ourId then skb
            else
              let key := tcFlowKey skb ip l2
              -- a flow that nothing was recorded for gets zero
              let restored := (orig.lookup key).getD 0
              let newTos := tosWithDscp ip.tos restored
              if newTos = ip.tos then skb else terminateTos skb ip l2 newTos

/-! ## Packets -/

/-- The packet at an offset is IPv4 without options, not a fragment, and its ports, if it has
any, are in range. -/
structure Plain (frame : Frame) (offset : ℕ) : Prop where
  header : offset + ipv4HdrLen ≤ frame.length
  version : byteAt frame offset >>> 4 = 4
  noOptions : (ipv4HdrAt frame offset).ihl.toNat = ipv4HdrLen
  unfragmented : byteAt frame (offset + 6) &&& 0x3f = 0 ∧ byteAt frame (offset + 7) = 0
  ports : (ipv4HdrAt frame offset).proto = ipprotoTcp ∨
    (ipv4HdrAt frame offset).proto = ipprotoUdp → offset + ipv4HdrLen + 4 ≤ frame.length

/-- The DSCP of the packet at an offset. -/
def dscpAt (frame : Frame) (offset : ℕ) : UInt8 := tosAt frame offset >>> 2

/-- The ECN bits of the packet at an offset. -/
def ecnAt (frame : Frame) (offset : ℕ) : UInt8 := tosAt frame offset &&& 0x03

/-- The flow of the packet at an offset: its addresses, its ports if it is TCP or UDP, and its
protocol. -/
def flowAt (frame : Frame) (offset : ℕ) : FlowKey :=
  let ip := ipv4HdrAt frame offset
  let ports :=
    if ip.proto = ipprotoTcp ∨ ip.proto = ipprotoUdp then portsAt frame (offset + ipv4HdrLen)
    else (0, 0)
  ⟨fromNeBytes ip.srcAddr, fromNeBytes ip.dstAddr, ports.1, ports.2, ip.proto⟩

/-- The packet is for an address that the interface answers for. -/
def Addressed (maps : Maps) (ifindex : UInt32) (frame : Frame) : Prop :=
  (⟨ifindex, fromNeBytes (ipv4HdrAt frame ethHdrLen).dstAddr⟩ : ArpKey) ∈ maps.arpTable

instance (maps : Maps) (ifindex : UInt32) (frame : Frame) :
    Decidable (Addressed maps ifindex frame) :=
  inferInstanceAs (Decidable ((_ : ArpKey) ∈ maps.arpTable))

/-- An interface with an id in range and a length of its link-layer header. -/
structure Interface (maps : Maps) (ifindex : UInt32) (id : UInt8) (l2 : ℕ) : Prop where
  dscpId : maps.dscpId.lookup ifindex = some id
  ne_zero : id ≠ 0
  le_max : id ≤ dscpIdMax
  l2Len : l2Len maps ifindex = some l2

section Packet

variable {maps : Maps} {ifindex : UInt32} {id : UInt8} {l2 : ℕ} {frame : Frame} {orig : OrigDscp}

lemma Plain.load {offset : ℕ} (h : Plain frame offset) :
    loadIpv4Hdr frame offset = some (ipv4HdrAt frame offset) := by
  simp [loadIpv4Hdr, h.header]

/-- Both programs key a plain packet by its flow. -/
lemma Plain.flowKey_eq {offset : ℕ} (h : Plain frame offset) :
    flowKey frame (ipv4HdrAt frame offset) offset = flowAt frame offset := by
  by_cases hp : (ipv4HdrAt frame offset).proto = ipprotoTcp ∨
      (ipv4HdrAt frame offset).proto = ipprotoUdp
  · simp [flowKey, flowAt, hp, h.noOptions, loadPorts, h.ports hp]
  · simp [flowKey, flowAt, hp]

/-- **What ingress does to a plain packet.** -/
lemma tryStamp_plain (hi : Interface maps ifindex id l2) (h : Plain frame ethHdrLen) :
    tryStamp maps ifindex frame orig =
      if Addressed maps ifindex frame ∧ dscpAt frame ethHdrLen ≠ id then
        (stampTos frame (ipv4HdrAt frame ethHdrLen) (tosWithDscp (tosAt frame ethHdrLen) id),
          orig.insert (flowAt frame ethHdrLen).reversed (dscpAt frame ethHdrLen))
      else (frame, orig) := by
  have hid : id ≠ 0 ∧ id ≤ dscpIdMax := ⟨hi.ne_zero, hi.le_max⟩
  have htos : (ipv4HdrAt frame ethHdrLen).tos = tosAt frame ethHdrLen := rfl
  simp only [tryStamp, hi.dscpId, h.load, hid, and_self, not_false_eq_true, ne_eq, if_true]
  by_cases ha : Addressed maps ifindex frame
  · have ha' : (⟨ifindex, fromNeBytes (ipv4HdrAt frame ethHdrLen).dstAddr⟩ : ArpKey)
        ∈ maps.arpTable := ha
    simp only [ha, ha', not_true_eq_false, if_false, true_and, htos,
      tosWithDscp_eq_self_iff hi.le_max]
    by_cases hd : dscpAt frame ethHdrLen = id
    · have hd' : tosAt frame ethHdrLen >>> 2 = id := hd
      simp [hd, hd']
    · have hd' : ¬ tosAt frame ethHdrLen >>> 2 = id := hd
      simp only [hd, hd', if_false, not_false_eq_true, if_true]
      rw [xdpFlowKey, h.flowKey_eq]
      rfl
  · have ha' : (⟨ifindex, fromNeBytes (ipv4HdrAt frame ethHdrLen).dstAddr⟩ : ArpKey)
        ∉ maps.arpTable := ha
    simp [ha, ha']

/-- **What egress does to a plain packet.** -/
lemma tryTerminate_plain (hi : Interface maps ifindex id l2) (h : Plain frame l2) :
    tryTerminate maps ifindex etherTypeIpv4 frame orig =
      let newTos := tosWithDscp (tosAt frame l2) ((orig.lookup (flowAt frame l2)).getD 0)
      if dscpAt frame l2 ≠ id ∨ newTos = tosAt frame l2 then frame
      else terminateTos frame (ipv4HdrAt frame l2) l2 newTos := by
  have htos : (ipv4HdrAt frame l2).tos = tosAt frame l2 := rfl
  have hkey : tcFlowKey frame (ipv4HdrAt frame l2) l2 = flowAt frame l2 := h.flowKey_eq
  simp only [tryTerminate, hi.dscpId, hi.l2Len, h.load, hi.ne_zero, ne_eq, not_true_eq_false,
    if_false, htos]
  by_cases hd : dscpAt frame l2 = id
  · have hd' : tosAt frame l2 >>> 2 = id := hd
    simp only [hd, hd', not_true_eq_false, if_false, false_or]
    rw [hkey]
  · have hd' : ¬ tosAt frame l2 >>> 2 = id := hd
    simp [hd, hd']

/-- The packet that egress restores carries the recorded DSCP. -/
lemma dscpAt_tryTerminate (hi : Interface maps ifindex id l2) (h : Plain frame l2)
    (hd : dscpAt frame l2 = id) (hr : (orig.lookup (flowAt frame l2)).getD 0 ≤ dscpIdMax) :
    dscpAt (tryTerminate maps ifindex etherTypeIpv4 frame orig) l2
      = (orig.lookup (flowAt frame l2)).getD 0 := by
  rw [tryTerminate_plain hi h]
  simp only [hd, ne_eq, not_true_eq_false, false_or]
  split
  · rename_i heq
    exact (tosWithDscp_eq_self_iff hr).mp heq
  · rw [dscpAt, tosAt_terminateTos _ _ h.header, tosWithDscp_dscp _ hr]

lemma ecnAt_tryTerminate (hi : Interface maps ifindex id l2) (h : Plain frame l2) :
    ecnAt (tryTerminate maps ifindex etherTypeIpv4 frame orig) l2 = ecnAt frame l2 := by
  rw [tryTerminate_plain hi h]
  simp only
  split
  · rfl
  · rw [ecnAt, tosAt_terminateTos _ _ h.header, tosWithDscp_ecn, ecnAt]

lemma tryTerminate_other (hi : Interface maps ifindex id l2) (h : Plain frame l2)
    (hd : dscpAt frame l2 ≠ id) : tryTerminate maps ifindex etherTypeIpv4 frame orig = frame := by
  rw [tryTerminate_plain hi h]
  simp [hd]

lemma ecnAt_tryStamp (hi : Interface maps ifindex id l2) (h : Plain frame ethHdrLen) :
    ecnAt (tryStamp maps ifindex frame orig).1 ethHdrLen = ecnAt frame ethHdrLen := by
  rw [tryStamp_plain hi h]
  split
  · rw [ecnAt, tosAt_stampTos _ _ h.header, tosWithDscp_ecn, ecnAt]
  · rfl

end Packet

/-! ## Runs -/

/-- A packet that comes in or goes out on the interface. -/
inductive Event where
  | ingress (frame : Frame)
  | egress (skb : Frame)
deriving DecidableEq, Repr

/-- One packet: the frame as it is passed on, and the map it leaves. -/
def step (maps : Maps) (ifindex : UInt32) (orig : OrigDscp) : Event → Frame × OrigDscp
  | .ingress frame => tryStamp maps ifindex frame orig
  | .egress skb => (tryTerminate maps ifindex etherTypeIpv4 skb orig, orig)

/-- `ORIG_DSCP` after a run from the load of the programs. -/
def origAfter (maps : Maps) (ifindex : UInt32) : List Event → OrigDscp
  | [] => ∅
  | event :: older => (step maps ifindex (origAfter maps ifindex older) event).2

/-- The DSCP that the latest packet for an address of the interface carried when it arrived,
among the packets of the flow that `key` answers. -/
def lastArrival (maps : Maps) (ifindex : UInt32) (key : FlowKey) : List Event → Option UInt8
  | [] => none
  | .ingress frame :: older =>
    if Addressed maps ifindex frame ∧ (flowAt frame ethHdrLen).reversed = key then
      some (dscpAt frame ethHdrLen)
    else lastArrival maps ifindex key older
  | .egress _ :: older => lastArrival maps ifindex key older

/-- The packets of a run are plain. -/
def AllPlain (l2 : ℕ) (run : List Event) : Prop :=
  ∀ event ∈ run, match event with
    | .ingress frame => Plain frame ethHdrLen
    | .egress skb => Plain skb l2

/-- The packet leaves as if it had not been tagged on the way: with the id of the interface, it
gets the DSCP of the latest arrival it answers; with another DSCP it is not touched.  The ECN bits
stay in both directions. -/
def Transparent (maps : Maps) (ifindex : UInt32) (id : UInt8) (l2 : ℕ) (event : Event)
    (older : List Event) : Prop :=
  match event, (step maps ifindex (origAfter maps ifindex older) event).1 with
  | .ingress frame, out => ecnAt out ethHdrLen = ecnAt frame ethHdrLen
  | .egress skb, out =>
    (dscpAt skb l2 = id →
      dscpAt out l2 = (lastArrival maps ifindex (flowAt skb l2) older).getD 0) ∧
    (dscpAt skb l2 ≠ id → out = skb) ∧
    ecnAt out l2 = ecnAt skb l2

section Run

variable {maps : Maps} {ifindex : UInt32} {id : UInt8} {l2 : ℕ}

/-- The DSCP of the latest arrival that did not carry the id. -/
def lastRecorded (maps : Maps) (ifindex : UInt32) (id : UInt8) (key : FlowKey) :
    List Event → Option UInt8
  | [] => none
  | .ingress frame :: older =>
    if (Addressed maps ifindex frame ∧ dscpAt frame ethHdrLen ≠ id) ∧
        (flowAt frame ethHdrLen).reversed = key then
      some (dscpAt frame ethHdrLen)
    else lastRecorded maps ifindex id key older
  | .egress _ :: older => lastRecorded maps ifindex id key older

lemma AllPlain.tail {event : Event} {older : List Event} (h : AllPlain l2 (event :: older)) :
    AllPlain l2 older := fun e he => h e (List.mem_cons_of_mem _ he)

/-- **The map holds the latest recorded DSCP of each flow.** -/
lemma lookup_origAfter (hi : Interface maps ifindex id l2) (key : FlowKey) :
    ∀ {run : List Event}, AllPlain l2 run →
      (origAfter maps ifindex run).lookup key = lastRecorded maps ifindex id key run
  | [], _ => rfl
  | .ingress frame :: older, h => by
    have ih := lookup_origAfter hi key h.tail
    have hp : Plain frame ethHdrLen := h (.ingress frame) List.mem_cons_self
    rw [origAfter, step, tryStamp_plain hi hp, lastRecorded]
    -- the frame is stamped and recorded, or passed on as it is
    by_cases hrec : Addressed maps ifindex frame ∧ dscpAt frame ethHdrLen ≠ id
    · rw [if_pos hrec]
      by_cases hkey : (flowAt frame ethHdrLen).reversed = key
      · subst hkey
        simp [hrec]
      · rw [if_neg fun hc => hkey hc.2]
        simp only
        rw [AList.lookup_insert_ne (Ne.symm hkey), ih]
    · rw [if_neg hrec, if_neg fun hc => hrec hc.1]
      exact ih
  | .egress skb :: older, h => by
    have ih := lookup_origAfter hi key h.tail
    rwa [origAfter, lastRecorded]

/-- What is recorded is a DSCP, and not the id. -/
lemma lastRecorded_ne {key : FlowKey} {d : UInt8} :
    ∀ {run : List Event}, lastRecorded maps ifindex id key run = some d → d ≠ id ∧ d ≤ dscpIdMax
  | [], h => by cases h
  | .ingress frame :: older, h => by
    rw [lastRecorded] at h
    split at h
    · rename_i hrec
      obtain rfl := Option.some.inj h
      exact ⟨hrec.1.2, shiftRight_two_le _⟩
    · exact lastRecorded_ne h
  | .egress skb :: older, h => by
    rw [lastRecorded] at h
    exact lastRecorded_ne h

/-- The recorded DSCP is that of the latest arrival, unless that carried the id. -/
lemma lastRecorded_eq_lastArrival {key : FlowKey} :
    ∀ {run : List Event}, lastArrival maps ifindex key run ≠ some id →
      lastRecorded maps ifindex id key run = lastArrival maps ifindex key run
  | [], _ => rfl
  | .ingress frame :: older, h => by
    rw [lastArrival] at h ⊢
    rw [lastRecorded]
    by_cases ha : Addressed maps ifindex frame ∧ (flowAt frame ethHdrLen).reversed = key
    · rw [if_pos ha] at h ⊢
      rw [if_pos ⟨⟨ha.1, fun hd => h (by rw [hd])⟩, ha.2⟩]
    · rw [if_neg ha] at h ⊢
      rw [if_neg fun hc => ha ⟨hc.1.1, hc.2⟩]
      exact lastRecorded_eq_lastArrival h
  | .egress skb :: older, h => by
    rw [lastArrival] at h ⊢
    rw [lastRecorded]
    exact lastRecorded_eq_lastArrival h

/-- What the map holds for a flow, or zero, is a DSCP other than the id. -/
lemma recorded_ne (hi : Interface maps ifindex id l2) (key : FlowKey) {run : List Event}
    (h : AllPlain l2 run) :
    ((origAfter maps ifindex run).lookup key).getD 0 ≠ id ∧
      ((origAfter maps ifindex run).lookup key).getD 0 ≤ dscpIdMax := by
  rw [lookup_origAfter hi key h]
  cases hr : lastRecorded maps ifindex id key run with
  | none => exact ⟨hi.ne_zero.symm, by decide⟩
  | some d => exact lastRecorded_ne hr

/-- **One packet is transparent** iff it does not answer an arrival that carried the id. -/
theorem transparent_iff (hi : Interface maps ifindex id l2) {event : Event} {older : List Event}
    (h : AllPlain l2 (event :: older)) :
    Transparent maps ifindex id l2 event older ↔
      ∀ skb, event = .egress skb → dscpAt skb l2 = id →
        lastArrival maps ifindex (flowAt skb l2) older ≠ some id := by
  cases event with
  | ingress frame =>
    have hp : Plain frame ethHdrLen := h (.ingress frame) List.mem_cons_self
    refine ⟨fun _ skb hskb => (nomatch hskb), fun _ => ecnAt_tryStamp hi hp⟩
  | egress skb =>
    have hp : Plain skb l2 := h (.egress skb) List.mem_cons_self
    obtain ⟨hne, hle⟩ := recorded_ne hi (flowAt skb l2) h.tail
    simp only [Event.egress.injEq, forall_eq']
    constructor
    · -- what leaves is not the id, so neither did the latest arrival carry it
      rintro ⟨hdscp, -, -⟩ hd hlast
      have hout := hdscp hd
      rw [hlast, step, dscpAt_tryTerminate hi hp hd hle] at hout
      exact hne hout
    · intro hlast
      refine ⟨fun hd => ?_, tryTerminate_other hi hp, ecnAt_tryTerminate hi hp⟩
      rw [step, dscpAt_tryTerminate hi hp hd hle, lookup_origAfter hi _ h.tail,
        lastRecorded_eq_lastArrival (hlast hd)]

/-- **Stamping and restoring are transparent** throughout a run iff no packet leaves with the id
in answer to an arrival that carried the id when it came. -/
theorem stamping_transparent_iff (hi : Interface maps ifindex id l2) {run : List Event}
    (h : AllPlain l2 run) :
    (∀ later event older, run = later ++ event :: older →
        Transparent maps ifindex id l2 event older) ↔
      ∀ later skb older, run = later ++ .egress skb :: older → dscpAt skb l2 = id →
        lastArrival maps ifindex (flowAt skb l2) older ≠ some id := by
  have hplain : ∀ later event older, run = later ++ event :: older →
      AllPlain l2 (event :: older) := by
    rintro later event older rfl e he
    exact h e (List.mem_append_right _ he)
  constructor
  · intro hall later skb older hsplit
    exact (transparent_iff hi (hplain _ _ _ hsplit)).mp (hall _ _ _ hsplit) skb rfl
  · intro hall later event older hsplit
    refine (transparent_iff hi (hplain _ _ _ hsplit)).mpr ?_
    rintro skb rfl
    exact hall _ _ _ hsplit

end Run

/-! ## A flow through a tagged interface -/

/-- An interface with id 7 that answers for 110.0.0.1. -/
def taggedMaps : Maps where
  arpTable := AList.insert ⟨3, fromNeBytes ⟨110, 0, 0, 1⟩⟩ ⟨2, 0, 0, 0, 0, 1⟩ ∅
  dscpId := AList.insert 3 7 ∅
  l2Len := AList.insert 3 14 ∅

lemma taggedMaps_interface : Interface taggedMaps 3 7 ethHdrLen :=
  ⟨by decide, by decide, by decide, by decide⟩

/-- An Ethernet frame with a UDP datagram. -/
def udpFrame (tos : UInt8) (addrs ports : List UInt8) : Frame :=
  List.replicate 12 0 ++ [0x08, 0x00] ++
    [0x45, tos, 0, 28, 0, 0, 0, 0, 64, 17, 0, 0] ++ addrs ++ ports ++ [0, 8, 0, 0]

/-- A datagram to the address of the interface. -/
def request (tos : UInt8) : Frame := udpFrame tos [10, 0, 0, 9, 110, 0, 0, 1] [16, 0, 0, 53]

/-- A datagram in answer to it. -/
def reply (tos : UInt8) : Frame := udpFrame tos [110, 0, 0, 1, 10, 0, 0, 9] [0, 53, 16, 0]

/-- A frame with a header without options that is no fragment is plain, if it has room for the
ports. -/
lemma plain_of_header {frame : Frame} (hlen : ethHdrLen + ipv4HdrLen + 4 ≤ frame.length)
    (hvihl : byteAt frame ethHdrLen = 0x45) (hfrag : byteAt frame (ethHdrLen + 6) = 0)
    (hfrag' : byteAt frame (ethHdrLen + 7) = 0) : Plain frame ethHdrLen where
  header := by omega
  version := by rw [hvihl]; decide
  noOptions := by
    have : (ipv4HdrAt frame ethHdrLen).vihl = 0x45 := hvihl
    rw [Ipv4Hdr.ihl, this]
    decide
  unfragmented := by
    rw [hfrag, hfrag']
    decide
  ports _ := hlen

lemma request_plain (tos : UInt8) : Plain (request tos) ethHdrLen :=
  plain_of_header (Nat.le_of_ble_eq_true rfl) rfl rfl rfl

lemma reply_plain (tos : UInt8) : Plain (reply tos) ethHdrLen :=
  plain_of_header (Nat.le_of_ble_eq_true rfl) rfl rfl rfl

/-- A request and its answer, which carries the id. -/
def exchange (tos : UInt8) : List Event := [.egress (reply 28), .ingress (request tos)]

lemma exchange_plain (tos : UInt8) : AllPlain ethHdrLen (exchange tos) := by
  intro event he
  simp only [exchange, List.mem_cons, List.not_mem_nil, or_false] at he
  rcases he with rfl | rfl
  · exact reply_plain 28
  · exact request_plain tos

/-- **An arrival that carries the id is lost**: its DSCP is not put back on the answer. -/
theorem arrival_with_id_is_lost :
    ¬ ∀ (maps : Maps) (ifindex : UInt32) (id : UInt8) (l2 : ℕ) (run : List Event),
      Interface maps ifindex id l2 → AllPlain l2 run →
        ∀ later event older, run = later ++ event :: older →
          Transparent maps ifindex id l2 event older := by
  intro hall
  have h := hall taggedMaps 3 7 ethHdrLen (exchange 28) taggedMaps_interface (exchange_plain 28)
    [] (.egress (reply 28)) [.ingress (request 28)] rfl
  have hdscp := h.1 (by decide)
  revert hdscp
  decide

/-- An arrival with another DSCP gets it back on its answer. -/
theorem stamping_transparent_exchange :
    Transparent taggedMaps 3 7 ethHdrLen (.egress (reply 28)) [.ingress (request 40)] := by
  refine (stamping_transparent_iff taggedMaps_interface (exchange_plain 40)).mpr ?_ [] _ _ rfl
  rintro later skb older hsplit -
  cases later with
  | nil =>
    obtain ⟨hskb, rfl⟩ := List.cons.inj hsplit
    cases hskb
    decide
  | cons a later =>
    obtain ⟨-, hrest⟩ := List.cons.inj hsplit
    cases later with
    | nil => cases hrest
    | cons b later => simp at hrest

end Dumbarp.Ebpf
