/-
The packets that pass through the programs of `dumbarpd`, beside its tasks.

The programs run for every packet, also while a task is halfway through an attach or a detach.  They
share `ORIG_DSCP` over all interfaces; when the map is full it evicts flows, and it may refuse an
insert, which the ingress program ignores.  Whatever becomes of its entries, the id of the daemon
stays inside: no packet leaves with it where the egress program finds its maps.
-/
import Dumbarp.Daemon.Plane
import Dumbarp.Ebpf.Checksum

namespace Dumbarp.Daemon

open Interact Interact.Prog Engine Ebpf Tasks

/-! ## The run -/

/-- **What the programs may find in the kernel** while the daemon is in the state `d`: what the last
step left, or what a part of the section leaves that a task has begun. -/
inductive Finds {cfg : Config} (d : Dumbarpd cfg) : Host → Prop
  | settled : Finds d d.shared.host
  | attaching {i : Fin cfg.ifaces.length} {info : LeaseInfo} {q host}
      (hphase : (d.task i).phase = .attach info)
      (hmid : Midway HostStep (reattach d.shared.engine (cfg.ifaces.get i) info.ip cfg.dscpId)
        d.shared.host q host) : Finds d host
  | detaching {i : Fin cfg.ifaces.length} {second : Bool} {q host}
      (hphase : (d.task i).phase = .detach second)
      (hmid : Midway HostStep (removeInterface d.shared.engine (cfg.ifaces.get i)) d.shared.host q
        host) : Finds d host

/-- A packet that came in, with the maps that the ingress program found. -/
structure Arrival where
  maps : Maps
  ifindex : UInt32
  frame : Frame

/-- **The runs of a daemon with its packets**: the arrivals, newest first, its tasks, and what the
programs have recorded.  Packets that leave change none of these. -/
inductive Traffic (cfg : Config) : List Arrival → Dumbarpd cfg → OrigDscp → Prop
  | start : Traffic cfg [] (spawnAll cfg) ∅
  | turn {log d d' orig} (h : Traffic cfg log d orig)
      (hturn : Turn (fun i => OwnIndexStep cfg.dscpId (cfg.ifaces.get i)) d d') :
      Traffic cfg log d' orig
  | arrives {log d orig host} (h : Traffic cfg log d orig) (hfinds : Finds d host)
      (ifindex : UInt32) (frame : Frame) :
      Traffic cfg (⟨host.toMaps, ifindex, frame⟩ :: log) d
        (dumbarp host.toMaps ifindex frame orig).2.2
  /-- The map refuses the insert. -/
  | unrecorded {log d orig host} (h : Traffic cfg log d orig) (hfinds : Finds d host)
      (ifindex : UInt32) (frame : Frame) :
      Traffic cfg (⟨host.toMaps, ifindex, frame⟩ :: log) d orig
  | evicts {log d orig} (h : Traffic cfg log d orig) (flow : FlowKey) :
      Traffic cfg log d (orig.erase flow)
  /-- The maps and the links of a daemon go with it. -/
  | restarts {log d orig} (h : Traffic cfg log d orig) : Traffic cfg log (spawnAll cfg) ∅

/-! ## What is recorded -/

/-- The flow of the answers to a packet that came in, as the programs tell flows apart. -/
def Arrival.answers (a : Arrival) : FlowKey :=
  (xdpFlowKey a.frame (ipv4HdrAt a.frame ethHdrLen)).reversed

/-- **A DSCP that was brought** by a packet of the other direction of a flow, for an address that
the interface answered for. -/
def Brought (log : List Arrival) (flow : FlowKey) (dscp : UInt8) : Prop :=
  ∃ a ∈ log, Addressed a.maps a.ifindex a.frame ∧ a.answers = flow ∧
    dscpAt a.frame ethHdrLen = dscp

/-- What is recorded was brought, and is not the id. -/
def RecordsBrought (id : UInt8) (log : List Arrival) (orig : OrigDscp) : Prop :=
  ∀ flow dscp, orig.lookup flow = some dscp → Brought log flow dscp ∧ dscp ≠ id

section Records

variable {maps : Maps} {ifindex : UInt32} {frame : Frame} {orig : OrigDscp} {id : UInt8}
  {log : List Arrival}

/-- What ingress records of a frame, whatever the frame. -/
lemma tryStamp_records (maps : Maps) (ifindex : UInt32) (frame : Frame) (orig : OrigDscp) :
    (tryStamp maps ifindex frame orig).2 = orig ∨
      ∃ id, maps.dscpId.lookup ifindex = some id ∧ Addressed maps ifindex frame ∧
        dscpAt frame ethHdrLen ≠ id ∧
        (tryStamp maps ifindex frame orig).2 =
          orig.insert (Arrival.answers ⟨maps, ifindex, frame⟩) (dscpAt frame ethHdrLen) := by
  rw [tryStamp]
  cases hid : maps.dscpId.lookup ifindex with
  | none => exact Or.inl rfl
  | some id =>
    dsimp only
    split
    · rename_i hrange
      cases hload : loadIpv4Hdr frame ethHdrLen with
      | none => exact Or.inl rfl
      | some ip =>
        obtain rfl := loadIpv4Hdr_eq_some hload
        dsimp only
        split
        · exact Or.inl rfl
        · rename_i hknown
          split
          · exact Or.inl rfl
          · rename_i hother
            refine Or.inr ⟨id, rfl, not_not.mp hknown, fun hd => hother ?_, rfl⟩
            exact (tosWithDscp_eq_self_iff hrange.2).mpr hd
    · exact Or.inl rfl

/-- What the ingress program does to the map is what it does for IPv4. -/
lemma dumbarp_records (maps : Maps) (ifindex : UInt32) (frame : Frame) (orig : OrigDscp) :
    (dumbarp maps ifindex frame orig).2.2 = orig ∨
      (dumbarp maps ifindex frame orig).2.2 = (tryStamp maps ifindex frame orig).2 := by
  rw [dumbarp, tryDumbarp]
  split
  · split
    · cases tryArp maps ifindex frame <;> exact Or.inl rfl
    · split
      · exact Or.inr rfl
      · exact Or.inl rfl
  · exact Or.inl rfl

lemma RecordsBrought.more (h : RecordsBrought id log orig) (a : Arrival) :
    RecordsBrought id (a :: log) orig := by
  intro flow dscp hflow
  obtain ⟨⟨b, hb, hbrought⟩, hne⟩ := h flow dscp hflow
  exact ⟨⟨b, List.mem_cons_of_mem _ hb, hbrought⟩, hne⟩

/-- The step lemma for an arrival. -/
lemma RecordsBrought.arrives (h : RecordsBrought id log orig)
    (hids : ∀ v, maps.dscpId.lookup ifindex = some v → v = id) :
    RecordsBrought id (⟨maps, ifindex, frame⟩ :: log) (dumbarp maps ifindex frame orig).2.2 := by
  rcases dumbarp_records maps ifindex frame orig with heq | heq
  · rw [heq]
    exact h.more _
  · rw [heq]
    rcases tryStamp_records maps ifindex frame orig with heq | ⟨v, hv, haddressed, hne, heq⟩
    · rw [heq]
      exact h.more _
    · obtain rfl := hids v hv
      intro flow dscp hflow
      rw [heq] at hflow
      rcases HashMap.lookup_insert_cases hflow with ⟨rfl, rfl⟩ | hflow
      · exact ⟨⟨_, List.mem_cons_self, haddressed, rfl, rfl⟩, hne⟩
      · exact h.more _ flow dscp hflow

lemma RecordsBrought.evicts (h : RecordsBrought id log orig) (flow : FlowKey) :
    RecordsBrought id log (orig.erase flow) :=
  fun flow' dscp hflow => h flow' dscp (HashMap.lookup_of_erase hflow).2

end Records

/-! ## Runs -/

section Run

variable {cfg : Config} {d : Dumbarpd cfg} {log : List Arrival} {orig : OrigDscp} {host : Host}

/-- The tasks are where tasks alone may come to. -/
lemma Traffic.planeReachable (h : Traffic cfg log d orig) : PlaneReachable cfg d := by
  induction h with
  | start | restarts => exact Relation.ReflTransGen.refl
  | turn _ hturn ih => exact ih.tail hturn
  | arrives _ _ _ _ ih | unrecorded _ _ _ _ ih | evicts _ _ ih => exact ih

/-- Halfway through a section, too, the programs find the id of the daemon and no other. -/
lemma Finds.ids (hfinds : Finds d host) (hd : PlaneReachable cfg d) : IdsAre cfg.dscpId host := by
  have hids := hd.equipped.ids
  cases hfinds with
  | settled => exact hids
  | @attaching i info q _ hphase hmid =>
    have hmakes : Makes (StoresOnly cfg.dscpId)
        (reattach d.shared.engine (cfg.ifaces.get i) info.ip cfg.dscpId) :=
      (removeInterface_storesOnly cfg.dscpId _ _).bind fun r =>
        addInterface_storesOnly r.2 _ _ cfg.dscpId
    exact (hmakes.midway (fun _ _ _ _ hop hs hids => hids.step hop hs) hmid hids).2
  | detaching hphase hmid =>
    exact ((removeInterface_storesOnly cfg.dscpId _ _).midway
      (fun _ _ _ _ hop hs hids => hids.step hop hs) hmid hids).2

/-- The run lemma. -/
lemma Traffic.recordsBrought (h : Traffic cfg log d orig) {id : UInt8}
    (hid : cfg.dscpId = some id) : RecordsBrought id log orig := by
  induction h with
  | start | restarts => exact fun flow dscp hflow => by simp at hflow
  | turn _ _ ih => exact ih
  | arrives h hfinds ifindex frame ih =>
    refine ih.arrives fun v hv => ?_
    have hids := hfinds.ids h.planeReachable _ v hv
    exact (Option.some.inj (hid.symm.trans hids)).symm
  | unrecorded _ _ _ _ ih => exact ih.more _
  | evicts _ flow ih => exact ih.evicts flow

end Run

/-! ## Packets that leave -/

/-- **What leaves for a packet**, where the egress program knows the id and where the IP header
begins. -/
structure Leaves (id : UInt8) (log : List Arrival) (l2 : ℕ) (skb out : Frame) : Prop where
  untagged : dscpAt out l2 ≠ id
  others : dscpAt skb l2 ≠ id → out = skb
  /-- A packet that carried the id gets what was brought in the other direction, or zero. -/
  restored : dscpAt skb l2 = id → dscpAt out l2 = 0 ∨
    Brought log (tcFlowKey skb (ipv4HdrAt skb l2) l2) (dscpAt out l2)
  keeps : HasHeader skb l2 → KeepsChecksum skb out l2

section Departure

variable {maps : Maps} {ifindex : UInt32} {id : UInt8} {l2 : ℕ} {skb : Frame} {orig : OrigDscp}
  {log : List Arrival}

/-- What egress does to a packet whose header it can read. -/
lemma tryTerminate_of_header (hi : Interface maps ifindex id l2)
    (hlen : l2 + ipv4HdrLen ≤ skb.length) :
    tryTerminate maps ifindex etherTypeIpv4 skb orig =
      let newTos := tosWithDscp (tosAt skb l2)
        ((orig.lookup (tcFlowKey skb (ipv4HdrAt skb l2) l2)).getD 0)
      if dscpAt skb l2 ≠ id ∨ newTos = tosAt skb l2 then skb
      else terminateTos skb (ipv4HdrAt skb l2) l2 newTos := by
  have htos : (ipv4HdrAt skb l2).tos = tosAt skb l2 := rfl
  have hload : loadIpv4Hdr skb l2 = some (ipv4HdrAt skb l2) := if_pos hlen
  simp only [tryTerminate, hi.dscpId, hi.l2Len, hload, hi.ne_zero, ne_eq, not_true_eq_false,
    if_false, htos]
  by_cases hd : dscpAt skb l2 = id
  · have hd' : tosAt skb l2 >>> 2 = id := hd
    simp only [hd, hd', not_true_eq_false, if_false, false_or]
  · have hd' : ¬ tosAt skb l2 >>> 2 = id := hd
    simp [hd, hd']

lemma tryTerminate_leaves (hi : Interface maps ifindex id l2)
    (hlen : l2 + ipv4HdrLen ≤ skb.length) (h : RecordsBrought id log orig) :
    Leaves id log l2 skb (tryTerminate maps ifindex etherTypeIpv4 skb orig) := by
  set flow := tcFlowKey skb (ipv4HdrAt skb l2) l2 with hflow
  -- what the program puts in, recorded or not
  have hbrought : (orig.lookup flow).getD 0 ≠ id ∧
      ((orig.lookup flow).getD 0 = 0 ∨ Brought log flow ((orig.lookup flow).getD 0)) := by
    cases hlookup : orig.lookup flow with
    | none => exact ⟨hi.ne_zero.symm, Or.inl rfl⟩
    | some dscp => exact ⟨(h flow dscp hlookup).2, Or.inr (h flow dscp hlookup).1⟩
  have hle : (orig.lookup flow).getD 0 ≤ dscpIdMax := by
    rcases hbrought.2 with hzero | ⟨a, -, -, -, ha⟩
    · rw [hzero]
      exact (by decide : (0 : UInt8) ≤ dscpIdMax)
    · rw [← ha]
      exact shiftRight_two_le _
  have hout : dscpAt skb l2 = id →
      dscpAt (tryTerminate maps ifindex etherTypeIpv4 skb orig) l2 = (orig.lookup flow).getD 0 := by
    intro hd
    rw [tryTerminate_of_header hi hlen]
    simp only [hd, ne_eq, not_true_eq_false, false_or]
    split
    · rename_i heq
      exact (tosWithDscp_eq_self_iff hle).mp heq
    · rw [dscpAt, tosAt_terminateTos _ _ hlen, tosWithDscp_dscp _ hle]
  have hother : dscpAt skb l2 ≠ id → tryTerminate maps ifindex etherTypeIpv4 skb orig = skb := by
    intro hd
    rw [tryTerminate_of_header hi hlen]
    simp [hd]
  refine ⟨?_, hother, fun hd => ?_, fun hheader => ?_⟩
  · by_cases hd : dscpAt skb l2 = id
    · rw [hout hd]
      exact hbrought.1
    · rwa [hother hd]
  · rw [hout hd]
    exact hbrought.2
  · rcases tryTerminate_frame hi.l2Len etherTypeIpv4 skb orig with heq | ⟨dscp, heq⟩
    · rw [heq]
      exact keepsChecksum_refl skb l2
    · rw [heq]
      exact rewriteTos_keeps hheader dscp

end Departure

/-- **No tag leaves.**  Whatever came in and was recorded, refused or evicted, and wherever the
tasks are in attaching and detaching: a packet that leaves where the egress program finds an id and
the length of the link-layer header does not carry the id of the daemon.  If it came to the program
with the id, its DSCP is one that was brought in the other direction of its flow, or zero; if not,
it is left as it is.  And while no section is under way the program finds both on every interface
that the engine has attached. -/
theorem no_tag_leaves {cfg : Config} (hcfg : cfg.Checked) {id : UInt8} (hid : cfg.dscpId = some id)
    {log : List Arrival} {d : Dumbarpd cfg} {orig : OrigDscp} (h : Traffic cfg log d orig) :
    (∀ host ifindex l2 skb, Finds d host → ifindex ∈ host.dscpId →
      l2Len host.toMaps ifindex = some l2 → l2 + ipv4HdrLen ≤ skb.length →
        Leaves id log l2 skb (tryTerminate host.toMaps ifindex etherTypeIpv4 skb orig)) ∧
      ∀ iface a, d.shared.engine.lookup iface = some a → a.ifindex ∈ d.shared.host.dscpId ∧
        ∃ l2, l2Len d.shared.host.toMaps a.ifindex = some l2 := by
  have hrange := hcfg.dscpId hid
  refine ⟨fun host ifindex l2 skb hfinds hmem hl2 hlen => ?_, fun iface a ha => ?_⟩
  · obtain ⟨v, hv⟩ := HashMap.mem_iff_lookup.mp hmem
    obtain rfl : id = v :=
      Option.some.inj (hid.symm.trans (hfinds.ids h.planeReachable ifindex v hv))
    exact tryTerminate_leaves ⟨hv, hrange.1, hrange.2, hl2⟩ hlen (h.recordsBrought hid)
  · have hequipped := h.planeReachable.equipped
    rw [hid] at hequipped
    obtain ⟨l2, hi⟩ := interface_of_equipped hequipped ha hrange
    exact ⟨HashMap.mem_iff_lookup.mpr ⟨id, hi.dscpId⟩, l2, hi.l2Len⟩

/-! ## A packet with the id -/

/-- A run of the tasks alone is one without packets. -/
lemma PlaneReachable.traffic {cfg : Config} {d : Dumbarpd cfg} (h : PlaneReachable cfg d) :
    Traffic cfg [] d ∅ := by
  induction h with
  | refl => exact Traffic.start
  | tail _ hturn ih => exact ih.turn hturn

lemma l2Len_cases {maps : Maps} {ifindex : UInt32} {l2 : ℕ} (h : l2Len maps ifindex = some l2) :
    l2 = 0 ∨ l2 = ethHdrLen := by
  rw [l2Len] at h
  split at h
  · split at h
    · exact Or.inl (Option.some.inj h).symm
    · exact Or.inr (Option.some.inj h).symm
  · cases h

/-- It has the DSCP 4 wherever its header begins. -/
def sixteens : Frame := List.replicate 40 16

theorem no_first_tag_leaves :
    ∃ (d : Dumbarpd taggedIface.config) (ifindex : UInt32) (l2 : ℕ) (orig : OrigDscp),
      Traffic taggedIface.config [⟨d.shared.host.toMaps, ifindex, request 40⟩] d orig ∧
        dscpAt sixteens l2 = 4 ∧
        dscpAt (tryTerminate d.shared.host.toMaps ifindex etherTypeIpv4 sixteens orig) l2 ≠ 4 := by
  obtain ⟨d, hreach, hsettled, -, hleases⟩ := exists_leased
  have hchecked : taggedIface.config.Checked := ⟨by decide, by decide, by decide, by decide⟩
  have hlease : d.shared.leases.lookup "eth0" = some firstLease := by
    rw [hleases]
    exact AList.lookup_insert _
  have htold : firstLease.ip ∈ d.shared.currentIps :=
    List.mem_map.mpr ⟨("eth0", firstLease), mem_entries.mpr hlease, rfl⟩
  obtain ⟨iface, hserved⟩ := (hreach.mem_currentIps_iff hchecked (by decide) hsettled).mp htold
  obtain ⟨a, ha, -⟩ := hserved.serves
  -- a request came in
  have htraffic := hreach.traffic.arrives Finds.settled a.ifindex (request 40)
  have hid : taggedIface.config.dscpId = some 4 := rfl
  obtain ⟨hleaves, hattached⟩ := no_tag_leaves hchecked hid htraffic
  obtain ⟨hmem, l2, hl2⟩ := hattached iface a ha
  have hlen : l2 + ipv4HdrLen ≤ sixteens.length ∧ dscpAt sixteens l2 = 4 := by
    rcases l2Len_cases hl2 with rfl | rfl <;> decide
  exact ⟨d, a.ifindex, l2, _, htraffic, hlen.2,
    (hleaves _ _ _ _ Finds.settled hmem hl2 hlen.1).untagged⟩

end Dumbarp.Daemon
