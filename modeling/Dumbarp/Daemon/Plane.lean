/-
What `dumbarpd` tells its clients and what its eBPF programs do.

The addresses and the id that `/leases` tells come from the shared state; the answers to ARP
requests and the stamps on packets come from the maps in the kernel.  While no task is between its
two updates the programs serve exactly the addresses that are told, with the id that is told.
-/
import Dumbarp.Daemon.Advertise
import Dumbarp.Daemon.Http
import Dumbarp.Daemon.Neigh
import Dumbarp.Ebpf.Arp
import Dumbarp.Engine.Equip

namespace Dumbarp.Daemon

open Api Interact Interact.Prog Engine Ebpf Tasks

/-! ## What the programs of an interface do -/

/-- An ARP request for an address, as far as the responder looks. -/
structure AsksFor (frame : Frame) (ip : Ipv4Addr) : Prop where
  length : ethHdrLen + arpHdrLen ≤ frame.length
  etherType : etherType frame = 0x0806
  oper : (arpHdrAt frame ethHdrLen).oper = arpopRequest
  target : (arpHdrAt frame ethHdrLen).tpa = ip

/-- **An interface serves an address with an id**, or without one.  Requests for the address are
answered, and no others.  Packets for it come in with the id as their DSCP, and those that leave
with the id get the DSCP that was recorded for their flow; all other packets keep theirs. -/
structure Serves (maps : Maps) (ifindex : UInt32) (ip : Ipv4Addr) (id : Option UInt8) : Prop where
  answers : ∀ frame orig, (dumbarp maps ifindex frame orig).1 = .tx ↔ AsksFor frame ip
  reply : ∃ ourMac, ∀ frame orig, AsksFor frame ip →
    IsReply frame (dumbarp maps ifindex frame orig).2.1 ourMac
  stamps : ∀ frame orig, etherType frame = 0x0800 → Plain frame ethHdrLen →
    dscpAt (dumbarp maps ifindex frame orig).2.1 ethHdrLen =
      if (ipv4HdrAt frame ethHdrLen).dstAddr = ip then id.getD (dscpAt frame ethHdrLen)
      else dscpAt frame ethHdrLen
  restores : ∃ l2, ∀ skb orig, Plain skb l2 → (∀ r ∈ orig.lookup (flowAt skb l2), r ≤ dscpIdMax) →
    dscpAt (tryTerminate maps ifindex etherTypeIpv4 skb orig) l2 =
      if id = some (dscpAt skb l2) then (orig.lookup (flowAt skb l2)).getD 0 else dscpAt skb l2

section Serves

variable {maps : Maps} {ifindex : UInt32} {ip : Ipv4Addr} {id : Option UInt8}

/-- The table has one entry for the interface. -/
def OneAddress (maps : Maps) (ifindex : UInt32) (ip : Ipv4Addr) : Prop :=
  ∀ ip', arpKeyFor ifindex ip' ∈ maps.arpTable ↔ ip' = ip

/-- What ingress does to a packet when it stamps nothing. -/
lemma dumbarp_of_ipv4 {frame : Frame} {orig : OrigDscp} (ht : etherType frame = 0x0800)
    (hlen : ethHdrLen ≤ frame.length) :
    (dumbarp maps ifindex frame orig).2.1 = (tryStamp maps ifindex frame orig).1 := by
  simp [dumbarp, tryDumbarp, hlen, ht]

lemma answers_of_oneAddress (h : OneAddress maps ifindex ip) (frame : Frame) (orig : OrigDscp) :
    (dumbarp maps ifindex frame orig).1 = .tx ↔ AsksFor frame ip := by
  constructor
  · intro htx
    by_cases ht : etherType frame = 0x0806
    · by_contra hno
      rw [dumbarp_of_no_request ht fun ⟨hlen, hoper, hknown⟩ =>
        hno ⟨hlen, ht, hoper, (h _).mp hknown⟩] at htx
      cases htx
    · rw [dumbarp_of_other ht] at htx
      cases htx
  · rintro ⟨hlen, ht, hoper, rfl⟩
    obtain ⟨ourMac, hmac⟩ := HashMap.mem_iff_lookup.mp ((h _).mpr rfl)
    exact (dumbarp_of_request ht hlen hoper hmac).1

lemma reply_of_oneAddress (h : OneAddress maps ifindex ip) :
    ∃ ourMac, ∀ frame orig, AsksFor frame ip →
      IsReply frame (dumbarp maps ifindex frame orig).2.1 ourMac := by
  obtain ⟨ourMac, hmac⟩ := HashMap.mem_iff_lookup.mp ((h ip).mpr rfl)
  refine ⟨ourMac, fun frame orig hask => ?_⟩
  obtain ⟨hlen, ht, hoper, rfl⟩ := hask
  rw [(dumbarp_of_request ht hlen hoper hmac).2]
  exact arpReply_isReply hlen ourMac

lemma addressed_of_oneAddress (h : OneAddress maps ifindex ip) {frame : Frame} :
    Addressed maps ifindex frame ↔ (ipv4HdrAt frame ethHdrLen).dstAddr = ip := h _

lemma asksFor_request (srcMac : Mac) (srcIp ip : Ipv4Addr) :
    AsksFor (buildArpRequest srcMac srcIp ip) ip := by
  obtain ⟨hlen, -, -, htype, harp⟩ := buildArpRequest_fields srcMac srcIp ip
  exact ⟨hlen.ge, htype, by rw [harp], by rw [harp]⟩

/-- An interface serves one address. -/
lemma Serves.unique {ip' : Ipv4Addr} {id' : Option UInt8} (h : Serves maps ifindex ip id)
    (h' : Serves maps ifindex ip' id') : ip = ip' := by
  have hask := asksFor_request ⟨2, 0, 0, 0, 0, 1⟩ ⟨0, 0, 0, 0⟩ ip
  have hask' := (h'.answers _ ∅).mp ((h.answers _ ∅).mpr hask)
  exact hask.target.symm.trans hask'.target

/-- An interface with an id in range. -/
lemma Serves.of_interface {id : UInt8} {l2 : ℕ} (h : OneAddress maps ifindex ip)
    (hi : Interface maps ifindex id l2) : Serves maps ifindex ip (some id) where
  answers := answers_of_oneAddress h
  reply := reply_of_oneAddress h
  stamps frame orig ht hp := by
    rw [dumbarp_of_ipv4 ht ((Nat.le_add_right _ _).trans hp.header), tryStamp_plain hi hp]
    simp only [addressed_of_oneAddress h, Option.getD_some]
    by_cases hdst : (ipv4HdrAt frame ethHdrLen).dstAddr = ip
    · by_cases hd : dscpAt frame ethHdrLen = id
      · simp [hdst, hd]
      · simp only [hdst, hd, ne_eq, not_false_eq_true, and_self, if_true]
        rw [dscpAt, tosAt_stampTos _ _ hp.header, tosWithDscp_dscp _ hi.le_max]
    · simp [hdst]
  restores := by
    refine ⟨l2, fun skb orig hp hr => ?_⟩
    by_cases hd : dscpAt skb l2 = id
    · have hmax : (orig.lookup (flowAt skb l2)).getD 0 ≤ dscpIdMax := by
        cases hl : orig.lookup (flowAt skb l2) with
        | none => exact (by decide : (0 : UInt8) ≤ dscpIdMax)
        | some r => exact hr r hl
      rw [dscpAt_tryTerminate hi hp hd hmax, if_pos (by rw [hd])]
    · rw [tryTerminate_plain hi hp, if_neg fun he => hd (Option.some.inj he).symm]
      simp [hd]

/-- An interface without an id. -/
lemma Serves.of_none (h : OneAddress maps ifindex ip) (hid : maps.dscpId.lookup ifindex = none) :
    Serves maps ifindex ip none where
  answers := answers_of_oneAddress h
  reply := reply_of_oneAddress h
  stamps frame orig ht hp := by
    rw [dumbarp_of_ipv4 ht ((Nat.le_add_right _ _).trans hp.header)]
    simp [tryStamp, hid]
  restores := ⟨0, fun skb orig _ _ => by simp [tryTerminate, hid]⟩

end Serves

/-! ## The engine of the daemon -/

/-- A step of a task in which no interface gets an index that an attached one has. -/
def OwnIndexStep (dumbarpdId : Option UInt8) (iface : String) (t : Task) (s : AppState) (t' : Task)
    (s' : AppState) : Prop :=
  TaskStep dumbarpdId iface t s t' s' ∧ ∀ info, t.phase = .attach info → ∃ es res,
    Runs HostStep (reattach s.engine iface info.ip dumbarpdId) s.host es (res, s'.engine) s'.host ∧
      NoShare (s.engine.erase iface) es

/-- The daemon may come to this state without two interfaces of one index. -/
def PlaneReachable (cfg : Config) (d : Dumbarpd cfg) : Prop :=
  Reach (fun i => OwnIndexStep cfg.dscpId (cfg.ifaces.get i)) (spawnAll cfg) d

section Engine

variable {cfg : Config} {d : Dumbarpd cfg} {dumbarpdId : Option UInt8} {iface : String}
  {t t' : Task} {s s' : AppState}

/-- A step without an attach. -/
lemma TaskStep.ownIndex (h : TaskStep dumbarpdId iface t s t' s')
    (hphase : ∀ info, t.phase ≠ .attach info) : OwnIndexStep dumbarpdId iface t s t' s' :=
  ⟨h, fun info hinfo => absurd hinfo (hphase info)⟩

lemma PlaneReachable.turn (h : PlaneReachable cfg d) (i : Fin cfg.ifaces.length)
    (hi : d.task i = t) (hstep : OwnIndexStep cfg.dscpId (cfg.ifaces.get i) t d.shared t' s') :
    PlaneReachable cfg (d.set i t' s') :=
  Reach.turn h hi rfl hstep

lemma PlaneReachable.reachable (h : PlaneReachable cfg d) : Reachable cfg d :=
  Reach.mono (fun _ _ _ _ _ hs => hs.1) h

/-- The section for a lease keeps the engine and the system together. -/
lemma reattach_equipped {engine engine' : Attachments} {host host' : Host} {ip : Ipv4Addr}
    {es : List EngineEvent} {res : Except AnyhowError Unit} (he : Equipped dumbarpdId engine host)
    (hrun : Runs HostStep (reattach engine iface ip dumbarpdId) host es (res, engine') host')
    (hshare : NoShare (engine.erase iface) es) : Equipped dumbarpdId engine' host' := by
  obtain ⟨es₁, ⟨res₁, engine₁⟩, host₁, es₂, rfl, hremove, hadd⟩ := runs_bind_inv hrun
  have hremoved := he.remove hremove
  obtain rfl := removeInterface_runs_erase hremove
  exact hremoved.add hadd fun key mac r hmem =>
    hshare key mac r (List.mem_append_right _ hmem)

/-- The step lemma. -/
lemma OwnIndexStep.equipped (h : OwnIndexStep dumbarpdId iface t s t' s')
    (he : Equipped dumbarpdId s.engine s.host) : Equipped dumbarpdId s'.engine s'.host := by
  obtain ⟨hstep, hattach⟩ := h
  cases hstep with
  | attaches | attachFails =>
    obtain ⟨es, res, hrun, hshare⟩ := hattach _ rfl
    exact reattach_equipped he hrun hshare
  | detaches _ hrun => exact he.remove hrun
  | _ => exact he

/-- The run lemma. -/
lemma PlaneReachable.equipped (h : PlaneReachable cfg d) :
    Equipped cfg.dscpId d.shared.engine d.shared.host :=
  Reach.shared (K := fun s => Equipped cfg.dscpId s.engine s.host)
    (fun _ _ _ _ _ he hs => hs.equipped he) h (equipped_loaded cfg.dscpId)

end Engine

/-! ## What is told and what is served -/

/-- **The programs on an interface serve an address**: the one for ingress is there, and the one for
egress just if there is an id. -/
structure ServedBy (s : AppState) (iface : String) (ip : Ipv4Addr) (id : Option UInt8) : Prop where
  ingress : ∃ link, s.host.xdp.lookup link = some iface
  egress : (∃ link, s.host.tc.lookup link = some iface) ↔ id.isSome
  serves : ∃ a, s.engine.lookup iface = some a ∧ Serves s.host.toMaps a.ifindex ip id

section Served

variable {engine : Attachments} {host : Host} {iface : String} {ip : Ipv4Addr} {a : Attached}
  {dumbarpdId : Option UInt8}

lemma oneAddress_of_equipped (he : Equipped dumbarpdId engine host)
    (ha : engine.lookup iface = some a) (hkey : a.key = arpKeyFor a.ifindex ip) :
    OneAddress host.toMaps a.ifindex ip := by
  intro ip'
  rw [he.mirrors.arp]
  constructor
  · rintro ⟨j, b, hj, hb⟩
    have hindex : b.ifindex = a.ifindex := by
      rw [← he.distinct.key hj, Option.some.inj hb]
      rfl
    obtain rfl := he.distinct.ifindex hj ha hindex
    obtain rfl : b = a := Option.some.inj (hj.symm.trans ha)
    exact fromNeBytes_injective (ArpKey.mk.inj ((Option.some.inj hb).symm.trans hkey)).2
  · rintro rfl
    exact ⟨iface, a, ha, congrArg some hkey⟩

lemma interface_of_equipped {id : UInt8} (he : Equipped (some id) engine host)
    (ha : engine.lookup iface = some a) (hid : id ≠ 0 ∧ id ≤ dscpIdMax) :
    ∃ l2, Interface host.toMaps a.ifindex id l2 := by
  obtain ⟨link, hlink⟩ := Option.isSome_iff_exists.mp (he.egress iface a ha)
  have hindex : a.egressIfindex = some a.ifindex := by
    rw [Attached.egressIfindex, hlink, Option.map_some]
  obtain ⟨v, hv⟩ := HashMap.mem_iff_lookup.mp ((he.mirrors.dscpId _).mpr ⟨iface, a, ha, hindex⟩)
  obtain ⟨len, hlen⟩ := HashMap.mem_iff_lookup.mp ((he.mirrors.l2Len _).mpr ⟨iface, a, ha, hindex⟩)
  obtain rfl : id = v := Option.some.inj (he.ids _ v hv)
  have hl2 : ∃ l2, l2Len host.toMaps a.ifindex = some l2 := by
    rw [l2Len, hlen]
    by_cases hzero : len = 0
    · exact ⟨0, by simp [hzero]⟩
    · exact ⟨ethHdrLen, by simp [hzero]⟩
  obtain ⟨l2, hl2⟩ := hl2
  exact ⟨l2, hv, hid.1, hid.2, hl2⟩

/-- An attached interface serves the address that it answers for. -/
lemma serves_of_equipped (he : Equipped dumbarpdId engine host)
    (ha : engine.lookup iface = some a) (hkey : a.key = arpKeyFor a.ifindex ip)
    (hid : ∀ id, dumbarpdId = some id → id ≠ 0 ∧ id ≤ dscpIdMax) :
    Serves host.toMaps a.ifindex ip dumbarpdId := by
  have hone := oneAddress_of_equipped he ha hkey
  cases dumbarpdId with
  | none =>
    refine Serves.of_none hone (Option.eq_none_iff_forall_ne_some.mpr fun v hv => ?_)
    cases he.ids _ v hv
  | some id =>
    obtain ⟨l2, hi⟩ := interface_of_equipped he ha (hid id rfl)
    exact Serves.of_interface hone hi

lemma egress_of_equipped (he : Equipped dumbarpdId engine host)
    (ha : engine.lookup iface = some a) :
    (∃ link, host.tc.lookup link = some iface) ↔ dumbarpdId.isSome := by
  rw [← he.egress iface a ha, Option.isSome_iff_exists]
  refine exists_congr fun link => ?_
  rw [he.mirrors.tc]
  constructor
  · rintro ⟨b, hb, hlink⟩
    rwa [Option.some.inj (ha.symm.trans hb)]
  · intro hlink
    exact ⟨a, ha, hlink⟩

variable {cfg : Config} {d : Dumbarpd cfg}

/-- Every attached interface answers for some address. -/
lemma exists_key_of_equipped (he : Equipped dumbarpdId engine host)
    (ha : engine.lookup iface = some a) : ∃ ip, a.key = arpKeyFor a.ifindex ip := by
  obtain ⟨ip, hip⟩ := fromNeBytes_surjective a.key.ip
  exact ⟨ip, by rw [arpKeyFor, hip, ← he.distinct.key ha]⟩

lemma PlaneReachable.servedBy (h : PlaneReachable cfg d) (hcfg : cfg.Checked)
    (ha : d.shared.engine.lookup iface = some a) (hkey : a.key = arpKeyFor a.ifindex ip) :
    ServedBy d.shared iface ip cfg.dscpId :=
  have he := h.equipped
  ⟨⟨a.linkId, (he.mirrors.xdp _ _).mpr ⟨a, ha, rfl⟩⟩, egress_of_equipped he ha,
    a, ha, serves_of_equipped he ha hkey fun _ hid => hcfg.dscpId hid⟩

/-- The addresses of the leases are those that are served. -/
lemma PlaneReachable.mem_currentIps_iff (h : PlaneReachable cfg d) (hcfg : cfg.Checked)
    (hifaces : cfg.ifaces.Nodup) (hd : Settled d) :
    ip ∈ d.shared.currentIps ↔ ∃ iface, ServedBy d.shared iface ip cfg.dscpId := by
  rw [(h.reachable.truthful hifaces hd).mem_currentIps ip]
  refine exists_congr fun iface => ?_
  constructor
  · rintro ⟨a, ha, hkey⟩
    exact h.servedBy hcfg ha hkey
  · rintro ⟨-, -, a, ha, hserves⟩
    obtain ⟨ip', hkey⟩ := exists_key_of_equipped h.equipped ha
    obtain ⟨-, -, b, hb, hserves'⟩ := h.servedBy hcfg ha hkey
    obtain rfl : b = a := Option.some.inj (hb.symm.trans ha)
    exact ⟨b, hb, hserves.unique hserves' ▸ hkey⟩

end Served

/-- A daemon as it stands at a moment. -/
structure ServingDaemon where
  cfg : Config
  daemon : Dumbarpd cfg

namespace ServingDaemon

/-- What it takes to serve what is told: an accepted configuration that lists no interface twice,
and a run in which no interface got the index of another one that was attached. -/
structure Regular (d : ServingDaemon) : Prop where
  checked : d.cfg.Checked
  ifaces : d.cfg.ifaces.Nodup
  reachable : PlaneReachable d.cfg d.daemon

/-- The task of an interface is not between its two updates. -/
def SettledOn (d : ServingDaemon) (i : Fin d.cfg.ifaces.length) : Prop :=
  (d.daemon.task i).phase.settled = true

/-- The programs of the daemon serve the address on an interface, with the id of the daemon. -/
def ServesOn (d : ServingDaemon) (i : Fin d.cfg.ifaces.length) (ip : Ipv4Addr) : Prop :=
  ServedBy d.daemon.shared (d.cfg.ifaces.get i) ip d.cfg.dscpId

/-- The daemon has a lease of the address on an interface, and serves the address there, unless the
task of the interface is between its two updates. -/
def Holds (d : ServingDaemon) (ip : Ipv4Addr) : Prop :=
  ∃ i info, d.daemon.shared.leases.lookup (d.cfg.ifaces.get i) = some info ∧ info.ip = ip ∧
    (d.SettledOn i → d.ServesOn i ip)

variable {d : ServingDaemon} {ip : Ipv4Addr}

/-- What is told is held. -/
lemma Regular.holds (h : d.Regular) (hip : ip ∈ d.daemon.shared.currentIps) : d.Holds ip := by
  obtain ⟨⟨iface, info⟩, hmem, rfl⟩ := List.mem_map.mp hip
  have hlease := mem_entries.mp hmem
  have hlisted : iface ∈ d.cfg.ifaces := by
    by_contra hno
    exact (h.reachable.reachable.unlisted hno).2 (HashMap.mem_iff_lookup.mpr ⟨info, hlease⟩)
  obtain ⟨i, rfl⟩ := List.get_of_mem hlisted
  refine ⟨i, info, hlease, rfl, fun hsettled => ?_⟩
  have hagrees := (h.reachable.reachable.coherent h.ifaces i).agrees hsettled
  obtain ⟨a, ha, hkey⟩ := (hagrees info.ip).mp ⟨info, hlease, rfl⟩
  exact h.reachable.servedBy h.checked ha hkey

lemma Holds.servesOn (h : d.Holds ip) (hsettled : ∀ i, d.SettledOn i) : ∃ i, d.ServesOn i ip := by
  obtain ⟨i, -, -, -, hserves⟩ := h
  exact ⟨i, hserves (hsettled i)⟩

end ServingDaemon

/-- A file with one interface and the id 4. -/
def taggedIface : ConfigFile := { authToken := "t", ifaces := ["eth0"], dumbarpdId := some 4 }

/-- The lease that its interface gets. -/
def firstLease : LeaseInfo := ⟨⟨10, 0, 0, 5⟩, ⟨10, 0, 0, 1⟩⟩

/-- Its only task. -/
def onlyTask : Fin taggedIface.config.ifaces.length := ⟨0, by decide⟩

/-- The task can come to hold the lease. -/
lemma exists_leased :
    ∃ d : Dumbarpd taggedIface.config, PlaneReachable taggedIface.config d ∧ Settled d ∧
      d.task onlyTask = ⟨.respawn firstLease, none⟩ ∧
        d.shared.leases = AList.insert "eth0" firstLease ∅ := by
  have hinit : PlaneReachable taggedIface.config (spawnAll taggedIface.config) :=
    Relation.ReflTransGen.refl
  have hlisten := hinit.turn onlyTask rfl ((TaskStep.inits none AppState.new).ownIndex nofun)
  have hattach := hlisten.turn onlyTask (System.set_task _ _ _ _)
    ((TaskStep.event none AppState.new
      (some (.ok ⟨firstLease.ip, some [firstLease.gateway]⟩))).ownIndex nofun)
  obtain ⟨es, ⟨res, engine⟩, host, hrun, hres⟩ :=
    reattach_can AppState.new.engine "eth0" firstLease.ip (some 4) AppState.new.host
  obtain rfl : res = .ok () := hres
  -- nothing else is attached
  have hshare : NoShare (AppState.new.engine.erase "eth0") es := by
    intro key mac r _ iface a ha
    cases (HashMap.lookup_of_erase ha).2
  have hrecord := hattach.turn onlyTask (System.set_task _ _ _ _)
    ⟨TaskStep.attaches none hrun, fun info hphase => ⟨es, .ok (), by
      obtain rfl : firstLease = info := Phase.attach.inj hphase
      exact hrun, hshare⟩⟩
  have hrecorded := hrecord.turn onlyTask (System.set_task _ _ _ _)
    ((TaskStep.records none _ firstLease).ownIndex nofun)
  refine ⟨_, hrecorded, fun j => ?_, System.set_task _ _ _ _, rfl⟩
  obtain rfl : j = onlyTask := Fin.ext (Nat.lt_one_iff.mp j.isLt)
  rw [System.set_task]
  rfl

/-- So a daemon can come to serve the address of the lease, and to tell it. -/
lemma exists_servingDaemon : ∃ d : ServingDaemon, d.Regular ∧ (∀ i, d.SettledOn i) ∧
    d.cfg = taggedIface.config ∧ d.daemon.shared.leases = AList.insert "eth0" firstLease ∅ := by
  obtain ⟨d, hreach, hsettled, -, hleases⟩ := exists_leased
  have hchecked : taggedIface.config.Checked := ⟨by decide, by decide, by decide, by decide⟩
  have hifaces : taggedIface.config.ifaces.Nodup := by decide
  exact ⟨⟨taggedIface.config, d⟩, ⟨hchecked, hifaces, hreach⟩, hsettled, rfl, hleases⟩

lemma currentIps_first {s : AppState} (h : s.leases = AList.insert "eth0" firstLease ∅) :
    s.currentIps = [firstLease.ip] := by
  rw [AppState.currentIps, AppState.entries, h]
  rfl

/-- What it tells then. -/
lemma leasesHandler_first {s : AppState} (h : s.leases = AList.insert "eth0" firstLease ∅)
    (id : Option UInt8) (label : String) :
    (leasesHandler id s).parse label = .ok ⟨[firstLease.ip], id⟩ := by
  rw [← currentIps_first h]
  exact Leases.parse_view ⟨s.currentIps, id⟩ label

end Dumbarp.Daemon
