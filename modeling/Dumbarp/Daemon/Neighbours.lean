/-
The neighbour entries of `dumbarpd` (`spawn_probe_and_refresh` and `set_permanent_neigh` in
`dumbarp-daemon/src/neigh.rs`).

A refresher probes the gateway of its lease and then has the program `ip` write a permanent
neighbour entry, at once and at every tick.  It may be aborted at any moment, but a process that it
has started runs to its end, so an entry can be written after its lease is gone.  No entry is
written for an address that was no gateway of a lease, nor with a MAC address that the gateway has
not given in a reply.
-/
import Dumbarp.Daemon.Plane
import Dumbarp.Daemon.Probe
import Dumbarp.Daemon.Refresher

namespace Dumbarp.Daemon

open Ebpf Engine Tasks

/-! ## The command -/

/-- An octet as `{:02x}` prints it. -/
def hexByte (b : UInt8) : List Char := [Nat.digitChar (b.toNat / 16), Nat.digitChar (b.toNat % 16)]

/-- The text of a MAC address. -/
def formatMac (mac : Mac) : List Char := [':'].intercalate (mac.bytes.map hexByte)

/-- The arguments that `set_permanent_neigh` gives to `ip`. -/
def setPermanentNeigh (iface : String) (gwIp : Ipv4Addr) (mac : Mac) : List String :=
  ["neigh", "replace", gwIp.toString, "lladdr", String.ofList (formatMac mac), "dev", iface, "nud",
    "permanent"]

lemma parseMacByte_hexByte (b : UInt8) : parseMacByte (hexByte b) = .ok b := by
  have hall : ∀ n : Fin 256, fromStrRadix 16 256 (hexByte (UInt8.ofFin n)) = .ok n.val := by
    decide +kernel
  have hb := hall b.toFin
  rw [show UInt8.ofFin b.toFin = b from rfl] at hb
  rw [parseMacByte, hb]
  exact congrArg Except.ok UInt8.ofNat_toNat

lemma colon_notMem_hexByte (b : UInt8) : ':' ∉ hexByte b := by
  have hall : ∀ n : Fin 256, ':' ∉ hexByte (UInt8.ofFin n) := by decide +kernel
  exact hall b.toFin

/-- **A MAC address is read back from its text.** -/
lemma parseMac_formatMac (mac : Mac) : parseMac (formatMac mac) = .ok mac := by
  have hsplit : (formatMac mac).splitOn ':' = mac.bytes.map hexByte := by
    refine List.splitOn_intercalate ':' ?_ (by simp [Mac.bytes])
    intro text htext
    obtain ⟨b, -, rfl⟩ := List.mem_map.mp htext
    exact colon_notMem_hexByte b
  rw [parseMac, hsplit]
  simp only [Mac.bytes, List.map_cons, List.map_nil, parseMacByte_hexByte]
  rfl

/-- How the program `ip` reads its arguments. -/
structure IpTool where
  addr : String → Option Ipv4Addr
  lladdr : String → Option Mac

/-- The documented behaviour: addresses are read from dotted decimal, link-layer addresses from six
hexadecimal octets between colons. -/
structure IpTool.Documented (tool : IpTool) : Prop where
  addr : ∀ s ip, Ipv4Addr.parse s = some ip → tool.addr s = some ip
  lladdr : ∀ s mac, parseMac s.toList = .ok mac → tool.lladdr s = some mac

/-- The entry that the arguments ask for. -/
def IpTool.Reads (tool : IpTool) (args : List String) (iface : String) (gwIp : Ipv4Addr)
    (mac : Mac) : Prop :=
  ∃ gwText macText,
    args = ["neigh", "replace", gwText, "lladdr", macText, "dev", iface, "nud", "permanent"] ∧
      tool.addr gwText = some gwIp ∧ tool.lladdr macText = some mac

/-- `ip` understands what the daemon asks for. -/
lemma IpTool.Documented.reads_iff {tool : IpTool} (htool : tool.Documented) {iface iface' : String}
    {gwIp gwIp' : Ipv4Addr} {mac mac' : Mac} :
    tool.Reads (setPermanentNeigh iface gwIp mac) iface' gwIp' mac' ↔
      iface' = iface ∧ gwIp' = gwIp ∧ mac' = mac := by
  have haddr := htool.addr _ _ (Ipv4Addr.parse_toString gwIp)
  have hlladdr := htool.lladdr (String.ofList (formatMac mac)) mac (by
    rw [String.toList_ofList, parseMac_formatMac])
  constructor
  · rintro ⟨gwText, macText, hargs, hgw, hmac⟩
    simp only [setPermanentNeigh, List.cons.injEq, true_and, and_true] at hargs
    obtain ⟨rfl, rfl, rfl⟩ := hargs
    exact ⟨rfl, Option.some.inj (hgw.symm.trans haddr), Option.some.inj (hmac.symm.trans hlladdr)⟩
  · rintro ⟨rfl, rfl, rfl⟩
    exact ⟨_, _, rfl, haddr, hlladdr⟩

/-! ## The refreshers -/

/-- Where a refresher stands. -/
inductive RefresherPhase where
  | probing
  /-- The gateway has answered: its entry is written, again and again. -/
  | refreshing (mac : Mac)
  /-- The gateway has not answered. -/
  | ended
deriving DecidableEq, Repr

/-- A probe of the gateway of a lease that brought a MAC address. -/
structure Probe where
  refresher : Refresher
  attempts : ℕ → Attempt
  mac : Mac

/-- The daemon with its refreshers, the `ip` processes that it has started, and the entries that
these have written.  `leased` and `probes` keep what happened: the leases that the interfaces had
and the probes that were answered. -/
structure Neighbours (cfg : Config) where
  daemon : Dumbarpd cfg
  phase : RefresherId → RefresherPhase
  processes : List (List String)
  table : HashMap (String × Ipv4Addr) Mac
  leased : List Refresher
  probes : List Probe

/-- What `probe_with_retry` returned to a refresher. -/
def Returned (r : Refresher) (attempts : ℕ → Attempt) (res : Except AnyhowError Mac) : Prop :=
  ∃ fuel sent, probeWithRetry r.iface r.info.ip r.info.gateway attempts fuel = some (sent, res)

/-- The daemon has started. -/
def Neighbours.start (cfg : Config) : Neighbours cfg where
  daemon := spawnAll cfg
  phase _ := .probing
  processes := []
  table := ∅
  leased := []
  probes := []

/-- **The steps of the daemon, its refreshers and their processes.** -/
inductive NeighStep (tool : IpTool) (cfg : Config) : Neighbours cfg → Neighbours cfg → Prop
  /-- A task may abort a refresher, and spawn one, which then probes. -/
  | task {σ i t s}
      (hstep : TaskStep cfg.dscpId (cfg.ifaces.get i) (σ.daemon.task i) σ.daemon.shared t s) :
      NeighStep tool cfg σ { σ with
        daemon := σ.daemon.set i t s
        phase := fun id => if id ∈ σ.daemon.shared.refreshers then σ.phase id else .probing
        leased := (s.entries.map fun e => ⟨e.1, e.2⟩) ++ σ.leased }
  | restarts (σ) : NeighStep tool cfg σ { σ with daemon := spawnAll cfg, phase := fun _ => .probing }
  | answered {σ id r attempts mac} (hlive : σ.daemon.shared.refreshers.lookup id = some r)
      (hphase : σ.phase id = .probing) (hprobe : Returned r attempts (.ok mac)) :
      NeighStep tool cfg σ { σ with
        phase := Function.update σ.phase id (.refreshing mac)
        probes := ⟨r, attempts, mac⟩ :: σ.probes }
  | unanswered {σ id r attempts e} (hlive : σ.daemon.shared.refreshers.lookup id = some r)
      (hphase : σ.phase id = .probing) (hprobe : Returned r attempts (.error e)) :
      NeighStep tool cfg σ { σ with phase := Function.update σ.phase id .ended }
  | writes {σ id r mac} (hlive : σ.daemon.shared.refreshers.lookup id = some r)
      (hphase : σ.phase id = .refreshing mac) :
      NeighStep tool cfg σ { σ with
        processes := setPermanentNeigh r.iface r.info.gateway mac :: σ.processes }
  | replaced {σ args iface gwIp mac} (hargs : args ∈ σ.processes)
      (hreads : tool.Reads args iface gwIp mac) :
      NeighStep tool cfg σ { σ with
        processes := σ.processes.erase args
        table := σ.table.insert (iface, gwIp) mac }
  | failed {σ args} (hargs : args ∈ σ.processes) :
      NeighStep tool cfg σ { σ with processes := σ.processes.erase args }

/-- What may come to be. -/
def NeighReach (tool : IpTool) (cfg : Config) (σ : Neighbours cfg) : Prop :=
  Relation.ReflTransGen (NeighStep tool cfg) (Neighbours.start cfg) σ

/-! ## Where an entry comes from -/

section Heard

variable {tool : IpTool} {cfg : Config} {σ σ' : Neighbours cfg} {r : Refresher} {mac : Mac}

/-- The gateway of a lease has given the MAC address to a probe. -/
def Heard (σ : Neighbours cfg) (r : Refresher) (mac : Mac) : Prop :=
  r ∈ σ.leased ∧ ∃ attempts, ⟨r, attempts, mac⟩ ∈ σ.probes ∧ Returned r attempts (.ok mac)

/-- **The invariant**: whatever writes an entry, and every entry, goes back to a probe that was
answered. -/
structure AllHeard (σ : Neighbours cfg) : Prop where
  reachable : Reachable cfg σ.daemon
  listed : ∀ r ∈ σ.leased, r.iface ∈ cfg.ifaces
  respawn : ∀ i info, (σ.daemon.task i).phase = .respawn info →
    ⟨cfg.ifaces.get i, info⟩ ∈ σ.leased
  live : ∀ id r, σ.daemon.shared.refreshers.lookup id = some r → r ∈ σ.leased
  refreshing : ∀ id r mac, σ.daemon.shared.refreshers.lookup id = some r →
    σ.phase id = .refreshing mac → Heard σ r mac
  processes : ∀ args ∈ σ.processes, ∃ r mac,
    args = setPermanentNeigh r.iface r.info.gateway mac ∧ Heard σ r mac
  table : ∀ iface gwIp mac, σ.table.lookup (iface, gwIp) = some mac →
    ∃ info, info.gateway = gwIp ∧ Heard σ ⟨iface, info⟩ mac

/-- What was heard stays heard. -/
lemma Heard.mono (h : Heard σ r mac) (hleased : ∀ r ∈ σ.leased, r ∈ σ'.leased)
    (hprobes : ∀ p ∈ σ.probes, p ∈ σ'.probes) : Heard σ' r mac := by
  obtain ⟨hr, attempts, hprobe, hreturned⟩ := h
  exact ⟨hleased r hr, attempts, hprobes _ hprobe, hreturned⟩

lemma allHeard_start : AllHeard (Neighbours.start cfg) where
  reachable := Relation.ReflTransGen.refl
  listed := by simp [Neighbours.start]
  respawn i info h := by cases h
  live id r h := by cases h
  refreshing id r mac h := by cases h
  processes := by simp [Neighbours.start]
  table iface gwIp mac h := by cases h

section Task

variable {dumbarpdId : Option UInt8} {iface : String} {t t' : Task} {s s' : AppState}

/-- A refresher that is there after a step was there before, or is spawned for the lease that the
task has just recorded. -/
lemma TaskStep.spawned (h : TaskStep dumbarpdId iface t s t' s') {id : RefresherId}
    (hr : s'.refreshers.lookup id = some r) :
    s.refreshers.lookup id = some r ∨
      id ∉ s.refreshers ∧ ∃ info, t.phase = .respawn info ∧ r = ⟨iface, info⟩ := by
  have haborted {neigh : Option RefresherId} {id : RefresherId} {r : Refresher}
      (h : (s.abort neigh).lookup id = some r) : s.refreshers.lookup id = some r := by
    rw [lookup_abort] at h
    split at h
    · cases h
    · exact h
  cases h with
  | respawns neigh info fresh =>
    rcases HashMap.lookup_insert_cases hr with ⟨rfl, rfl⟩ | hr
    · exact Or.inr ⟨fresh, info, rfl, rfl⟩
    · exact Or.inl (haborted hr)
  | stops => exact Or.inl (haborted hr)
  | _ => exact Or.inl hr

/-- A task that is to spawn a refresher has just recorded its lease. -/
lemma TaskStep.recorded (h : TaskStep dumbarpdId iface t s t' s') {info : LeaseInfo}
    (hphase : t'.phase = .respawn info) : s'.leases.lookup iface = some info := by
  cases h with
  | records =>
    obtain rfl := Phase.respawn.inj hphase
    exact AList.lookup_insert _
  | event neigh s event =>
    rcases event with _ | _ | lease
    · cases hphase
    · cases hphase
    · rw [afterEvent] at hphase
      cases hgw : lease.gateways.bind List.head? <;> simp [hgw] at hphase
  | forgets neigh s second => cases second <;> cases hphase
  | _ => cases hphase

end Task

/-- A step of a task keeps the invariant. -/
lemma AllHeard.task (h : AllHeard σ) {i : Fin cfg.ifaces.length} {t : Task} {s : AppState}
    (hstep : TaskStep cfg.dscpId (cfg.ifaces.get i) (σ.daemon.task i) σ.daemon.shared t s) :
    AllHeard { σ with
      daemon := σ.daemon.set i t s
      phase := fun id => if id ∈ σ.daemon.shared.refreshers then σ.phase id else .probing
      leased := (s.entries.map fun e => ⟨e.1, e.2⟩) ++ σ.leased } := by
  have hreach : Reachable cfg (σ.daemon.set i t s) := h.reachable.tail (Turn.mk hstep)
  have hheard {r : Refresher} {mac : Mac} (hr : Heard σ r mac) : Heard { σ with
      daemon := σ.daemon.set i t s
      phase := fun id => if id ∈ σ.daemon.shared.refreshers then σ.phase id else .probing
      leased := (s.entries.map fun e => ⟨e.1, e.2⟩) ++ σ.leased } r mac :=
    hr.mono (fun r hr => List.mem_append_right _ hr) fun p hp => hp
  refine ⟨hreach, fun r hr => ?_, fun j info hphase => ?_, fun id r hr => ?_,
    fun id r mac hr hphase => ?_, fun args hargs => ?_, fun iface gwIp mac hentry => ?_⟩
  · rcases List.mem_append.mp hr with hr | hr
    · obtain ⟨⟨iface, info⟩, hentry, rfl⟩ := List.mem_map.mp hr
      by_contra hno
      exact (hreach.unlisted hno).2 (HashMap.mem_iff_lookup.mpr ⟨info, mem_entries.mp hentry⟩)
    · exact h.listed r hr
  · by_cases hji : j = i
    · subst hji
      rw [System.set_task] at hphase
      exact List.mem_append_left _ (List.mem_map.mpr
        ⟨(_, info), mem_entries.mpr (hstep.recorded hphase), rfl⟩)
    · rw [System.set_task_of_ne _ _ _ _ hji] at hphase
      exact List.mem_append_right _ (h.respawn j info hphase)
  · rcases hstep.spawned hr with hr | ⟨-, info, hphase, rfl⟩
    · exact List.mem_append_right _ (h.live id r hr)
    · exact List.mem_append_right _ (h.respawn i info hphase)
  · rcases hstep.spawned hr with hr | ⟨hfresh, -⟩
    · have hmem : id ∈ σ.daemon.shared.refreshers := HashMap.mem_iff_lookup.mpr ⟨r, hr⟩
      simp only [hmem, if_true] at hphase
      exact hheard (h.refreshing id r mac hr hphase)
    · -- a refresher that was just spawned probes
      simp only [hfresh, if_false] at hphase
      cases hphase
  · obtain ⟨r, mac, hargs, hr⟩ := h.processes args hargs
    exact ⟨r, mac, hargs, hheard hr⟩
  · obtain ⟨info, hgw, hr⟩ := h.table iface gwIp mac hentry
    exact ⟨info, hgw, hheard hr⟩

/-- The step lemma. -/
lemma AllHeard.step (htool : tool.Documented) (h : AllHeard σ) (hstep : NeighStep tool cfg σ σ') :
    AllHeard σ' := by
  cases hstep with
  | task hstep => exact h.task hstep
  | restarts =>
    refine ⟨Relation.ReflTransGen.refl, h.listed, fun i info hphase => ?_, fun id r hr => ?_,
      fun id r mac hr => ?_, h.processes, h.table⟩
    · cases hphase
    · cases hr
    · cases hr
  | @answered id r attempts mac hlive hphase hprobe =>
    have hheard {r' : Refresher} {mac' : Mac} (hr : Heard σ r' mac') : Heard { σ with
        phase := Function.update σ.phase id (.refreshing mac)
        probes := ⟨r, attempts, mac⟩ :: σ.probes } r' mac' :=
      hr.mono (fun r hr => hr) fun p hp => List.mem_cons_of_mem _ hp
    refine ⟨h.reachable, h.listed, h.respawn, h.live, fun id' r' mac' hr' hphase' => ?_,
      fun args hargs => ?_, fun iface gwIp mac' hentry => ?_⟩
    · replace hphase' : Function.update σ.phase id (.refreshing mac) id' = .refreshing mac' :=
        hphase'
      by_cases hid : id' = id
      · subst hid
        obtain rfl : r = r' := Option.some.inj (hlive.symm.trans hr')
        rw [Function.update_self] at hphase'
        obtain rfl := RefresherPhase.refreshing.inj hphase'
        exact ⟨h.live id' r hlive, attempts, List.mem_cons_self, hprobe⟩
      · rw [Function.update_of_ne hid] at hphase'
        exact hheard (h.refreshing id' r' mac' hr' hphase')
    · obtain ⟨r', mac', hargs, hr'⟩ := h.processes args hargs
      exact ⟨r', mac', hargs, hheard hr'⟩
    · obtain ⟨info, hgw, hr'⟩ := h.table iface gwIp mac' hentry
      exact ⟨info, hgw, hheard hr'⟩
  | @unanswered id =>
    refine ⟨h.reachable, h.listed, h.respawn, h.live, fun id' r' mac' hr' hphase' => ?_,
      h.processes, h.table⟩
    replace hphase' : Function.update σ.phase id .ended id' = .refreshing mac' := hphase'
    by_cases hid : id' = id
    · rw [hid, Function.update_self] at hphase'
      cases hphase'
    · rw [Function.update_of_ne hid] at hphase'
      exact h.refreshing id' r' mac' hr' hphase'
  | @writes id r mac hlive hphase =>
    refine ⟨h.reachable, h.listed, h.respawn, h.live, h.refreshing, fun args hargs => ?_, h.table⟩
    rcases List.mem_cons.mp hargs with rfl | hargs
    · exact ⟨r, mac, rfl, h.refreshing id r mac hlive hphase⟩
    · exact h.processes args hargs
  | @replaced args iface gwIp mac hargs hreads =>
    refine ⟨h.reachable, h.listed, h.respawn, h.live, h.refreshing,
      fun args' hargs' => h.processes args' (List.mem_of_mem_erase hargs'),
      fun iface' gwIp' mac' hentry => ?_⟩
    rcases HashMap.lookup_insert_cases hentry with ⟨hkey, rfl⟩ | hentry
    · obtain ⟨rfl, rfl⟩ := Prod.mk.inj hkey
      obtain ⟨r, m, rfl, hr⟩ := h.processes args hargs
      obtain ⟨rfl, rfl, rfl⟩ := htool.reads_iff.mp hreads
      exact ⟨r.info, rfl, hr⟩
    · exact h.table iface' gwIp' mac' hentry
  | failed =>
    exact ⟨h.reachable, h.listed, h.respawn, h.live, h.refreshing,
      fun args' hargs' => h.processes args' (List.mem_of_mem_erase hargs'), h.table⟩

/-- The run lemma. -/
lemma NeighReach.allHeard (htool : tool.Documented) (h : NeighReach tool cfg σ) : AllHeard σ := by
  induction h with
  | refl => exact allHeard_start
  | tail _ hstep ih => exact ih.step htool hstep

end Heard

/-! ## What an answered probe was given -/

section Probe

variable {iface : String} {srcIp gwIp : Ipv4Addr} {mac : Mac}

/-- One of the attempts has brought the MAC address. -/
lemma retryLoop_ok : ∀ (left : ℕ) {attempts : ℕ → Attempt} {fuel : ℕ} {sent : List Frame},
    retryLoop iface srcIp gwIp fuel left attempts = some (sent, .ok mac) →
      ∃ k < left, probeGatewayMac iface srcIp gwIp (attempts k) fuel = some (.ok mac)
  | 0, _, _, _, h => by
    rw [retryLoop] at h
    cases (Prod.mk.inj (Option.some.inj h)).2
  | left + 1, attempts, fuel, sent, h => by
    rw [retryLoop] at h
    by_cases hpanics : (attempts 0).panics = true
    · rw [if_pos hpanics] at h
      cases (Prod.mk.inj (Option.some.inj h)).2
    rw [if_neg hpanics] at h
    cases hfirst : probeGatewayMac iface srcIp gwIp (attempts 0) fuel with
    | none => simp [hfirst] at h
    | some res =>
      cases res with
      | ok mac' =>
        simp only [hfirst, Option.some.injEq, Prod.mk.injEq, Except.ok.injEq] at h
        exact ⟨0, Nat.succ_pos _, h.2 ▸ hfirst⟩
      | error e =>
        simp only [hfirst, Option.map_eq_some_iff] at h
        obtain ⟨⟨more, last⟩, hmore, heq⟩ := h
        obtain rfl := (Prod.mk.inj heq).2
        obtain ⟨k, hk, hprobe⟩ := retryLoop_ok left hmore
        exact ⟨k + 1, Nat.succ_lt_succ hk, hprobe⟩

/-- An attempt that brings a MAC address has sent its request and received the reply. -/
lemma probeGatewayMac_ok {a : Attempt} {fuel : ℕ}
    (h : probeGatewayMac iface srcIp gwIp a fuel = some (.ok mac)) :
    (∃ frame, sendRequest iface srcIp gwIp a = .ok frame) ∧
      ∃ i reply, a.recvfrom i = .frame reply ∧ IsReplyFor srcIp gwIp reply ∧
        (arpHdrAt reply ethHdrLen).sha = mac := by
  constructor
  · cases hsend : sendRequest iface srcIp gwIp a with
    | error e => simp [probeGatewayMac, hsend] at h
    | ok frame => exact ⟨frame, rfl⟩
  · obtain ⟨i, reply, hreply, hparse⟩ := probeGatewayMac_mac h
    obtain ⟨htype, harp⟩ := arpHdrAt_take reply
    rw [parseArpReply_eq_some_iff, htype, harp] at hparse
    obtain ⟨hlen, htype, hoper, hspa, htpa, hsha⟩ := hparse
    have hle : ethHdrLen + arpHdrLen ≤ reply.length :=
      hlen.trans (List.length_take_le' _ _)
    exact ⟨i, reply, hreply, ⟨hle, htype, hoper, hspa, htpa⟩, hsha⟩

end Probe

/-- **Every neighbour entry was heard from its gateway.**  In any run of the daemon, whatever its
leases, aborts, failed commands and restarts: an entry that it has had written for an interface is
for the gateway of a lease that the interface had, and has the MAC address that the gateway gave in
a reply to the leased address, which came in an attempt that had sent its request. -/
theorem entries_were_heard {tool : IpTool} (htool : tool.Documented) {cfg : Config}
    {σ : Neighbours cfg} (h : NeighReach tool cfg σ) {iface : String} {gwIp : Ipv4Addr} {mac : Mac}
    (hentry : σ.table.lookup (iface, gwIp) = some mac) :
    ∃ info, iface ∈ cfg.ifaces ∧ info.gateway = gwIp ∧ ⟨iface, info⟩ ∈ σ.leased ∧
      ∃ attempts, ⟨⟨iface, info⟩, attempts, mac⟩ ∈ σ.probes ∧ ∃ k < 3,
        (∃ frame, sendRequest iface info.ip gwIp (attempts k) = .ok frame) ∧
        ∃ i reply, (attempts k).recvfrom i = .frame reply ∧ IsReplyFor info.ip gwIp reply ∧
          (arpHdrAt reply ethHdrLen).sha = mac := by
  have hall := h.allHeard htool
  obtain ⟨info, rfl, hleased, attempts, hprobe, fuel, sent, hreturned⟩ :=
    hall.table iface gwIp mac hentry
  obtain ⟨k, hk, hattempt⟩ := retryLoop_ok 3 hreturned
  obtain ⟨hsent, hreply⟩ := probeGatewayMac_ok hattempt
  exact ⟨info, hall.listed _ hleased, rfl, hleased, attempts, hprobe, k, hk, hsent, hreply⟩

/-- Whatever the tasks can come to, they can come to before any gateway has answered. -/
lemma exists_unheard (tool : IpTool) {cfg : Config} {d : Dumbarpd cfg} (h : Reachable cfg d) :
    ∃ σ : Neighbours cfg, NeighReach tool cfg σ ∧ σ.daemon = d ∧ ∀ id, σ.phase id = .probing := by
  induction h with
  | refl => exact ⟨Neighbours.start cfg, Relation.ReflTransGen.refl, rfl, fun id => rfl⟩
  | tail _ hturn ih =>
    obtain ⟨σ, hσ, rfl, hphase⟩ := ih
    obtain ⟨hstep⟩ := hturn
    refine ⟨_, hσ.tail (NeighStep.task hstep), rfl, fun id => ?_⟩
    show (if id ∈ σ.daemon.shared.refreshers then σ.phase id else .probing) = .probing
    rw [hphase, ite_self]

/-- A program that reads no more than what is documented. -/
def ipNeigh : IpTool where
  addr := Ipv4Addr.parse
  lladdr text := (parseMac text.toList).toOption

lemma ipNeigh_documented : ipNeigh.Documented where
  addr _ _ h := h
  lladdr _ _ h := congrArg Except.toOption h

/-- The MAC address that the first gateway gives. -/
def firstMac : Mac := ⟨2, 0, 0, 0, 0, 9⟩

/-- An attempt that the first gateway answers. -/
def welcomed : Attempt where
  address := .ok "02:00:00:00:00:01"
  ifindex := .ok "2"
  socket := .ok ()
  setsockopt := .ok ()
  bind := .ok ()
  sendto := .ok ()
  recvfrom _ := .frame (arpReply
    (buildArpRequest ⟨2, 0, 0, 0, 0, 1⟩ firstLease.ip firstLease.gateway) firstMac)
  panics := false

/-- The refresher that it is for. -/
def firstRefresher : Refresher := ⟨"eth0", firstLease⟩

lemma welcomed_returned : Returned firstRefresher (fun _ => welcomed) (.ok firstMac) :=
  ⟨1, [buildArpRequest ⟨2, 0, 0, 0, 0, 1⟩ firstLease.ip firstLease.gateway], by rfl⟩

theorem entry_of_first_gateway :
    ∃ σ : Neighbours taggedIface.config, NeighReach ipNeigh taggedIface.config σ ∧
      σ.table.lookup ("eth0", firstLease.gateway) = some firstMac ∧
      ∃ info, info.gateway = firstLease.gateway ∧ ⟨"eth0", info⟩ ∈ σ.leased := by
  obtain ⟨d, hreach, -, htask, -⟩ := exists_leased
  obtain ⟨id, hfresh⟩ := HashMap.exists_notMem d.shared.refreshers
  have hspawned := hreach.reachable.turn htask rfl (TaskStep.respawns none firstLease hfresh)
  obtain ⟨σ, hσ, hdaemon, hphase⟩ := exists_unheard ipNeigh hspawned
  have hlive : σ.daemon.shared.refreshers.lookup id = some firstRefresher := by
    rw [hdaemon]
    exact AList.lookup_insert _
  have hanswered := hσ.tail (NeighStep.answered hlive (hphase id) welcomed_returned)
  have hwritten := hanswered.tail (NeighStep.writes hlive (Function.update_self _ _ _))
  have hreplaced := hwritten.tail (NeighStep.replaced List.mem_cons_self
    (ipNeigh_documented.reads_iff.mpr ⟨rfl, rfl, rfl⟩))
  refine ⟨_, hreplaced, AList.lookup_insert _, ?_⟩
  obtain ⟨info, -, hgw, hleased, -⟩ :=
    entries_were_heard ipNeigh_documented hreplaced (AList.lookup_insert _)
  exact ⟨info, hgw, hleased⟩

end Dumbarp.Daemon
